/-
What the descriptor walk finds.

`descriptors` cuts a blob into its longest prefix of well-formed descriptors and
`interfaces` groups them, each INTERFACE descriptor with what follows it up to the next.
The walk returns what the first group offers that is a mux interface with a bulk
endpoint in each direction.  It never holds a group: `Seen` is what its locals know of the
one they are in, and every turn moves one descriptor from the blob into that group.
-/
import Netmuxd.Daemon.LibusbkBackend

namespace Netmuxd.Libusbk

open Lib

/-! ### Statement -/

/-- The first byte is the length, and the second is there. -/
def WellFormed (d : Bytes) : Prop :=
  2 ≤ d.length ∧ ∃ len, d.head? = some len ∧ len.toNat = d.length

/-- The longest prefix of well-formed descriptors. -/
def descriptors : Bytes → List Bytes
  | [] => []
  | len :: rest =>
    if 2 ≤ len.toNat ∧ len.toNat ≤ rest.length + 1 then
      (len :: rest).take len.toNat :: descriptors ((len :: rest).drop len.toNat)
    else []
termination_by blob => blob.length
decreasing_by
  rw [List.length_drop, List.length_cons]
  omega

def isInterface (d : Bytes) : Bool :=
  d[1]? = some usbDescInterface

/-- The INTERFACE descriptors, each with what stands before the next. -/
def interfaces : List Bytes → List (Bytes × List Bytes)
  | [] => []
  | d :: ds =>
    if isInterface d then (d, ds.takeWhile fun e => !isInterface e) :: interfaces ds
    else interfaces ds

/-- An INTERFACE descriptor of the mux. -/
def isMux (d : Bytes) : Bool :=
  isInterface d && 9 ≤ d.length && d[5]? = some interfaceClass &&
    d[6]? = some interfaceSubclass && d[7]? = some interfaceProtocol

/-- The address and the max packet size of a bulk ENDPOINT descriptor. -/
def bulkEndpoint? (d : Bytes) : Option (UInt8 × UInt16) :=
  if d[1]? = some usbDescEndpoint ∧ 7 ≤ d.length then do
    let addr ← d[2]?
    let attrs ← d[3]?
    let lo ← d[4]?
    let hi ← d[5]?
    if attrs &&& endpointTypeMask = endpointTypeBulk then
      return (addr, fromLe16 lo hi &&& 0x07FF)
    else none
  else none

def bulkIn? (d : Bytes) : Option UInt8 :=
  ((bulkEndpoint? d).filter fun ep => ep.1 &&& endpointDirIn ≠ 0).map Prod.fst

def bulkOut? (d : Bytes) : Option (UInt8 × UInt16) :=
  (bulkEndpoint? d).filter fun ep => ep.1 &&& endpointDirIn = 0

/-- A mux interface with a bulk endpoint in each direction. -/
def Complete (g : Bytes × List Bytes) : Prop :=
  isMux g.1 = true ∧ (∃ d ∈ g.2, (bulkIn? d).isSome = true) ∧ ∃ d ∈ g.2, (bulkOut? d).isSome = true

/-- The target is this interface with the last bulk endpoint of each direction. -/
structure Describes (cfgValue : UInt8) (g : Bytes × List Bytes) (t : MuxTarget) : Prop where
  configValue : t.configValue = cfgValue
  interfaceNumber : g.1[2]? = some t.interfaceNumber
  epIn : (g.2.filterMap bulkIn?).getLast? = some t.epIn
  epOut : (g.2.filterMap bulkOut?).getLast? = some (t.epOut, t.epOutMaxPacket)

/-! ### Cutting the blob -/

theorem descriptors_cons {len : UInt8} {rest : Bytes}
    (h : 2 ≤ len.toNat ∧ len.toNat ≤ rest.length + 1) : descriptors (len :: rest) =
      (len :: rest).take len.toNat :: descriptors ((len :: rest).drop len.toNat) := by
  rw [descriptors, if_pos h]

theorem descriptors_stop {len : UInt8} {rest : Bytes}
    (h : ¬ (2 ≤ len.toNat ∧ len.toNat ≤ rest.length + 1)) : descriptors (len :: rest) = [] := by
  rw [descriptors, if_neg h]

theorem take_wellFormed {len : UInt8} {rest : Bytes}
    (h : 2 ≤ len.toNat ∧ len.toNat ≤ rest.length + 1) :
    WellFormed ((len :: rest).take len.toNat) := by
  have hlength : ((len :: rest).take len.toNat).length = len.toNat := by
    rw [List.length_take, List.length_cons]
    omega
  refine ⟨by omega, len, ?_, hlength.symm⟩
  rw [List.head?_take, if_neg (by omega)]
  rfl

/-- The blob is its descriptors and a rest that does not begin with one. -/
theorem descriptors_longest (blob : Bytes) : (∀ d ∈ descriptors blob, WellFormed d) ∧
    ∃ tail, blob = (descriptors blob).flatten ++ tail ∧
      ∀ d rest, tail = d ++ rest → ¬ WellFormed d := by
  fun_induction descriptors blob with
  | case1 =>
      refine ⟨by simp, [], rfl, ?_⟩
      intro d rest hd hwell
      obtain ⟨rfl, -⟩ := List.append_eq_nil_iff.mp hd.symm
      exact absurd hwell.1 (by decide)
  | case2 len rest h ih =>
      obtain ⟨hall, tail, hblob, htail⟩ := ih
      refine ⟨?_, tail, ?_, htail⟩
      · intro d hd
        rcases List.mem_cons.mp hd with rfl | hd
        · exact take_wellFormed h
        · exact hall d hd
      · rw [List.flatten_cons, List.append_assoc, ← hblob, List.take_append_drop]
  | case3 len rest h =>
      refine ⟨by simp, len :: rest, rfl, ?_⟩
      rintro d rest' hd ⟨htwo, len', hhead, hlen⟩
      cases d with
      | nil => cases hhead
      | cons b d =>
          cases hhead
          obtain ⟨rfl, rfl⟩ := List.cons.inj (show len :: rest = len' :: (d ++ rest') from hd)
          rw [List.length_cons] at hlen htwo
          rw [List.length_append] at h
          omega

/-! ### One interface -/

/-- What the walk makes of an interface. -/
def muxTarget (cfgValue : UInt8) (g : Bytes × List Bytes) : Option MuxTarget :=
  if isMux g.1 then
    finalize cfgValue
      { intfNum := g.1[2]?
        epIn := (g.2.filterMap bulkIn?).getLast?
        epOut := (g.2.filterMap bulkOut?).getLast? }
  else none

theorem finalize_eq_some {cfgValue : UInt8} {s : Scan} {t : MuxTarget} :
    finalize cfgValue s = some t ↔ t.configValue = cfgValue ∧ s.intfNum = some t.interfaceNumber ∧
      s.epIn = some t.epIn ∧ s.epOut = some (t.epOut, t.epOutMaxPacket) := by
  unfold finalize
  constructor
  · intro h
    split at h
    · rename_i num i o mps hnum hin hout
      cases h
      exact ⟨rfl, hnum, hin, hout⟩
    · cases h
  · rintro ⟨rfl, hnum, hin, hout⟩
    rw [hnum, hin, hout]

theorem muxTarget_eq_some {cfgValue : UInt8} {g : Bytes × List Bytes} {t : MuxTarget} :
    muxTarget cfgValue g = some t ↔ isMux g.1 = true ∧ Describes cfgValue g t := by
  unfold muxTarget
  by_cases hmux : isMux g.1 = true
  · rw [if_pos hmux, finalize_eq_some]
    constructor
    · rintro ⟨hcfg, hnum, hin, hout⟩
      exact ⟨hmux, hcfg, hnum, hin, hout⟩
    · rintro ⟨-, hcfg, hnum, hin, hout⟩
      exact ⟨hcfg, hnum, hin, hout⟩
  · rw [if_neg hmux]
    constructor
    · intro h
      cases h
    · rintro ⟨hmux', -⟩
      exact absurd hmux' hmux

theorem getLast?_filterMap_isSome {α β : Type} {f : α → Option β} {l : List α} :
    (l.filterMap f).getLast?.isSome = true ↔ ∃ a ∈ l, (f a).isSome = true := by
  rw [List.getLast?_isSome, ne_eq, List.filterMap_eq_nil_iff]
  simp only [not_forall, exists_prop, Option.isSome_iff_ne_none]

theorem isMux_number {d : Bytes} (h : isMux d = true) : ∃ num, d[2]? = some num := by
  simp only [isMux, Bool.and_eq_true, decide_eq_true_eq] at h
  have hlen : 2 < d.length := by omega
  exact ⟨d[2], List.getElem?_eq_getElem hlen⟩

theorem muxTarget_isSome (cfgValue : UInt8) {g : Bytes × List Bytes} :
    (muxTarget cfgValue g).isSome = true ↔ Complete g := by
  unfold Complete
  rw [← getLast?_filterMap_isSome, ← getLast?_filterMap_isSome, Option.isSome_iff_exists]
  constructor
  · rintro ⟨t, ht⟩
    obtain ⟨hmux, hdesc⟩ := muxTarget_eq_some.mp ht
    refine ⟨hmux, ?_, ?_⟩
    · rw [hdesc.epIn]
      rfl
    · rw [hdesc.epOut]
      rfl
  · rintro ⟨hmux, hin, hout⟩
    obtain ⟨num, hnum⟩ := isMux_number hmux
    obtain ⟨i, hi⟩ := Option.isSome_iff_exists.mp hin
    obtain ⟨⟨o, mps⟩, ho⟩ := Option.isSome_iff_exists.mp hout
    refine ⟨⟨cfgValue, num, i, o, mps⟩, muxTarget_eq_some.mpr ⟨hmux, rfl, hnum, hi, ho⟩⟩

/-! ### What the locals know -/

/-- What the locals hold of the interface the walk is in; `none` is before the first. -/
def Seen (s : Scan) : Option (Bytes × List Bytes) → Prop
  | none => s.matched = false
  | some g => s.matched = isMux g.1 ∧ (s.matched = true → s.intfNum = g.1[2]? ∧
      s.epIn = (g.2.filterMap bulkIn?).getLast? ∧ s.epOut = (g.2.filterMap bulkOut?).getLast?)

section
variable {s : Scan} {d : Bytes} {g : Option (Bytes × List Bytes)} {cfgValue : UInt8}

theorem Seen.moved (h : Seen s g) (off : Nat) : Seen { s with off := off } g := by
  cases g with
  | none => exact h
  | some g => exact h

theorem Seen.finalizeMatch (h : Seen s g) :
    finalizeMatch cfgValue s = g.bind (muxTarget cfgValue) := by
  unfold Libusbk.finalizeMatch
  cases g with
  | none =>
      have hmatched : s.matched = false := h
      rw [hmatched]
      rfl
  | some g =>
      obtain ⟨hmatched, hknown⟩ := h
      rw [Option.bind_some]
      unfold muxTarget
      by_cases hmux : s.matched = true
      · obtain ⟨hnum, hin, hout⟩ := hknown hmux
        rw [if_pos hmux, if_pos (hmatched.symm.trans hmux)]
        unfold finalize
        rw [hnum, hin, hout]
      · rw [if_neg hmux, if_neg fun h => hmux (hmatched.trans h)]

theorem Seen.enter (s : Scan) (hi : isInterface d = true) :
    ∃ u, enterInterface s d d.length = some u ∧ Seen u (some (d, [])) := by
  unfold enterInterface
  by_cases hlen : 9 ≤ d.length
  · rw [if_pos hlen, List.getElem?_eq_getElem (show 2 < d.length by omega),
      List.getElem?_eq_getElem (show 5 < d.length by omega),
      List.getElem?_eq_getElem (show 6 < d.length by omega),
      List.getElem?_eq_getElem (show 7 < d.length by omega)]
    refine ⟨_, rfl, ?_, fun _ => ⟨?_, rfl, rfl⟩⟩
    · simp [isMux, hi, hlen, List.getElem?_eq_getElem (show 5 < d.length by omega),
        List.getElem?_eq_getElem (show 6 < d.length by omega),
        List.getElem?_eq_getElem (show 7 < d.length by omega)]
    · rw [List.getElem?_eq_getElem]
  · rw [if_neg hlen]
    refine ⟨_, rfl, ?_, fun h => ?_⟩
    · simp [isMux, hlen]
    · cases h

theorem filterMap_snoc {α β : Type} (f : α → Option β) (l : List α) (a : α) :
    (l ++ [a]).filterMap f = l.filterMap f ++ (f a).toList := by
  rw [List.filterMap_append, List.filterMap_cons, List.filterMap_nil]
  cases f a <;> rfl

/-- A descriptor that is no bulk endpoint adds nothing to an interface. -/
theorem Seen.skip {i : Bytes} {body : List Bytes} (h : Seen s (some (i, body)))
    (hd : bulkEndpoint? d = none) : Seen s (some (i, body ++ [d])) := by
  obtain ⟨hmatched, hknown⟩ := h
  refine ⟨hmatched, fun hm => ?_⟩
  have hin : bulkIn? d = none := by
    rw [bulkIn?, hd]
    rfl
  have hout : bulkOut? d = none := by
    rw [bulkOut?, hd]
    rfl
  obtain ⟨hnum, hepIn, hepOut⟩ := hknown hm
  refine ⟨hnum, ?_, ?_⟩
  · rw [filterMap_snoc, hin, Option.toList_none, List.append_nil]
    exact hepIn
  · rw [filterMap_snoc, hout, Option.toList_none, List.append_nil]
    exact hepOut

theorem Seen.endpoint {i : Bytes} {body : List Bytes} (h : Seen s (some (i, body)))
    (hd : d[1]? = some usbDescEndpoint) :
    ∃ u, seeEndpoint s d d.length = some u ∧ Seen u (some (i, body ++ [d])) := by
  unfold seeEndpoint
  by_cases hlong : (s.matched && decide (7 ≤ d.length)) = true
  · rw [if_pos hlong]
    have hm : s.matched = true := by simp_all
    have hlen : 7 ≤ d.length := by simp_all
    have hep : bulkEndpoint? d = if d[3] &&& endpointTypeMask = endpointTypeBulk then
        some (d[2], fromLe16 d[4] d[5] &&& 0x07FF) else none := by
      rw [bulkEndpoint?, if_pos ⟨hd, hlen⟩, List.getElem?_eq_getElem (show 2 < d.length by omega),
        List.getElem?_eq_getElem (show 3 < d.length by omega),
        List.getElem?_eq_getElem (show 4 < d.length by omega),
        List.getElem?_eq_getElem (show 5 < d.length by omega)]
      rfl
    rw [List.getElem?_eq_getElem (show 2 < d.length by omega),
      List.getElem?_eq_getElem (show 3 < d.length by omega),
      List.getElem?_eq_getElem (show 4 < d.length by omega),
      List.getElem?_eq_getElem (show 5 < d.length by omega)]
    simp only [Option.bind_eq_bind, Option.bind_some]
    by_cases hbulk : d[3] &&& endpointTypeMask = endpointTypeBulk
    · rw [if_pos hbulk] at hep ⊢
      obtain ⟨hmatched, hknown⟩ := h
      obtain ⟨hnum, hepIn, hepOut⟩ := hknown hm
      by_cases hdir : d[2] &&& endpointDirIn ≠ 0
      · rw [if_pos hdir]
        refine ⟨_, rfl, hmatched, fun _ => ⟨hnum, ?_, ?_⟩⟩
        · have hin : bulkIn? d = some d[2] := by simp [bulkIn?, hep, hdir]
          rw [filterMap_snoc, hin, Option.toList_some, List.getLast?_append]
          rfl
        · have hout : bulkOut? d = none := by simp [bulkOut?, hep, hdir]
          rw [filterMap_snoc, hout, Option.toList_none, List.append_nil]
          exact hepOut
      · rw [if_neg hdir]
        rw [not_not] at hdir
        refine ⟨_, rfl, hmatched, fun _ => ⟨hnum, ?_, ?_⟩⟩
        · have hin : bulkIn? d = none := by simp [bulkIn?, hep, hdir]
          rw [filterMap_snoc, hin, Option.toList_none, List.append_nil]
          exact hepIn
        · have hout : bulkOut? d = some (d[2], fromLe16 d[4] d[5] &&& 0x07FF) := by
            simp [bulkOut?, hep, hdir]
          rw [filterMap_snoc, hout, Option.toList_some, List.getLast?_append]
          rfl
    · rw [if_neg hbulk] at hep ⊢
      exact ⟨s, rfl, h.skip hep⟩
  · rw [if_neg hlong]
    refine ⟨s, rfl, ?_⟩
    by_cases hm : s.matched = true
    · have hshort : ¬ 7 ≤ d.length := by simp_all
      refine h.skip ?_
      rw [bulkEndpoint?, if_neg fun h => hshort h.2]
    · exact ⟨h.1, fun hm' => absurd hm' hm⟩

end

/-! ### The walk -/

/-- What is found from here on: in the interface the walk is in, or in one behind it. -/
def foundFrom (cfgValue : UInt8) (g : Option (Bytes × List Bytes)) (ds : List Bytes) :
    Option MuxTarget :=
  ((g.map fun g => (g.1, g.2 ++ ds.takeWhile fun e => !isInterface e)).bind
    (muxTarget cfgValue)).or ((interfaces ds).findSome? (muxTarget cfgValue))

section
variable {cfgValue : UInt8} {g : Option (Bytes × List Bytes)} {d : Bytes} {ds : List Bytes}
  {blob : Bytes} {s : Scan}

theorem foundFrom_nil : foundFrom cfgValue g [] = g.bind (muxTarget cfgValue) := by
  unfold foundFrom
  cases g with
  | none => rfl
  | some g => simp [interfaces]

theorem foundFrom_interface (hd : isInterface d = true) : foundFrom cfgValue g (d :: ds) =
    (g.bind (muxTarget cfgValue)).or (foundFrom cfgValue (some (d, [])) ds) := by
  unfold foundFrom
  rw [interfaces, if_pos hd, List.findSome?_cons]
  cases g with
  | none => cases h : muxTarget cfgValue (d, ds.takeWhile fun e => !isInterface e) <;> simp [h]
  | some g =>
      cases h : muxTarget cfgValue (d, ds.takeWhile fun e => !isInterface e) <;> simp [h, hd]

theorem foundFrom_other (hd : isInterface d = false) : foundFrom cfgValue g (d :: ds) =
    foundFrom cfgValue (g.map fun g => (g.1, g.2 ++ [d])) ds := by
  unfold foundFrom
  rw [interfaces, if_neg (by simp [hd])]
  cases g with
  | none => rfl
  | some g => simp [hd]

theorem Seen.other (h : Seen s g) (hd : bulkEndpoint? d = none) :
    Seen s (g.map fun g => (g.1, g.2 ++ [d])) := by
  cases g with
  | none => exact h
  | some g => exact h.skip hd

theorem Seen.see (h : Seen s g) (hd : d[1]? = some usbDescEndpoint) :
    ∃ u, seeEndpoint s d d.length = some u ∧ Seen u (g.map fun g => (g.1, g.2 ++ [d])) := by
  cases g with
  | some g => exact h.endpoint hd
  | none =>
      have hmatched : s.matched = false := h
      refine ⟨s, ?_, h⟩
      rw [seeEndpoint, if_neg (by simp [hmatched])]
      rfl

/-- What a turn does with the descriptor it is at. -/
theorem scanTurn_descriptor (cfgValue : UInt8) {len : UInt8} {rest : Bytes}
    (hdrop : blob.drop s.off = len :: rest)
    (hlen : 2 ≤ len.toNat ∧ len.toNat ≤ rest.length + 1) (hseen : Seen s g)
    (hd : d = (len :: rest).take len.toNat) :
    (∃ t, g.bind (muxTarget cfgValue) = some t ∧ isInterface d = true ∧
        scanTurn cfgValue blob s = some (.leave (some (some t)))) ∨
      ∃ u g', scanTurn cfgValue blob s = some (.again { u with off := s.off + len.toNat }) ∧
        Seen u g' ∧ ∀ ds, foundFrom cfgValue g' ds = foundFrom cfgValue g (d :: ds) := by
  have htotal : rest.length + 1 = blob.length - s.off := by
    rw [← List.length_drop, hdrop, List.length_cons]
  have hlength : d.length = len.toNat := by
    rw [hd, List.length_take, List.length_cons]
    omega
  have hfirst : blob[s.off]? = some len := by
    rw [← List.head?_drop, hdrop]
    rfl
  have hslice : Checked.slice blob s.off (s.off + len.toNat) = some d := by
    rw [Checked.slice, if_pos (by omega), List.drop_take, hdrop, hd, Nat.add_sub_cancel_left]
  obtain ⟨dtype, hdtype⟩ : ∃ dtype, d[1]? = some dtype := by
    have hlong : 1 < d.length := by omega
    exact ⟨d[1], List.getElem?_eq_getElem hlong⟩
  have hsecond : blob[s.off + 1]? = some dtype := by
    rw [← List.getElem?_drop, hdrop, ← hdtype, hd, List.getElem?_take, if_pos (by omega)]
  unfold scanTurn
  rw [if_pos (by omega), hfirst]
  simp only [Option.bind_eq_bind, Option.bind_some, hsecond]
  rw [if_neg (by omega), hslice]
  simp only [Option.bind_some]
  by_cases hintf : dtype = usbDescInterface
  · have hi : isInterface d = true := by simp [isInterface, hdtype, hintf]
    rw [if_pos hintf, hseen.finalizeMatch]
    cases hfound : g.bind (muxTarget cfgValue) with
    | some t => exact .inl ⟨t, rfl, hi, rfl⟩
    | none =>
        obtain ⟨u, hu, hseen'⟩ := Seen.enter s hi
        have huoff := enterInterface_off hu
        rw [hlength] at hu
        refine .inr ⟨u, some (d, []), ?_, hseen', fun ds => ?_⟩
        · rw [hu]
          simp only [Option.bind_some, huoff]
          rfl
        · rw [foundFrom_interface hi, hfound, Option.none_or]
  · have hi : isInterface d = false := by simp [isInterface, hdtype, hintf]
    rw [if_neg hintf]
    by_cases hep : dtype = usbDescEndpoint
    · obtain ⟨u, hu, hseen'⟩ := hseen.see (hdtype.trans (congrArg some hep))
      have huoff := seeEndpoint_off hu
      rw [hlength] at hu
      refine .inr ⟨u, _, ?_, hseen', fun ds => (foundFrom_other hi).symm⟩
      rw [if_pos hep, hu]
      simp only [Option.bind_some, huoff]
      rfl
    · have hnone : bulkEndpoint? d = none := by
        rw [bulkEndpoint?, if_neg]
        rintro ⟨h, -⟩
        exact hep (Option.some.inj (hdtype.symm.trans h))
      refine .inr ⟨s, _, ?_, hseen.other hnone, fun ds => (foundFrom_other hi).symm⟩
      rw [if_neg hep]
      rfl

/-- A turn stops with what is found from here, or leaves it to the next. -/
theorem scanTurn_spec (cfgValue : UInt8) (hoff : s.off ≤ blob.length) (hseen : Seen s g) :
    scanTurn cfgValue blob s =
        some (.leave (some (foundFrom cfgValue g (descriptors (blob.drop s.off))))) ∨
      ∃ u g', scanTurn cfgValue blob s = some (.again u) ∧ u.off ≤ blob.length ∧ Seen u g' ∧
        foundFrom cfgValue g' (descriptors (blob.drop u.off)) =
          foundFrom cfgValue g (descriptors (blob.drop s.off)) := by
  cases hdrop : blob.drop s.off with
  | nil =>
      have hend := List.drop_eq_nil_iff.mp hdrop
      refine .inl ?_
      rw [scanTurn, if_neg (by omega), hseen.finalizeMatch, descriptors, foundFrom_nil]
      rfl
  | cons len rest =>
      have htotal : rest.length + 1 = blob.length - s.off := by
        rw [← List.length_drop, hdrop, List.length_cons]
      by_cases hlen : 2 ≤ len.toNat ∧ len.toNat ≤ rest.length + 1
      · have hnext : blob.drop (s.off + len.toNat) = (len :: rest).drop len.toNat := by
          rw [← List.drop_drop, hdrop]
        rw [descriptors_cons hlen]
        rcases scanTurn_descriptor cfgValue hdrop hlen hseen rfl with
          ⟨t, ht, hi, hturn⟩ | ⟨u, g', hturn, hseen', hsame⟩
        · refine .inl ?_
          rw [hturn, foundFrom_interface hi, ht, Option.some_or]
        · refine .inr ⟨_, g', hturn, ?_, hseen'.moved _, ?_⟩
          · dsimp only
            omega
          · rw [← hsame]
            dsimp only
            rw [hnext]
      · refine .inl ?_
        rw [descriptors_stop hlen, foundFrom_nil, ← hseen.finalizeMatch, scanTurn]
        by_cases htwo : s.off + 2 ≤ blob.length
        · have hfirst : blob[s.off]? = some len := by
            rw [← List.head?_drop, hdrop]
            rfl
          rw [if_pos htwo, hfirst, List.getElem?_eq_getElem (show s.off + 1 < blob.length by omega)]
          simp only [Option.bind_eq_bind, Option.bind_some]
          rw [if_pos (by omega)]
          rfl
        · rw [if_neg htwo]
          rfl

end

theorem scanConfigBlob_eq (blob : Bytes) (cfgValue : UInt8) : scanConfigBlob blob cfgValue =
    some ((interfaces (descriptors blob)).findSome? (muxTarget cfgValue)) := by
  have hstart : foundFrom cfgValue none (descriptors blob) =
      (interfaces (descriptors blob)).findSome? (muxTarget cfgValue) := rfl
  rw [← hstart, scanConfigBlob]
  refine whileLoop_induct (P := fun s => s.off ≤ blob.length ∧ ∃ g, Seen s g ∧
      foundFrom cfgValue g (descriptors (blob.drop s.off)) =
        foundFrom cfgValue none (descriptors blob))
    (Q := fun r => r = some (foundFrom cfgValue none (descriptors blob))) ?_ ?_
    ⟨Nat.zero_le _, none, rfl, rfl⟩
  · rintro s s' ⟨hoff, g, hseen, hsame⟩ hagain
    have hagain : Checked.turnOf (scanTurn cfgValue blob s) = .again s' := hagain
    rcases scanTurn_spec cfgValue hoff hseen with
      hturn | ⟨u, g', hturn, hu, hseen', hsame'⟩
    · rw [hturn] at hagain
      cases hagain
    · rw [hturn] at hagain
      cases hagain
      exact ⟨hu, g', hseen', hsame'.trans hsame⟩
  · rintro s r ⟨hoff, g, hseen, hsame⟩ hleave
    have hleave : Checked.turnOf (scanTurn cfgValue blob s) = .leave r := hleave
    rcases scanTurn_spec cfgValue hoff hseen with hturn | ⟨u, g', hturn, -⟩
    · rw [hturn, hsame] at hleave
      cases hleave
      rfl
    · rw [hturn] at hleave
      cases hleave

/-- **The walk meets its specification.**  It reads nothing outside the blob, finds a target
exactly if some interface of the well-formed prefix is a complete mux interface, and what it
finds is the first of these with its last bulk endpoints. -/
theorem descriptor_walk (blob : Bytes) (cfgValue : UInt8) :
    ∃ r, scanConfigBlob blob cfgValue = some r ∧
    (r.isSome = true ↔ ∃ g ∈ interfaces (descriptors blob), Complete g) ∧
    ∀ t, r = some t → ∃ before g after, interfaces (descriptors blob) = before ++ g :: after ∧
      (∀ g' ∈ before, ¬ Complete g') ∧ Complete g ∧ Describes cfgValue g t := by
  refine ⟨_, scanConfigBlob_eq blob cfgValue, ?_, fun t ht => ?_⟩
  · rw [List.findSome?_isSome_iff]
    simp only [muxTarget_isSome]
  · obtain ⟨before, g, after, hsplit, ht, hbefore⟩ := List.findSome?_eq_some_iff.mp ht
    refine ⟨before, g, after, hsplit, fun g' hg' hcomplete => ?_, ?_, (muxTarget_eq_some.mp ht).2⟩
    · rw [← muxTarget_isSome cfgValue, hbefore g' hg'] at hcomplete
      cases hcomplete
    · rw [← muxTarget_isSome cfgValue, ht]
      rfl

end Netmuxd.Libusbk
