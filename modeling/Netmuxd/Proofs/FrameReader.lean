/-
`read_frame` over a source that hands out what it is sent in pieces.

`Holds` says which bytes a future has read and what it knows of them.  A poll of a faithful
source adds what it hands out, and never nothing, so `read_exact` does not mistake a piece
for the end.  Over a run of the reader task, the frames read, the bytes of the future and
those the source holds are what has been taken, in this order; so `Reader.readFrames` reads
the same frames off the whole of it.
-/
import Netmuxd.Proofs.Codec
import Netmuxd.Usb.FrameReader

namespace Netmuxd.Reader

open Lib (Run EveryStep Poll Source delivered)

/-! ### What a future has read -/

/-- The two fields of a packet's first 8 bytes. -/
structure Head (head8 : Bytes) (protocol : UInt32) (length : Nat) : Prop where
  eight : head8.length = 8
  protocol : ∀ h, u32At head8 0 h = protocol
  length : ∀ h, announced head8 h = length

/-- The future has read `part`. -/
inductive FrameFuture.Holds : FrameFuture → Bytes → Prop
  | head {got : Bytes} (hgot : got.length < 8) : Holds (.head got) got
  | body {head8 got : Bytes} {protocol : UInt32} {length : Nat}
      (hhead : Head head8 protocol length) (hbounds : Plausible length)
      (hgot : got.length < length - v1HeaderSize) : Holds (.body head8 length got) (head8 ++ got)
  | tail {head8 : Bytes} {protocol : UInt32} {length : Nat} (hhead : Head head8 protocol length)
      (hbounds : ¬ Plausible length) : Holds (.tail head8 protocol length) head8
  | packet {pkt : Bytes} (hpkt : Framed pkt) : Holds (.done (.ok pkt)) pkt
  | refused {head8 next : Bytes} {protocol : UInt32} {length : Nat}
      (hhead : Head head8 protocol length) (hbounds : ¬ Plausible length)
      (hnext : next.length ≤ 32) :
      Holds (.refuse head8 protocol length next) (head8 ++ next)
  | failed {e : String} {part : Bytes} : Holds (.done (.error (.io e))) part

theorem Head.of_take {got : Bytes} (h : got.length = 8) (h0 : 0 + 4 ≤ got.length)
    (h4 : 4 + 4 ≤ got.length) : Head got (u32At got 0 h0) (u32At got 4 h4).toNat :=
  ⟨h, fun _ => rfl, fun _ => rfl⟩

/-- The head of a longer stream is the head. -/
theorem Head.announced {head8 rest : Bytes} {protocol : UInt32} {length : Nat}
    (h : Head head8 protocol length) (h8 : 8 ≤ (head8 ++ rest).length) :
    Netmuxd.announced (head8 ++ rest) h8 = length := by
  have hle : 8 ≤ head8.length := Nat.le_of_eq h.eight.symm
  rw [announced_append hle h8]
  exact h.length hle

theorem Head.framed {head8 got : Bytes} {protocol : UInt32} {length : Nat}
    (h : Head head8 protocol length) (hbounds : Plausible length)
    (hgot : got.length = length - v1HeaderSize) : Framed (head8 ++ got) := by
  have hmin : 16 ≤ length := hbounds.1
  have hlen : (head8 ++ got).length = length := by
    rw [List.length_append, h.eight, hgot, v1HeaderSize]
    omega
  have h8 : 8 ≤ (head8 ++ got).length := by omega
  exact ⟨h8, by rw [hlen]; exact hbounds, by rw [h.announced h8, hlen]⟩

theorem FrameFuture.afterHead_holds {got : Bytes} (hgot : got.length ≤ 8) :
    (afterHead got).Holds got := by
  unfold afterHead
  split
  · next h8 =>
      have height : got.length = 8 := by omega
      have hhead := Head.of_take height (by omega) (by omega)
      dsimp only
      split
      · next hbounds => exact .tail hhead hbounds
      · next hbounds =>
          have hbounds := not_not.mp hbounds
          have hmin : 16 ≤ (u32At got 4 h8).toNat := hbounds.1
          have hpos : ([] : Bytes).length < (u32At got 4 h8).toNat - v1HeaderSize := by
            rw [v1HeaderSize, List.length_nil]
            omega
          have hholds := Holds.body hhead hbounds hpos
          rw [List.append_nil] at hholds
          exact hholds
  · next h8 => exact .head (by omega)

theorem FrameFuture.afterBody_holds {head8 got : Bytes} {protocol : UInt32} {length : Nat}
    (hhead : Head head8 protocol length) (hbounds : Plausible length)
    (hgot : got.length ≤ length - v1HeaderSize) :
    (afterBody head8 length got).Holds (head8 ++ got) := by
  unfold afterBody
  split
  · next hall => exact .packet (hhead.framed hbounds (by omega))
  · next hmore => exact .body hhead hbounds (by omega)

/-! ### Polls -/

variable {σ α : Type} {S : Source σ α UInt8 String}

/-- A poll in `read_exact` reads more, waits, or fails: it does not meet the end. -/
theorem FrameFuture.readMore_holds {f : FrameFuture} {part : Bytes} {n : Nat}
    {again : Bytes → FrameFuture} {r : Poll (Except String Bytes)} (hf : f.Holds part)
    (hagain : ∀ out, out.length ≤ n → (again out).Holds (part ++ out))
    (hroom : (delivered r).length ≤ n) (hprogress : ∀ out, r = .ready (.ok out) → out ≠ []) :
    (f.readMore again r).Holds (part ++ delivered r) := by
  match r with
  | .pending =>
      show f.Holds (part ++ [])
      rw [List.append_nil]
      exact hf
  | .ready (.error e) => exact .failed
  | .ready (.ok []) => exact absurd rfl (hprogress [] rfl)
  | .ready (.ok (b :: out)) => exact hagain (b :: out) hroom

theorem FrameFuture.resume_holds {f : FrameFuture} {part : Bytes} {s t : σ} {answers : List α}
    {r : Poll (Except String Bytes)} (hf : f.Holds part) (hwaits : ∀ r, f ≠ .done r)
    (hpolls : S.Polls s f.room answers r t) : (f.resume r).Holds (part ++ delivered r) := by
  cases hf with
  | head hgot =>
      have hpos : 0 < v1HeaderSize - part.length := by
        rw [v1HeaderSize]
        omega
      show ((head part).readMore (fun out => afterHead (part ++ out)) r).Holds _
      refine readMore_holds (.head hgot) (fun out hout => ?_) hpolls.room
        fun out hr => hpolls.progress out hr hpos
      have hout : out.length ≤ 8 - part.length := hout
      refine afterHead_holds ?_
      rw [List.length_append]
      omega
  | @body head8 got protocol length hhead hbounds hgot =>
      have hpos : 0 < length - v1HeaderSize - got.length := by omega
      show ((body head8 length got).readMore (fun out => afterBody head8 length (got ++ out))
        r).Holds _
      refine readMore_holds (.body hhead hbounds hgot) (fun out hout => ?_) hpolls.room
        fun out hr => hpolls.progress out hr hpos
      have hout : out.length ≤ length - v1HeaderSize - got.length := hout
      rw [List.append_assoc]
      refine afterBody_holds hhead hbounds ?_
      rw [List.length_append]
      omega
  | tail hhead hbounds =>
      cases r with
      | pending =>
          show Holds _ (part ++ [])
          rw [List.append_nil]
          exact .tail hhead hbounds
      | ready result =>
          cases result with
          | ok next => exact .refused hhead hbounds hpolls.room
          | error e => exact .refused hhead hbounds (Nat.zero_le 32)
  | packet => exact absurd rfl (hwaits _)
  | refused => exact absurd rfl (hwaits _)
  | failed => exact absurd rfl (hwaits _)

/-! ### The frames off the whole stream -/

theorem Head.readFrame_eq {head8 : Bytes} {protocol : UInt32} {length : Nat}
    (h : Head head8 protocol length) (tailRead : Nat) (rest : Bytes) :
    Reader.readFrame tailRead (head8 ++ rest) =
      readBody tailRead head8 protocol length rest := by
  have hle : 8 ≤ head8.length := Nat.le_of_eq h.eight.symm
  have h8 : 8 ≤ (head8 ++ rest).length := by
    rw [List.length_append]
    omega
  have htake : (head8 ++ rest).take 8 = head8 := by
    rw [← h.eight, List.take_left]
  have hdrop : (head8 ++ rest).drop 8 = rest := by
    rw [← h.eight, List.drop_left]
  have h0 : 0 + 4 ≤ head8.length := by omega
  have hprotocol : u32At (head8 ++ rest) 0 (by omega) = protocol := by
    rw [← h.protocol h0, ← u32At_take (by omega) (by rw [htake]; exact h0)]
    simp only [htake]
  rw [readFrame_head h8, htake, hdrop, h.announced h8, hprotocol]

namespace FrameFuture

/-- Still in one of its two `read_exact`. -/
def Unread : FrameFuture → Prop
  | head _ => True
  | body .. => True
  | _ => False

/-- A future that still reads has not got a whole frame. -/
theorem Holds.unread {f : FrameFuture} {part : Bytes} (h : f.Holds part) (hf : f.Unread)
    (tailRead : Nat) : Reader.readFrame tailRead part = .error .unexpectedEof := by
  cases h with
  | head hgot => exact readFrame_short hgot
  | body hhead hbounds hgot =>
      rw [hhead.readFrame_eq, readBody, if_neg (not_not.mpr hbounds), readExact_eof hgot]
  | tail => cases hf
  | packet => cases hf
  | refused => cases hf
  | failed => cases hf

/-- What it refuses is refused in the same words. -/
theorem Holds.refused_eq {part : Bytes} {length : Nat} {protocol : UInt32} {head8 next : Bytes}
    (h : (refuse head8 protocol length next).Holds part) (more : Bytes) :
    Reader.readFrame next.length (part ++ more) =
      .error (.implausibleLength length protocol head8 next) := by
  cases h with
  | refused hhead hbounds hnext =>
      rw [List.append_assoc, hhead.readFrame_eq, readBody, if_pos hbounds,
        Nat.min_eq_left hnext, List.take_left]

theorem Holds.ne_eof {f : FrameFuture} {part : Bytes} (h : f.Holds part) :
    f ≠ .done (.error (.read .unexpectedEof)) := by
  intro hf
  rw [hf] at h
  cases h

end FrameFuture

theorem readFrames_add {tailRead n m : Nat} {stream rest rest' : Bytes} {pkts pkts' : List Bytes}
    (h : readFrames tailRead n stream = .ok (pkts, rest))
    (h' : readFrames tailRead (n + m) stream = .ok (pkts', rest')) :
    ∃ more, pkts' = pkts ++ more ∧ readFrames tailRead m rest = .ok (more, rest') := by
  induction n generalizing stream pkts pkts' with
  | zero =>
      cases h
      rw [Nat.zero_add] at h'
      exact ⟨pkts', rfl, h'⟩
  | succ n ih =>
      rw [Nat.succ_add] at h'
      rw [readFrames] at h h'
      cases hframe : Reader.readFrame tailRead stream with
      | error e =>
          rw [hframe] at h
          cases h
      | ok first =>
          obtain ⟨pkt, stream'⟩ := first
          rw [hframe] at h h'
          dsimp only at h h'
          split at h
          · cases h
          · next hrest =>
              split at h'
              · cases h'
              · next hrest' =>
                  cases h
                  cases h'
                  obtain ⟨more, hmore, hread⟩ := ih hrest hrest'
                  exact ⟨more, by rw [hmore, List.cons_append], hread⟩

/-- Where no further frame is to be had, no more frames are read. -/
theorem readFrames_le {tailRead n n' : Nat} {stream rest rest' : Bytes} {pkts pkts' : List Bytes}
    {e : ReadError} (h : readFrames tailRead n stream = .ok (pkts, rest))
    (hend : Reader.readFrame tailRead rest = .error e)
    (h' : readFrames tailRead n' stream = .ok (pkts', rest')) : n' ≤ n := by
  by_contra hlt
  obtain ⟨m, rfl⟩ : ∃ m, n' = n + (m + 1) := ⟨n' - n - 1, by omega⟩
  obtain ⟨more, -, hread⟩ := readFrames_add h h'
  rw [readFrames, hend] at hread
  cases hread

/-! ### Runs of the reader task -/

namespace ReaderTask

/-- The assumption on the answers, for a step of a run. -/
def Fits (S : Source σ α UInt8 String) (u : ReaderTask σ α) (e : ReaderEvent α)
    (_ : ReaderTask σ α) : Prop :=
  match e with
  | .poll answers => S.fits u.source u.future.room answers
  | _ => True

/-- The frames, the future's bytes and the source's are what has been taken. -/
structure Inv (S : Source σ α UInt8 String) (u : ReaderTask σ α) : Prop where
  framed : ∀ pkt ∈ u.frames, Framed pkt
  stream : ∃ part, u.future.Holds part ∧
    u.taken.flatMap S.content = u.frames.flatten ++ (part ++ S.held u.source)
  fails : ∀ e, u.future = .done (.error (.io e)) → ∃ a ∈ u.taken, S.failed a

theorem readMore_fails {f : FrameFuture} {again : Bytes → FrameFuture}
    {r : Poll (Except String Bytes)} {e : String} (hf : f ≠ .done (.error (.io e)))
    (hagain : ∀ out, again out ≠ .done (.error (.io e)))
    (h : f.readMore again r = .done (.error (.io e))) : r = .ready (.error e) := by
  unfold FrameFuture.readMore at h
  split at h
  · exact absurd h hf
  · cases h
    rfl
  · cases h
  · exact absurd h (hagain _)

theorem afterHead_ne (got : Bytes) (e : String) :
    FrameFuture.afterHead got ≠ .done (.error (.io e)) := by
  unfold FrameFuture.afterHead
  split
  · dsimp only
    split
    · simp
    · simp
  · simp

theorem afterBody_ne (head8 : Bytes) (length : Nat) (got : Bytes) (e : String) :
    FrameFuture.afterBody head8 length got ≠ .done (.error (.io e)) := by
  unfold FrameFuture.afterBody
  split
  · simp
  · simp

theorem resume_fails {f : FrameFuture} {r : Poll (Except String Bytes)} {e : String}
    (hf : ∀ r, f ≠ .done r) (h : f.resume r = .done (.error (.io e))) :
    r = .ready (.error e) := by
  cases f with
  | head got => exact readMore_fails (hf _) (fun _ => afterHead_ne _ _) h
  | body head8 length got => exact readMore_fails (hf _) (fun _ => afterBody_ne _ _ _ _) h
  | tail head8 protocol length =>
      cases r with
      | pending => cases h
      | ready result =>
          cases result with
          | ok next => cases h
          | error e' => cases h
  | done r => exact absurd rfl (hf r)

theorem Inv.step (hS : S.Faithful) {u u' : ReaderTask σ α} {e : ReaderEvent α}
    (h : Inv S u) (hstep : ReaderTask.Step S u e u') (hfits : Fits S u e u') : Inv S u' := by
  obtain ⟨hframed, ⟨part, hholds, hstream⟩, hfails⟩ := h
  cases hstep with
  | @poll answers r t hwaits hpoll =>
      have hpolls := hS _ _ _ _ _ hfits hpoll
      refine ⟨hframed, ⟨_, FrameFuture.resume_holds hholds hwaits hpolls, ?_⟩, fun e he => ?_⟩
      · show (u.taken ++ answers).flatMap S.content = _
        rw [List.flatMap_append, hstream, List.append_assoc, List.append_assoc,
          hpolls.conserved, List.append_assoc]
      · obtain ⟨a, ha, hfailed⟩ := hpolls.fails e (resume_fails hwaits he)
        exact ⟨a, List.mem_append_right _ ha, hfailed⟩
  | elapsed htail =>
      rw [htail] at hholds
      obtain _ | _ | ⟨hhead, hbounds⟩ := hholds
      refine ⟨hframed, ⟨part ++ [], .refused hhead hbounds (Nat.zero_le 32), ?_⟩, nofun⟩
      rw [List.append_nil]
      exact hstream
  | @next pkt hdone =>
      rw [hdone] at hholds
      obtain _ | _ | _ | hpkt := hholds
      refine ⟨fun p hp => ?_, ⟨[], .head (by decide), ?_⟩, nofun⟩
      · rcases List.mem_append.mp hp with hp | hp
        · exact hframed p hp
        · rw [List.mem_singleton.mp hp]
          exact hpkt
      · show u.taken.flatMap S.content = (u.frames ++ [part]).flatten ++ _
        rw [hstream, List.flatten_append, List.flatten_singleton, List.append_assoc]
        rfl

theorem Step.frames {u u' : ReaderTask σ α} {e : ReaderEvent α} (h : ReaderTask.Step S u e u') :
    u.frames <+: u'.frames := by
  cases h with
  | poll => exact List.prefix_rfl
  | elapsed => exact List.prefix_rfl
  | next => exact List.prefix_append _ _

/-- The reader task has read what `Reader.readFrames` reads off all that has been taken. -/
structure Recovers (S : Source σ α UInt8 String) (u : ReaderTask σ α) : Prop where
  /-- `rest` is what has been taken after the frames. -/
  frames : ∃ rest,
    (∀ tailRead more, readFrames tailRead u.frames.length (u.taken.flatMap S.content ++ more) =
      .ok (u.frames, rest ++ more)) ∧
    -- a length that is refused would be refused there
    (∀ length protocol head8 next,
      u.future = .done (.error (.read (.implausibleLength length protocol head8 next))) →
      ∀ more, Reader.readFrame next.length (rest ++ more) =
        .error (.implausibleLength length protocol head8 next)) ∧
    -- and once the source waits, there is no further frame in it
    (S.held u.source = [] → u.future.Unread →
      ∀ tailRead, Reader.readFrame tailRead rest = .error .unexpectedEof)
  /-- The end of the stream is not met. -/
  open_ : u.future ≠ .done (.error (.read .unexpectedEof))
  fails : ∀ e, u.future = .done (.error (.io e)) → ∃ a ∈ u.taken, S.failed a

theorem Inv.recovers {u : ReaderTask σ α} (h : Inv S u) : Recovers S u := by
  obtain ⟨hframed, ⟨part, hholds, hstream⟩, hfails⟩ := h
  refine ⟨⟨part ++ S.held u.source, ?_, ?_, ?_⟩, hholds.ne_eof, hfails⟩
  · intro tailRead more
    rw [hstream, List.append_assoc]
    exact readFrames_flatten tailRead _ hframed
  · intro length protocol head8 next hfuture more
    rw [hfuture] at hholds
    rw [List.append_assoc]
    exact hholds.refused_eq _
  · intro hheld hunread tailRead
    rw [hheld, List.append_nil]
    exact hholds.unread hunread tailRead

theorem Inv.start {s : σ} (hs : S.held s = []) : Inv S (.start s : ReaderTask σ α) := by
  refine ⟨nofun, ⟨[], .head (by decide), ?_⟩, nofun⟩
  show [] = [] ++ ([] ++ S.held s)
  rw [hs]
  rfl

theorem recovers_of_run (hS : S.Faithful) {s : σ} (hs : S.held s = [])
    {tr : List (ReaderTask σ α × ReaderEvent α × ReaderTask σ α)} {u : ReaderTask σ α}
    (h : Run (ReaderTask.Step S) (.start s) tr u) (hfits : EveryStep (Fits S) tr) :
    Recovers S u := by
  have hinv := h.invariant_of (Inv.start hs) (fun _ _ _ hu hstep hfits => hu.step hS hstep hfits)
    hfits
  exact hinv.recovers

end ReaderTask

end Netmuxd.Reader
