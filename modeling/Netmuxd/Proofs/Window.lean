/-
The receive window on offer.

A frame advertises the receive space that is free when it is sent.  Space shrinks
only where a payload is acknowledged, and grows without a frame only below
`MAX_PAYLOAD` or above it, so what the device was last told stays good enough.  The
invariant is about the last frame of a connection, and every way of sending one
re-establishes it.
-/
import Netmuxd.Proofs.Life

namespace Netmuxd

open Lib

/-! ### Saturating arithmetic -/

theorem saturatingSub_toNat (a b : UInt32) : (saturatingSub a b).toNat = a.toNat - b.toNat := by
  unfold saturatingSub
  by_cases h : b ≤ a
  · rw [if_pos h, UInt32.toNat_sub_of_le _ _ h]
  · rw [if_neg h, UInt32.toNat_zero]
    have : a.toNat < b.toNat := UInt32.not_le.mp h
    omega

theorem saturatingAdd_toNat (a b : UInt32) :
    (saturatingAdd a b).toNat = min (a.toNat + b.toNat) 4294967295 := by
  unfold saturatingAdd
  by_cases h : a.toNat + b.toNat < 4294967296
  · rw [if_pos h, UInt32.toNat_add]
    omega
  · rw [if_neg h]
    show 4294967295 = _
    omega

theorem Connection.free_toNat (c : Connection) : c.free.toNat = 131072 - c.rxBuffered.toNat :=
  saturatingSub_toNat rxWindow c.rxBuffered

/-- The window field counts 256 bytes, and the whole receive window fits it. -/
theorem window_toNat (c : Connection) (flags : UInt8) :
    (headerOf c flags).window.toNat = c.free.toNat / 256 := by
  have h := c.free_toNat
  rw [headerOf_window, UInt32.toNat_toUInt16, UInt32.toNat_shiftRight,
    show (8 : UInt32).toNat % 32 = 8 from rfl, Nat.shiftRight_eq_div_pow]
  omega

theorem Connection.free_accept_le (c : Connection) (th : ParsedTcp) (payload : Bytes) :
    (c.accept th payload).free.toNat ≤ c.free.toNat := by
  rw [Connection.accept]
  split
  · exact Nat.le_refl _
  · have hadd := saturatingAdd_toNat c.rxBuffered (UInt32.ofNat payload.length)
    have hlt := c.rxBuffered.toNat_lt
    rw [Connection.free_toNat, Connection.free_toNat,
      show ((c.hear th).deliver payload).rxBuffered =
        saturatingAdd c.rxBuffered (UInt32.ofNat payload.length) from rfl, hadd]
    omega

/-! ### The last frame -/

/-- The window field of the last frame among these acts. -/
def lastWindow (h : List Act) : Option UInt16 :=
  ((h.filterMap Act.tcp?).getLast?).map fun r => r.1.window

theorem lastWindow_frame {h : List Act} {a : Act} {r : ParsedTcp × Bytes}
    (ha : a.tcp? = some r) : lastWindow (h ++ [a]) = some r.1.window := by
  simp [lastWindow, List.filterMap_append, ha]

theorem lastWindow_quiet {h acts : List Act} (hq : ∀ a ∈ acts, a.tcp? = none) :
    lastWindow (h ++ acts) = lastWindow h := by
  have hnil : acts.filterMap Act.tcp? = [] := List.filterMap_eq_nil_iff.mpr hq
  rw [lastWindow, List.filterMap_append, hnil, List.append_nil, lastWindow]

/-- The last frame offers a window fit for the largest payload whenever the space is there. -/
def Offered (h : List Act) (c : Connection) : Prop :=
  ∃ w, lastWindow h = some w ∧ (maxPayload ≤ c.free.toNat → maxPayload >>> 8 ≤ w.toNat)

theorem Offered.frame {h : List Act} {c : Connection} {flags : UInt8} {a : Act} {payload : Bytes}
    (ha : a.tcp? = some (headerOf c flags, payload)) : Offered (h ++ [a]) c := by
  refine ⟨_, lastWindow_frame ha, fun hfree => ?_⟩
  rw [window_toNat, Nat.shiftRight_eq_div_pow]
  exact Nat.div_le_div_right hfree

/-- Less space and no frame: what was offered is still enough. -/
theorem Offered.shrink {h acts : List Act} {c c' : Connection} (ho : Offered h c)
    (hq : ∀ a ∈ acts, a.tcp? = none) (hle : c'.free.toNat ≤ c.free.toNat) :
    Offered (h ++ acts) c' := by
  obtain ⟨w, hw, hfree⟩ := ho
  exact ⟨w, (lastWindow_quiet hq).trans hw, fun h => hfree (Nat.le_trans h hle)⟩

theorem Offered.move {h acts : List Act} {c c' : Connection} (ho : Offered h c)
    (hm : Move c acts c') : Offered (h ++ acts) c' := by
  cases hm with
  | frame ha => exact Offered.frame ha
  | data _ _ _ _ _ ha =>
      obtain ⟨w, hw, hfree⟩ := Offered.frame (h := h) ha
      exact ⟨w, hw, hfree⟩
  | failed k => exact ho.shrink (by simp [Act.tcp?]) (Nat.le_refl _)
  | resume => exact ho.shrink (by simp [Act.tcp?]) (Nat.le_refl _)
  | pause => exact ho.shrink (by simp [Act.tcp?]) (Nat.le_refl _)

theorem Offered.moves {h acts : List Act} {c c' : Connection} (ho : Offered h c)
    (hm : Moves c acts c') : Offered (h ++ acts) c' :=
  hm.preserves (P := Offered) (fun _ _ _ _ ho hm => ho.move hm) ho

/-! ### Along a life -/

theorem chunkActs_quiet (payload : Bytes) : ∀ a ∈ chunkActs payload, a.tcp? = none := by
  intro a ha
  unfold chunkActs at ha
  split at ha
  · cases ha
  · rw [List.mem_singleton.mp ha]
    rfl

/-- What the loop knows about a listed connection's receive window. -/
structure Windowed (h : List Act) (c : Connection) : Prop where
  offered : Offered h c
  /-- Nothing is buffered for a connection that has no client yet. -/
  unused : c.state ≠ .connected → c.rxBuffered = 0

theorem drain_zero {c : Connection} (h : c.rxBuffered = 0) (n : UInt32) :
    (c.drain n).rxBuffered = 0 := by
  apply UInt32.toNat_inj.mp
  rw [show (c.drain n).rxBuffered = saturatingSub c.rxBuffered n from rfl, saturatingSub_toNat, h]
  simp

/-- Draining without an update: the space was enough before, or is still too small. -/
theorem Windowed.drain {h : List Act} {c : Connection} (hw : Windowed h c) {n : UInt32}
    (hdue : ¬ c.UpdateDue n) : Windowed h (c.drain n) := by
  have hmax : (UInt32.ofNat maxPayload).toNat = maxPayload := rfl
  have hunused : (c.drain n).state ≠ .connected → (c.drain n).rxBuffered = 0 :=
    fun hs => drain_zero (hw.unused hs) n
  obtain ⟨w, hlast, hfree⟩ := hw.offered
  refine ⟨⟨w, hlast, fun hafter => hfree ?_⟩, hunused⟩
  by_cases hs : c.state = .connected
  · by_contra hbefore
    refine hdue ⟨hs, ?_, ?_⟩
    · rw [UInt32.lt_iff_toNat_lt, hmax]
      omega
    · rw [UInt32.le_iff_toNat_le, hmax]
      exact hafter
  · rw [c.free_toNat, hw.unused hs]
    rw [(c.drain n).free_toNat, hunused hs] at hafter
    exact hafter

/-- **A reaction keeps the window on offer**, as long as none of its sends fails. -/
theorem Windowed.reacts {h acts : List Act} {c c' : Connection} {ev : ConnEvent}
    (hw : Windowed h c) (hr : Reacts c ev acts (some c')) (hok : ¬ Failed acts) :
    Windowed (h ++ acts) c' := by
  have hstate : ∀ {d d' : Connection} {as : List Act}, Moves d as d' → d.state = .connected →
      d'.state ≠ .connected → d'.rxBuffered = 0 := by
    intro d d' as hm hs hne
    obtain ⟨p, q, b, rfl⟩ := hm.fields
    exact absurd hs hne
  have haccept : ∀ {th : ParsedTcp} {payload : Bytes}, c.state = .connected →
      (c.accept th payload).state = .connected := by
    intro th payload hs
    obtain ⟨t, b, heq⟩ := c.accept_fields th payload
    rw [heq]
    exact hs
  have hchunk : ∀ th payload, Offered (h ++ chunkActs payload) (c.accept th payload) :=
    fun th payload => hw.offered.shrink (chunkActs_quiet payload) (c.free_accept_le th payload)
  cases hr with
  | ignoredData => rwa [List.append_nil]
  | ignoredClose => rwa [List.append_nil]
  | data hs hm _ _ _ =>
      exact ⟨Offered.moves (c := c.push _) hw.offered hm, hstate hm hs⟩
  | closeKept hs hm _ _ _ => exact ⟨Offered.moves (c := c.close) hw.offered hm, hstate hm hs⟩
  | drained hdue =>
      rw [List.append_nil]
      exact hw.drain hdue
  | drainedUpdate hdue ha =>
      rcases ha with ha | ⟨e, rfl⟩
      · exact ⟨Offered.frame ha, fun hs => absurd hdue.1 hs⟩
      · exact absurd ⟨e, by simp⟩ hok
  | accepted hs _ ha =>
      have hsent := Offered.frame (h := h) ha
      refine ⟨?_, fun hne => absurd rfl hne⟩
      rw [show ∀ (x y : Act) (zs : List Act), h ++ ([x, y] ++ zs) = h ++ [x] ++ (y :: zs) by simp]
      refine hsent.shrink ?_ (Nat.le_refl _)
      intro a ha'
      rcases List.mem_cons.mp ha' with rfl | ha'
      · rfl
      · split at ha'
        · rw [List.mem_singleton.mp ha']
          rfl
        · cases ha'
  | acceptFailed => exact absurd ⟨_, List.mem_singleton.mpr rfl⟩ hok
  | acked hs _ _ hm _ _ _ =>
      rw [← List.append_assoc]
      exact ⟨(hchunk _ _).moves hm, hstate hm (haccept hs)⟩
  | ackedFailed hs _ _ hm _ =>
      rw [← List.append_assoc]
      exact ⟨(hchunk _ _).moves hm, hstate hm (haccept hs)⟩
  | unheard hs =>
      rw [List.append_nil]
      exact ⟨hw.offered, hw.unused⟩

theorem Life.windowed {i : Nat} {h : List Act} {o : Option Connection} (hl : Life True i h o) :
    ∀ c, o = some c → Windowed h c := by
  induction hl with
  | unborn => intro c hc; cases hc
  | opened ha =>
      intro c hc
      cases hc
      exact ⟨Offered.frame (h := []) ha, fun _ => rfl⟩
  | openFailed => intro c hc; cases hc
  | reacts _ hr hlive _ ih =>
      intro c hc
      subst hc
      exact (ih _ rfl).reacts hr (hlive trivial)
  | dropped => intro c hc; cases hc

/-- **No window update is lost.**  With a writer that lives on, whatever the device does:
where the receive space of a listed connection fits the largest payload, the last
frame sent on it says so. -/
theorem window_update_never_lost {reply : Bytes} {link : Link} {tr : List (Mux × Event × Mux)}
    {m : Mux} (hs : handshake none reply = .ok link) (h : Run Mux.Step (Mux.start link) tr m)
    {p : UInt16} {c : Connection} (hc : m.connections p = some c)
    (hfree : maxPayload ≤ c.free.toNat) :
    ∃ w, lastWindow (actsOf c.id m.link.out) = some w ∧ maxPayload >>> 8 ≤ w.toNat := by
  have hlives := mux_lives hs h
  have hlife := hlives.listed hc
  obtain ⟨w, hw, hle⟩ := (Life.windowed (by simpa using hlife) c rfl).offered
  exact ⟨w, hw, hle hfree⟩

/-- After three bytes from the device 511 units of 256 bytes are on offer. -/
theorem greeted_window : ∃ c, greeted.connections 1 = some c ∧
    ∃ w, lastWindow (actsOf c.id greeted.link.out) = some w ∧ maxPayload >>> 8 ≤ w.toNat := by
  obtain ⟨tr, hrun, -⟩ := greeted_run
  obtain ⟨c, hc⟩ : ∃ c, greeted.connections 1 = some c := ⟨_, rfl⟩
  have hfree : maxPayload ≤ c.free.toNat := by
    have hsome : (greeted.connections 1).map Connection.free = some 131069 := rfl
    rw [hc, Option.map_some] at hsome
    rw [Option.some.inj hsome]
    decide
  exact ⟨c, hc, window_update_never_lost handshake_versionReply hrun hc hfree⟩

end Netmuxd
