/-
Relaying a Listen.

What upstream says on one stream is the log of its devices, started anew: all that are
present, then what changes.  The pump passes it on as it is, so on one stream the client
follows upstream's devices.  But a stream that drops takes the end of its log with it,
and the next one starts from all devices again, while the client still has what it was
told before.  So the client is right exactly as long as nothing is left of the streams
before when upstream answers again.
-/
import Netmuxd.Daemon.Listen
import Netmuxd.Lib.Run

namespace Netmuxd

open Lib

/-- All that the pump has passed on, whether it has been written yet or not. -/
def Relay.passed (s : Relay) : List (Edit UInt64 Dictionary) :=
  edits (s.client ++ s.channel)

/-- What the client is to see.  When all that upstream has sent on the stream has been
relayed, the frames written to the client amount to upstream's devices, and in any case none
of them attaches a device that is attached. -/
structure Relay.Converged (s : Relay) : Prop where
  agrees : s.phase = .relaying → s.stream = some [] → s.channel = [] →
    replay (edits s.client) = s.present
  alternates : Alternates (edits s.client)

/-- When upstream answers, nothing that was passed on is left attached. -/
def AnswersAfresh (s : Relay) : RelayStep → Relay → Prop
  | .answer _, _ => replay s.passed = fun _ => none
  | _, _ => True

theorem edits_append (frames frames' : List UpstreamFrame) :
    edits (frames ++ frames') = edits frames ++ edits frames' :=
  List.filterMap_append

/-- What upstream has sent and the pump has yet to read. -/
def Relay.ahead (s : Relay) : List (Edit UInt64 Dictionary) :=
  edits (s.stream.getD [])

/-- What has been passed on and what is ahead are one log of upstream's devices. -/
structure Relay.Follows (s : Relay) : Prop where
  passed : Alternates s.passed
  ahead : s.stream.isSome = true → Alternates (s.passed ++ s.ahead) ∧
    replay (s.passed ++ s.ahead) = s.present
  opening : ∀ frames, s.phase = .opening → s.stream = some frames →
    ∃ rest, frames = .result :: rest

section
variable {s s' : Relay} {a : RelayStep}

theorem Relay.Follows.converged (h : s.Follows) : s.Converged := by
  refine ⟨fun _ hstream hchannel => ?_, ?_⟩
  · obtain ⟨-, hreplay⟩ := h.ahead (by rw [hstream]; rfl)
    have hall : s.passed ++ s.ahead = edits s.client := by
      unfold Relay.passed Relay.ahead
      rw [hchannel, hstream]
      simp [edits]
    rwa [hall] at hreplay
  · have hpassed := h.passed
    unfold Relay.passed at hpassed
    rw [edits_append] at hpassed
    exact hpassed.left

theorem edits_snapshot (present : UInt64 → Option Dictionary) (order : List UInt64) :
    edits (.result :: order.filterMap fun id => (present id).map (.attached id)) =
      snapshot present order := by
  unfold edits snapshot
  rw [List.filterMap_cons_none rfl, List.filterMap_filterMap]
  congr 1
  funext id
  cases present id with
  | none => rfl
  | some p => rfl

/-- Upstream says on its stream what becomes of its devices. -/
theorem Relay.Follows.say (h : s.Follows) {frame : UpstreamFrame}
    {e : Edit UInt64 Dictionary} (he : frame.edit? = some e)
    (hnext : ∀ log, Alternates log → replay log = s.present → Alternates (log ++ [e])) :
    Relay.Follows { s with present := e.apply s.present, stream := s.say frame } := by
  unfold Relay.say
  cases hstream : s.stream with
  | none =>
      refine ⟨h.passed, fun hsome => ?_, fun frames _ hframes => ?_⟩
      · cases hsome
      · cases hframes
  | some frames =>
      obtain ⟨halt, hreplay⟩ := h.ahead (by rw [hstream]; rfl)
      have hahead : edits (frames ++ [frame]) = s.ahead ++ [e] := by
        unfold Relay.ahead
        rw [edits_append, hstream]
        simp [edits, he]
      have hlast : replay (s.passed ++ s.ahead ++ [e]) =
          e.apply (replay (s.passed ++ s.ahead)) := by
        cases e with
        | put id p => exact replay_put
        | drop id => exact replay_drop
      refine ⟨h.passed, fun _ => ?_, fun frames' hphase hframes => ?_⟩
      · dsimp only [Relay.passed, Relay.ahead, Option.map_some, Option.getD_some]
        rw [hahead, ← List.append_assoc]
        refine ⟨hnext _ halt hreplay, ?_⟩
        rw [← hreplay]
        exact hlast
      · cases hframes
        obtain ⟨rest, hrest⟩ := h.opening frames hphase hstream
        exact ⟨rest ++ [frame], by rw [hrest]; rfl⟩

/-- The stream is lost; what was passed on stays. -/
theorem Relay.Follows.lose (h : s.Follows) (phase : PumpPhase) :
    Relay.Follows { s with phase, stream := none } := by
  refine ⟨h.passed, fun hsome => ?_, fun frames _ hframes => ?_⟩
  · cases hsome
  · cases hframes

/-- Upstream starts its log anew. -/
theorem Relay.Follows.answer (h : s.Follows) {order : List UInt64} (hnodup : order.Nodup)
    (hall : ∀ id, (s.present id).isSome = true → id ∈ order)
    (hfresh : replay s.passed = fun _ => none) :
    Relay.Follows
      { s with
        stream :=
          some (.result :: order.filterMap fun id => (s.present id).map (.attached id)) } := by
  refine ⟨h.passed, fun _ => ?_, fun frames _ hframes => ?_⟩
  · dsimp only [Relay.passed, Relay.ahead, Option.getD_some]
    rw [edits_snapshot]
    refine ⟨h.passed.append hfresh (snapshot_spec hnodup).1, ?_⟩
    rw [← Relay.passed, replay_append_of_nil hfresh]
    exact replay_snapshot hnodup hall
  · cases hframes
    exact ⟨_, rfl⟩

/-- The Result says nothing about devices. -/
theorem Relay.Follows.readResult (h : s.Follows) {frame : UpstreamFrame}
    {rest : List UpstreamFrame} (hphase : s.phase = .opening)
    (hstream : s.stream = some (frame :: rest)) :
    Relay.Follows { s with phase := .relaying, stream := some rest } := by
  obtain ⟨rest', hresult⟩ := h.opening _ hphase hstream
  cases hresult
  refine ⟨h.passed, fun _ => ?_, fun frames hphase => ?_⟩
  · have hahead := h.ahead (by rw [hstream]; rfl)
    unfold Relay.ahead at hahead
    rw [hstream] at hahead
    exact hahead
  · cases hphase

/-- A frame is passed on as it is. -/
theorem Relay.Follows.relay (h : s.Follows) {frame : UpstreamFrame} {rest : List UpstreamFrame}
    (hphase : s.phase = .relaying) (hstream : s.stream = some (frame :: rest)) :
    Relay.Follows { s with stream := some rest, channel := s.channel ++ [frame] } := by
  obtain ⟨halt, hreplay⟩ := h.ahead (by rw [hstream]; rfl)
  have hsplit : s.passed ++ s.ahead =
      edits (s.client ++ (s.channel ++ [frame])) ++ edits rest := by
    unfold Relay.passed Relay.ahead
    rw [hstream, ← edits_append, ← edits_append]
    simp
  rw [hsplit] at halt hreplay
  refine ⟨halt.left, fun _ => ⟨halt, hreplay⟩, fun frames hopening => ?_⟩
  dsimp only at hopening
  rw [hphase] at hopening
  cases hopening

/-- A frame is written to the client. -/
theorem Relay.Follows.forward (h : s.Follows) {frame : UpstreamFrame}
    {rest : List UpstreamFrame} (hchannel : s.channel = frame :: rest) :
    Relay.Follows { s with channel := rest, client := s.client ++ [frame] } := by
  have hsame : edits (s.client ++ [frame] ++ rest) = s.passed := by
    unfold Relay.passed
    rw [hchannel, List.append_assoc, List.singleton_append]
  refine ⟨?_, ?_, h.opening⟩
  · dsimp only [Relay.passed]
    rw [hsame]
    exact h.passed
  · dsimp only [Relay.passed, Relay.ahead]
    rw [hsame]
    exact h.ahead

theorem Relay.Step.follows (h : Relay.Step s a s') (hs : s.Follows) (hC : AnswersAfresh s a s') :
    s'.Follows := by
  obtain ⟨hnext, hvalid⟩ := h
  cases a with
  | attach id p =>
      simp only [Relay.next] at hnext
      split at hnext
      · rename_i hnew
        cases hnext
        refine hs.say rfl fun log halt hreplay => halt.put ?_
        rw [hreplay, hnew]
      · cases hnext
  | detach id =>
      simp only [Relay.next] at hnext
      split at hnext
      · cases hnext
        exact hs.say rfl fun log halt _ => halt.drop
      · cases hnext
  | answer order =>
      simp only [Relay.next] at hnext
      split at hnext
      · cases hnext
        exact hs.answer hvalid.1 (fun id hid => (hvalid.2 id).mpr hid) hC
      · cases hnext
  | connect =>
      simp only [Relay.next] at hnext
      split at hnext
      · cases hnext
        exact hs.lose .opening
      · cases hnext
  | connectFails =>
      simp only [Relay.next] at hnext
      split at hnext
      · cases hnext
        exact hs
      · cases hnext
  | readResult =>
      simp only [Relay.next] at hnext
      split at hnext
      · rename_i hphase hstream
        cases hnext
        exact hs.readResult hphase hstream
      · cases hnext
  | relay =>
      simp only [Relay.next] at hnext
      split at hnext
      · rename_i hphase hstream
        split at hnext
        · cases hnext
          exact hs.lose .over
        · cases hnext
          exact hs.relay hphase hstream
      · cases hnext
  | drop =>
      simp only [Relay.next] at hnext
      split at hnext
      · cases hnext
        exact hs.lose .away
      · cases hnext
        exact hs.lose .away
      · cases hnext
  | forward =>
      simp only [Relay.next] at hnext
      split at hnext
      · rename_i hchannel
        cases hnext
        exact hs.forward hchannel
      · cases hnext
  | finish =>
      cases hnext
      exact ⟨hs.passed, hs.ahead, hs.opening⟩
  | abort =>
      simp only [Relay.next] at hnext
      split at hnext
      · cases hnext
        exact hs.lose .over
      · cases hnext

end

/-! ### Catching up -/

section
variable {s s' : Relay}

/-- What has been passed on is written in the end. -/
theorem Relay.forwards {channel : List UpstreamFrame} {s : Relay} (hchannel : s.channel = channel)
    (hended : s.ended = false) :
    ∃ tr, Run Relay.Step s tr { s with channel := [], client := s.client ++ channel } := by
  induction channel generalizing s with
  | nil =>
      refine ⟨[], ?_⟩
      have hsame : { s with channel := [], client := s.client ++ [] } = s := by
        rw [List.append_nil, ← hchannel]
      rw [hsame]
      exact Run.nil
  | cons frame rest ih =>
      obtain ⟨tr, hrun⟩ :=
        ih (s := { s with channel := rest, client := s.client ++ [frame] }) rfl hended
      have hstep : Relay.Step s .forward
          { s with channel := rest, client := s.client ++ [frame] } := by
        refine ⟨?_, trivial⟩
        simp only [Relay.next, hended, hchannel]
      refine ⟨_, Run.trans (Run.single hstep) (?_ : Run _ _ tr _)⟩
      simpa only [List.append_assoc, List.singleton_append] using hrun

/-- What upstream has sent is read and written in the end. -/
theorem Relay.catchesUp {frames : List UpstreamFrame} {s : Relay} (hphase : s.phase = .relaying)
    (hstream : s.stream = some frames) (hended : s.ended = false) :
    ∃ tr, Run Relay.Step s tr
      { s with
        stream := some []
        channel := []
        client := s.client ++ s.channel ++ frames } := by
  induction frames generalizing s with
  | nil =>
      obtain ⟨tr, hrun⟩ := Relay.forwards (s := s) rfl hended
      refine ⟨tr, ?_⟩
      rw [List.append_nil, ← hstream]
      exact hrun
  | cons frame rest ih =>
      obtain ⟨tr, hrun⟩ :=
        ih (s := { s with stream := some rest, channel := s.channel ++ [frame] }) hphase rfl hended
      have hstep : Relay.Step s .relay
          { s with stream := some rest, channel := s.channel ++ [frame] } := by
        refine ⟨?_, trivial⟩
        simp only [Relay.next, hphase, hstream, hended]
        rfl
      refine ⟨_, Run.trans (Run.single hstep) (?_ : Run _ _ tr _)⟩
      simpa only [List.append_assoc, List.singleton_append] using hrun

/-- If something is left attached when upstream answers, the client will not see what it
is to see. -/
theorem Relay.leftover_spoils {order : List UInt64} (h : Relay.Step s (.answer order) s')
    (hleft : ¬ AnswersAfresh s (.answer order) s') (hended : s.ended = false) :
    ∃ tr s'', Run Relay.Step s' tr s'' ∧ ¬ s''.Converged := by
  obtain ⟨hnext, hnodup, hall⟩ := h
  simp only [Relay.next] at hnext
  split at hnext
  · rename_i hphase hstream
    cases hnext
    obtain ⟨tr, hrun⟩ := Relay.catchesUp
      (s := { s with
        phase := .relaying
        stream := some (order.filterMap fun id => (s.present id).map (.attached id)) })
      rfl rfl hended
    have hread : Relay.Step
        { s with
          stream := some (.result :: order.filterMap fun id => (s.present id).map (.attached id)) }
        .readResult
        { s with
          phase := .relaying
          stream := some (order.filterMap fun id => (s.present id).map (.attached id)) } := by
      refine ⟨?_, trivial⟩
      simp only [Relay.next, hphase]
    refine ⟨_, _, Run.trans (Run.single hread) hrun, fun hconverged => ?_⟩
    obtain ⟨id, hid⟩ : ∃ id, replay s.passed id ≠ none := by
      by_contra hnone
      refine hleft (funext fun id => ?_)
      by_contra hsome
      exact hnone ⟨id, hsome⟩
    have hlog : edits (s.client ++ s.channel ++
        order.filterMap fun id => (s.present id).map (.attached id)) =
          s.passed ++ snapshot s.present order := by
      rw [edits_append, ← edits_snapshot]
      rfl
    have halt := hconverged.alternates
    have hagrees := hconverged.agrees rfl rfl rfl
    dsimp only at halt hagrees
    rw [hlog] at halt hagrees
    exact leftover_of_snapshot (hall id).mpr (Option.isSome_iff_ne_none.mpr hid) halt hagrees
  · cases hnext

/-- **The relayed Listen stream converges** in every run in which upstream only ever answers
when nothing is left attached of what has been passed on.  If something is, a client that
stays comes to see what is wrong. -/
theorem relayed_listen_converges {tr : List (Relay × RelayStep × Relay)}
    (hrun : Run Relay.Step {} tr s) :
    (EveryStep AnswersAfresh tr → EveryStep (fun _ _ s' => s'.Converged) tr) ∧
      ∀ order s', Relay.Step s (.answer order) s' → ¬ AnswersAfresh s (.answer order) s' →
        s.ended = false → ∃ tr' s'', Run Relay.Step s' tr' s'' ∧ ¬ s''.Converged := by
  refine ⟨fun hfresh => ?_, fun order s' hstep hleft => Relay.leftover_spoils hstep hleft⟩
  refine Run.everyStep_of (P := Relay.Follows) ?_ (fun _ _ _ hs hstep hC => hstep.follows hs hC)
    (fun _ _ _ hs hstep hC => (hstep.follows hs hC).converged) hrun hfresh
  refine ⟨alternates_nil, ?_, ?_⟩
  · intro h
    cases h
  · intro frames h
    cases h

end

/-- The one device that upstream has, or has no longer. -/
theorem mem_single_iff (p : Option Dictionary) (id : UInt64) :
    id ∈ (if p.isSome then [1] else ([] : List UInt64)) ↔
      (Function.update (fun _ => none) (1 : UInt64) p id).isSome = true := by
  by_cases hid : id = 1
  · cases p with
    | none => simp [hid]
    | some p => simp [hid]
  · cases p with
    | none => simp [hid]
    | some p => simp [hid]

/-- A device is there when the client starts to listen and is unplugged.  Then the stream drops,
the device comes back, and so does the pump, at its second try. -/
theorem relayed_device_comes_back : ∃ s tr, Run Relay.Step {} tr s ∧
    edits s.client = [.put 1 [], .drop 1, .put 1 []] ∧
    (replay (edits s.client) 1).isSome = true ∧ EveryStep (fun _ _ s' => s'.Converged) tr := by
  have hback : ∀ id : UInt64, id ∈ ([1] : List UInt64) ↔
      (Function.update (Function.update (Function.update (fun _ => none) (1 : UInt64)
        (some ([] : Dictionary))) 1 none) 1 (some []) id).isSome = true := by
    intro id
    rw [Function.update_idem, Function.update_idem]
    exact mem_single_iff (some []) id
  have hafresh : replay [Edit.put (1 : UInt64) ([] : Dictionary), .drop 1] = fun _ => none := by
    funext id
    show Function.update (Function.update (fun _ => none) (1 : UInt64) (some ([] : Dictionary)))
      1 none id = none
    rw [Function.update_idem, Function.update_apply]
    split <;> rfl
  have hplays : Plays Relay.next (fun s a s' => a.Valid s ∧ AnswersAfresh s a s') {}
      [.attach 1 [], .connect, .answer [1], .readResult, .relay, .forward, .detach 1, .relay,
        .forward, .drop, .attach 1 [], .connectFails, .connect, .answer [1], .readResult, .relay,
        .forward] _ :=
    ⟨_, rfl, ⟨trivial, trivial⟩, _, rfl, ⟨trivial, trivial⟩,
      _, rfl, ⟨⟨by simp, mem_single_iff (some [])⟩, rfl⟩, _, rfl, ⟨trivial, trivial⟩,
      _, rfl, ⟨trivial, trivial⟩, _, rfl, ⟨trivial, trivial⟩, _, rfl, ⟨trivial, trivial⟩,
      _, rfl, ⟨trivial, trivial⟩, _, rfl, ⟨trivial, trivial⟩, _, rfl, ⟨trivial, trivial⟩,
      _, rfl, ⟨trivial, trivial⟩, _, rfl, ⟨trivial, trivial⟩, _, rfl, ⟨trivial, trivial⟩,
      _, rfl, ⟨⟨by simp, hback⟩, hafresh⟩, _, rfl, ⟨trivial, trivial⟩,
      _, rfl, ⟨trivial, trivial⟩, _, rfl, ⟨trivial, trivial⟩, rfl⟩
  obtain ⟨tr, hrun, hall, -⟩ := Run.of_plays
    (fun s a s' hnext hC => show Relay.Step s a s' from ⟨hnext, hC.1⟩) hplays
  exact ⟨_, tr, hrun, rfl, rfl,
    (relayed_listen_converges hrun).1 (hall.imp fun _ _ _ hC => hC.2)⟩

/-- The stream drops with a device attached, which is unplugged before the pump is back: the
client keeps it. -/
theorem unplugged_device_stays_attached : ∃ s tr, Run Relay.Step {} tr s ∧ ¬ s.Converged := by
  have hgone : ∀ id : UInt64, id ∈ ([] : List UInt64) ↔
      (Function.update (Function.update (fun _ => none) (1 : UInt64) (some ([] : Dictionary)))
        1 none id).isSome = true := by
    intro id
    rw [Function.update_idem]
    exact mem_single_iff none id
  have hplays : Plays Relay.next (fun s a _ => a.Valid s) {}
      [.attach 1 [], .connect, .answer [1], .readResult, .relay, .forward, .drop, .detach 1,
        .connect, .answer [], .readResult] _ :=
    ⟨_, rfl, trivial, _, rfl, trivial, _, rfl, ⟨by simp, mem_single_iff (some [])⟩,
      _, rfl, trivial, _, rfl, trivial, _, rfl, trivial, _, rfl, trivial, _, rfl, trivial,
      _, rfl, trivial, _, rfl, ⟨by simp, hgone⟩, _, rfl, trivial, rfl⟩
  obtain ⟨tr, hrun, -⟩ := Run.of_plays
    (fun s a s' hnext hvalid => show Relay.Step s a s' from ⟨hnext, hvalid⟩) hplays
  refine ⟨_, tr, hrun, fun hconverged => ?_⟩
  have hagrees := congrFun (hconverged.agrees rfl rfl rfl) 1
  cases hagrees

end Netmuxd
