/-
How much a client can queue up.

A connection's pump reads only when it has found the pause flag clear.  What it has read
by the time the flag is set is what the channel holds, what the loop has in hand, and one
read more.  So the flag is what keeps `pending_tx` short: while it is clear there is less
than `TX_HIGH_WATER` in it, and while it is set only what is already on its way is added.
-/
import Netmuxd.Usb.Overlap
import Netmuxd.Proofs.Stall

namespace Netmuxd

open Lib

/-! ### What moves do to the queue -/

/-- The pump is held back once there is too much queued. -/
def Connection.HeldBack (c : Connection) : Prop :=
  txHighWater < c.pendingTx.length → c.txPause = true

theorem Move.heldBack {c c' : Connection} {acts : List Act} (h : Move c acts c') :
    c'.pendingTx.length ≤ c.pendingTx.length ∧ (c.HeldBack → c'.HeldBack) := by
  have hdrop : ∀ k : Nat, (c.pendingTx.drop k).length ≤ c.pendingTx.length := by
    intro k
    rw [List.length_drop]
    omega
  cases h with
  | frame => exact ⟨Nat.le_refl _, id⟩
  | @data k =>
      exact ⟨hdrop k, fun hheld hhigh => hheld (Nat.lt_of_lt_of_le hhigh (hdrop k))⟩
  | failed k => exact ⟨hdrop k, fun hheld hhigh => hheld (Nat.lt_of_lt_of_le hhigh (hdrop k))⟩
  | resume _ hlow =>
      refine ⟨Nat.le_refl _, fun _ hhigh => ?_⟩
      have hhigh' : txHighWater < c.pendingTx.length := hhigh
      unfold txHighWater at hhigh'
      unfold txLowWater at hlow
      omega
  | pause => exact ⟨Nat.le_refl _, fun _ _ => rfl⟩

theorem Moves.heldBack {c c' : Connection} {acts : List Act} (h : Moves c acts c') :
    c'.pendingTx.length ≤ c.pendingTx.length ∧ (c.HeldBack → c'.HeldBack) := by
  refine h.relates (Q := fun c c' : Connection =>
    c'.pendingTx.length ≤ c.pendingTx.length ∧ (c.HeldBack → c'.HeldBack))
    ⟨Nat.le_refl _, id⟩ fun d os e hcd hde => ?_
  obtain ⟨hle, hheld⟩ := hde.heldBack
  exact ⟨Nat.le_trans hle hcd.1, fun hc => hheld (hcd.2 hc)⟩

/-- Nothing but client data is added to the queue. -/
theorem Intake.pendingTx {c d : Connection} {cev : ConnEvent} {first : List Act}
    (h : Intake c cev first d) (hno : ∀ bytes, cev ≠ .data bytes) :
    d.pendingTx = c.pendingTx ∧ d.txPause = c.txPause := by
  cases h with
  | data bytes => exact absurd rfl (hno bytes)
  | _ => exact ⟨rfl, rfl⟩

/-- What a connected entry that stays has queued after a reaction. -/
theorem Reacts.heldBack {c c' : Connection} {cev : ConnEvent} {acts : List Act}
    (hr : Reacts c cev acts (some c')) (hs : c.state = .connected) (hheld : c.HeldBack) :
    c'.HeldBack ∧ ((∃ bytes, cev = .data bytes ∧
        c'.pendingTx.length ≤ c.pendingTx.length + bytes.length) ∨
      ((∀ bytes, cev ≠ .data bytes) ∧ c'.pendingTx.length ≤ c.pendingTx.length)) := by
  by_cases hdata : ∃ bytes, cev = .data bytes
  · obtain ⟨bytes, rfl⟩ := hdata
    cases hr with
    | ignoredData hs' => exact absurd hs hs'
    | data _ hm _ _ hpause =>
        refine ⟨hpause, .inl ⟨bytes, rfl, ?_⟩⟩
        have hle := hm.heldBack.1
        rwa [show (c.push bytes).pendingTx = c.pendingTx ++ bytes from rfl,
          List.length_append] at hle
  · have hno : ∀ bytes, cev ≠ .data bytes := fun bytes heq => hdata ⟨bytes, heq⟩
    obtain ⟨first, d, moves, c₁, last, hi, hm, he, -⟩ := hr.parts hs
    cases he
    obtain ⟨hpending, hpause⟩ := hi.pendingTx hno
    obtain ⟨hle, hkeeps⟩ := hm.heldBack
    have hd : d.HeldBack := by
      intro hhigh
      rw [hpause]
      exact hheld (hpending ▸ hhigh)
    exact ⟨hkeeps hd, .inr ⟨hno, hpending ▸ hle⟩⟩

/-! ### What is on its way -/

/-- What a pump that is past its check adds to what it has sent. -/
def Pump.carries : Pump → Nat
  | .reading => 1
  | .sending (some _) => 1
  | _ => 0

/-- How many chunks of the connection can still reach its queue while the flag is set. -/
def View.outstanding (v : View) : Nat :=
  v.queued.countP Option.isSome + v.task.pump.carries

/-- The chunk that crosses the mark, the places of the channel, and the chunk the pump may
have read. -/
def backlogMax : Nat :=
  txHighWater + 66 * maxPayload

/-- What is queued and what is on its way, of a listed connection. -/
structure View.Rationed (v : View) (c : Connection) : Prop where
  gated : Gated v.acts v.task c
  held : c.HeldBack
  bound : c.pendingTx.length + maxPayload * v.outstanding ≤ backlogMax

def View.Small (v : View) : Prop :=
  ∀ bytes, some bytes ∈ v.queued → bytes.length ≤ maxPayload

/-- A task adds to what is on its way only with the flag clear. -/
theorem TaskStep.outstanding {v : View} {gone : Prop} {t : Task} {msgs : List (Option Bytes)}
    {ns : List UInt32} (ht : TaskStep v.acts gone v.task t msgs ns) :
    View.outstanding { v with task := t, queued := v.queued ++ msgs, owed := v.owed ++ ns } ≤
      v.outstanding ∨ pauseFlag v.acts = false := by
  unfold View.outstanding
  rw [List.countP_append]
  cases ht with
  | look hp =>
      cases hflag : pauseFlag v.acts with
      | true => exact .inl (by simp [hp, Pump.carries])
      | false => exact .inr rfl
  | wake hp => exact .inl (by simp [hp, Pump.carries])
  | read hp => exact .inl (by simp [hp, Pump.carries])
  | eof hp => exact .inl (by simp [hp, Pump.carries])
  | @send msg hp =>
      refine .inl ?_
      cases msg with
      | none => simp [hp, Pump.carries]
      | some bytes => simp [hp, Pump.carries]
  | abandon hp => exact .inl (by simp [Pump.carries])
  | _ => exact .inl (by simp)

theorem View.Takes.outstanding {v u : View} {cev : ConnEvent} (h : v.Takes cev u) :
    u.outstanding ≤ v.outstanding := by
  unfold View.outstanding
  cases h with
  | message hq =>
      rw [hq, List.countP_cons]
      dsimp only
      omega
  | _ => exact Nat.le_refl _

/-- A chunk that is taken is no longer on its way. -/
theorem View.Takes.outstanding_data {v u : View} {bytes : Bytes} (h : v.Takes (.data bytes) u) :
    u.outstanding + 1 = v.outstanding ∧ some bytes ∈ v.queued := by
  obtain ⟨rest, hq, rfl⟩ := View.Takes.of_message (b := some bytes) h
  refine ⟨?_, by rw [hq]; exact List.mem_cons_self⟩
  unfold View.outstanding
  rw [hq, List.countP_cons]
  simp only [Option.isSome_some, if_true]
  omega

/-! ### A step of one connection -/

theorem View.Rationed.reacts {v u : View} {c c' : Connection} {cev : ConnEvent} {acts : List Act}
    (hv : v.Rationed c) (hsmall : v.Small) (ht : v.Takes cev u)
    (hr : Reacts c cev acts (some c')) (hs : c.state = .connected) :
    View.Rationed { u with acts := v.acts ++ acts, entry := some c' } c' := by
  obtain ⟨hheld, hgrows⟩ := hr.heldBack hs hv.held
  refine ⟨?_, hheld, ?_⟩
  · obtain ⟨first, d, moves, c₁, last, hi, hm, he, rfl⟩ := hr.parts hs
    cases he
    rw [List.append_nil, ← List.append_assoc]
    show Gated _ u.task _
    rw [ht.keeps.1]
    exact (hv.gated.quiet hi.quiet.1 hi.quiet.2).moves hm
  · show c'.pendingTx.length + maxPayload * u.outstanding ≤ backlogMax
    have hbound := hv.bound
    rcases hgrows with ⟨bytes, rfl, hle⟩ | ⟨-, hle⟩
    · obtain ⟨hless, hmem⟩ := ht.outstanding_data
      have hlen := hsmall bytes hmem
      rw [← hless, Nat.mul_add] at hbound
      omega
    · have hmul := Nat.mul_le_mul_left maxPayload ht.outstanding
      omega

/-- An entry that is not connected has nothing added. -/
theorem View.Rationed.opening {v u : View} {c c' : Connection} {cev : ConnEvent}
    {acts : List Act} (hv : v.Rationed c) (ht : v.Takes cev u)
    (ho : Opening c cev acts (some c')) :
    View.Rationed { u with acts := v.acts ++ acts, entry := some c' } c' := by
  have hsame : c'.pendingTx = c.pendingTx ∧ c'.txPause = c.txPause := by
    cases ho <;> exact ⟨rfl, rfl⟩
  refine ⟨?_, ?_, ?_⟩
  · show Gated _ u.task _
    rw [ht.keeps.1]
    exact hv.gated.quiet ho.unthrottled hsame.2
  · intro hhigh
    rw [hsame.2]
    exact hv.held (hsame.1 ▸ hhigh)
  · show c'.pendingTx.length + maxPayload * u.outstanding ≤ backlogMax
    have hbound := hv.bound
    have hmul := Nat.mul_le_mul_left maxPayload ht.outstanding
    rw [hsame.1]
    omega

theorem View.rationed_step {live : Prop} {Q : View → ConnEvent → Prop} {i : Nat} {v v' : View}
    (hplain : v.Plain live i) (hv : ∀ c, v.entry = some c → v.Rationed c) (hsmall : v.Small)
    (hroom : v'.outstanding ≤ 66) (h : v.Step live Q i v') :
    ∀ c, v'.entry = some c → v'.Rationed c := by
  have hfits : maxPayload * v'.outstanding ≤ 66 * maxPayload := by
    rw [Nat.mul_comm]
    exact Nat.mul_le_mul_right _ hroom
  intro c' hc'
  cases h with
  | @opened dport a hacts _ ha =>
      cases hc'
      refine ⟨hplain.opened_gated hacts ha, ?_, ?_⟩
      · intro hhigh
        cases hhigh
      · show 0 + _ ≤ _
        unfold backlogMax
        omega
  | openFailed _ hentry _ =>
      have hc : v.entry = some c' := hc'
      rw [hentry] at hc
      cases hc
  | @reacts c cev u acts r hc _ ht hr _ _ =>
      have hlife := hplain.life
      rw [hc] at hlife
      simp only at hc'
      subst hc'
      by_cases hs : c.state = .connected
      · exact (hv _ hc).reacts hsmall ht hr hs
      · exact (hv _ hc).opening ht (hr.opening (hlife.connecting hs))
  | late hc ht _ =>
      rw [ht.acts.2, hc] at hc'
      cases hc'
  | dropped => cases hc'
  | task _ ht =>
      have hration := hv c' hc'
      refine ⟨⟨hration.gated.toWaits.task ht, hration.gated.flag⟩, hration.held, ?_⟩
      rcases ht.outstanding with hle | hclear
      · exact Nat.le_trans (Nat.add_le_add_left (Nat.mul_le_mul_left _ hle) _) hration.bound
      · -- the flag is clear, so little is queued
        have hlow : c'.pendingTx.length ≤ txHighWater := by
          by_contra hhigh
          have hset := hration.held (Nat.lt_of_not_le hhigh)
          rw [← hration.gated.flag, hclear] at hset
          cases hset
        unfold backlogMax
        omega

/-! ### The pumps -/

/-- What a step does to the pumps: one goes on to read only from the check, with the flag
clear, and reads `MAX_PAYLOAD` bytes at most. -/
structure Sys.PumpsTakeCare (s s' : Sys) : Prop where
  checks : ∀ i, (s'.tasks i).pump = .reading → (s.tasks i).pump = .reading ∨
    ((s.tasks i).pump = .check ∧ pauseFlag (s.acts i) = false)
  reads : ∀ i bytes, (s'.tasks i).pump = .sending (some bytes) →
    (s.tasks i).pump = .sending (some bytes) ∨ ((s.tasks i).pump = .reading ∧
      bytes.length ≤ maxPayload ∧ (s.tasks i).toMux = bytes ++ (s'.tasks i).toMux)

theorem Sys.PumpsTakeCare.of_same {s s' : Sys} (h : ∀ i, (s'.tasks i).pump = (s.tasks i).pump) :
    s.PumpsTakeCare s' := by
  refine ⟨fun i hi => .inl ?_, fun i bytes hi => .inl ?_⟩
  · rw [← h i]
    exact hi
  · rw [← h i]
    exact hi

/-- Only the one that moves has to take care. -/
theorem Sys.PumpsTakeCare.of_setTask {s s' : Sys} {i : Nat} {t : Task}
    (htasks : s'.tasks = Function.update s.tasks i t)
    (hchecks : t.pump = .reading → (s.tasks i).pump = .reading ∨
      ((s.tasks i).pump = .check ∧ pauseFlag (s.acts i) = false))
    (hreads : ∀ bytes, t.pump = .sending (some bytes) →
      (s.tasks i).pump = .sending (some bytes) ∨ ((s.tasks i).pump = .reading ∧
        bytes.length ≤ maxPayload ∧ (s.tasks i).toMux = bytes ++ t.toMux)) :
    s.PumpsTakeCare s' := by
  refine ⟨fun j hj => ?_, fun j bytes hj => ?_⟩
  all_goals
    by_cases hji : j = i
    · rw [hji, htasks, Function.update_self] at hj
      rw [hji]
      first
        | exact hchecks hj
        | rw [htasks, Function.update_self]; exact hreads bytes hj
    · rw [htasks, Function.update_of_ne hji] at hj
      exact .inl hj

theorem Sys.pump_setTask (s : Sys) {i : Nat} {t : Task} (h : t.pump = (s.tasks i).pump) (j : Nat) :
    ((s.setTask i t).tasks j).pump = (s.tasks j).pump := by
  by_cases hj : j = i
  · rw [hj, Sys.tasks_setTask]
    exact h
  · exact congrArg Task.pump (Function.update_of_ne hj ..)

theorem Sys.pumpStep_careful {s s' : Sys} {i : Nat} {sport : UInt16}
    (h : s.pumpStep i sport = some s') :
    s.PumpsTakeCare s' ∧
      (s.txData.length ≤ txDataCap → s'.txData.length ≤ txDataCap) := by
  cases hp : (s.tasks i).pump with
  | check =>
      simp only [Sys.pumpStep, hp, Option.some.injEq] at h
      subst h
      refine ⟨.of_setTask rfl ?_ ?_, id⟩
      · intro hreading
        refine .inr ⟨hp, ?_⟩
        cases hflag : pauseFlag (s.acts i) with
        | false => rfl
        | true => simp [hflag] at hreading
      · intro bytes hsending
        cases hflag : pauseFlag (s.acts i) <;> simp [hflag] at hsending
  | waiting =>
      simp only [Sys.pumpStep, hp] at h
      split at h
      · cases h
        exact ⟨.of_setTask rfl (by simp) (by simp), id⟩
      · cases h
  | reading =>
      simp only [Sys.pumpStep, hp] at h
      split at h
      · cases h
      rename_i buf rest hread
      cases h
      refine ⟨.of_setTask rfl (fun hc => by cases hc) fun bytes hc => .inr ⟨hp, ?_⟩, id⟩
      have hbytes : (if buf.isEmpty then none else some buf) = some bytes := by
        simpa using hc
      split at hbytes
      · cases hbytes
      obtain rfl := Option.some.inj hbytes
      rcases pollRead_some hread with ⟨hnil, -, rfl, rfl⟩ | ⟨-, rfl, rfl⟩
      · exact ⟨Nat.zero_le _, hnil⟩
      · refine ⟨?_, (List.take_append_drop _ _).symm⟩
        rw [List.length_take]
        exact Nat.min_le_left _ _
  | sending msg =>
      simp only [Sys.pumpStep, hp] at h
      by_cases hret : s.returned
      · rw [if_pos hret] at h
        cases h
        exact ⟨.of_setTask rfl (by simp) (by simp), id⟩
      · rw [if_neg hret] at h
        split at h
        · rename_i hroom
          cases h
          refine ⟨.of_setTask rfl ?_ ?_, fun _ => ?_⟩
          · cases msg <;> simp
          · cases msg <;> simp
          · show (s.txData ++ [_]).length ≤ txDataCap
            rw [List.length_append]
            exact hroom
        · cases h
  | done =>
      simp only [Sys.pumpStep, hp] at h
      cases h

theorem Sys.forwarderStep_careful {s s' : Sys} {i : Nat} {sport : UInt16}
    (h : s.forwarderStep i sport = some s') :
    (∀ j, (s'.tasks j).pump = (s.tasks j).pump) ∧ s'.txData = s.txData := by
  unfold Sys.forwarderStep at h
  dsimp only at h
  split at h
  · split at h
    · cases h
      exact ⟨s.pump_setTask rfl, rfl⟩
    · split at h
      · cases h
        exact ⟨s.pump_setTask rfl, rfl⟩
      · cases h
  · split at h
    · cases h
      exact ⟨s.pump_setTask rfl, rfl⟩
    · split at h
      · cases h
        exact ⟨s.pump_setTask rfl, rfl⟩
      · cases h
      · cases h
        exact ⟨s.pump_setTask rfl, rfl⟩
  · split at h
    · cases h
      exact ⟨s.pump_setTask rfl, rfl⟩
    · cases h
      exact ⟨s.pump_setTask rfl, rfl⟩
  · cases h

theorem Sys.taskNext_careful {s s' : Sys} {a : Action} (h : s.taskNext a = some s') :
    s.PumpsTakeCare s' ∧ (s.txData.length ≤ txDataCap → s'.txData.length ≤ txDataCap) := by
  have hquiet : (∀ j, (s'.tasks j).pump = (s.tasks j).pump) ∧ s'.txData = s.txData →
      s.PumpsTakeCare s' ∧ (s.txData.length ≤ txDataCap → s'.txData.length ≤ txDataCap) := by
    rintro ⟨hpump, hqueue⟩
    exact ⟨.of_same hpump, fun hroom => by rwa [hqueue]⟩
  cases a with
  | pump i =>
      obtain ⟨sport, -, hstep⟩ := Option.bind_eq_some_iff.mp h
      exact Sys.pumpStep_careful hstep
  | forwarder i =>
      obtain ⟨sport, -, hstep⟩ := Option.bind_eq_some_iff.mp h
      exact hquiet (Sys.forwarderStep_careful hstep)
  | clientWrite i data =>
      simp only [Sys.taskNext] at h
      split at h
      · cases h
      split at h
      · cases h
        exact hquiet ⟨s.pump_setTask rfl, rfl⟩
      · cases h
  | clientRead i max =>
      simp only [Sys.taskNext] at h
      split at h
      · cases h
      obtain ⟨r, -, rfl⟩ := Option.map_eq_some_iff.mp h
      exact hquiet ⟨s.pump_setTask rfl, rfl⟩
  | clientShutdown i =>
      simp only [Sys.taskNext] at h
      split at h
      · cases h
      cases h
      exact hquiet ⟨s.pump_setTask rfl, rfl⟩
  | clientDrop i =>
      simp only [Sys.taskNext] at h
      split at h
      · cases h
      cases h
      exact hquiet ⟨s.pump_setTask rfl, rfl⟩
  | _ => cases h

/-- What is newly sent is what a pump had read. -/
theorem Sys.TaskMoves.sent {s s' : Sys} {i : Nat} {sport : UInt16} (h : s.TaskMoves i sport s') :
    ∃ msgs : List (Option Bytes), s'.txData = s.txData ++ msgs.map (Message.mk i sport) ∧
      ∀ body ∈ msgs, (s.tasks i).pump = .sending body := by
  obtain ⟨t', msgs, ns, ht, rfl⟩ := h
  refine ⟨msgs, rfl, fun body hbody => ?_⟩
  cases ht with
  | send hp =>
      rw [List.mem_singleton.mp hbody]
      exact hp
  | _ => cases hbody

/-! ### The loop with a message in hand -/

namespace Overlap

/-- The system as if the message in hand had not been received yet. -/
def unhanded (o : Overlap) : Sys :=
  { o.sys with txData := o.inHand.toList ++ o.sys.txData }

theorem unhanded_of_none {o : Overlap} (h : o.inHand = none) : o.unhanded = o.sys := by
  unfold unhanded
  rw [h]
  rfl

/-- A step of the loop or of a task, and what it does to the pumps and the channel. -/
inductive Moved (o : Overlap) (o' : Overlap) : Prop
  /-- A message is received, and is in hand. -/
  | received (hsame : o'.unhanded = o.unhanded) (htasks : o'.sys.tasks = o.sys.tasks)
      (hqueue : o'.sys.txData.length ≤ o.sys.txData.length)
  | loop {a : Action} (hmoved : o.unhanded.Moved a o'.unhanded)
      (htasks : o'.sys.tasks = o.sys.tasks)
      (hqueue : o'.sys.txData.length ≤ o.sys.txData.length)
      (hsub : ∀ msg ∈ o'.unhanded.txData, msg ∈ o.unhanded.txData)
  | task {i : Nat} {sport : UInt16} {a : Action} (hmoved : o.unhanded.Moved a o'.unhanded)
      (hmoves : o.unhanded.TaskMoves i sport o'.unhanded) (hcare : o.sys.PumpsTakeCare o'.sys)
      (hqueue : o.sys.txData.length ≤ Sys.txDataCap → o'.sys.txData.length ≤ Sys.txDataCap)

theorem next_other {o : Overlap} {b : Action} (hb : b ≠ .takeData) :
    o.next (.other b) = if (o.sys.event b).isSome && o.inHand.isSome then none
      else (o.sys.next b).map fun sys => { o with sys } := by
  cases b with
  | takeData => exact absurd rfl hb
  | _ => rfl

theorem TaskMoves.unhanded {o : Overlap} {s' : Sys} {i : Nat} {sport : UInt16}
    (h : o.sys.TaskMoves i sport s') :
    o.unhanded.TaskMoves i sport (Overlap.unhanded { o with sys := s' }) := by
  obtain ⟨t', msgs, ns, ht, rfl⟩ := h
  refine ⟨t', msgs, ns, ht, ?_⟩
  unfold Overlap.unhanded Sys.afterTask Sys.setTask
  simp only [List.append_assoc]

theorem Step.moved {o o' : Overlap} {a : OverlapAction} (h : o.Step a o') : o.Moved o' := by
  obtain ⟨hnext, hvalid⟩ := h
  cases a with
  | receive =>
      cases hhand : o.inHand with
      | some msg => simp [Overlap.next, hhand] at hnext
      | none =>
          cases hqueue : o.sys.txData with
          | nil => simp [Overlap.next, hhand, hqueue] at hnext
          | cons msg rest =>
              simp only [Overlap.next, hhand, hqueue] at hnext
              split at hnext
              · cases hnext
                refine .received ?_ rfl ?_
                · unfold Overlap.unhanded
                  rw [hhand, hqueue]
                  rfl
                · rw [hqueue]
                  exact Nat.le_succ _
              · cases hnext
  | handle =>
      cases hhand : o.inHand with
      | none => simp [Overlap.next, hhand] at hnext
      | some msg =>
          simp only [Overlap.next, hhand] at hnext
          obtain ⟨m, hm, rfl⟩ := Option.map_eq_some_iff.mp hnext
          have hqueue : o.unhanded.txData = msg :: o.sys.txData := by
            unfold Overlap.unhanded
            rw [hhand]
            rfl
          refine .loop (a := .takeData) (.loop (Sys.event_eq_some.mpr (.message hqueue))
            ⟨hm, trivial⟩ ?_) rfl (Nat.le_refl _) ?_
          · unfold Sys.consume
            dsimp only
            rw [hqueue]
            rfl
          · intro msg' hmem
            rw [hqueue]
            exact List.mem_cons_of_mem _ hmem
  | other b =>
      by_cases hb : b = .takeData
      · subst hb
        cases hnext
      rw [next_other hb] at hnext
      split at hnext
      · cases hnext
      rename_i hbusy
      obtain ⟨s', hs', rfl⟩ := Option.map_eq_some_iff.mp hnext
      have hstep : o.sys.Step b s' := ⟨hs', hvalid b rfl⟩
      cases hev : o.sys.event b with
      | none =>
          have htask : o.sys.taskNext b = some s' := by
            unfold Sys.next at hs'
            rwa [hev] at hs'
          obtain ⟨i, sport, hi, hspawn, hmoves⟩ := Sys.taskNext_moves htask
          obtain ⟨hcare, hqueue⟩ := Sys.taskNext_careful htask
          have hmoves' := TaskMoves.unhanded hmoves
          have hevent : o.unhanded.event b = none := by
            cases b with
            | takeData => exact absurd rfl hb
            | _ => exact hev
          exact .task (.task hevent hi hspawn hmoves') hmoves' hcare hqueue
      | some ev =>
          have hhand : o.inHand = none := by
            rw [hev] at hbusy
            simpa using hbusy
          have hsys : o.unhanded = o.sys := unhanded_of_none hhand
          have hsys' : Overlap.unhanded { o with sys := s' } = s' := unhanded_of_none hhand
          have hmoved := hstep.moved
          rcases hmoved with ⟨hev', hmux, heq⟩ | ⟨hev', -, -, -⟩
          · refine .loop (a := b) ?_ ?_ ?_ ?_
            · rw [hsys, hsys']
              exact .loop hev' hmux heq
            · show s'.tasks = o.sys.tasks
              rw [heq]
              exact consume_tasks o.sys b
            · show s'.txData.length ≤ o.sys.txData.length
              rw [heq]
              cases b with
              | takeData => exact absurd rfl hb
              | _ => exact Nat.le_refl _
            · rw [hsys, hsys', heq]
              exact (consume_sub o.sys b).1
          · rw [hev] at hev'
            cases hev'

/-! ### Every connection at once -/

/-- What holds between any two steps. -/
structure Ordered (live : Prop) (o : Overlap) : Prop where
  sound : o.unhanded.Sound live
  room : o.sys.txData.length ≤ Sys.txDataCap
  queued : ∀ msg ∈ o.unhanded.txData, ∀ bytes, msg.body = some bytes → bytes.length ≤ maxPayload
  sending : ∀ i bytes, (o.sys.tasks i).pump = .sending (some bytes) → bytes.length ≤ maxPayload
  plain : ∀ i, 0 < i → (o.unhanded.view i).Plain live i
  rationed : ∀ i, 0 < i → ∀ c, (o.unhanded.view i).entry = some c →
    (o.unhanded.view i).Rationed c

variable {live : Prop} {o o' : Overlap}

theorem Ordered.start {link : Link} {left : Option Nat} {reply : Bytes}
    (h : handshake left reply = .ok link) : (Overlap.start link).Ordered (left = none) := by
  have hview : ∀ i, 0 < i → (Overlap.start link).unhanded.view i = {} :=
    fun i hi => View.start (handshake_fresh h).1 hi
  refine ⟨handshake_sound h, Nat.zero_le _, ?_, ?_, ?_, ?_⟩
  · intro msg hmem
    cases hmem
  · intro i bytes hi
    cases hi
  · intro i hi
    rw [hview i hi]
    exact View.Plain.start _ i
  · intro i hi c hc
    rw [hview i hi] at hc
    cases hc

/-- The places of the channel, the message in hand and the pump's own chunk. -/
theorem outstanding_le (hroom : o.sys.txData.length ≤ Sys.txDataCap) (i : Nat) :
    (o.unhanded.view i).outstanding ≤ 66 := by
  have hcount : (bodiesOf i o.unhanded.txData).countP Option.isSome ≤
      o.unhanded.txData.length :=
    Nat.le_trans List.countP_le_length (List.length_filterMap_le _ _)
  have hhand : o.inHand.toList.length ≤ 1 := by
    cases o.inHand with
    | none => exact Nat.zero_le _
    | some msg => exact Nat.le_refl _
  have hqueue : o.unhanded.txData.length = o.inHand.toList.length + o.sys.txData.length :=
    List.length_append
  have hpump : (o.sys.tasks i).pump.carries ≤ 1 := by
    unfold Pump.carries
    split <;> omega
  unfold Sys.txDataCap at hroom
  show (bodiesOf i o.unhanded.txData).countP Option.isSome + (o.sys.tasks i).pump.carries ≤ 66
  omega

theorem Ordered.small (h : o.Ordered live) (i : Nat) : (o.unhanded.view i).Small := by
  intro bytes hmem
  obtain ⟨msg, hmsg, hbody⟩ := List.mem_filterMap.mp hmem
  split at hbody
  · exact h.queued msg hmsg bytes (Option.some.inj hbody)
  · cases hbody

/-- What an action of the system does to each connection on its own. -/
theorem Ordered.views {a : Action} (h : o.Ordered live)
    (hmoved : o.unhanded.Moved a o'.unhanded) (hroom : o'.sys.txData.length ≤ Sys.txDataCap)
    {i : Nat} (hi : 0 < i) :
    (o'.unhanded.view i).Plain live i ∧ ∀ c, (o'.unhanded.view i).entry = some c →
      (o'.unhanded.view i).Rationed c := by
  have hany : o.unhanded.Meets (fun _ _ _ => True) a o'.unhanded :=
    fun _ _ _ _ _ _ _ _ => trivial
  rcases h.sound.view_moved hmoved hany hi with heq | hstep
  · rw [heq]
    exact ⟨h.plain i hi, h.rationed i hi⟩
  · exact ⟨(h.plain i hi).step hstep,
      View.rationed_step (h.plain i hi) (h.rationed i hi) (h.small i) (outstanding_le hroom i)
        hstep⟩

theorem Ordered.step {a : OverlapAction} (h : o.Ordered live) (hstep : o.Step a o')
    (hports : o'.sys.mux.ports.Nodup) : o'.Ordered live := by
  rcases hstep.moved with ⟨hsame, htasks, hqueue⟩ | ⟨hmoved, htasks, hqueue, hsub⟩ |
    ⟨hmoved, hmoves, hcare, hqueue⟩
  · refine ⟨?_, Nat.le_trans hqueue h.room, ?_, ?_, ?_, ?_⟩
    · rw [hsame]
      exact h.sound
    · rw [hsame]
      exact h.queued
    · rw [htasks]
      exact h.sending
    · rw [hsame]
      exact h.plain
    · rw [hsame]
      exact h.rationed
  · have hroom := Nat.le_trans hqueue h.room
    refine ⟨h.sound.moved hmoved (h.sound.tidy hmoved hports), hroom, ?_, ?_,
      fun i hi => (h.views hmoved hroom hi).1, fun i hi => (h.views hmoved hroom hi).2⟩
    · intro msg hmem
      exact h.queued msg (hsub msg hmem)
    · rw [htasks]
      exact h.sending
  · have hroom := hqueue h.room
    refine ⟨h.sound.moved hmoved (h.sound.tidy hmoved hports), hroom, ?_, ?_,
      fun i hi => (h.views hmoved hroom hi).1, fun i hi => (h.views hmoved hroom hi).2⟩
    · obtain ⟨msgs, heq, hsent⟩ := hmoves.sent
      intro msg hmem bytes hbody
      rw [heq] at hmem
      rcases List.mem_append.mp hmem with hold | hnew
      · exact h.queued msg hold bytes hbody
      · obtain ⟨body, hmem', rfl⟩ := List.mem_map.mp hnew
        have hpump := hsent body hmem'
        rw [show body = some bytes from hbody] at hpump
        exact h.sending _ bytes hpump
    · intro i bytes hi
      rcases hcare.reads i bytes hi with hold | ⟨-, hlen, -⟩
      · exact h.sending i bytes hold
      · exact hlen

theorem Moved.takeCare (h : o.Moved o') : o.sys.PumpsTakeCare o'.sys := by
  rcases h with ⟨-, htasks, -⟩ | ⟨-, htasks, -, -⟩ | ⟨-, -, hcare, -⟩
  · exact .of_same fun i => by rw [htasks]
  · exact .of_same fun i => by rw [htasks]
  · exact hcare

/-- The loop's own invariant is kept, and the sports handed out stay so. -/
theorem Step.ports {a : OverlapAction} (h : o.Step a o') (hok : o.sys.mux.Ok) :
    o'.sys.mux.Ok ∧ o.sys.mux.ports <+: o'.sys.mux.ports := by
  have hkept : ∀ {b : Action}, o.unhanded.Moved b o'.unhanded →
      o'.sys.mux.Ok ∧ o.sys.mux.ports <+: o'.sys.mux.ports := by
    intro b hmoved
    have hports : o.unhanded.mux.ports <+: o'.unhanded.mux.ports := hmoved.ports hok
    refine ⟨?_, hports⟩
    rcases hmoved with ⟨-, hmux, -⟩ | ⟨-, -, -, t', msgs, ns, -, heq⟩
    · exact hok.step hmux
    · have hmux : o'.unhanded.mux = o.unhanded.mux := by
        rw [heq]
        rfl
      show o'.unhanded.mux.Ok
      rw [hmux]
      exact hok
  rcases h.moved with ⟨hsame, -, -⟩ | ⟨hmoved, -, -, -⟩ | ⟨hmoved, -, -, -⟩
  · have hmux : o'.unhanded.mux = o.unhanded.mux := by rw [hsame]
    have hmux' : o'.sys.mux = o.sys.mux := hmux
    rw [hmux']
    exact ⟨hok, List.prefix_rfl⟩
  · exact hkept hmoved
  · exact hkept hmoved

theorem ordered_run {left : Option Nat} {reply : Bytes} {link : Link}
    {tr : List (Overlap × OverlapAction × Overlap)} (hs : handshake left reply = .ok link)
    (h : Run Step (start link) tr o) (hports : o.sys.mux.ports.Nodup) :
    o.Ordered (left = none) := by
  have hall : o.sys.mux.Ok ∧ (o.sys.mux.ports.Nodup → o.Ordered (left = none)) := by
    refine h.invariant (P := fun o => o.sys.mux.Ok ∧
      (o.sys.mux.ports.Nodup → o.Ordered (left = none))) ?_ ?_
    · exact ⟨(mux_lives hs Run.nil).ok, fun _ => Ordered.start hs⟩
    · intro o a o' hinv hstep
      obtain ⟨hok, hprefix⟩ := hstep.ports hinv.1
      refine ⟨hok, fun hports => ?_⟩
      exact (hinv.2 (hports.sublist hprefix.sublist)).step hstep hports
  exact hall.2 hports

end Overlap

/-- **The transmit queue is bounded.**  With no sport handed out twice, a listed entry has at
most `TX_HIGH_WATER` and 66 payloads queued between any two steps, and more than
`TX_HIGH_WATER` only with the pause flag set; and its pump reads a payload at a time, each
time after it has found the flag clear. -/
theorem transmit_queue_bounded {left : Option Nat} {reply : Bytes} {link : Link}
    {tr : List (Overlap × OverlapAction × Overlap)} {o : Overlap}
    (hs : handshake left reply = .ok link) (h : Run Overlap.Step (Overlap.start link) tr o)
    (hports : o.sys.mux.ports.Nodup) :
    (∀ p c, o.sys.mux.connections p = some c →
      c.pendingTx.length ≤ txHighWater + 66 * maxPayload ∧
        (txHighWater < c.pendingTx.length →
          c.txPause = true ∧ pauseFlag (o.sys.acts c.id) = true)) ∧
      EveryStep (fun o _ o' => o.sys.PumpsTakeCare o'.sys) tr := by
  have hordered := Overlap.ordered_run hs h hports
  refine ⟨fun p c hc => ?_, ?_⟩
  · have hok := hordered.sound.lives.ok
    have hration := hordered.rationed c.id (hok.entry p c hc).2.1 c (hok.entry_of hc)
    refine ⟨Nat.le_trans (Nat.le_add_right _ _) hration.bound, fun hhigh => ?_⟩
    have hpause := hration.held hhigh
    refine ⟨hpause, ?_⟩
    rw [← hpause]
    exact hration.gated.flag
  · refine h.everyStep_of (C := fun _ _ _ => True) (P := fun _ => True) trivial
      (fun _ _ _ _ _ _ => trivial) (fun _ _ _ _ hstep _ => hstep.moved.takeCare)
      (fun _ _ => trivial)

/-- The loop receives the client's two bytes, and the pump is back at its read before the
loop handles them.  The device offers no window. -/
def overtaken : List OverlapAction :=
  [.other (.connect 62078), .other (.packet (packetOf {} ⟨62078, 1, 0, 1, synAck, 0⟩ [])),
    .other (.clientWrite 1 [65, 66]), .other (.pump 1), .other (.pump 1), .other (.pump 1),
    .receive, .other (.pump 1), .handle]

def afterOvertaken : Overlap :=
  (exec Overlap.next (Overlap.start freshLink) overtaken).getD (Overlap.start freshLink)

theorem overtaken_run : ∃ tr, Run Overlap.Step (Overlap.start freshLink) tr afterOvertaken := by
  have hexec : exec Overlap.next (Overlap.start freshLink) overtaken = some afterOvertaken := rfl
  have hstep : ∀ o a o', a ∈ overtaken → Overlap.next o a = some o' → Overlap.Step o a o' := by
    refine fun o a o' ha hnext => ⟨hnext, fun b hb ev hev => ?_⟩
    subst hb
    cases Sys.event_eq_some.mp hev with
    | stop order => simp [overtaken] at ha
    | _ => trivial
  obtain ⟨tr, hrun, -⟩ := Run.of_exec hstep hexec
  exact ⟨tr, hrun⟩

theorem overtaken_bounded : ∃ tr c,
    Run Overlap.Step (Overlap.start freshLink) tr afterOvertaken ∧
      afterOvertaken.sys.mux.connections 1 = some c ∧ c.pendingTx = [65, 66] ∧
      (afterOvertaken.sys.tasks 1).pump = .reading ∧
      c.pendingTx.length ≤ txHighWater + 66 * maxPayload ∧
      EveryStep (fun o _ o' => o.sys.PumpsTakeCare o'.sys) tr := by
  obtain ⟨tr, hrun⟩ := overtaken_run
  obtain ⟨c, hc, hpending⟩ : ∃ c, afterOvertaken.sys.mux.connections 1 = some c ∧
      c.pendingTx = [65, 66] := ⟨_, rfl, rfl⟩
  obtain ⟨hbound, hcare⟩ := transmit_queue_bounded handshake_versionReply hrun
    (show [(1 : UInt16)].Nodup from List.nodup_cons.mpr ⟨by simp, List.nodup_nil⟩)
  exact ⟨tr, c, hrun, hc, hpending, rfl, (hbound 1 c hc).1, hcare⟩

end Netmuxd
