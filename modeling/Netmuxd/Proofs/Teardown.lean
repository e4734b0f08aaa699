/-
Whether a client learns that its connection is gone.

Removing an entry drops the sending half of the forwarder's queue and nothing else.  The
forwarder then ends by itself once the client has taken what it was owed, and drops its
half of the pipe.  The other half is the pump's, which nobody tells: it stays in a read
that only the client can end, or in a wait that only the loop could.  So the client sees
the end of its stream only where it has closed its own side first, and where the pump
was not held back when the entry went.
-/
import Netmuxd.Proofs.Stall

namespace Netmuxd

open Lib

/-! ### Statement -/

/-- The connection whose client acts. -/
def Action.client : Action → Option Nat
  | .clientWrite i _ | .clientRead i _ | .clientShutdown i | .clientDrop i => some i
  | _ => none

namespace Sys

/-- Connection `i` has been accepted, and no entry of the map is its any more. -/
def Removed (i : Nat) (s : Sys) : Prop :=
  spawnedAs (s.acts i) ≠ none ∧ ∀ p c, s.mux.connections p = some c → c.id ≠ i

/-- A step that is not connection `i`'s client's. -/
def Unaided (i : Nat) (_ : Sys) (a : Action) (_ : Sys) : Prop :=
  a.client ≠ some i

/-- Neither task of connection `i` can take another step without its client. -/
def Quiet (i : Nat) (s : Sys) : Prop :=
  ∀ tr s', Run Sys.Step s tr s' → EveryStep (Sys.Unaided i) tr →
    s'.next (.pump i) = none ∧ s'.next (.forwarder i) = none

end Sys

/-- The mux's end of the pipe is gone: after what is still in the pipe the client reads the
end of the stream, and its pump is not left waiting. -/
structure Task.Released (t : Task) : Prop where
  dropped : t.ourSideDropped
  eof : ∀ max, Task.clientRead { t with toClient := [] } max = some ([], [])
  unpaused : t.pump ≠ .waiting

def Forwarder.rest : Forwarder → Bytes
  | .writing _ rest => rest
  | _ => []

/-- The bytes handed to the forwarder that are not in the pipe yet. -/
def Task.undelivered (h : List Act) (t : Task) : Bytes :=
  t.forwarder.rest ++ ((chunks h).drop t.received).flatten

/-- The pump will not load the pause flag again, if the client writes nothing more. -/
def Task.LookedLast (t : Task) : Prop :=
  t.pump = .done ∨ t.pump = .sending none ∨ (t.pump = .reading ∧ t.toMux = [])

/-- What lets the tasks of a removed connection come to their end. -/
structure Task.Unhindered (h : List Act) (t : Task) : Prop where
  shut : t.clientShut = true
  unpaused : pauseFlag h = false ∨ t.LookedLast
  room : t.forwarder = .done ∨ t.clientDropped = true ∨
    t.toClient.length + (t.undelivered h).length ≤ duplexBuf

/-- A state in which neither task can take another step without the client. -/
structure Task.Resting (h : List Act) (t : Task) : Prop where
  pump : t.pump = .done ∨ (t.pump = .waiting ∧ notifyCount h ≤ t.notified) ∨
    (t.pump = .reading ∧ t.toMux = [] ∧ t.clientShut = false)
  forwarder : t.forwarder = .done ∨ (t.forwarder.rest ≠ [] ∧ t.clientDropped = false ∧
    duplexBuf ≤ t.toClient.length)

/-! ### What a resting task tells -/

theorem Task.Released.of_done {t : Task} (hp : t.pump = .done) (hf : t.forwarder = .done) :
    t.Released := by
  refine ⟨⟨hp, hf⟩, fun max => ?_, fun hw => ?_⟩
  · have hdropped : Task.ourSideDropped { t with toClient := [] } := ⟨hp, hf⟩
    unfold Task.clientRead pollRead
    simp [hdropped]
  · rw [hp] at hw
    cases hw

/-- Tasks that nothing hinders come to rest at their end. -/
theorem Task.Unhindered.released {h : List Act} {t : Task} (hu : t.Unhindered h)
    (hw : Waits h t) (hr : t.Resting h) : t.Released := by
  refine Task.Released.of_done ?_ ?_
  · rcases hr.pump with hp | ⟨hp, hpermit⟩ | ⟨-, -, hshut⟩
    · exact hp
    · rcases hu.unpaused with hflag | hlast
      · rw [hw.flagged hp hpermit] at hflag
        cases hflag
      · rw [Task.LookedLast, hp] at hlast
        simp at hlast
    · rw [hu.shut] at hshut
      cases hshut
  · rcases hr.forwarder with hf | ⟨hrest, hclient, hfull⟩
    · exact hf
    · rcases hu.room with hf | hclient' | hroom
      · exact hf
      · rw [hclient] at hclient'
        cases hclient'
      · have hpos := List.length_pos_iff.mpr hrest
        rw [Task.undelivered, List.length_append] at hroom
        omega

/-! ### Task steps once the entry is gone -/

theorem Task.undelivered_take {h : List Act} {t : Task} {chunk : Bytes} {n : UInt32}
    (hf : t.forwarder = .receiving) (hc : (chunks h)[t.received]? = some chunk) :
    Task.undelivered h { t with forwarder := .writing n chunk, received := t.received + 1 } =
      t.undelivered h := by
  obtain ⟨hlt, rfl⟩ := List.getElem?_eq_some_iff.mp hc
  rw [Task.undelivered, Task.undelivered, hf, List.drop_eq_getElem_cons hlt]
  rfl

/-- **Nothing comes in the way later**, whatever the client and the loop do. -/
theorem Task.Unhindered.task {h : List Act} {gone : Prop} {t t' : Task}
    {msgs : List (Option Bytes)} {ns : List UInt32} (hu : t.Unhindered h)
    (ht : TaskStep h gone t t' msgs ns) : t'.Unhindered h := by
  obtain ⟨hshut, hpause, hroom⟩ := hu
  -- a pump that has looked last does not look again
  have hlook : ∀ {pump : Pump}, t.pump = pump →
      (pump = .check ∨ pump = .waiting ∨ (∃ bytes, pump = .sending (some bytes)) ∨
        (pump = .reading ∧ t.toMux ≠ [])) → pauseFlag h = false := by
    intro pump hp hcase
    refine hpause.resolve_right fun hlast => ?_
    rw [Task.LookedLast, hp] at hlast
    rcases hcase with rfl | rfl | ⟨bytes, rfl⟩ | ⟨rfl, hne⟩
    · simp at hlast
    · simp at hlast
    · simp at hlast
    · simp [hne] at hlast
  cases ht with
  | look hp => exact ⟨hshut, Or.inl (hlook hp (Or.inl rfl)), hroom⟩
  | wake hp => exact ⟨hshut, Or.inl (hlook hp (Or.inr (Or.inl rfl))), hroom⟩
  | read hp hne heq =>
      refine ⟨hshut, Or.inl (hlook hp (Or.inr (Or.inr (Or.inr ⟨rfl, ?_⟩)))), hroom⟩
      rw [heq]
      simp [hne]
  | eof hp => exact ⟨hshut, Or.inr (Or.inr (Or.inl rfl)), hroom⟩
  | @send msg hp =>
      cases msg with
      | none => exact ⟨hshut, Or.inr (Or.inl rfl), hroom⟩
      | some bytes => exact ⟨hshut, Or.inl (hlook hp (Or.inr (Or.inr (Or.inl ⟨_, rfl⟩)))), hroom⟩
  | abandon => exact ⟨hshut, Or.inr (Or.inl rfl), hroom⟩
  | take hf hc =>
      refine ⟨hshut, hpause, Or.inr ?_⟩
      rw [Task.undelivered_take hf hc]
      exact hroom.resolve_left (by rw [hf]; simp)
  | finish => exact ⟨hshut, hpause, Or.inl rfl⟩
  | written hf =>
      refine ⟨hshut, hpause, Or.inr ?_⟩
      rw [hf] at hroom
      rw [Task.undelivered, hf] at hroom
      exact hroom.resolve_left (by simp)
  | fail => exact ⟨hshut, hpause, Or.inl rfl⟩
  | @write n rest k hf hclient hk hne hfits =>
      refine ⟨hshut, hpause, Or.inr ?_⟩
      rw [Task.undelivered, hf] at hroom
      refine (hroom.resolve_left (by simp)).imp id fun hle => ?_
      simp only [Task.undelivered, Forwarder.rest, List.length_append, List.length_take,
        List.length_drop] at hle ⊢
      omega
  | giveUp => exact ⟨hshut, hpause, Or.inl rfl⟩
  | report hf =>
      refine ⟨hshut, hpause, Or.inr ?_⟩
      rw [Task.undelivered, hf] at hroom
      exact hroom.resolve_left (by simp)
  | clientWrite data hopen =>
      rw [hshut] at hopen
      cases hopen
  | clientRead rest hle =>
      refine ⟨hshut, hpause, hroom.imp id (Or.imp id fun hsum => ?_)⟩
      show rest.length + (t.undelivered h).length ≤ duplexBuf
      omega
  | clientShutdown => exact ⟨rfl, hpause, hroom⟩
  | clientDrop => exact ⟨rfl, hpause, Or.inr (Or.inl rfl)⟩

/-! ### Steps of the tasks themselves -/

/-- The pump or the forwarder has moved; the client's steps leave both where they are. -/
def Task.Turns (t t' : Task) : Prop :=
  t'.pump ≠ t.pump ∨ t'.forwarder ≠ t.forwarder

theorem Task.Turns.elim {t t' : Task} {P : Prop} (h : t.Turns t') (hp : t'.pump = t.pump)
    (hf : t'.forwarder = t.forwarder) : P := by
  rcases h with hne | hne
  · exact absurd hp hne
  · exact absurd hf hne

theorem Sys.pumpStep_turns {s s' : Sys} {i : Nat} {sport : UInt16}
    (h : s.pumpStep i sport = some s') : (s.tasks i).Turns (s'.tasks i) := by
  refine Or.inl ?_
  have hset : ∀ t, ((s.setTask i t).tasks i).pump = t.pump :=
    fun t => congrArg Task.pump (s.tasks_setTask i t)
  cases hp : (s.tasks i).pump with
  | check =>
      simp only [Sys.pumpStep, hp, Option.some.injEq] at h
      rw [← h, hset]
      by_cases hflag : pauseFlag (s.acts i) = true
      · simp [hflag]
      · simp [hflag]
  | waiting =>
      simp only [Sys.pumpStep, hp] at h
      split at h
      · rw [← Option.some.inj h, hset]
        simp
      · cases h
  | reading =>
      simp only [Sys.pumpStep, hp] at h
      split at h
      · cases h
      · rw [← Option.some.inj h, hset]
        simp
  | sending msg =>
      simp only [Sys.pumpStep, hp] at h
      by_cases hret : s.returned
      · rw [if_pos hret] at h
        rw [← Option.some.inj h, hset]
        simp
      · rw [if_neg hret] at h
        split at h
        · rw [← Option.some.inj h]
          show ((s.setTask i _).tasks i).pump ≠ _
          rw [hset]
          cases msg <;> simp
        · cases h
  | done =>
      simp only [Sys.pumpStep, hp] at h
      cases h

theorem Sys.forwarderStep_turns {s s' : Sys} {i : Nat} {sport : UInt16}
    (h : s.forwarderStep i sport = some s') : (s.tasks i).Turns (s'.tasks i) := by
  refine Or.inr ?_
  have hset : ∀ t, ((s.setTask i t).tasks i).forwarder = t.forwarder :=
    fun t => congrArg Task.forwarder (s.tasks_setTask i t)
  cases hf : (s.tasks i).forwarder with
  | receiving =>
      simp only [Sys.forwarderStep, hf] at h
      split at h
      · rw [← Option.some.inj h, hset]
        simp
      · split at h
        · rw [← Option.some.inj h, hset]
          simp
        · cases h
  | writing n rest =>
      simp only [Sys.forwarderStep, hf, pollWrite] at h
      by_cases hnil : rest.isEmpty = true
      · rw [if_pos hnil] at h
        rw [← Option.some.inj h, hset]
        simp
      rw [if_neg hnil] at h
      by_cases hclient : (s.tasks i).clientDropped = true
      · rw [if_pos hclient] at h
        rw [← Option.some.inj h, hset]
        simp
      rw [if_neg hclient] at h
      by_cases hfull : duplexBuf ≤ (s.tasks i).toClient.length
      · rw [if_pos hfull] at h
        cases h
      · rw [if_neg hfull] at h
        rw [← Option.some.inj h, hset]
        -- some of the chunk fits, so less of it is left
        have hpos := List.length_pos_iff.mpr fun hc => hnil (List.isEmpty_iff.mpr hc)
        intro heq
        have hlen := congrArg List.length (Forwarder.writing.inj heq).2
        rw [List.length_drop] at hlen
        omega
  | reporting n =>
      simp only [Sys.forwarderStep, hf] at h
      by_cases hret : s.returned
      · rw [if_pos hret] at h
        rw [← Option.some.inj h, hset]
        simp
      · rw [if_neg hret] at h
        rw [← Option.some.inj h]
        show ((s.setTask i _).tasks i).forwarder ≠ _
        rw [hset]
        simp
  | done =>
      simp only [Sys.forwarderStep, hf] at h
      cases h

def Pump.rank : Pump → Nat
  | .done => 0
  | .sending none => 1
  | .waiting | .reading => 2
  | .check => 3
  | .sending (some _) => 4

def Forwarder.rank : Forwarder → Nat
  | .done => 0
  | .receiving => 1
  | .reporting _ => 2
  | .writing _ rest => 3 + rest.length

/-- How much the two tasks still have to do, if nobody gives them more. -/
def Task.rank (h : List Act) (t : Task) : Nat :=
  3 * t.toMux.length + (if t.notified < notifyCount h then 2 else 0) + t.pump.rank +
    (4 * ((chunks h).drop t.received).length + ((chunks h).drop t.received).flatten.length +
      t.forwarder.rank)

/-- Every step of the tasks themselves brings them closer to rest. -/
theorem TaskStep.rank_lt {h : List Act} {gone : Prop} {t t' : Task} {msgs : List (Option Bytes)}
    {ns : List UInt32} (ht : TaskStep h gone t t' msgs ns) (hturn : t.Turns t') :
    t'.rank h < t.rank h := by
  cases ht with
  | look hp =>
      by_cases hflag : pauseFlag h = true
      · simp only [Task.rank, hp, hflag, ↓reduceIte, Pump.rank]
        omega
      · simp only [Task.rank, hp, hflag, Bool.false_eq_true, ↓reduceIte, Pump.rank]
        omega
  | wake hp hn =>
      simp only [Task.rank, hp, hn, Nat.lt_irrefl, ↓reduceIte, Pump.rank]
      omega
  | read hp hne heq =>
      have hpos := List.length_pos_iff.mpr hne
      simp only [Task.rank, hp, heq, List.length_append, Pump.rank]
      omega
  | eof hp =>
      simp only [Task.rank, hp, Pump.rank]
      omega
  | @send msg hp =>
      cases msg with
      | none =>
          simp only [Task.rank, hp, Option.isNone_none, ↓reduceIte, Pump.rank]
          omega
      | some bytes =>
          simp only [Task.rank, hp, Option.isNone_some, Bool.false_eq_true, ↓reduceIte, Pump.rank]
          omega
  | @abandon msg hp =>
      cases msg with
      | none =>
          simp only [Task.rank, hp, Pump.rank]
          omega
      | some bytes =>
          simp only [Task.rank, hp, Pump.rank]
          omega
  | take hf hc =>
      obtain ⟨hlt, rfl⟩ := List.getElem?_eq_some_iff.mp hc
      simp only [Task.rank, hf, List.drop_eq_getElem_cons hlt, List.length_cons, List.flatten_cons,
        List.length_append, Forwarder.rank]
      omega
  | finish hf =>
      simp only [Task.rank, hf, Forwarder.rank]
      omega
  | written hf =>
      simp only [Task.rank, hf, Forwarder.rank]
      omega
  | fail hf =>
      simp only [Task.rank, hf, Forwarder.rank]
      omega
  | write k hf _ hk hne _ =>
      have hpos := List.length_pos_iff.mpr hne
      simp only [Task.rank, hf, Forwarder.rank, List.length_drop]
      omega
  | giveUp hf =>
      simp only [Task.rank, hf, Forwarder.rank]
      omega
  | report hf =>
      simp only [Task.rank, hf, Forwarder.rank]
      omega
  | clientWrite => exact hturn.elim rfl rfl
  | clientRead => exact hturn.elim rfl rfl
  | clientShutdown => exact hturn.elim rfl rfl
  | clientDrop => exact hturn.elim rfl rfl

/-! ### What hinders a task stays in its way -/

/-- What is known of the tasks of any connection while the loop runs. -/
structure Task.Kept (h : List Act) (t : Task) : Prop extends Waits h t where
  /-- A pump ends only when its client does. -/
  ended : t.pump = .done ∨ t.pump = .sending none → t.clientShut = true
  roomy : t.toClient.length ≤ duplexBuf

theorem Task.Kept.fresh (h : List Act) : Task.Kept h {} :=
  ⟨Waits.fresh h, by simp, Nat.zero_le _⟩

theorem Task.Kept.task {h : List Act} {t t' : Task} {msgs : List (Option Bytes)}
    {ns : List UInt32} (hk : t.Kept h) (ht : TaskStep h False t t' msgs ns) : t'.Kept h := by
  refine ⟨hk.toWaits.task ht, ?_, ?_⟩
  · cases ht with
    | look hp =>
        intro h
        simp only at h
        split at h <;> simp at h
    | wake => simp
    | read => simp
    | eof _ _ hshut => exact fun _ => hshut
    | @send msg hp =>
        cases msg with
        | none => exact fun _ => hk.ended (Or.inr hp)
        | some bytes => simp
    | abandon _ hgone => exact hgone.elim
    | giveUp _ hgone => exact hgone.elim
    | clientShutdown => exact fun _ => rfl
    | clientDrop => exact fun _ => rfl
    | _ => exact hk.ended
  · cases ht with
    | write k _ _ _ _ hroom =>
        simp only [List.length_append, List.length_take]
        omega
    | clientRead rest hle => exact Nat.le_trans hle hk.roomy
    | _ => exact hk.roomy

/-- Something keeps one of the tasks from its end. -/
inductive Task.Hindered (h : List Act) (t : Task) : Prop
  | idle (hshut : t.clientShut = false)
  | paused (hflag : pauseFlag h = true) (hlast : ¬ t.LookedLast)
  | full (hf : t.forwarder ≠ .done) (hclient : t.clientDropped = false)
      (hroom : duplexBuf < t.toClient.length + (t.undelivered h).length)

theorem Task.Unhindered.of_not {h : List Act} {t : Task} (hn : ¬ t.Hindered h) :
    t.Unhindered h := by
  refine ⟨?_, ?_, ?_⟩
  · by_contra hshut
    exact hn (.idle (Bool.eq_false_iff.mpr hshut))
  · by_contra hpause
    rw [not_or, Bool.not_eq_false] at hpause
    exact hn (.paused hpause.1 hpause.2)
  · by_contra hroom
    rw [not_or, not_or, Bool.not_eq_true, Nat.not_le] at hroom
    exact hn (.full hroom.1 hroom.2.1 hroom.2.2)

theorem Task.Hindered.not_done {h : List Act} {t : Task} (hh : t.Hindered h) (hk : t.Kept h) :
    ¬ (t.pump = .done ∧ t.forwarder = .done) := by
  rintro ⟨hp, hf⟩
  cases hh with
  | idle hshut =>
      rw [hk.ended (Or.inl hp)] at hshut
      cases hshut
  | paused _ hlast => exact hlast (Or.inl hp)
  | full hne => exact hne hf

/-- A pump held back by the flag neither ends nor comes to its last read. -/
theorem TaskStep.not_lookedLast {h : List Act} {t t' : Task} {msgs : List (Option Bytes)}
    {ns : List UInt32} (ht : TaskStep h False t t' msgs ns) (hturn : t.Turns t')
    (hflag : pauseFlag h = true) (hlast : ¬ t.LookedLast) : ¬ t'.LookedLast := by
  unfold Task.LookedLast at hlast
  rw [not_or, not_or, not_and] at hlast
  cases ht with
  | look hp => simp [Task.LookedLast, hflag]
  | wake hp => simp [Task.LookedLast]
  | read hp => simp [Task.LookedLast]
  | eof hp hnil => exact absurd hnil (hlast.2.2 hp)
  | @send msg hp =>
      cases msg with
      | none => exact absurd hp hlast.2.1
      | some bytes => simp [Task.LookedLast]
  | abandon _ hgone => exact hgone.elim
  | giveUp _ hgone => exact hgone.elim
  | clientWrite => exact hturn.elim rfl rfl
  | _ => simpa [Task.LookedLast] using hlast

/-- More than fits the pipe is to be delivered, to a client that is still there. -/
structure Task.Full (h : List Act) (t : Task) : Prop where
  busy : t.forwarder ≠ .done
  client : t.clientDropped = false
  room : duplexBuf < t.toClient.length + (t.undelivered h).length

/-- A forwarder with more to deliver than fits stays with it. -/
theorem Task.Full.task {h : List Act} {t t' : Task} {msgs : List (Option Bytes)}
    {ns : List UInt32} (hfull : t.Full h) (hk : t.Kept h) (ht : TaskStep h False t t' msgs ns)
    (hturn : t.Turns t') : t'.Full h := by
  obtain ⟨hf, hclient, hroom⟩ := hfull
  cases ht with
  | take hf' hc =>
      refine ⟨by simp, hclient, ?_⟩
      rw [Task.undelivered_take hf' hc]
      exact hroom
  | finish hf' hc =>
      -- there is nothing left to deliver, so it is all in the pipe
      rw [Task.undelivered, hf', List.drop_eq_nil_of_le (List.getElem?_eq_none_iff.mp hc)] at hroom
      have := hk.roomy
      simp only [Forwarder.rest, List.flatten_nil, List.append_nil, List.length_nil] at hroom
      omega
  | written hf' =>
      refine ⟨by simp, hclient, ?_⟩
      rw [Task.undelivered, hf'] at hroom
      exact hroom
  | fail _ hclient' =>
      rw [hclient] at hclient'
      cases hclient'
  | write k hf' =>
      refine ⟨by simp, hclient, ?_⟩
      rw [Task.undelivered, hf'] at hroom
      simp only [Task.undelivered, Forwarder.rest, List.length_append, List.length_take,
        List.length_drop] at hroom ⊢
      omega
  | giveUp _ hgone => exact hgone.elim
  | report hf' =>
      refine ⟨by simp, hclient, ?_⟩
      rw [Task.undelivered, hf'] at hroom
      exact hroom
  | clientWrite => exact hturn.elim rfl rfl
  | clientRead => exact hturn.elim rfl rfl
  | clientShutdown => exact hturn.elim rfl rfl
  | clientDrop => exact hturn.elim rfl rfl
  | _ => exact ⟨hf, hclient, hroom⟩

/-- **A task that is hindered stays so** until its client or the end of the loop helps it. -/
theorem Task.Hindered.task {h : List Act} {t t' : Task} {msgs : List (Option Bytes)}
    {ns : List UInt32} (hh : t.Hindered h) (hk : t.Kept h) (ht : TaskStep h False t t' msgs ns)
    (hturn : t.Turns t') : t'.Hindered h := by
  cases hh with
  | idle hshut =>
      refine .idle ?_
      cases ht with
      | clientShutdown => exact hturn.elim rfl rfl
      | clientDrop => exact hturn.elim rfl rfl
      | _ => exact hshut
  | paused hflag hlast => exact .paused hflag (ht.not_lookedLast hturn hflag hlast)
  | full hf hclient hroom =>
      obtain ⟨hf', hclient', hroom'⟩ := Task.Full.task ⟨hf, hclient, hroom⟩ hk ht hturn
      exact .full hf' hclient' hroom'

/-! ### Every connection's tasks, along a run -/

/-- The pause flag of a connection, which may be gone, and its pump. -/
structure Throttled (h : List Act) (o : Option Connection) (t : Task) : Prop extends Waits h t where
  flag : ∀ c, o = some c → pauseFlag h = c.txPause

theorem Waits.throttled {h : List Act} {t : Task} (hw : Waits h t) : Throttled h none t := by
  refine ⟨hw, ?_⟩
  intro c hc
  cases hc

theorem Gated.throttled {h : List Act} {t : Task} {c : Connection} (hg : Gated h t c) :
    Throttled h (some c) t := by
  refine ⟨hg.toWaits, ?_⟩
  intro d hd
  cases hd
  exact hg.flag

theorem Reacts.throttled {live : Prop} {i : Nat} {h acts : List Act} {c : Connection}
    {cev : ConnEvent} {r : Option Connection} {t : Task} (hr : Reacts c cev acts r)
    (hl : Life live i h (some c)) (ht : Throttled h (some c) t)
    (hfresh : spawnedAs h = none → t = {}) : Throttled (h ++ acts) r t := by
  by_cases hs : c.state = .connected
  · obtain ⟨first, d, moves, c₁, last, hi, hm, he, rfl⟩ := hr.parts hs
    have hg : Gated h t c := ⟨ht.toWaits, ht.flag c rfl⟩
    have hg := (hg.quiet hi.quiet.1 hi.quiet.2).moves hm
    rw [← List.append_assoc, ← List.append_assoc]
    cases he with
    | stays =>
        rw [List.append_nil]
        exact hg.throttled
    | goes => exact (hg.toWaits.quiet (unthrottled_of_local c₁.tearActs_local)).throttled
    | @resets a ha =>
        refine (hg.toWaits.quiet ?_).throttled
        intro b hb
        rcases List.mem_cons.mp hb with rfl | hb
        · rcases ha with ha | ⟨e, rfl⟩
          · exact Act.isThrottle_of_tcp? ha
          · rfl
        · exact unthrottled_of_local c₁.tearActs_local b hb
  · -- nothing has been spawned yet
    have hspawn : spawnedAs h = none := by
      by_contra hne
      exact hs ((hl.linked.listed c rfl).2.1.mpr hne)
    rw [hfresh hspawn]
    refine ⟨Waits.fresh _, fun c' hc' => ?_⟩
    subst hc'
    have ho := hr.opening (hl.connecting hs)
    have hsame : c'.txPause = c.txPause := by cases ho <;> rfl
    rw [(throttle_log ho.unthrottled h).1, hsame]
    exact ht.flag c rfl

/-- What is known of a connection holds after an event of the loop. -/
theorem Share.throttled {live : Prop} {m m' : Mux} {ev : Event} {i : Nat} {t : Task}
    (hs : Share m ev i m') (hm : m.Lives live) (hi : 0 < i)
    (ht : Throttled (actsOf i m.link.out) (m.entry i) t)
    (hfresh : spawnedAs (actsOf i m.link.out) = none → t = {}) :
    Throttled (actsOf i m'.link.out) (m'.entry i) t := by
  have hnil : i = m.ports.length + 1 → t = {} := by
    intro hnew
    exact hfresh (by rw [hm.ok.acts_nil (hnew ▸ Nat.lt_succ_self _)]; rfl)
  cases hs with
  | untouched hacts hentry _ =>
      rw [hacts, hentry]
      exact ht
  | @opened port a _ hnew ha hacts hentry =>
      have hlog : pauseFlag ([] ++ [a]) = pauseFlag [] := by
        refine (throttle_log (fun b hb => ?_) []).1
        rw [List.mem_singleton.mp hb]
        exact Act.isThrottle_of_tcp? ha
      rw [hnil hnew, hacts, hentry]
      have hgated : Gated [a] {} (Connection.new i (sportAt (i - 1)) port) :=
        ⟨Waits.fresh _, hlog⟩
      exact hgated.throttled
  | openFailed _ hnew _ _ hacts hentry =>
      rw [hnil hnew, hacts, hentry]
      exact (Waits.fresh _).throttled
  | reacts hc _ _ hr hlink hentry =>
      have hlife := hm.life i hi
      rw [hc] at ht hlife
      rw [hlink.acts_self, hentry]
      exact hr.throttled hlife ht hfresh
  | dropped _ hc _ hacts hentry =>
      rw [hacts, hentry]
      exact (ht.toWaits.quiet (unthrottled_of_local (Connection.dropActs_local _))).throttled

/-- What holds of all connections' tasks in every state that a run reaches. -/
structure Sys.Attended (live : Prop) (s : Sys) : Prop where
  lives : s.mux.Lives live
  nobody : spawnedAs (s.acts 0) = none
  unspawned : ∀ i, spawnedAs (s.acts i) = none → s.tasks i = {}
  throttled : ∀ i, 0 < i → Throttled (s.acts i) (s.mux.entry i) (s.tasks i)
  kept : s.mux.phase = .running → ∀ i, 0 < i → (s.tasks i).Kept (s.acts i)

/-- The loop does not come back once it has been left. -/
theorem Mux.Step.was_running {m m' : Mux} {ev : Event} (h : m.Step ev m')
    (hrun : m'.phase = .running) : m.phase = .running := by
  obtain ⟨hready, hm'⟩ := h.eq_handle
  cases ev with
  | closeNext =>
      simp only [Event.ready] at hready
      split at hready
      · rename_i hphase
        rw [show m' = closeNext m from hm', closeNext_phase hphase] at hrun
        cases hrun
      · cases hready
  | _ => exact of_decide_eq_true hready

theorem Sys.Attended.start {left : Option Nat} {reply : Bytes} {link : Link}
    (hs : handshake left reply = .ok link) : (Sys.start link).Attended (left = none) where
  lives := (handshake_sound hs).lives
  nobody := (handshake_sound hs).nobody
  unspawned := fun _ _ => rfl
  throttled := by
    intro i hi
    refine ⟨Waits.fresh _, fun c hc => ?_⟩
    cases hc
  kept := fun _ i _ => Task.Kept.fresh _

theorem Sys.Attended.loop {live : Prop} {s s' : Sys} {ev : Event} (hs : s.Attended live)
    (h : s.mux.Step ev s'.mux) (htasks : s'.tasks = s.tasks) : s'.Attended live := by
  have hthrottled : ∀ i, 0 < i → Throttled (s'.acts i) (s'.mux.entry i) (s'.tasks i) := by
    intro i hi
    rw [htasks]
    exact (hs.lives.ok.share h hi).throttled hs.lives hi (hs.throttled i hi) (hs.unspawned i)
  refine ⟨hs.lives.step h, (h.change hs.lives.ok.version).nobody hs.lives.ok hs.nobody, ?_,
    hthrottled, ?_⟩
  · intro i hi
    rw [htasks]
    refine hs.unspawned i ?_
    by_contra hne
    obtain ⟨p, hp⟩ := Option.ne_none_iff_exists'.mp hne
    rw [Sys.acts, h.spawned_mono hs.lives.ok hp] at hi
    cases hi
  · intro hrun i hi
    obtain ⟨-, hended, hroomy⟩ := hs.kept (h.was_running hrun) i hi
    rw [← htasks] at hended hroomy
    exact ⟨(hthrottled i hi).toWaits, hended, hroomy⟩

theorem Sys.Attended.task {live : Prop} {s : Sys} {j : Nat} {sport : UInt16} {t' : Task}
    {msgs : List (Option Bytes)} {ns : List UInt32} (hs : s.Attended live)
    (hspawn : spawnedAs (s.acts j) = some sport)
    (ht : TaskStep (s.acts j) s.returned (s.tasks j) t' msgs ns) :
    (s.afterTask j sport t' msgs ns).Attended live := by
  refine ⟨hs.lives, hs.nobody, fun i hi => ?_, fun i hi => ?_, fun hrun i hi => ?_⟩
  · have hne : i ≠ j := by
      rintro rfl
      rw [show (s.afterTask i sport t' msgs ns).acts i = s.acts i from rfl, hspawn] at hi
      cases hi
    rw [Sys.afterTask_ne hne]
    exact hs.unspawned i hi
  · obtain ⟨hwaits, hflag⟩ := hs.throttled i hi
    by_cases hij : i = j
    · subst hij
      rw [Sys.afterTask_self]
      exact ⟨hwaits.task ht, hflag⟩
    · rw [Sys.afterTask_ne hij]
      exact ⟨hwaits, hflag⟩
  · have hkept := hs.kept hrun i hi
    by_cases hij : i = j
    · subst hij
      rw [Sys.afterTask_self]
      refine hkept.task (ht.mono fun hret => ?_)
      rw [Sys.returned, show s.mux.phase = .running from hrun] at hret
      cases hret
    · rw [Sys.afterTask_ne hij]
      exact hkept

theorem Sys.Attended.step {live : Prop} {s s' : Sys} {a : Action} (hs : s.Attended live)
    (h : s.Step a s') : s'.Attended live := by
  rcases h.moved with ⟨-, hstep, heq⟩ | ⟨-, -, hspawn, t', msgs, ns, ht, rfl⟩
  · refine hs.loop hstep ?_
    rw [heq]
    exact consume_tasks s a
  · exact hs.task hspawn ht

theorem Sys.Attended.run {live : Prop} {s s' : Sys} {tr : List (Sys × Action × Sys)}
    (hs : s.Attended live) (h : Run Sys.Step s tr s') : s'.Attended live :=
  h.invariant hs (fun _ _ _ hs hstep => hs.step hstep)

/-! ### After the entry has gone -/

theorem Sys.Removed.entry {live : Prop} {s : Sys} {i : Nat} (hr : s.Removed i)
    (hs : s.Attended live) : 0 < i ∧ s.mux.entry i = none := by
  refine ⟨?_, ?_⟩
  · rcases Nat.eq_zero_or_pos i with rfl | hpos
    · exact absurd hs.nobody hr.1
    · exact hpos
  · cases hc : s.mux.entry i with
    | none => rfl
    | some c =>
        obtain ⟨hlisted, hid⟩ := hs.lives.ok.of_entry hc
        exact absurd hid (hr.2 _ c hlisted)

theorem Sys.Removed.of_entry {live : Prop} {s : Sys} {i : Nat} (hs : s.Attended live)
    (hspawn : spawnedAs (s.acts i) ≠ none) (hgone : s.mux.entry i = none) : s.Removed i := by
  refine ⟨hspawn, fun p c hc hid => ?_⟩
  rw [← hid, hs.lives.ok.entry_of hc] at hgone
  cases hgone

theorem Sys.Removed.queue_closed {live : Prop} {s : Sys} {i : Nat} (hr : s.Removed i)
    (hs : s.Attended live) : rxTxDropped (s.acts i) = true := by
  obtain ⟨hpos, hgone⟩ := hr.entry hs
  have hdrop := (hs.lives.life i hpos).linked.gone hgone
  rw [show actsOf i s.mux.link.out = s.acts i from rfl] at hdrop
  rw [hdrop, Option.isSome_iff_ne_none]
  exact hr.1

/-- Whose step it was shows in what has moved. -/
theorem Sys.Step.turns {s s' : Sys} {a : Action} {i : Nat} (h : s.Step a s')
    (hi : a.mover = some i) (hclient : a.client ≠ some i) :
    (s.tasks i).Turns (s'.tasks i) := by
  have hnext := h.1
  cases a with
  | pump j =>
      cases hi
      obtain ⟨sport, -, hstep⟩ := Option.bind_eq_some_iff.mp hnext
      exact Sys.pumpStep_turns hstep
  | forwarder j =>
      cases hi
      obtain ⟨sport, -, hstep⟩ := Option.bind_eq_some_iff.mp hnext
      exact Sys.forwarderStep_turns hstep
  | clientWrite j data => exact absurd hi hclient
  | clientRead j max => exact absurd hi hclient
  | clientShutdown j => exact absurd hi hclient
  | clientDrop j => exact absurd hi hclient
  | _ => cases hi

/-- **The loop does nothing more for a removed connection**; only its tasks and its client
still move. -/
theorem Sys.Removed.step {live : Prop} {s s' : Sys} {a : Action} {i : Nat} (hr : s.Removed i)
    (hs : s.Attended live) (h : s.Step a s') :
    s'.Removed i ∧ s'.acts i = s.acts i ∧ (s'.tasks i = s.tasks i ∨
      ∃ msgs ns, TaskStep (s.acts i) s.returned (s.tasks i) (s'.tasks i) msgs ns ∧
        (a.client ≠ some i → (s.tasks i).Turns (s'.tasks i))) := by
  obtain ⟨hpos, hgone⟩ := hr.entry hs
  have hs' := hs.step h
  have hlater : s'.acts i = s.acts i → s'.mux.entry i = none → s'.Removed i := by
    intro hacts hentry
    exact Sys.Removed.of_entry hs' (hacts ▸ hr.1) hentry
  rcases h.moved with ⟨-, hstep, heq⟩ | ⟨-, hmover, hspawn, hmoves⟩
  · have hsame : s'.acts i = s.acts i ∧ s'.mux.entry i = none := by
      rcases hs.lives.ok.share hstep hpos with ⟨hacts, hentry, -⟩ | ⟨-, hnew, -, -, -⟩ |
        ⟨-, hnew, -, -, -, -⟩ | ⟨hc, -, -, -, -, -⟩ | ⟨-, hc, -, -, -⟩
      · exact ⟨hacts, hentry.trans hgone⟩
      · refine absurd ?_ hr.1
        rw [Sys.acts, hs.lives.ok.acts_nil (hnew ▸ Nat.lt_succ_self _)]
        rfl
      · refine absurd ?_ hr.1
        rw [Sys.acts, hs.lives.ok.acts_nil (hnew ▸ Nat.lt_succ_self _)]
        rfl
      · rw [hgone] at hc
        cases hc
      · rw [hgone] at hc
        cases hc
    refine ⟨hlater hsame.1 hsame.2, hsame.1, Or.inl ?_⟩
    rw [heq]
    exact congrFun (consume_tasks s a) i
  · have hturns := fun hi hclient => h.turns (i := i) hi hclient
    obtain ⟨t', msgs, ns, ht, rfl⟩ := hmoves
    refine ⟨hlater rfl hgone, rfl, ?_⟩
    rename_i j sport
    by_cases hij : i = j
    · subst hij
      refine Or.inr ⟨msgs, ns, ?_, hturns hmover⟩
      rw [Sys.afterTask_self]
      exact ht
    · exact Or.inl (Sys.afterTask_ne hij ..)

theorem Sys.Removed.run {live : Prop} {s s' : Sys} {tr : List (Sys × Action × Sys)} {i : Nat}
    (hr : s.Removed i) (hs : s.Attended live) (h : Run Sys.Step s tr s') :
    s'.Removed i ∧ s'.acts i = s.acts i := by
  have hall := h.invariant (P := fun u => u.Attended live ∧ u.Removed i ∧ u.acts i = s.acts i)
    ⟨hs, hr, rfl⟩ (by
      rintro u a u' ⟨hs, hr, hacts⟩ hstep
      obtain ⟨hr', hacts', -⟩ := hr.step hs hstep
      exact ⟨hs.step hstep, hr', hacts'.trans hacts⟩)
  exact hall.2

/-! ### Coming to rest -/

/-- Nothing that a resting task could do is left. -/
theorem Task.Resting.stays {h : List Act} {gone : Prop} {t t' : Task}
    {msgs : List (Option Bytes)} {ns : List UInt32} (hr : t.Resting h)
    (ht : TaskStep h gone t t' msgs ns) : ¬ t.Turns t' := by
  intro hturn
  obtain ⟨hpump, hforwarder⟩ := hr
  cases ht with
  | look hp => simp [hp] at hpump
  | wake hp hn =>
      simp only [hp, reduceCtorEq, true_and, false_and, or_false, false_or] at hpump
      omega
  | read hp hne heq =>
      simp only [hp, reduceCtorEq, true_and, false_and, false_or] at hpump
      rw [heq] at hpump
      exact hne (List.append_eq_nil_iff.mp hpump.1).1
  | eof hp hnil hshut => simp [hp, hshut] at hpump
  | send hp => simp [hp] at hpump
  | abandon hp => simp [hp] at hpump
  | take hf => simp [hf, Forwarder.rest] at hforwarder
  | finish hf => simp [hf, Forwarder.rest] at hforwarder
  | written hf => simp [hf, Forwarder.rest] at hforwarder
  | fail hf hclient => simp [hf, hclient] at hforwarder
  | write k hf _ hk _ hroom =>
      simp only [hf, reduceCtorEq, false_or] at hforwarder
      omega
  | giveUp hf => simp [hf, Forwarder.rest] at hforwarder
  | report hf => simp [hf, Forwarder.rest] at hforwarder
  | clientWrite => exact hturn.elim rfl rfl
  | clientRead => exact hturn.elim rfl rfl
  | clientShutdown => exact hturn.elim rfl rfl
  | clientDrop => exact hturn.elim rfl rfl

/-- A pump that cannot move rests, or has a message that finds no room. -/
theorem Sys.pump_stuck {s : Sys} {i : Nat} (hspawn : spawnedAs (s.acts i) ≠ none)
    (h : s.next (.pump i) = none) :
    ((s.tasks i).pump = .done ∨
      ((s.tasks i).pump = .waiting ∧ notifyCount (s.acts i) ≤ (s.tasks i).notified) ∨
        ((s.tasks i).pump = .reading ∧ (s.tasks i).toMux = [] ∧ (s.tasks i).clientShut = false)) ∨
      ∃ msg, (s.tasks i).pump = .sending msg ∧ ¬ s.returned ∧ txDataCap ≤ s.txData.length := by
  obtain ⟨sport, hsport⟩ := Option.ne_none_iff_exists'.mp hspawn
  rw [Sys.next_pump hsport] at h
  unfold Sys.pumpStep at h
  cases hp : (s.tasks i).pump with
  | check => simp [hp] at h
  | waiting =>
      simp only [hp, ite_eq_right_iff, reduceCtorEq, imp_false, Nat.not_lt] at h
      exact Or.inl (Or.inr (Or.inl ⟨rfl, h⟩))
  | reading =>
      simp only [hp, pollRead] at h
      refine Or.inl (Or.inr (Or.inr ⟨rfl, ?_⟩))
      by_cases hnil : (s.tasks i).toMux.isEmpty = true
      · refine ⟨List.isEmpty_iff.mp hnil, ?_⟩
        by_contra hshut
        rw [Bool.not_eq_false] at hshut
        simp [hnil, hshut] at h
      · simp [hnil] at h
  | sending msg =>
      simp only [hp] at h
      by_cases hret : s.returned
      · simp [hret] at h
      · simp only [hret, ↓reduceIte, ite_eq_right_iff, reduceCtorEq, imp_false, Nat.not_lt] at h
        exact Or.inr ⟨msg, rfl, hret, h⟩
  | done => exact Or.inl (Or.inl rfl)

theorem Sys.forwarder_stuck {s : Sys} {i : Nat} (hspawn : spawnedAs (s.acts i) ≠ none)
    (hdrop : rxTxDropped (s.acts i) = true) (h : s.next (.forwarder i) = none) :
    (s.tasks i).forwarder = .done ∨ ((s.tasks i).forwarder.rest ≠ [] ∧
      (s.tasks i).clientDropped = false ∧ duplexBuf ≤ (s.tasks i).toClient.length) := by
  obtain ⟨sport, hsport⟩ := Option.ne_none_iff_exists'.mp hspawn
  rw [Sys.next_forwarder hsport] at h
  unfold Sys.forwarderStep at h
  cases hf : (s.tasks i).forwarder with
  | receiving =>
      simp only [hf, hdrop, ↓reduceIte] at h
      split at h <;> cases h
  | writing n rest =>
      simp only [hf, pollWrite] at h
      by_cases hnil : rest.isEmpty = true
      · simp [hnil] at h
      by_cases hclient : (s.tasks i).clientDropped = true
      · simp [hnil, hclient] at h
      by_cases hfull : duplexBuf ≤ (s.tasks i).toClient.length
      · exact Or.inr
          ⟨fun hc => hnil (List.isEmpty_iff.mpr hc), Bool.eq_false_iff.mpr hclient, hfull⟩
      · simp [hnil, hclient, hfull] at h
  | reporting n =>
      simp only [hf] at h
      split at h <;> cases h
  | done => exact Or.inl rfl

/-- The loop makes room on `tx_data` while it runs. -/
theorem Sys.makes_room {live : Prop} (n : Nat) : ∀ {s : Sys}, s.Attended live →
    s.mux.phase = .running → s.txData.length = n →
    ∃ tr s', Run Sys.Step s tr s' ∧
      EveryStep (fun u a _ => a = .takeData ∧ u.mux.phase = .running) tr ∧
      s'.mux.phase = .running ∧ s'.txData.length < txDataCap ∧ s'.tasks = s.tasks := by
  induction n with
  | zero =>
      intro s _ hrun hn
      exact ⟨[], s, Run.nil, everyStep_nil _, hrun, by rw [hn]; decide, rfl⟩
  | succ n ih =>
      intro s hs hrun hn
      cases hq : s.txData with
      | nil =>
          rw [hq] at hn
          cases hn
      | cons msg rest =>
          have hmux : s.mux.next (.rxData msg.sport msg.body) =
              some (s.mux.handle (.rxData msg.sport msg.body)) :=
            if_pos (decide_eq_true hrun)
          have hstep := (Sys.Takes.message hq).step ⟨hmux, trivial⟩
          have hrun' := Mux.Step.running hs.lives.ok ⟨hmux, trivial⟩ hrun (by simp)
          obtain ⟨tr, s', h, hevery, hrest⟩ := ih (hs.step hstep) hrun' (by
            show s.txData.tail.length = n
            rw [List.length_tail, hn, Nat.add_sub_cancel])
          exact ⟨_, s', (Run.single hstep).trans h,
            (everyStep_single ⟨rfl, hrun⟩).append hevery, hrest⟩

/-- The loop comes to its end once it has been left. -/
theorem Sys.comes_to_end (rest : List UInt16) : ∀ {s : Sys}, s.mux.phase = .closing rest →
    ∃ tr s', Run Sys.Step s tr s' ∧ EveryStep (fun _ a _ => a = .closeNext) tr ∧ s'.returned ∧
      s'.tasks = s.tasks := by
  induction rest with
  | nil => exact fun {s} hphase => ⟨[], s, Run.nil, everyStep_nil _, hphase, rfl⟩
  | cons p rest ih =>
      intro s hphase
      have hmux : s.mux.next .closeNext = some (closeNext s.mux) :=
        if_pos (by simp [Event.ready, hphase])
      have hstep : s.Step .closeNext { s with mux := closeNext s.mux } :=
        Sys.Takes.closeNext.step ⟨hmux, trivial⟩
      obtain ⟨tr, s', h, hevery, hret, htasks⟩ :=
        ih (s := { s with mux := closeNext s.mux }) (closeNext_phase hphase)
      exact ⟨_, s', (Run.single hstep).trans h,
        (everyStep_single rfl).append hevery, hret, htasks⟩

/-- While the loop runs, and without the client. -/
def Sys.RunsUnaided (i : Nat) (s : Sys) (a : Action) (_ : Sys) : Prop :=
  a.client ≠ some i ∧ s.mux.phase = .running

/-- A removed connection whose tasks rest, or cannot but rest without their client. -/
theorem Sys.Quiet.resting {live : Prop} {s : Sys} {i : Nat} (hq : s.Quiet i) (hr : s.Removed i)
    (hs : s.Attended live) : (s.tasks i).Resting (s.acts i) := by
  obtain ⟨hpump, hforwarder⟩ := hq [] s Run.nil (everyStep_nil _)
  refine ⟨?_, Sys.forwarder_stuck hr.1 (hr.queue_closed hs) hforwarder⟩
  rcases Sys.pump_stuck hr.1 hpump with hrest | ⟨msg, hsend, -, -⟩
  · exact hrest
  · -- the loop will make room, or will have gone
    obtain ⟨tr, s', hrun, hunaided, htasks, hroom⟩ : ∃ tr s', Run Sys.Step s tr s' ∧
        EveryStep (Sys.Unaided i) tr ∧ s'.tasks = s.tasks ∧
          (s'.returned ∨ s'.txData.length < txDataCap) := by
      cases hphase : s.mux.phase with
      | running =>
          obtain ⟨tr, s', hrun, hevery, -, hroom, htasks⟩ := Sys.makes_room _ hs hphase rfl
          refine ⟨tr, s', hrun, hevery.imp ?_, htasks, Or.inr hroom⟩
          rintro u a u' ⟨rfl, -⟩ h
          cases h
      | closing rest =>
          obtain ⟨tr, s', hrun, hevery, hret, htasks⟩ := Sys.comes_to_end rest hphase
          refine ⟨tr, s', hrun, hevery.imp ?_, htasks, Or.inl hret⟩
          rintro u a u' rfl h
          cases h
    rcases Sys.pump_stuck (hr.run hs hrun).1.1 (hq tr s' hrun hunaided).1 with
      hrest | ⟨_, -, hret, hfull⟩
    · rw [htasks, hsend] at hrest
      simp at hrest
    · rcases hroom with hret' | hroom
      · exact absurd hret' hret
      · exact absurd hroom (Nat.not_lt.mpr hfull)

/-- Tasks that rest stay at rest until their client acts. -/
theorem Task.Resting.quiet {live : Prop} {s : Sys} {i : Nat}
    (h : (s.tasks i).Resting (s.acts i)) (hr : s.Removed i) (hs : s.Attended live) : s.Quiet i := by
  intro tr s' hrun hunaided
  have hkeep : ∀ {u u' : Sys} {a : Action}, u.Attended live → u.Removed i →
      (u.tasks i).Resting (u.acts i) → u.Step a u' → a.client ≠ some i →
      u'.tasks i = u.tasks i := by
    intro u u' a hs hr hrest hstep hclient
    rcases (hr.step hs hstep).2.2 with hsame | ⟨msgs, ns, ht, hturn⟩
    · exact hsame
    · exact absurd (hturn hclient) (hrest.stays ht)
  obtain ⟨hs', hr', hrest'⟩ := hrun.invariant_of (C := Sys.Unaided i)
    (P := fun u => u.Attended live ∧ u.Removed i ∧ (u.tasks i).Resting (u.acts i)) ⟨hs, hr, h⟩
    (by
      rintro u a u' ⟨hs, hr, hrest⟩ hstep hclient
      obtain ⟨hr', hacts, -⟩ := hr.step hs hstep
      refine ⟨hs.step hstep, hr', ?_⟩
      rw [hacts, hkeep hs hr hrest hstep hclient]
      exact hrest) hunaided
  have hnone : ∀ {a : Action}, (∀ u : Sys, u.event a = none) → a.mover = some i →
      a.client ≠ some i → s'.next a = none := by
    intro a hev hmover hclient
    cases hnext : s'.next a with
    | none => rfl
    | some u =>
        have hstep : s'.Step a u := ⟨hnext, fun ev h => by rw [hev] at h; cases h⟩
        have hturn := hstep.turns hmover hclient
        rw [hkeep hs' hr' hrest' hstep hclient] at hturn
        rcases hturn with hne | hne <;> exact absurd rfl hne
  exact ⟨hnone (fun _ => rfl) rfl (by simp [Action.client]),
    hnone (fun _ => rfl) rfl (by simp [Action.client])⟩

/-- A step that the tasks themselves can take. -/
theorem Sys.Removed.own_step {live : Prop} {s u : Sys} {a : Action} {i : Nat} (hr : s.Removed i)
    (hs : s.Attended live) (hev : s.event a = none) (hmover : a.mover = some i)
    (hclient : a.client ≠ some i) (hnext : s.next a = some u) :
    s.Step a u ∧ u.mux = s.mux ∧ (u.tasks i).rank (u.acts i) < (s.tasks i).rank (s.acts i) := by
  have hstep : s.Step a u := ⟨hnext, fun ev h => by rw [hev] at h; cases h⟩
  have hturn := hstep.turns hmover hclient
  refine ⟨hstep, ?_, ?_⟩
  · rcases hstep.moved with ⟨hev', -, -⟩ | ⟨-, -, -, t', msgs, ns, -, rfl⟩
    · rw [hev] at hev'
      cases hev'
    · rfl
  · obtain ⟨-, hacts, hsame | ⟨msgs, ns, ht, -⟩⟩ := hr.step hs hstep
    · rw [hsame] at hturn
      rcases hturn with hne | hne <;> exact absurd rfl hne
    · rw [hacts]
      exact ht.rank_lt hturn

/-- **Left to themselves the tasks come to rest**, by induction on what they still have to do. -/
theorem Sys.comes_to_rest {live : Prop} {i : Nat} (n : Nat) : ∀ {s : Sys}, s.Attended live →
    s.Removed i → s.mux.phase = .running → (s.tasks i).rank (s.acts i) = n →
    ∃ tr s', Run Sys.Step s tr s' ∧ EveryStep (Sys.RunsUnaided i) tr ∧
      s'.mux.phase = .running ∧ (s'.tasks i).Resting (s'.acts i) := by
  induction n using Nat.strongRecOn with
  | ind n ih =>
    intro s hs hr hrun hn
    have hown : ∀ {u v : Sys} {tr : List (Sys × Action × Sys)} {a : Action}, Run Sys.Step s tr u →
        EveryStep (Sys.RunsUnaided i) tr → u.mux.phase = .running → u.tasks = s.tasks →
        u.event a = none → a.mover = some i → a.client ≠ some i → u.next a = some v →
        ∃ tr s', Run Sys.Step s tr s' ∧ EveryStep (Sys.RunsUnaided i) tr ∧
          s'.mux.phase = .running ∧ (s'.tasks i).Resting (s'.acts i) := by
      intro u v tr a hrun' hevery hphase htasks hev hmover hclient hnext
      have hs' := hs.run hrun'
      obtain ⟨hr', hacts⟩ := hr.run hs hrun'
      obtain ⟨hstep, hmux, hlt⟩ := hr'.own_step hs' hev hmover hclient hnext
      rw [htasks, hacts, hn] at hlt
      obtain ⟨tr', s', hrest, hevery', hresting⟩ := ih _ hlt (hs'.step hstep)
        (hr'.step hs' hstep).1 (hmux ▸ hphase) rfl
      exact ⟨_, s', (hrun'.snoc hstep).trans hrest,
        (everyStep_snoc.mpr ⟨hevery, hclient, hphase⟩).append hevery', hresting⟩
    cases hpump : s.next (.pump i) with
    | some v =>
        exact hown Run.nil (everyStep_nil _) hrun rfl rfl rfl (by simp [Action.client]) hpump
    | none =>
        cases hforwarder : s.next (.forwarder i) with
        | some v =>
            exact hown Run.nil (everyStep_nil _) hrun rfl rfl rfl (by simp [Action.client])
              hforwarder
        | none =>
            rcases Sys.pump_stuck hr.1 hpump with hrest | ⟨msg, hsend, -, -⟩
            · exact ⟨[], s, Run.nil, everyStep_nil _, hrun, hrest,
                Sys.forwarder_stuck hr.1 (hr.queue_closed hs) hforwarder⟩
            · obtain ⟨tr, u, hrun', hevery, hphase, hroom, htasks⟩ := Sys.makes_room _ hs hrun rfl
              have hevery : EveryStep (Sys.RunsUnaided i) tr := by
                refine hevery.imp ?_
                rintro v a v' ⟨rfl, hphase⟩
                exact ⟨by simp [Action.client], hphase⟩
              cases hnext : u.next (.pump i) with
              | some v =>
                  exact hown hrun' hevery hphase htasks rfl rfl (by simp [Action.client]) hnext
              | none =>
                  rcases Sys.pump_stuck (hr.run hs hrun').1.1 hnext with hrest | ⟨_, -, -, hfull⟩
                  · rw [htasks, hsend] at hrest
                    simp at hrest
                  · exact absurd hroom (Nat.not_lt.mpr hfull)

/-- Nothing comes in the way of a removed connection later. -/
theorem Sys.Removed.unhindered_run {live : Prop} {s s' : Sys} {tr : List (Sys × Action × Sys)}
    {i : Nat} (hr : s.Removed i) (hs : s.Attended live) (hu : (s.tasks i).Unhindered (s.acts i))
    (h : Run Sys.Step s tr s') : (s'.tasks i).Unhindered (s'.acts i) := by
  have hall := h.invariant
    (P := fun u => u.Attended live ∧ u.Removed i ∧ (u.tasks i).Unhindered (u.acts i)) ⟨hs, hr, hu⟩
    (by
      rintro u a u' ⟨hs, hr, hu⟩ hstep
      obtain ⟨hr', hacts, htask⟩ := hr.step hs hstep
      refine ⟨hs.step hstep, hr', ?_⟩
      rw [hacts]
      rcases htask with hsame | ⟨msgs, ns, ht, -⟩
      · rw [hsame]
        exact hu
      · exact hu.task ht)
  exact hall.2.2

/-- Nothing gets out of the way either, without the client and while the loop runs. -/
theorem Sys.Removed.hindered_run {live : Prop} {s s' : Sys} {tr : List (Sys × Action × Sys)}
    {i : Nat} (hr : s.Removed i) (hs : s.Attended live) (hh : (s.tasks i).Hindered (s.acts i))
    (h : Run Sys.Step s tr s') (hunaided : EveryStep (Sys.RunsUnaided i) tr) :
    (s'.tasks i).Hindered (s'.acts i) := by
  have hall := h.invariant_of (C := Sys.RunsUnaided i)
    (P := fun u => u.Attended live ∧ u.Removed i ∧ (u.tasks i).Hindered (u.acts i)) ⟨hs, hr, hh⟩
    (by
      rintro u a u' ⟨hs, hr, hh⟩ hstep ⟨hclient, hrun⟩
      obtain ⟨hr', hacts, htask⟩ := hr.step hs hstep
      refine ⟨hs.step hstep, hr', ?_⟩
      rw [hacts]
      rcases htask with hsame | ⟨msgs, ns, ht, hturn⟩
      · rw [hsame]
        exact hh
      · refine hh.task (hs.kept hrun i (hr.entry hs).1) (ht.mono fun hret => ?_) (hturn hclient)
        rw [Sys.returned, hrun] at hret
        cases hret) hunaided
  exact hall.2.2

/-- **When a teardown reaches the client.**  Once the loop has removed an accepted
connection, its client is sure to see the end of its stream, wherever its tasks can take
no further step without it, exactly if: it has closed its own side; the pause flag is
clear, or the pump is past its last look at it; and what is still to be delivered fits the
pipe, unless the forwarder has ended or will fail. -/
theorem teardown_reaches_client_iff {left : Option Nat} {reply : Bytes} {link : Link}
    {tr : List (Sys × Action × Sys)} {s : Sys} {i : Nat} (hs : handshake left reply = .ok link)
    (h : Run Sys.Step (Sys.start link) tr s) (hremoved : s.Removed i)
    (hrun : s.mux.phase = .running) :
    (∀ tr' s', Run Sys.Step s tr' s' → s'.Quiet i → (s'.tasks i).Released) ↔
      (s.tasks i).Unhindered (s.acts i) := by
  have hattended := (Sys.Attended.start hs).run h
  constructor
  · intro hreleased
    refine Task.Unhindered.of_not fun hh => ?_
    obtain ⟨tr', s', hrun', hunaided, hphase, hrest⟩ :=
      Sys.comes_to_rest _ hattended hremoved hrun rfl
    have hattended' := hattended.run hrun'
    obtain ⟨hremoved', -⟩ := hremoved.run hattended hrun'
    have hdone := (hreleased tr' s' hrun' (hrest.quiet hremoved' hattended')).dropped
    exact (hremoved.hindered_run hattended hh hrun' hunaided).not_done
      (hattended'.kept hphase i (hremoved'.entry hattended').1) hdone
  · intro hu tr' s' hrun' hquiet
    have hattended' := hattended.run hrun'
    obtain ⟨hremoved', -⟩ := hremoved.run hattended hrun'
    exact (hremoved.unhindered_run hattended hu hrun').released
      (hattended'.throttled i (hremoved'.entry hattended').1).toWaits
      (hquiet.resting hremoved' hattended')

/-! ### Two resets -/

/-- The device resets the first connection. -/
def resetPacket : Bytes :=
  packetOf {} ⟨62078, 1, 1, 1, TcpFlags.rst, 0⟩ []

/-- The device accepts the first connection and resets it; its tasks go on as far as they can. -/
def resetIdle : List Action :=
  [.connect 62078, .packet (packetOf {} ⟨62078, 1, 0, 1, synAck, 512⟩ []), .packet resetPacket,
    .forwarder 1, .pump 1]

def afterResetIdle : Sys :=
  (exec Sys.next (Sys.start freshLink) resetIdle).getD (Sys.start freshLink)

/-- **A reset leaves an idle client waiting**: its pump stays in a read, and holds the
mux's end of the pipe open. -/
theorem reset_leaves_client_waiting : ∃ tr s, Run Sys.Step (Sys.start freshLink) tr s ∧
    tr.map (fun t => t.2.1) = resetIdle ∧ s.Removed 1 ∧ s.Quiet 1 ∧ ¬ (s.tasks 1).Released := by
  obtain ⟨tr, hrun, hmap⟩ : ∃ tr, Run Sys.Step (Sys.start freshLink) tr afterResetIdle ∧
      tr.map (fun t => t.2.1) = resetIdle := Sys.run_of_exec (by simp [resetIdle]) rfl
  have hattended := (Sys.Attended.start handshake_versionReply).run hrun
  have hremoved : afterResetIdle.Removed 1 :=
    Sys.Removed.of_entry hattended (fun hn => by cases hn) rfl
  have hpump : (afterResetIdle.tasks 1).pump = .reading := rfl
  have hrest : (afterResetIdle.tasks 1).Resting (afterResetIdle.acts 1) :=
    ⟨Or.inr (Or.inr ⟨hpump, rfl, rfl⟩), Or.inl rfl⟩
  refine ⟨tr, afterResetIdle, hrun, hmap, hremoved, hrest.quiet hremoved hattended, fun hr => ?_⟩
  have hdone := hr.dropped.1
  rw [hpump] at hdone
  cases hdone

/-- The client shuts its side down before the reset. -/
def resetShut : List Action :=
  [.connect 62078, .packet (packetOf {} ⟨62078, 1, 0, 1, synAck, 512⟩ []), .clientShutdown 1,
    .packet resetPacket]

def afterResetShut : Sys :=
  (exec Sys.next (Sys.start freshLink) resetShut).getD (Sys.start freshLink)

/-- This reset reaches the client. -/
theorem resetShut_reaches_client : ∃ tr, Run Sys.Step (Sys.start freshLink) tr afterResetShut ∧
    afterResetShut.Removed 1 ∧
    ∀ tr' s', Run Sys.Step afterResetShut tr' s' → s'.Quiet 1 → (s'.tasks 1).Released := by
  obtain ⟨tr, hrun, -⟩ : ∃ tr, Run Sys.Step (Sys.start freshLink) tr afterResetShut ∧
      tr.map (fun t => t.2.1) = resetShut := Sys.run_of_exec (by simp [resetShut]) rfl
  have hremoved : afterResetShut.Removed 1 :=
    Sys.Removed.of_entry ((Sys.Attended.start handshake_versionReply).run hrun)
      (fun hn => by cases hn) rfl
  refine ⟨tr, hrun, hremoved, ?_⟩
  refine (teardown_reaches_client_iff handshake_versionReply hrun hremoved rfl).mpr ?_
  exact ⟨rfl, Or.inl rfl, Or.inr (Or.inr (Nat.zero_le _))⟩

end Netmuxd
