/-
What the tasks and the client of one connection can do.

`TaskStep` is the inversion of the steps of `Sys` that are not the loop's.  Such a
step changes the two tasks of one connection and puts at most one message on one of
the two channels; what it sees of the loop is the connection's log and whether its
entry is gone.
-/
import Netmuxd.Proofs.Life

namespace Netmuxd

open Lib

/-! ### Reading the log -/

@[simp] theorem spawnedAs_append (h h' : List Act) :
    spawnedAs (h ++ h') = (spawnedAs h).or (spawnedAs h') := by
  simp [spawnedAs, List.findSome?_append]

@[simp] theorem chunks_append (h h' : List Act) : chunks (h ++ h') = chunks h ++ chunks h' := by
  simp [chunks]

@[simp] theorem rxTxDropped_append (h h' : List Act) :
    rxTxDropped (h ++ h') = (rxTxDropped h || rxTxDropped h') := by
  simp [rxTxDropped]

@[simp] theorem notifyCount_append (h h' : List Act) :
    notifyCount (h ++ h') = notifyCount h + notifyCount h' := by
  simp [notifyCount]

theorem pauseFlag_append (h h' : List Act) :
    pauseFlag (h ++ h') = ((h'.filterMap Act.pause?).getLast?).getD (pauseFlag h) := by
  rw [pauseFlag, pauseFlag, List.filterMap_append, List.getLast?_append]
  cases (h'.filterMap Act.pause?).getLast? <;> rfl

theorem spawnedAs_eq_none {h : List Act} : spawnedAs h = none ↔ ∀ a ∈ h, a.spawn? = none := by
  rw [spawnedAs, List.findSome?_eq_none_iff]

/-- Acts that only send and throttle leave nothing for the tasks to find. -/
theorem sending_log {as : List Act} (h : ∀ a ∈ as, a.isSending = true) :
    spawnedAs as = none ∧ chunks as = [] ∧ rxTxDropped as = false := by
  have hact : ∀ {a : Act}, a.isSending = true →
      a.spawn? = none ∧ a.chunk? = none ∧ a.isDropRxTx = false := by
    intro a ha
    cases a <;> first | exact ⟨rfl, rfl, rfl⟩ | cases ha
  refine ⟨spawnedAs_eq_none.mpr fun a ha => (hact (h a ha)).1, ?_, ?_⟩
  · rw [chunks, List.filterMap_eq_nil_iff]
    exact fun a ha => (hact (h a ha)).2.1
  · rw [rxTxDropped, List.any_eq_false]
    exact fun a ha => by rw [(hact (h a ha)).2.2]; exact Bool.false_ne_true

theorem Moves.log {c c' : Connection} {acts : List Act} (h : Moves c acts c') :
    spawnedAs acts = none ∧ chunks acts = [] ∧ rxTxDropped acts = false :=
  sending_log h.sending

theorem Sent.log {c : Connection} {flags : UInt8} {a : Act} (h : Sent c flags a) :
    spawnedAs [a] = none ∧ chunks [a] = [] ∧ rxTxDropped [a] = false := by
  refine sending_log fun b hb => ?_
  rw [List.mem_singleton.mp hb]
  rcases h with h | ⟨e, rfl⟩
  · obtain ⟨buf, rfl, -⟩ := Act.eq_frame_of_tcp? h
    rfl
  · rfl

theorem tearActs_log (c : Connection) :
    spawnedAs c.tearActs = none ∧ chunks c.tearActs = [] ∧ rxTxDropped c.tearActs = c.rxTx := by
  rw [Connection.tearActs]
  cases c.rxTx <;> cases c.connectReply <;> exact ⟨rfl, rfl, rfl⟩

theorem dropActs_log (c : Connection) :
    spawnedAs c.dropActs = none ∧ chunks c.dropActs = [] ∧ rxTxDropped c.dropActs = c.rxTx := by
  rw [Connection.dropActs]
  cases c.rxTx <;> cases c.connectReply <;> exact ⟨rfl, rfl, rfl⟩

theorem chunkActs_log (payload : Bytes) : spawnedAs (chunkActs payload) = none ∧
    (chunks (chunkActs payload)).flatten = payload ∧ rxTxDropped (chunkActs payload) = false := by
  unfold chunkActs
  by_cases h : payload = []
  · rw [if_pos h]
    exact ⟨rfl, h.symm, rfl⟩
  · rw [if_neg h]
    exact ⟨rfl, List.append_nil payload, rfl⟩

theorem unspawned_some {acts : List Act} {c c₁ : Connection} (hnone : spawnedAs acts = none)
    (hsame : c₁.state = c.state ∧ c₁.rxTx = c.rxTx) :
    spawnedAs acts = none ∧ ∀ c', some c₁ = some c' → c'.state = c.state ∧ c'.rxTx = c.rxTx := by
  refine ⟨hnone, ?_⟩
  intro c' hc'
  cases hc'
  exact hsame

theorem unspawned_none {acts : List Act} {c : Connection} (hnone : spawnedAs acts = none) :
    spawnedAs acts = none ∧
      ∀ c' : Connection, none = some c' → c'.state = c.state ∧ c'.rxTx = c.rxTx := by
  refine ⟨hnone, ?_⟩
  intro c' hc'
  cases hc'

/-- The tasks are spawned where a connection is accepted, and nowhere else. -/
theorem Reacts.spawned {c : Connection} {cev : ConnEvent} {acts : List Act}
    {r : Option Connection} (hr : Reacts c cev acts r) :
    (spawnedAs acts = some c.sport ∧ c.state = .connecting ∧
        ∃ c', r = some c' ∧ c'.state = .connected ∧ c'.rxTx = true) ∨
      (spawnedAs acts = none ∧ ∀ c', r = some c' → c'.state = c.state ∧ c'.rxTx = c.rxTx) := by
  cases hr with
  | accepted hs _ ha =>
      refine Or.inl ⟨?_, hs, _, rfl, rfl, rfl⟩
      rw [List.cons_append, ← List.singleton_append, spawnedAs_append,
        (Sent.log (Or.inl ha)).1, Option.none_or]
      rfl
  -- the entry stays as it was
  | ignoredData => exact Or.inr (unspawned_some rfl ⟨rfl, rfl⟩)
  | ignoredClose => exact Or.inr (unspawned_some rfl ⟨rfl, rfl⟩)
  | data _ hm => exact Or.inr (unspawned_some hm.log.1 hm.state)
  | closeKept _ hm => exact Or.inr (unspawned_some hm.log.1 hm.state)
  | drained => exact Or.inr (unspawned_some rfl ⟨rfl, rfl⟩)
  | drainedUpdate _ ha => exact Or.inr (unspawned_some ha.log.1 ⟨rfl, rfl⟩)
  | acceptFailed => exact Or.inr (unspawned_some rfl ⟨rfl, rfl⟩)
  | unheard => exact Or.inr (unspawned_some rfl ⟨rfl, rfl⟩)
  | acked _ _ _ hm =>
      have haccept := c.accept_state
      refine Or.inr (unspawned_some ?_ ⟨hm.state.1.trans (haccept _ _).1,
        hm.state.2.trans (haccept _ _).2⟩)
      rw [spawnedAs_append, (chunkActs_log _).1, hm.log.1, Option.or_none]
  | ackedFailed _ _ _ hm =>
      have haccept := c.accept_state
      refine Or.inr (unspawned_some ?_ ⟨hm.state.1.trans (haccept _ _).1,
        hm.state.2.trans (haccept _ _).2⟩)
      rw [spawnedAs_append, (chunkActs_log _).1, hm.log.1, Option.or_none]
  -- the entry goes
  | dataFailed _ hm =>
      refine Or.inr (unspawned_none ?_)
      rw [spawnedAs_append, hm.log.1, (tearActs_log _).1, Option.or_none]
  | closeDone _ hm _ ha =>
      refine Or.inr (unspawned_none ?_)
      rw [spawnedAs_append, spawnedAs_append, hm.log.1, ha.log.1, (tearActs_log _).1,
        Option.or_none, Option.or_none]
  | closeFailed _ hm _ ha =>
      refine Or.inr (unspawned_none ?_)
      rw [spawnedAs_append, spawnedAs_append, hm.log.1, ha.log.1, (tearActs_log _).1,
        Option.or_none, Option.or_none]
  | refused =>
      refine Or.inr (unspawned_none ?_)
      cases c.rxTx <;> cases c.connectReply <;> rfl
  | reset => exact Or.inr (unspawned_none (tearActs_log c).1)
  | undelivered _ _ _ _ ha =>
      refine Or.inr (unspawned_none ?_)
      rw [spawnedAs_append, ha.log.1, (tearActs_log _).1, Option.or_none]
  | ackedDone _ _ _ hm _ _ ha =>
      refine Or.inr (unspawned_none ?_)
      rw [spawnedAs_append, spawnedAs_append, spawnedAs_append, (chunkActs_log _).1, hm.log.1,
        (Sent.log (Or.inl ha)).1, (tearActs_log _).1]
      rfl
  | closing ha =>
      refine Or.inr (unspawned_none ?_)
      rw [spawnedAs_append, ha.log.1, (tearActs_log _).1, Option.or_none]

/-- No listed connection is dead: nothing the loop does leaves an entry so. -/
theorem Life.not_dead {live : Prop} {i : Nat} {h : List Act} {o : Option Connection}
    (hl : Life live i h o) : ∀ c, o = some c → c.state ≠ .dead := by
  induction hl with
  | unborn => intro c hc; cases hc
  | opened => intro c hc; cases hc; simp [Connection.new]
  | openFailed => intro c hc; cases hc
  | dropped => intro c hc; cases hc
  | reacts _ hr _ _ ih =>
      intro c' hc'
      rcases hr.spawned with ⟨-, -, d, rfl, hd, -⟩ | ⟨-, hkeep⟩
      · cases hc'
        rw [hd]
        simp
      · rw [(hkeep c' hc').1]
        exact ih _ rfl

/-- A listed connection that is not connected is connecting. -/
theorem Life.connecting {live : Prop} {i : Nat} {h : List Act} {c : Connection}
    (hl : Life live i h (some c)) (hs : c.state ≠ .connected) : c.state = .connecting := by
  have hdead := hl.not_dead c rfl
  cases hc : c.state with
  | connecting => rfl
  | connected => exact absurd hc hs
  | dead => exact absurd hc hdead

/-- The forwarder's queue is closed when the entry goes, and only then. -/
theorem Reacts.dropped {c : Connection} {cev : ConnEvent} {acts : List Act}
    {r : Option Connection} (hr : Reacts c cev acts r) :
    rxTxDropped acts = (r.isNone && c.rxTx) := by
  cases hr with
  | ignoredData => rfl
  | ignoredClose => rfl
  | data _ hm => exact hm.log.2.2
  | dataFailed _ hm =>
      rw [rxTxDropped_append, hm.log.2.2, (tearActs_log _).2.2, hm.state.2]
      rfl
  | closeKept _ hm => exact hm.log.2.2
  | closeDone _ hm _ ha =>
      rw [rxTxDropped_append, rxTxDropped_append, hm.log.2.2, ha.log.2.2, (tearActs_log _).2.2,
        hm.state.2]
      rfl
  | closeFailed _ hm _ ha =>
      rw [rxTxDropped_append, rxTxDropped_append, hm.log.2.2, ha.log.2.2, (tearActs_log _).2.2,
        hm.state.2]
      rfl
  | drained => rfl
  | drainedUpdate _ ha => exact ha.log.2.2
  | accepted _ _ ha =>
      rw [List.cons_append, ← List.singleton_append, rxTxDropped_append,
        (Sent.log (Or.inl ha)).2.2]
      cases c.connectReply <;> rfl
  | acceptFailed => rfl
  | refused => cases c.rxTx <;> cases c.connectReply <;> rfl
  | reset => exact (tearActs_log c).2.2
  | undelivered _ _ _ _ ha =>
      rw [rxTxDropped_append, ha.log.2.2, (tearActs_log _).2.2]
      rfl
  | acked _ _ _ hm =>
      rw [rxTxDropped_append, (chunkActs_log _).2.2, hm.log.2.2]
      rfl
  | ackedFailed _ _ _ hm =>
      rw [rxTxDropped_append, (chunkActs_log _).2.2, hm.log.2.2]
      rfl
  | ackedDone _ _ _ hm _ _ ha =>
      rw [rxTxDropped_append, rxTxDropped_append, rxTxDropped_append, (chunkActs_log _).2.2,
        hm.log.2.2, (Sent.log (Or.inl ha)).2.2, (tearActs_log _).2.2, hm.state.2,
        (c.accept_state _ _).2]
      rfl
  | unheard => rfl
  | closing ha =>
      rw [rxTxDropped_append, ha.log.2.2, (tearActs_log _).2.2]
      rfl

/-- How a connection's log and its entry go together. -/
structure Linked (i : Nat) (h : List Act) (o : Option Connection) : Prop where
  sport : ∀ p, spawnedAs h = some p → p = sportAt (i - 1)
  /-- The entry is connected, and holds the forwarder's queue open, once there are tasks. -/
  listed : ∀ c, o = some c → c.sport = sportAt (i - 1) ∧
    (c.state = .connected ↔ spawnedAs h ≠ none) ∧ c.rxTx = (spawnedAs h).isSome ∧
      rxTxDropped h = false
  gone : o = none → rxTxDropped h = (spawnedAs h).isSome

/-- A connection without an entry and without tasks. -/
theorem Linked.nothing {i : Nat} {h : List Act} (hnone : spawnedAs h = none)
    (hopen : rxTxDropped h = false) : Linked i h none := by
  refine ⟨?_, ?_, ?_⟩
  · intro p hp
    rw [hnone] at hp
    cases hp
  · intro c hc
    cases hc
  · intro _
    rw [hopen, hnone]
    rfl

/-- The entry goes, and whether the forwarder's queue was open is in the log. -/
theorem Linked.leaves {i : Nat} {h acts : List Act} {c : Connection} (hl : Linked i h (some c))
    (hspawn : spawnedAs acts = none) (hdrop : rxTxDropped acts = c.rxTx) :
    Linked i (h ++ acts) none := by
  obtain ⟨-, -, hrx, hopen⟩ := hl.listed c rfl
  refine ⟨?_, ?_, ?_⟩
  · intro p hp
    rw [spawnedAs_append, hspawn, Option.or_none] at hp
    exact hl.sport p hp
  · intro d hd
    cases hd
  · intro _
    rw [rxTxDropped_append, spawnedAs_append, hspawn, hdrop, Option.or_none, hopen, hrx,
      Bool.false_or]

/-- The entry stays in its state. -/
theorem Linked.stays {i : Nat} {h acts : List Act} {c d : Connection} (hl : Linked i h (some c))
    (hspawn : spawnedAs acts = none) (hdrop : rxTxDropped acts = false) (hsport : d.sport = c.sport)
    (hsame : d.state = c.state ∧ d.rxTx = c.rxTx) : Linked i (h ++ acts) (some d) := by
  obtain ⟨hsport', hstate, hrx, hopen⟩ := hl.listed c rfl
  refine ⟨?_, ?_, ?_⟩
  · intro p hp
    rw [spawnedAs_append, hspawn, Option.or_none] at hp
    exact hl.sport p hp
  · intro d' hd
    cases hd
    rw [spawnedAs_append, hspawn, Option.or_none, rxTxDropped_append, hopen, hdrop, hsame.1,
      hsame.2]
    exact ⟨hsport.trans hsport', hstate, hrx, rfl⟩
  · intro hd
    cases hd

/-- The connection is accepted, and its tasks are spawned. -/
theorem Linked.accepted {i : Nat} {h acts : List Act} {c d : Connection} (hl : Linked i h (some c))
    (hspawn : spawnedAs acts = some c.sport) (hs : c.state = .connecting)
    (hdrop : rxTxDropped acts = false) (hsport : d.sport = c.sport) (hs' : d.state = .connected)
    (hrx' : d.rxTx = true) : Linked i (h ++ acts) (some d) := by
  obtain ⟨hsport', hstate, hrx, hopen⟩ := hl.listed c rfl
  have hnone : spawnedAs h = none := by
    by_contra hne
    rw [hstate.mpr hne] at hs
    cases hs
  refine ⟨?_, ?_, ?_⟩
  · intro p hp
    rw [spawnedAs_append, hnone, hspawn, Option.none_or] at hp
    cases hp
    exact hsport'
  · intro d' hd
    cases hd
    rw [spawnedAs_append, hnone, hspawn, rxTxDropped_append, hopen, hdrop, hrx', hs']
    simp [hsport.trans hsport']
  · intro hd
    cases hd

theorem Life.linked {live : Prop} {i : Nat} {h : List Act} {o : Option Connection}
    (hl : Life live i h o) : Linked i h o := by
  induction hl with
  | unborn => exact .nothing rfl rfl
  | opened ha =>
      have hlog := Sent.log (Or.inl ha)
      refine ⟨?_, ?_, ?_⟩
      · intro p hp
        rw [hlog.1] at hp
        cases hp
      · intro c hc
        cases hc
        rw [hlog.1, hlog.2.2]
        simp [Connection.new]
      · intro hc
        cases hc
  | openFailed => exact .nothing rfl rfl
  | dropped _ ih => exact ih.leaves (dropActs_log _).1 (dropActs_log _).2.2
  | @reacts h acts c ev r _ hr _ _ ih =>
      have hdrop := hr.dropped
      rcases hr.spawned with ⟨hspawn, hs, c', rfl, hs', hrx'⟩ | ⟨hspawn, hkeep⟩
      · exact ih.accepted hspawn hs hdrop hr.same.2.1 hs' hrx'
      · cases r with
        | none => exact ih.leaves hspawn hdrop
        | some d => exact ih.stays hspawn hdrop hr.same.2.1 (hkeep d rfl)

/-! ### Task steps -/

/--
A step of the pump, the forwarder or the client: the task afterwards, what is put on
`tx_data` and what is put on `drain_tx`.  `gone` says that the entry is gone.
-/
inductive TaskStep (acts : List Act) (gone : Prop) (t : Task) :
    Task → List (Option Bytes) → List UInt32 → Prop
  | look (hp : t.pump = .check) :
      TaskStep acts gone t { t with pump := if pauseFlag acts then .waiting else .reading } [] []
  | wake (hp : t.pump = .waiting) (hn : t.notified < notifyCount acts) :
      TaskStep acts gone t { t with pump := .check, notified := notifyCount acts } [] []
  | read {buf rest : Bytes} (hp : t.pump = .reading) (hne : buf ≠ [])
      (heq : t.toMux = buf ++ rest) :
      TaskStep acts gone t { t with pump := .sending (some buf), toMux := rest } [] []
  | eof (hp : t.pump = .reading) (hnil : t.toMux = []) (hshut : t.clientShut = true) :
      TaskStep acts gone t { t with pump := .sending none } [] []
  | send {msg : Option Bytes} (hp : t.pump = .sending msg) :
      TaskStep acts gone t { t with pump := if msg.isNone then .done else .check } [msg] []
  /-- The channel is closed. -/
  | abandon {msg : Option Bytes} (hp : t.pump = .sending msg) (hgone : gone) :
      TaskStep acts gone t { t with pump := .done } [] []
  | take {chunk : Bytes} (hf : t.forwarder = .receiving)
      (hc : (chunks acts)[t.received]? = some chunk) :
      TaskStep acts gone t
        { t with
          forwarder := .writing (UInt32.ofNat chunk.length) chunk
          received := t.received + 1 } [] []
  | finish (hf : t.forwarder = .receiving) (hc : (chunks acts)[t.received]? = none)
      (hdrop : rxTxDropped acts = true) :
      TaskStep acts gone t { t with forwarder := .done } [] []
  | written {n : UInt32} (hf : t.forwarder = .writing n []) :
      TaskStep acts gone t { t with forwarder := .reporting n } [] []
  /-- The client is gone. -/
  | fail {n : UInt32} {rest : Bytes} (hf : t.forwarder = .writing n rest)
      (hclient : t.clientDropped = true) :
      TaskStep acts gone t { t with forwarder := .done } [] []
  | write {n : UInt32} {rest : Bytes} (k : Nat) (hf : t.forwarder = .writing n rest)
      (hclient : t.clientDropped = false) (hk : 0 < k) (hne : rest ≠ [])
      (hroom : t.toClient.length + k ≤ duplexBuf) :
      TaskStep acts gone t
        { t with
          forwarder := .writing n (rest.drop k)
          toClient := t.toClient ++ rest.take k } [] []
  | giveUp {n : UInt32} (hf : t.forwarder = .reporting n) (hgone : gone) :
      TaskStep acts gone t { t with forwarder := .done } [] []
  | report {n : UInt32} (hf : t.forwarder = .reporting n) :
      TaskStep acts gone t { t with forwarder := .receiving } [] [n]
  | clientWrite (data : Bytes) (hopen : t.clientShut = false) :
      TaskStep acts gone t { t with toMux := t.toMux ++ data, written := t.written ++ data } [] []
  | clientRead (rest : Bytes) (hle : rest.length ≤ t.toClient.length) :
      TaskStep acts gone t { t with toClient := rest } [] []
  | clientShutdown : TaskStep acts gone t { t with clientShut := true } [] []
  | clientDrop :
      TaskStep acts gone t { t with clientShut := true, clientDropped := true } [] []

theorem TaskStep.mono {acts : List Act} {gone gone' : Prop} {t t' : Task}
    {msgs : List (Option Bytes)} {ns : List UInt32} (h : TaskStep acts gone t t' msgs ns)
    (hg : gone → gone') : TaskStep acts gone' t t' msgs ns := by
  cases h with
  | look hp => exact .look hp
  | wake hp hn => exact .wake hp hn
  | read hp hne heq => exact .read hp hne heq
  | eof hp hnil hshut => exact .eof hp hnil hshut
  | send hp => exact .send hp
  | abandon hp hgone => exact .abandon hp (hg hgone)
  | take hf hc => exact .take hf hc
  | finish hf hc hdrop => exact .finish hf hc hdrop
  | written hf => exact .written hf
  | fail hf hclient => exact .fail hf hclient
  | write k hf hclient hk hne hroom => exact .write k hf hclient hk hne hroom
  | giveUp hf hgone => exact .giveUp hf (hg hgone)
  | report hf => exact .report hf
  | clientWrite data hopen => exact .clientWrite data hopen
  | clientRead rest hle => exact .clientRead rest hle
  | clientShutdown => exact .clientShutdown
  | clientDrop => exact .clientDrop

/-- A pump that has ended stays ended and sends nothing more. -/
theorem TaskStep.pump_done {acts : List Act} {gone : Prop} {t t' : Task}
    {msgs : List (Option Bytes)} {ns : List UInt32} (h : TaskStep acts gone t t' msgs ns)
    (hp : t.pump = .done) : t'.pump = .done ∧ msgs = [] := by
  have hno : ∀ {pump : Pump}, t.pump = pump → pump ≠ .done → t'.pump = .done ∧ msgs = [] :=
    fun hp' hne => absurd (hp'.symm.trans hp) hne
  cases h with
  | look hp' => exact hno hp' (by simp)
  | wake hp' => exact hno hp' (by simp)
  | read hp' => exact hno hp' (by simp)
  | eof hp' => exact hno hp' (by simp)
  | send hp' => exact hno hp' (by simp)
  | abandon hp' => exact hno hp' (by simp)
  | _ => exact ⟨hp, rfl⟩

theorem TaskStep.forwarder_done {acts : List Act} {gone : Prop} {t t' : Task}
    {msgs : List (Option Bytes)} {ns : List UInt32} (h : TaskStep acts gone t t' msgs ns)
    (hf : t.forwarder = .done) : t'.forwarder = .done ∧ ns = [] := by
  have hno : ∀ {fwd : Forwarder}, t.forwarder = fwd → fwd ≠ .done →
      t'.forwarder = .done ∧ ns = [] :=
    fun hf' hne => absurd (hf'.symm.trans hf) hne
  cases h with
  | take hf' => exact hno hf' (by simp)
  | finish hf' => exact hno hf' (by simp)
  | written hf' => exact hno hf' (by simp)
  | fail hf' => exact hno hf' (by simp)
  | write _ hf' => exact hno hf' (by simp)
  | giveUp hf' => exact hno hf' (by simp)
  | report hf' => exact hno hf' (by simp)
  | _ => exact ⟨hf, rfl⟩

/-! ### Their place in the system -/

@[simp] theorem Sys.acts_setTask (s : Sys) (i j : Nat) (t : Task) :
    (s.setTask i t).acts j = s.acts j := rfl

@[simp] theorem Sys.tasks_setTask (s : Sys) (i : Nat) (t : Task) :
    (s.setTask i t).tasks i = t := Function.update_self ..

@[simp] theorem Sys.setTask_setTask (s : Sys) (i : Nat) (t t' : Task) :
    (s.setTask i t).setTask i t' = s.setTask i t' := by
  simp [Sys.setTask]

theorem Sys.addressee_eq_some {m : Mux} {pkt : Bytes} {c : Connection} {th : ParsedTcp}
    {payload : Bytes} : Sys.addressee m pkt = some (c, th, payload) ↔
      tcpOf pkt = some (th, payload) ∧ m.connections th.dstPort = some c := by
  unfold Sys.addressee
  cases htcp : tcpOf pkt with
  | none => exact iff_of_false (fun h => by cases h) (fun h => by cases h.1)
  | some r =>
      constructor
      · intro h
        obtain ⟨d, hd, heq⟩ := Option.map_eq_some_iff.mp h
        cases heq
        exact ⟨rfl, hd⟩
      · rintro ⟨heq, hc⟩
        cases heq
        exact Option.map_eq_some_iff.mpr ⟨c, hc, rfl⟩

/-- What the loop takes up in an action of its own. -/
inductive Sys.Takes (s : Sys) : Action → Event → Prop
  | connect (port : UInt16) : s.Takes (.connect port) (.connect port)
  | message {msg : Message} {rest : List Message} (hq : s.txData = msg :: rest) :
      s.Takes .takeData (.rxData msg.sport msg.body)
  | notice {d : Notice} {rest : List Notice} (hq : s.drains = d :: rest) :
      s.Takes .takeDrained (.drained d.sport d.n)
  | packet (pkt : Bytes) : s.Takes (.packet pkt) (.packet pkt s.alive)
  | stop (order : List UInt16) : s.Takes (.stop order) (.stop order)
  | closeNext : s.Takes .closeNext .closeNext

theorem Sys.event_eq_some {s : Sys} {a : Action} {ev : Event} :
    s.event a = some ev ↔ s.Takes a ev := by
  constructor
  · intro h
    cases a with
    | connect port => cases h; exact .connect port
    | takeData =>
        obtain ⟨msg, hhead, rfl⟩ := Option.map_eq_some_iff.mp h
        obtain ⟨rest, hq⟩ := List.head?_eq_some_iff.mp hhead
        exact .message hq
    | takeDrained =>
        obtain ⟨d, hhead, rfl⟩ := Option.map_eq_some_iff.mp h
        obtain ⟨rest, hq⟩ := List.head?_eq_some_iff.mp hhead
        exact .notice hq
    | packet pkt => cases h; exact .packet pkt
    | stop order => cases h; exact .stop order
    | closeNext => cases h; exact .closeNext
    | _ => cases h
  · intro h
    cases h with
    | message hq =>
        show s.txData.head?.map _ = _
        rw [hq]
        rfl
    | notice hq =>
        show s.drains.head?.map _ = _
        rw [hq]
        rfl
    | _ => rfl

theorem Sys.Takes.next {s : Sys} {a : Action} {ev : Event} {m : Mux} (h : s.Takes a ev)
    (hm : s.mux.next ev = some m) : s.next a = some { s.consume a with mux := m } := by
  rw [Sys.next, Sys.event_eq_some.mpr h]
  show (s.mux.next ev).map _ = _
  rw [hm]
  rfl

theorem Sys.Takes.step {s : Sys} {a : Action} {ev : Event} {m : Mux} (h : s.Takes a ev)
    (hm : s.mux.Step ev m) : s.Step a { s.consume a with mux := m } := by
  refine ⟨h.next hm.1, fun ev' hev => ?_⟩
  rw [Sys.event_eq_some.mpr h] at hev
  cases hev
  exact hm.2

theorem Sys.next_pump {s : Sys} {i : Nat} {p : UInt16} (h : spawnedAs (s.acts i) = some p) :
    s.next (.pump i) = s.pumpStep i p := by
  show (spawnedAs (s.acts i)).bind _ = _
  rw [h]
  rfl

theorem Sys.next_forwarder {s : Sys} {i : Nat} {p : UInt16} (h : spawnedAs (s.acts i) = some p) :
    s.next (.forwarder i) = s.forwarderStep i p := by
  show (spawnedAs (s.acts i)).bind _ = _
  rw [h]
  rfl

/-- The system after a step of the tasks of connection `i`. -/
def Sys.afterTask (s : Sys) (i : Nat) (sport : UInt16) (t : Task) (msgs : List (Option Bytes))
    (ns : List UInt32) : Sys :=
  { s.setTask i t with
    txData := s.txData ++ msgs.map (Message.mk i sport)
    drains := s.drains ++ ns.map (Notice.mk i sport) }

theorem Sys.afterTask_nil (s : Sys) (i : Nat) (sport : UInt16) (t : Task) :
    s.afterTask i sport t [] [] = s.setTask i t := by
  simp [Sys.afterTask, Sys.setTask]

theorem Sys.afterTask_self (s : Sys) (i : Nat) (sport : UInt16) (t : Task)
    (msgs : List (Option Bytes)) (ns : List UInt32) : (s.afterTask i sport t msgs ns).tasks i = t :=
  Function.update_self ..

theorem Sys.afterTask_ne {i j : Nat} (h : j ≠ i) (s : Sys) (sport : UInt16) (t : Task)
    (msgs : List (Option Bytes)) (ns : List UInt32) :
    (s.afterTask i sport t msgs ns).tasks j = s.tasks j :=
  Function.update_of_ne h ..

/-- A message after a step of the tasks was there before, or was sent in it. -/
theorem Sys.mem_txData_afterTask {s : Sys} {i : Nat} {sport : UInt16} {t : Task}
    {msgs : List (Option Bytes)} {ns : List UInt32} {msg : Message}
    (h : msg ∈ (s.afterTask i sport t msgs ns).txData) :
    msg ∈ s.txData ∨ (msgs ≠ [] ∧ msg.src = i ∧ msg.sport = sport) := by
  rcases List.mem_append.mp h with hmem | hmem
  · exact Or.inl hmem
  · obtain ⟨body, hbody, rfl⟩ := List.mem_map.mp hmem
    exact Or.inr ⟨List.ne_nil_of_mem hbody, rfl, rfl⟩

theorem Sys.mem_drains_afterTask {s : Sys} {i : Nat} {sport : UInt16} {t : Task}
    {msgs : List (Option Bytes)} {ns : List UInt32} {d : Notice}
    (h : d ∈ (s.afterTask i sport t msgs ns).drains) :
    d ∈ s.drains ∨ (ns ≠ [] ∧ d.src = i ∧ d.sport = sport) := by
  rcases List.mem_append.mp h with hmem | hmem
  · exact Or.inl hmem
  · obtain ⟨n, hn, rfl⟩ := List.mem_map.mp hmem
    exact Or.inr ⟨List.ne_nil_of_mem hn, rfl, rfl⟩

/-- A step of connection `i`'s tasks or client, which were spawned for `sport`. -/
def Sys.TaskMoves (s : Sys) (i : Nat) (sport : UInt16) (s' : Sys) : Prop :=
  ∃ t' msgs ns, TaskStep (s.acts i) s.returned (s.tasks i) t' msgs ns ∧
    s' = s.afterTask i sport t' msgs ns

theorem Sys.TaskMoves.of_silent {s : Sys} {i : Nat} {sport : UInt16} {t' : Task}
    (h : TaskStep (s.acts i) s.returned (s.tasks i) t' [] []) :
    s.TaskMoves i sport (s.setTask i t') :=
  ⟨t', [], [], h, (s.afterTask_nil i sport t').symm⟩

theorem pollRead_some {buf got rest : Bytes} {closed : Bool} {max : Nat}
    (h : pollRead buf closed max = some (got, rest)) :
    (buf = [] ∧ closed = true ∧ got = [] ∧ rest = []) ∨
      (buf ≠ [] ∧ got = buf.take max ∧ rest = buf.drop max) := by
  unfold pollRead at h
  by_cases hnil : buf.isEmpty = true
  · rw [if_pos hnil] at h
    cases closed with
    | true =>
        cases h
        exact Or.inl ⟨List.isEmpty_iff.mp hnil, rfl, rfl, rfl⟩
    | false => cases h
  · rw [if_neg hnil] at h
    cases h
    exact Or.inr ⟨fun hc => hnil (List.isEmpty_iff.mpr hc), rfl, rfl⟩

theorem Sys.pumpStep_moves {s s' : Sys} {i : Nat} {sport : UInt16}
    (h : s.pumpStep i sport = some s') : s.TaskMoves i sport s' := by
  cases hp : (s.tasks i).pump with
  | check =>
      simp only [Sys.pumpStep, hp, Option.some.injEq] at h
      rw [← h]
      exact Sys.TaskMoves.of_silent (.look hp)
  | waiting =>
      simp only [Sys.pumpStep, hp] at h
      split at h
      · rename_i hn
        rw [← Option.some.inj h]
        exact Sys.TaskMoves.of_silent (.wake hp hn)
      · cases h
  | reading =>
      simp only [Sys.pumpStep, hp] at h
      split at h
      · cases h
      rename_i buf rest hread
      rw [← Option.some.inj h]
      refine Sys.TaskMoves.of_silent ?_
      rcases pollRead_some hread with ⟨hnil, hshut, rfl, rfl⟩ | ⟨hne, rfl, rfl⟩
      · rw [List.isEmpty_nil, if_pos rfl, ← hnil]
        exact .eof hp hnil hshut
      · have htake : (s.tasks i).toMux.take maxPayload ≠ [] := by
          rw [Ne, List.take_eq_nil_iff]
          rintro (hz | hz)
          · exact absurd maxPayload_pos (by omega)
          · exact hne hz
        rw [if_neg (by rw [List.isEmpty_iff]; exact htake)]
        exact .read hp htake (List.take_append_drop _ _).symm
  | sending msg =>
      simp only [Sys.pumpStep, hp] at h
      by_cases hret : s.returned
      · rw [if_pos hret] at h
        rw [← Option.some.inj h]
        exact Sys.TaskMoves.of_silent (.abandon hp hret)
      · rw [if_neg hret] at h
        split at h
        · rw [← Option.some.inj h]
          exact ⟨_, [msg], [], .send hp, by simp [Sys.afterTask, Sys.setTask]⟩
        · cases h
  | done =>
      simp only [Sys.pumpStep, hp] at h
      cases h

theorem Sys.forwarderStep_moves {s s' : Sys} {i : Nat} {sport : UInt16}
    (h : s.forwarderStep i sport = some s') : s.TaskMoves i sport s' := by
  cases hf : (s.tasks i).forwarder with
  | receiving =>
      simp only [Sys.forwarderStep, hf] at h
      split at h
      · rename_i chunk hc
        rw [← Option.some.inj h]
        exact Sys.TaskMoves.of_silent (.take hf hc)
      · rename_i hc
        split at h
        · rename_i hdrop
          rw [← Option.some.inj h]
          exact Sys.TaskMoves.of_silent (.finish hf hc hdrop)
        · cases h
  | writing n rest =>
      simp only [Sys.forwarderStep, hf, pollWrite] at h
      by_cases hnil : rest.isEmpty = true
      · rw [if_pos hnil] at h
        rw [← Option.some.inj h]
        rw [List.isEmpty_iff.mp hnil] at hf
        exact Sys.TaskMoves.of_silent (.written hf)
      rw [if_neg hnil] at h
      by_cases hclient : (s.tasks i).clientDropped = true
      · rw [if_pos hclient] at h
        rw [← Option.some.inj h]
        exact Sys.TaskMoves.of_silent (.fail hf hclient)
      rw [if_neg hclient] at h
      by_cases hfull : duplexBuf ≤ (s.tasks i).toClient.length
      · rw [if_pos hfull] at h
        cases h
      · rw [if_neg hfull] at h
        rw [← Option.some.inj h]
        have hne : rest ≠ [] := fun hc => hnil (List.isEmpty_iff.mpr hc)
        have hpos := List.length_pos_iff.mpr hne
        refine Sys.TaskMoves.of_silent (.write _ hf (Bool.eq_false_iff.mpr hclient) ?_ hne ?_)
        · omega
        · omega
  | reporting n =>
      simp only [Sys.forwarderStep, hf] at h
      by_cases hret : s.returned
      · rw [if_pos hret] at h
        rw [← Option.some.inj h]
        exact Sys.TaskMoves.of_silent (.giveUp hf hret)
      · rw [if_neg hret] at h
        rw [← Option.some.inj h]
        exact ⟨_, [], [n], .report hf, by simp [Sys.afterTask, Sys.setTask]⟩
  | done =>
      simp only [Sys.forwarderStep, hf] at h
      cases h

/-- The connection whose tasks or client make this move. -/
def Action.mover : Action → Option Nat
  | .pump i | .forwarder i | .clientWrite i _ | .clientRead i _ | .clientShutdown i
  | .clientDrop i => some i
  | _ => none

theorem Sys.taskNext_moves {s s' : Sys} {a : Action} (h : s.taskNext a = some s') :
    ∃ i sport, a.mover = some i ∧ spawnedAs (s.acts i) = some sport ∧ s.TaskMoves i sport s' := by
  have hspawned : ∀ {i : Nat}, ¬ (spawnedAs (s.acts i)).isNone = true →
      ∃ sport, spawnedAs (s.acts i) = some sport := by
    intro i hi
    rw [Option.isNone_iff_eq_none] at hi
    exact Option.ne_none_iff_exists'.mp hi
  cases a with
  | pump i =>
      obtain ⟨sport, hsport, hstep⟩ := Option.bind_eq_some_iff.mp h
      exact ⟨i, sport, rfl, hsport, Sys.pumpStep_moves hstep⟩
  | forwarder i =>
      obtain ⟨sport, hsport, hstep⟩ := Option.bind_eq_some_iff.mp h
      exact ⟨i, sport, rfl, hsport, Sys.forwarderStep_moves hstep⟩
  | clientWrite i data =>
      simp only [Sys.taskNext] at h
      split at h
      · cases h
      rename_i hi
      obtain ⟨sport, hsport⟩ := hspawned hi
      unfold pollWrite at h
      by_cases hshut : ((s.tasks i).clientShut || decide (s.tasks i).ourSideDropped) = true
      · rw [if_pos hshut] at h
        cases h
      · rw [if_neg hshut] at h
        simp only [Bool.or_eq_true, not_or, Bool.not_eq_true] at hshut
        by_cases hfull : duplexBuf ≤ (s.tasks i).toMux.length
        · rw [if_pos hfull] at h
          cases h
        · rw [if_neg hfull] at h
          cases h
          exact ⟨i, sport, rfl, hsport, Sys.TaskMoves.of_silent (.clientWrite _ hshut.1)⟩
  | clientRead i max =>
      simp only [Sys.taskNext] at h
      split at h
      · cases h
      rename_i hi
      rw [Bool.or_eq_true, not_or] at hi
      obtain ⟨sport, hsport⟩ := hspawned hi.1
      obtain ⟨⟨got, rest⟩, hread, rfl⟩ := Option.map_eq_some_iff.mp h
      have hle : rest.length ≤ (s.tasks i).toClient.length := by
        rcases pollRead_some hread with ⟨-, -, -, rfl⟩ | ⟨-, -, rfl⟩
        · exact Nat.zero_le _
        · rw [List.length_drop]
          omega
      exact ⟨i, sport, rfl, hsport, Sys.TaskMoves.of_silent (.clientRead rest hle)⟩
  | clientShutdown i =>
      simp only [Sys.taskNext] at h
      split at h
      · cases h
      rename_i hi
      obtain ⟨sport, hsport⟩ := hspawned hi
      cases h
      exact ⟨i, sport, rfl, hsport, Sys.TaskMoves.of_silent .clientShutdown⟩
  | clientDrop i =>
      simp only [Sys.taskNext] at h
      split at h
      · cases h
      rename_i hi
      obtain ⟨sport, hsport⟩ := hspawned hi
      cases h
      exact ⟨i, sport, rfl, hsport, Sys.TaskMoves.of_silent .clientDrop⟩
  | _ => cases h

/-- **A step of the system** is an event the loop takes, or a move of one connection's
tasks or client. -/
inductive Sys.Moved (s : Sys) (a : Action) (s' : Sys) : Prop
  | loop {ev : Event} (hev : s.event a = some ev) (hstep : s.mux.Step ev s'.mux)
      (heq : s' = { s.consume a with mux := s'.mux })
  | task {i : Nat} {sport : UInt16} (hev : s.event a = none) (hi : a.mover = some i)
      (hspawn : spawnedAs (s.acts i) = some sport) (hmoves : s.TaskMoves i sport s')

theorem Sys.Step.moved {s s' : Sys} {a : Action} (h : s.Step a s') : s.Moved a s' := by
  obtain ⟨hnext, hvalid⟩ := h
  rw [Sys.next] at hnext
  cases hev : s.event a with
  | none =>
      rw [hev] at hnext
      obtain ⟨i, sport, hi, hspawn, hmoves⟩ := Sys.taskNext_moves hnext
      exact .task hev hi hspawn hmoves
  | some ev =>
      rw [hev] at hnext
      obtain ⟨m, hm, rfl⟩ := Option.map_eq_some_iff.mp hnext
      exact .loop hev ⟨hm, hvalid ev hev⟩ rfl

/-- The loop's own part of a run of the system is a run of the loop. -/
theorem Sys.mux_run {s₀ s : Sys} {tr : List (Sys × Action × Sys)} (h : Run Sys.Step s₀ tr s) :
    ∃ tr', Run Mux.Step s₀.mux tr' s.mux := by
  refine h.simulate (f := Sys.mux) ?_
  intro s a s' hstep
  rcases hstep.moved with ⟨-, hmux, -⟩ | ⟨-, -, -, t', msgs, ns, -, rfl⟩
  · exact Or.inr ⟨_, hmux⟩
  · exact Or.inl rfl

/-- Only leaving the loop has a condition of its own. -/
theorem Sys.valid_of_event {s : Sys} {a : Action} {ev : Event} (ha : ∀ order, a ≠ .stop order)
    (hev : s.event a = some ev) : ev.Valid s.mux := by
  cases a with
  | stop order => exact absurd rfl (ha order)
  | connect port => cases hev; trivial
  | packet pkt => cases hev; trivial
  | closeNext => cases hev; trivial
  | takeData =>
      obtain ⟨msg, -, rfl⟩ := Option.map_eq_some_iff.mp hev
      trivial
  | takeDrained =>
      obtain ⟨d, -, rfl⟩ := Option.map_eq_some_iff.mp hev
      trivial
  | _ => cases hev

/-- A computed run of the system. -/
theorem Sys.run_of_exec {s s' : Sys} {as : List Action} (hstop : ∀ order, Action.stop order ∉ as)
    (h : exec Sys.next s as = some s') :
    ∃ tr, Run Sys.Step s tr s' ∧ tr.map (fun t => t.2.1) = as := by
  refine Run.of_exec (fun u a u' ha hnext => ⟨hnext, ?_⟩) h
  intro ev hev
  refine Sys.valid_of_event ?_ hev
  rintro order rfl
  exact hstop order ha

end Netmuxd
