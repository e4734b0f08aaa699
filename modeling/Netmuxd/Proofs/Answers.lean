/-
How Connects are answered.

A caller of `connect` waits on its answer channel until the loop sends on it.  The
entry of its connection keeps the sending end for as long as it is connecting, so the
fields of the entry, its state, and what has been answered so far go together
(`Attended`).  With a writer that lives on, and as long as no Connect is given a sport
in use, every reaction keeps them together, and leaving the loop answers who is left.
-/
import Netmuxd.Proofs.Parting
import Netmuxd.Proofs.View
import Netmuxd.Proofs.Window

namespace Netmuxd

open Lib

/-! ### Statement -/

/-- What the caller of a Connect gets to hear. -/
def Act.answer? : Act → Option (Except IoError Unit)
  | .reply ans => some ans
  | _ => none

def answers (acts : List Act) : List (Except IoError Unit) :=
  acts.filterMap Act.answer?

/-- A Connect is given a sport that no entry has. -/
def FindsSportFree (m : Mux) (ev : Event) (_ : Mux) : Prop :=
  ∀ port, ev = .connect port → m.connections m.nextSport = none

/-- A Connect whose answer is `Ok` in this step gets it for a SYN/ACK to its sport. -/
def AcceptedBySynAck (m : Mux) (ev : Event) (m' : Mux) : Prop :=
  ∀ i acts, 0 < i → actsOf i m'.link.out = actsOf i m.link.out ++ acts → .ok () ∈ answers acts →
    ∃ pkt alive th payload, ev = .packet pkt alive ∧ tcpOf pkt = some (th, payload) ∧
      th.flags = synAck ∧ m.ports[i - 1]? = some th.dstPort

/-- The entries of the map, and the callers waiting on them. -/
structure Mux.Attends (m : Mux) : Prop where
  key : ∀ p c, m.connections p = some c → c.sport = p
  alive : ∀ p c, m.connections p = some c → c.state ≠ .dead
  waiting : ∀ p c, m.connections p = some c →
    (c.state = .connecting ↔ c.connectReply = true) ∧ (c.connectReply = true ↔ c.rxTx = false)
  unused : ∀ p c, m.connections p = some c → c.state = .connecting →
    c.pendingTx = [] ∧ c.rxBuffered = 0 ∧ c.txSeq = 0 ∧ c.clientClosed = false
  /-- The Connects without an answer are those with a connecting entry. -/
  unanswered : ∀ i, 0 < i → i ≤ m.ports.length → (answers (actsOf i m.link.out) = [] ↔
    ∃ p c, m.connections p = some c ∧ c.id = i ∧ c.state = .connecting)
  /-- No Connect is answered twice, or dropped. -/
  once : ∀ i, 0 < i → (answers (actsOf i m.link.out)).length ≤ 1 ∧
    Act.dropReply ∉ actsOf i m.link.out
  /-- Once the loop has been left everybody has been answered. -/
  ended : m.phase = .closing [] → (∀ p, m.connections p = none) ∧
    ∀ i, 0 < i → i ≤ m.ports.length → (answers (actsOf i m.link.out)).length = 1

/-! ### One connection -/

@[simp] theorem answers_append (as bs : List Act) :
    answers (as ++ bs) = answers as ++ answers bs := by
  simp [answers]

theorem answers_nil_of_sending {acts : List Act} (h : ∀ a ∈ acts, a.isSending = true) :
    answers acts = [] := by
  rw [answers, List.filterMap_eq_nil_iff]
  intro a ha
  have hsend := h a ha
  cases a <;> first | rfl | cases hsend

theorem Sent.sending {c : Connection} {flags : UInt8} {a : Act} (h : Sent c flags a) :
    ∀ b ∈ [a], b.isSending = true := by
  intro b hb
  rw [List.mem_singleton.mp hb]
  rcases h with h | ⟨e, rfl⟩
  · obtain ⟨buf, rfl, -⟩ := Act.eq_frame_of_tcp? h
    rfl
  · rfl

/-- A connecting entry with its caller, and nothing of what a client would have done. -/
structure Connection.Waits (c : Connection) : Prop where
  state : c.state = .connecting
  connectReply : c.connectReply = true
  rxTx : c.rxTx = false
  pendingTx : c.pendingTx = []
  rxBuffered : c.rxBuffered = 0
  txSeq : c.txSeq = 0
  clientClosed : c.clientClosed = false

/-- A connected entry: its caller has been answered. -/
structure Connection.Serves (c : Connection) : Prop where
  state : c.state = .connected
  connectReply : c.connectReply = false
  rxTx : c.rxTx = true

/-- How the log of a Connect and its entry go together. -/
structure Attended (h : List Act) (o : Option Connection) : Prop where
  listed : ∀ c, o = some c →
    (c.Waits ∧ answers h = []) ∨ (c.Serves ∧ (answers h).length = 1)
  gone : o = none → (answers h).length = 1
  held : Act.dropReply ∉ h

theorem Connection.Serves.moves {c c' : Connection} {acts : List Act} (hc : c.Serves)
    (h : Moves c acts c') : c'.Serves := by
  obtain ⟨p, q, b, rfl⟩ := h.fields
  exact ⟨hc.state, hc.connectReply, hc.rxTx⟩

theorem dropReply_not_mem_of_sending {acts : List Act} (h : ∀ a ∈ acts, a.isSending = true) :
    Act.dropReply ∉ acts := by
  intro hmem
  cases h _ hmem

/-- What becomes of a caller whose connection is being opened. -/
theorem Attended.opening {h acts : List Act} {c : Connection} {cev : ConnEvent}
    {r : Option Connection} (hc : c.Waits) (hnone : answers h = []) (hheld : Act.dropReply ∉ h)
    (hr : Reacts c cev acts r) (hok : ¬ Failed acts) : Attended (h ++ acts) r := by
  have hno : ∀ {P : Prop}, c.state = .connected → P := by
    intro P hs
    rw [hc.state] at hs
    cases hs
  have hsame : Attended (h ++ []) (some c) := by
    rw [List.append_nil]
    refine ⟨?_, by simp, hheld⟩
    intro d hd
    cases hd
    exact Or.inl ⟨hc, hnone⟩
  cases hr with
  | ignoredData => exact hsame
  | ignoredClose => exact hsame
  | drained =>
      rw [List.append_nil]
      refine ⟨?_, by simp, hheld⟩
      intro d hd
      cases hd
      exact Or.inl ⟨⟨hc.state, hc.connectReply, hc.rxTx, hc.pendingTx, drain_zero hc.rxBuffered _,
        hc.txSeq, hc.clientClosed⟩, hnone⟩
  | accepted _ _ ha =>
      obtain ⟨buf, rfl, -⟩ := Act.eq_frame_of_tcp? ha
      rw [if_pos hc.connectReply]
      refine ⟨?_, by simp, by simpa using hheld⟩
      intro d hd
      cases hd
      refine Or.inr ⟨⟨rfl, rfl, rfl⟩, ?_⟩
      rw [answers_append, hnone]
      rfl
  | acceptFailed => exact absurd ⟨_, List.mem_singleton_self _⟩ hok
  | refused =>
      rw [if_pos hc.connectReply, hc.rxTx]
      refine ⟨by simp, fun _ => ?_, by simpa using hheld⟩
      rw [answers_append, hnone]
      rfl
  | closing ha =>
      have htear : c.tearActs = [.reply (.error .refusedOrClosed)] := by
        simp [Connection.tearActs, hc.rxTx, hc.connectReply]
      rw [htear]
      refine ⟨by simp, fun _ => ?_, ?_⟩
      · rw [answers_append, hnone, List.nil_append, answers_append,
          answers_nil_of_sending ha.sending]
        rfl
      · rw [List.mem_append, List.mem_append]
        rintro (hold | hnew | hnew)
        · exact hheld hold
        · exact dropReply_not_mem_of_sending ha.sending hnew
        · simp at hnew
  | unheard hs => rw [hc.state] at hs; cases hs
  | drainedUpdate hdue => exact hno hdue.1
  | data hs => exact hno hs
  | dataFailed hs => exact hno hs
  | closeKept hs => exact hno hs
  | closeDone hs => exact hno hs
  | closeFailed hs => exact hno hs
  | reset hs => exact hno hs
  | undelivered hs => exact hno hs
  | acked hs => exact hno hs
  | ackedFailed hs => exact hno hs
  | ackedDone hs => exact hno hs

theorem Intake.serves {c d : Connection} {cev : ConnEvent} {first : List Act}
    (h : Intake c cev first d) (hc : c.Serves) :
    d.Serves ∧ answers first = [] ∧ Act.dropReply ∉ first := by
  cases h with
  | data => exact ⟨⟨hc.state, hc.connectReply, hc.rxTx⟩, rfl, by simp⟩
  | close => exact ⟨⟨hc.state, hc.connectReply, hc.rxTx⟩, rfl, by simp⟩
  | drain => exact ⟨⟨hc.state, hc.connectReply, hc.rxTx⟩, rfl, by simp⟩
  | hear => exact ⟨⟨hc.state, hc.connectReply, hc.rxTx⟩, rfl, by simp⟩
  | deliver => exact ⟨⟨hc.state, hc.connectReply, hc.rxTx⟩, rfl, by simp⟩
  | closing => exact ⟨hc, rfl, by simp⟩

/-- Whatever becomes of an open connection, its caller has had the answer. -/
theorem Attended.serving {h acts : List Act} {c : Connection} {cev : ConnEvent}
    {r : Option Connection} (hc : c.Serves) (hone : (answers h).length = 1)
    (hheld : Act.dropReply ∉ h) (hr : Reacts c cev acts r) : Attended (h ++ acts) r := by
  obtain ⟨first, d, moves, c', last, hin, hm, hend, rfl⟩ := hr.parts hc.state
  obtain ⟨hd, hfirst, hfirst'⟩ := hin.serves hc
  have hc' := hd.moves hm
  have hquiet : answers last = [] ∧ Act.dropReply ∉ last := by
    have htear : c'.tearActs = [.dropRxTx] := by
      simp [Connection.tearActs, hc'.rxTx, hc'.connectReply]
    cases hend with
    | stays => exact ⟨rfl, by simp⟩
    | goes =>
        rw [htear]
        exact ⟨rfl, by simp⟩
    | resets ha =>
        rw [htear, ← List.singleton_append]
        refine ⟨?_, ?_⟩
        · rw [answers_append, answers_nil_of_sending ha.sending]
          rfl
        · rw [List.mem_append]
          rintro (hmem | hmem)
          · exact dropReply_not_mem_of_sending ha.sending hmem
          · simp at hmem
  have hlen : (answers (h ++ (first ++ moves ++ last))).length = 1 := by
    simp [hfirst, answers_nil_of_sending hm.sending, hquiet.1, hone]
  refine ⟨fun e he => Or.inr ⟨?_, hlen⟩, fun _ => hlen, ?_⟩
  · cases hend with
    | stays => cases he; exact hc'
    | goes => cases he
    | resets => cases he
  · simp only [List.mem_append]
    rintro (hmem | (hmem | hmem) | hmem)
    · exact hheld hmem
    · exact hfirst' hmem
    · exact dropReply_not_mem_of_sending hm.sending hmem
    · exact hquiet.2 hmem

/-- **A reaction keeps a Connect attended to**, as long as none of its sends fails. -/
theorem Attended.reacts {h acts : List Act} {c : Connection} {cev : ConnEvent}
    {r : Option Connection} (hatt : Attended h (some c)) (hr : Reacts c cev acts r)
    (hok : ¬ Failed acts) : Attended (h ++ acts) r := by
  rcases hatt.listed c rfl with ⟨hc, hnone⟩ | ⟨hc, hone⟩
  · exact Attended.opening hc hnone hatt.held hr hok
  · exact Attended.serving hc hone hatt.held hr

/-- Only a SYN/ACK has a Connect answered with `Ok`. -/
theorem Reacts.accepts {c : Connection} {cev : ConnEvent} {acts : List Act}
    {r : Option Connection} (hr : Reacts c cev acts r) (hans : .ok () ∈ answers acts) :
    ∃ th payload alive, cev = .packet th payload alive ∧ th.flags = synAck := by
  have htear : ∀ d : Connection, .ok () ∉ answers d.tearActs := by
    intro d
    unfold Connection.tearActs
    cases d.rxTx <;> cases d.connectReply <;> simp [answers, Act.answer?]
  have hsend : ∀ {as : List Act}, (∀ a ∈ as, a.isSending = true) → .ok () ∉ answers as := by
    intro as has
    rw [answers_nil_of_sending has]
    exact List.not_mem_nil
  have hin : ∀ {d : Connection} {first : List Act}, Intake c cev first d →
      .ok () ∉ answers first := by
    intro d first h
    cases h <;> simp [answers, Act.answer?]
  by_cases hs : c.state = .connected
  · exfalso
    obtain ⟨first, d, moves, c', last, hfirst, hm, hend, rfl⟩ := hr.parts hs
    rw [answers_append, answers_append, List.mem_append, List.mem_append] at hans
    rcases hans with (hans | hans) | hans
    · exact hin hfirst hans
    · exact hsend hm.sending hans
    · cases hend with
      | stays => simp [answers] at hans
      | goes => exact htear c' hans
      | resets ha =>
          rw [← List.singleton_append, answers_append, List.mem_append] at hans
          rcases hans with hans | hans
          · exact hsend ha.sending hans
          · exact htear c' hans
  · cases hr with
    | accepted _ hflags => exact ⟨_, _, _, rfl, hflags⟩
    | acceptFailed _ hflags => exact ⟨_, _, _, rfl, hflags⟩
    | ignoredData => simp [answers] at hans
    | ignoredClose => simp [answers] at hans
    | drained => simp [answers] at hans
    | refused =>
        rw [answers_append, List.mem_append] at hans
        cases c.connectReply <;> cases c.rxTx <;> simp [answers, Act.answer?] at hans
    | closing ha =>
        rw [answers_append, List.mem_append] at hans
        rcases hans with hans | hans
        · exact absurd hans (hsend ha.sending)
        · exact absurd hans (htear c)
    | unheard => simp [answers] at hans
    | drainedUpdate hdue => exact absurd hdue.1 hs
    | data hs' => exact absurd hs' hs
    | dataFailed hs' => exact absurd hs' hs
    | closeKept hs' => exact absurd hs' hs
    | closeDone hs' => exact absurd hs' hs
    | closeFailed hs' => exact absurd hs' hs
    | reset hs' => exact absurd hs' hs
    | undelivered hs' => exact absurd hs' hs
    | acked hs' => exact absurd hs' hs
    | ackedFailed hs' => exact absurd hs' hs
    | ackedDone hs' => exact absurd hs' hs

/-! ### The map -/

/-- Every Connect taken so far is attended to. -/
structure Mux.Attending (m : Mux) : Prop where
  lives : m.Lives True
  attended : ∀ i, 0 < i → i ≤ m.ports.length → Attended (actsOf i m.link.out) (m.entry i)
  exits : ∀ rest, m.phase = .closing rest → ∀ p c, m.connections p = some c → p ∈ rest

theorem Mux.Attending.start {link : Link} (h : link.Fresh) (hw : link.writeLeft = none) :
    (Mux.start link).Attending where
  lives := Mux.Lives.start h fun _ => hw
  attended := by
    intro i hi hle
    exact absurd hle (by simp [Mux.start]; omega)
  exits := by
    intro rest hrest
    cases hrest

/-- A Connect taken with a live writer lists its connection. -/
theorem Mux.Lives.connects {m m' : Mux} {port : UInt16} (hm : m.Lives True)
    (h : m.Step (.connect port) m') : m'.ports = m.ports ++ [m.nextSport] ∧
      m'.connections m.nextSport = some (m.newConn port) := by
  rcases h.change hm.ok.version with
    ⟨hev, -⟩ | ⟨hev, -, hconn, -, -, hp, -⟩ | ⟨-, -, hlink, -⟩ | ⟨-, htarget, -⟩
  · exact absurd rfl (hev port)
  · cases hev
    exact ⟨hp, by rw [hconn, Function.update_self]⟩
  · exact absurd ⟨_, List.mem_cons_self ..⟩ (hlink.live (hm.writer trivial)).2
  · cases htarget

/-- Only a Connect makes the list of sports grow. -/
theorem Mux.Step.ports_eq {m m' : Mux} {ev : Event} (hok : m.Ok) (h : m.Step ev m')
    (hev : ∀ port, ev ≠ .connect port) : m'.ports = m.ports := by
  rcases h.change hok.version with
    ⟨-, -, -, -, -, hp, -⟩ | ⟨hev', -⟩ | ⟨hev', -⟩ | ⟨-, -, -, -, hout⟩
  · exact hp
  · exact absurd hev' (hev _)
  · exact absurd hev' (hev _)
  · exact hout.ports

theorem Mux.Attending.step {m m' : Mux} {ev : Event} (hm : m.Attending) (h : m.Step ev m')
    (hfree : FindsSportFree m ev m') : m'.Attending := by
  have hlives := hm.lives.step h
  refine ⟨hlives, ?_, mux_exits hm.lives.ok h hm.exits⟩
  intro i hi hle
  rcases hm.lives.ok.share h hi with
    ⟨hacts, hentry, -⟩ | ⟨-, -, ha, hacts, hentry⟩ | ⟨-, -, hlive, -, -, -⟩ |
      ⟨hc, -, -, hr, hlink, hentry⟩ | ⟨hev, hc, hsport, -, -⟩
  · rw [hacts, hentry]
    apply hm.attended i hi
    -- the Connect of this step has an entry now
    by_contra hnew
    by_cases hconn : ∃ port, ev = .connect port
    · obtain ⟨port, rfl⟩ := hconn
      obtain ⟨hp, hlisted⟩ := hm.lives.connects h
      have hid : (m.newConn port).id = i := by
        rw [hp, List.length_append, List.length_singleton] at hle
        show m.ports.length + 1 = i
        omega
      have hsome := hlives.ok.entry_of hlisted
      rw [hid, hentry, Mux.entry_new (Nat.lt_of_not_le hnew)] at hsome
      cases hsome
    · rw [h.ports_eq hm.lives.ok fun port hev => hconn ⟨port, hev⟩] at hle
      exact hnew hle
  · rw [hacts, hentry]
    obtain ⟨buf, rfl, -⟩ := Act.eq_frame_of_tcp? ha
    refine ⟨?_, by simp, by simp⟩
    intro c hc
    cases hc
    exact Or.inl ⟨⟨rfl, rfl, rfl, rfl, rfl, rfl, rfl⟩, rfl⟩
  · exact absurd (hm.lives.writer trivial) hlive
  · rw [hlink.acts_self, hentry]
    obtain ⟨hlisted, hid⟩ := hm.lives.ok.of_entry hc
    have hold := hm.attended i hi (hid ▸ hm.lives.ok.id_le hlisted)
    rw [hc] at hold
    exact hold.reacts hr (hlink.live (hm.lives.writer trivial)).2
  · have hnone := hfree _ hev
    rw [← hsport, (hm.lives.ok.of_entry hc).1] at hnone
    cases hnone

theorem Mux.Attending.attends {m : Mux} (hm : m.Attending) : m.Attends := by
  have hlisted : ∀ {p c}, m.connections p = some c →
      (c.Waits ∧ answers (actsOf c.id m.link.out) = []) ∨
        (c.Serves ∧ (answers (actsOf c.id m.link.out)).length = 1) := by
    intro p c hc
    have hatt := hm.attended c.id (hm.lives.ok.entry p c hc).2.1 (hm.lives.ok.id_le hc)
    rw [hm.lives.ok.entry_of hc] at hatt
    exact hatt.listed c rfl
  have hnone : ∀ {i}, 0 < i → i ≤ m.ports.length → m.entry i = none →
      (answers (actsOf i m.link.out)).length = 1 := by
    intro i hi hle hgone
    exact (hm.attended i hi hle).gone hgone
  have hempty : m.phase = .closing [] → ∀ p, m.connections p = none := by
    intro hphase p
    cases hc : m.connections p with
    | none => rfl
    | some c => cases hm.exits [] hphase p c hc
  refine ⟨fun p c hc => (hm.lives.ok.entry p c hc).1, fun p c hc => hm.lives.not_dead hc, ?_, ?_,
    ?_, ?_, ?_⟩
  · intro p c hc
    rcases hlisted hc with ⟨hw, -⟩ | ⟨hs, -⟩
    · rw [hw.state, hw.connectReply, hw.rxTx]
      decide
    · rw [hs.state, hs.connectReply, hs.rxTx]
      decide
  · intro p c hc hstate
    rcases hlisted hc with ⟨hw, -⟩ | ⟨hs, -⟩
    · exact ⟨hw.pendingTx, hw.rxBuffered, hw.txSeq, hw.clientClosed⟩
    · rw [hs.state] at hstate
      cases hstate
  · intro i hi hle
    constructor
    · intro hans
      cases hentry : m.entry i with
      | none =>
          have := hnone hi hle hentry
          rw [hans] at this
          cases this
      | some c =>
          obtain ⟨hc, hid⟩ := hm.lives.ok.of_entry hentry
          refine ⟨c.sport, c, hc, hid, ?_⟩
          rcases hlisted hc with ⟨hw, -⟩ | ⟨-, hone⟩
          · exact hw.state
          · rw [hid, hans] at hone
            cases hone
    · rintro ⟨p, c, hc, rfl, hstate⟩
      rcases hlisted hc with ⟨-, hans⟩ | ⟨hs, -⟩
      · exact hans
      · rw [hs.state] at hstate
        cases hstate
  · intro i hi
    rcases Nat.lt_or_ge m.ports.length i with hlt | hle
    · rw [hm.lives.ok.acts_nil hlt]
      exact ⟨Nat.zero_le _, by simp⟩
    · have hatt := hm.attended i hi hle
      refine ⟨?_, hatt.held⟩
      cases hentry : m.entry i with
      | none => exact Nat.le_of_eq (hatt.gone hentry)
      | some c =>
          rcases hatt.listed c hentry with ⟨-, hans⟩ | ⟨-, hone⟩
          · rw [hans]
            exact Nat.zero_le _
          · exact Nat.le_of_eq hone
  · intro hphase
    refine ⟨hempty hphase, fun i hi hle => hnone hi hle ?_⟩
    cases hentry : m.entry i with
    | none => rfl
    | some c =>
        have hc := (hm.lives.ok.of_entry hentry).1
        rw [hempty hphase] at hc
        cases hc

theorem Mux.Attending.acceptedBySynAck {m m' : Mux} {ev : Event} (hm : m.Attending)
    (h : m.Step ev m') (hfree : FindsSportFree m ev m') : AcceptedBySynAck m ev m' := by
  intro i acts hi hacts hans
  rcases hm.lives.ok.share h hi with
    ⟨hsame, -, -⟩ | ⟨-, hnew, ha, hacts', -⟩ | ⟨-, -, hlive, -, -, -⟩ |
      @⟨c, _, _, _, hc, htarget, hcev, hr, hlink, -⟩ | ⟨hev, hc, hsport, -, -⟩
  · rw [hacts] at hsame
    rw [List.append_right_eq_self.mp hsame] at hans
    cases hans
  · rw [hm.lives.ok.acts_nil (by omega), List.nil_append] at hacts
    obtain ⟨buf, rfl, -⟩ := Act.eq_frame_of_tcp? ha
    rw [← hacts, hacts'] at hans
    cases hans
  · exact absurd (hm.lives.writer trivial) hlive
  · rw [hlink.acts_self] at hacts
    rw [← List.append_cancel_left hacts] at hans
    obtain ⟨th, payload, b, rfl, hflags⟩ := hr.accepts hans
    obtain ⟨hlisted, hid⟩ := hm.lives.ok.of_entry hc
    cases ev with
    | packet pkt alive =>
        obtain ⟨⟨th', payload'⟩, htcp, heq⟩ := Option.map_eq_some_iff.mp hcev
        cases heq
        have hdst : th'.dstPort = c.sport := by simpa [Event.target, htcp] using htarget
        refine ⟨pkt, alive, th', payload', rfl, htcp, hflags, ?_⟩
        rw [hdst, ← hid]
        exact (hm.lives.ok.entry _ _ hlisted).2.2
    | connect port => cases hcev
    | stop order => cases hcev
    | rxData p body => cases body <;> cases hcev
    | drained p n => cases hcev
    | closeNext => cases hcev
  · have hnone := hfree _ hev
    rw [← hsport, (hm.lives.ok.of_entry hc).1] at hnone
    cases hnone

/-- **Every Connect is answered once.**  With a writer that lives on, in a run where no
Connect is given a sport in use: whatever has not been answered waits on a connecting
entry, only a SYN/ACK gets an `Ok`, and nobody waits once the loop has been left. -/
theorem connects_are_answered {reply : Bytes} {link : Link} {tr : List (Mux × Event × Mux)}
    {m : Mux} (hs : handshake none reply = .ok link) (h : Run Mux.Step (Mux.start link) tr m)
    (hfree : EveryStep FindsSportFree tr) : m.Attends ∧ EveryStep AcceptedBySynAck tr := by
  obtain ⟨hfresh, hwriter⟩ := handshake_fresh hs
  have hstart := Mux.Attending.start hfresh (hwriter rfl)
  have hstep : ∀ s ev s', Mux.Attending s → Mux.Step s ev s' → FindsSportFree s ev s' →
      s'.Attending := by
    intro s ev s' hm hstep hC
    exact hm.step hstep hC
  constructor
  · exact (h.invariant_of hstart hstep hfree).attends
  · refine h.everyStep_of hstart hstep ?_ hfree
    intro s ev s' hm hstep hC
    exact hm.acceptedBySynAck hstep hC

/-- A run in which no sport is given twice. -/
theorem findsSportFree_of_nodup {left : Option Nat} {reply : Bytes} {link : Link}
    {tr : List (Mux × Event × Mux)} {m : Mux} (hs : handshake left reply = .ok link)
    (h : Run Mux.Step (Mux.start link) tr m) (hports : m.ports.Nodup) :
    EveryStep FindsSportFree tr := by
  induction h with
  | nil => exact everyStep_nil _
  | @snoc tr s s' ev hrun hstep ih =>
      have hok := (mux_lives hs hrun).ok
      obtain ⟨hgrow, hnew⟩ := hstep.ports hok
      rw [everyStep_snoc]
      refine ⟨ih (hports.sublist hgrow.sublist), ?_⟩
      intro port hev
      cases hc : s.connections s.nextSport with
      | none => rfl
      | some c =>
          rw [hnew port hev] at hports
          have hused := List.mem_of_getElem? (hok.entry _ c hc).2.2
          exact absurd rfl ((List.nodup_append.mp hports).2.2 _ hused _ (by simp))

/-- The caller of the greeting has its answer. -/
theorem greeting_answered : greeted.Attends ∧ ∃ tr, EveryStep AcceptedBySynAck tr ∧
    tr.map (fun t => t.2.1) = greeting := by
  obtain ⟨tr, hrun, hmap⟩ := greeted_run
  have hports : greeted.ports.Nodup := by
    rw [show greeted.ports = [1] from rfl]
    decide
  obtain ⟨hattends, hok⟩ := connects_are_answered handshake_versionReply hrun
    (findsSportFree_of_nodup handshake_versionReply hrun hports)
  exact ⟨hattends, tr, hok, hmap⟩

example : answers (actsOf 1 greeted.link.out) = [.ok ()] := rfl

end Netmuxd
