/-
A writer that is still there might as well last for ever.

How many frames the writer task takes before it is gone is fixed when a run begins, and
the loop never looks at it: it only finds out when a send fails.  So a run that ends with
the writer still there is, but for that number, a run with a writer that lives on.
-/
import Netmuxd.Proofs.Life

namespace Netmuxd

open Lib

/-- The link with a writer that lives on. -/
def Link.lasting (l : Link) : Link :=
  { l with writeLeft := none }

/-- The loop with a writer that lives on. -/
def Mux.lasting (m : Mux) : Mux :=
  { m with link := m.link.lasting }

/-- `r'` is `r` but for the number of frames the writer takes, or its writer is gone. -/
def Mux.Outlived (r r' : Mux) : Prop :=
  r' = r.lasting ∨ r.link.writeLeft = some 0

/-! ### Sending -/

section
variable {l : Link} {c : Connection}

theorem sendTcp_lasting (hv : l.state.version = 2) (c : Connection) (flags : UInt8)
    {payload : Bytes} (hp : payload.length ≤ maxPayload) :
    (∃ k, sendTcp l c flags payload = (.ok (), k) ∧ k.state.version = 2 ∧
        sendTcp l.lasting c flags payload = (.ok (), k.lasting)) ∨
      ∃ e k, sendTcp l c flags payload = (.error e, k) ∧ k.state.version = 2 ∧
        k.writeLeft = some 0 := by
  have hv' : l.lasting.state.version = 2 := hv
  rw [sendTcp_eq hv hp, sendTcp_eq hv' hp]
  obtain ⟨st, left, out⟩ := l
  cases left with
  | none => exact .inl ⟨_, rfl, hv, rfl⟩
  | some left =>
      cases left with
      | zero => exact .inr ⟨.writerGone, _, rfl, hv, rfl⟩
      | succ left => exact .inl ⟨_, rfl, hv, rfl⟩

theorem flushTurn_lasting {s s' : Link × Connection}
    (h : s.1.state.version = 2 ∧ s' = (s.1.lasting, s.2)) :
    Turn.Related
      (fun s s' : Link × Connection => s.1.state.version = 2 ∧ s' = (s.1.lasting, s.2))
      (fun r r' : Except IoError Unit × Link × Connection => r.2.1.state.version = 2 ∧
        ((r.1 = .ok () ∧ r' = (.ok (), r.2.1.lasting, r.2.2)) ∨
          (∃ e, r.1 = .error e) ∧ r.2.1.writeLeft = some 0))
      (flushTurn s) (flushTurn s') := by
  obtain ⟨l, c⟩ := s
  obtain ⟨hv, rfl⟩ := h
  dsimp only at hv
  unfold flushTurn
  dsimp only
  split
  · exact .leave ⟨hv, .inl ⟨rfl, rfl⟩⟩
  split
  · exact .leave ⟨hv, .inl ⟨rfl, rfl⟩⟩
  split
  · exact .leave ⟨hv, .inl ⟨rfl, rfl⟩⟩
  generalize hk : min (min c.pendingTx.length maxPayload)
    (c.rxWin - (c.txSeq - c.rxAck)).toNat = k
  have hfits : (c.pendingTx.take k).length ≤ maxPayload := by
    rw [List.length_take]
    omega
  rcases sendTcp_lasting hv { c with pendingTx := c.pendingTx.drop k } TcpFlags.ack hfits with
    ⟨j, heq, hj, heq'⟩ | ⟨e, j, heq, hj, hgone⟩
  · rw [heq, heq']
    exact .again ⟨hj, rfl⟩
  · rw [heq]
    exact .abandon fun _ => ⟨hj, .inr ⟨⟨e, rfl⟩, hgone⟩⟩

theorem flushPending_lasting (hv : l.state.version = 2) (c : Connection) :
    (∃ k d, flushPending l c = (.ok (), k, d) ∧ k.state.version = 2 ∧
        flushPending l.lasting c = (.ok (), k.lasting, d)) ∨
      ∃ e k d, flushPending l c = (.error e, k, d) ∧ k.state.version = 2 ∧
        k.writeLeft = some 0 := by
  have hloop : (flushLoop l c).2.1.state.version = 2 ∧
      (((flushLoop l c).1 = .ok () ∧
          flushLoop l.lasting c = (.ok (), (flushLoop l c).2.1.lasting, (flushLoop l c).2.2)) ∨
        (∃ e, (flushLoop l c).1 = .error e) ∧ (flushLoop l c).2.1.writeLeft = some 0) :=
    whileLoop_related (fun _ _ => flushTurn_lasting) ⟨hv, rfl⟩ rfl
  unfold flushPending
  revert hloop
  generalize flushLoop l c = r
  intro hloop
  obtain ⟨res, k, d⟩ := r
  obtain ⟨hk, ⟨hres, heq⟩ | ⟨⟨e, hres⟩, hgone⟩⟩ := hloop
  · dsimp only at hres hk
    subst hres
    rw [heq]
    dsimp only
    split
    · exact .inl ⟨_, _, rfl, hk, rfl⟩
    · exact .inl ⟨_, _, rfl, hk, rfl⟩
  · dsimp only at hres hk hgone
    subst hres
    exact .inr ⟨e, k, d, rfl, hk, hgone⟩

/-- A send whose result nobody looks at. -/
theorem sendTcp_outlived (hv : l.state.version = 2) (c : Connection) (flags : UInt8) :
    (sendTcp l.lasting c flags []).2 = (sendTcp l c flags []).2.lasting ∨
      (sendTcp l c flags []).2.writeLeft = some 0 := by
  rcases sendTcp_lasting hv c flags empty_fits with ⟨k, heq, -, heq'⟩ | ⟨e, k, heq, -, hgone⟩
  · rw [heq, heq']
    exact .inl rfl
  · rw [heq]
    exact .inr hgone

end

/-! ### The branches -/

section
variable {m r r' : Mux} {l : Link} {c : Connection} {q : UInt16}

theorem tornDown_lasting (c : Connection) (l : Link) :
    c.tornDown l.lasting = (c.tornDown l).lasting := by
  unfold Connection.tornDown
  cases c.rxTx <;> cases c.connectReply <;> rfl

theorem tornDown_writeLeft (c : Connection) (l : Link) :
    (c.tornDown l).writeLeft = l.writeLeft := by
  unfold Connection.tornDown
  cases c.rxTx <;> cases c.connectReply <;> rfl

theorem teardown_writeLeft (m : Mux) (q : UInt16) :
    (teardown m q).link.writeLeft = m.link.writeLeft := by
  cases hc : m.connections q with
  | none => simp only [teardown, hc]
  | some c =>
      rw [teardown_eq hc]
      exact tornDown_writeLeft c m.link

theorem teardown_lasting (m : Mux) (q : UInt16) :
    teardown m.lasting q = (teardown m q).lasting := by
  cases hc : m.connections q with
  | none =>
      have hc' : m.lasting.connections q = none := hc
      simp only [teardown, hc, hc']
  | some c =>
      have hc' : m.lasting.connections q = some c := hc
      rw [teardown_eq hc, teardown_eq hc', show m.lasting.link = m.link.lasting from rfl,
        tornDown_lasting]
      rfl

theorem Mux.Outlived.tear (h : r.Outlived r') (q : UInt16) :
    (teardown r q).Outlived (teardown r' q) := by
  rcases h with rfl | hgone
  · exact .inl (teardown_lasting r q)
  · exact .inr ((teardown_writeLeft r q).trans hgone)

theorem Mux.Outlived.put {k k' : Link} (h : k' = k.lasting ∨ k.writeLeft = some 0) (m : Mux)
    (q : UInt16) (c : Connection) : (m.put k q c).Outlived (m.lasting.put k' q c) := by
  rcases h with rfl | hgone
  · exact .inl rfl
  · exact .inr hgone

theorem handleConnecting_outlived (hv : m.link.state.version = 2) (c : Connection) (th : ParsedTcp)
    (payload : Bytes) : (handleConnecting m c th payload).2.Outlived
      (handleConnecting m.lasting c th payload).2 := by
  unfold handleConnecting
  dsimp only
  by_cases hflags : th.flags = TcpFlags.syn ||| TcpFlags.ack
  · rw [if_pos hflags, if_pos hflags]
    rcases sendTcp_lasting hv { c with txSeq := c.txSeq + 1, txAck := c.txAck + 1 } TcpFlags.ack
      empty_fits with ⟨k, heq, -, heq'⟩ | ⟨e, k, heq, -, hgone⟩
    · rw [heq, show m.lasting.link = m.link.lasting from rfl, heq']
      cases c.connectReply <;> exact .inl rfl
    · rw [heq]
      exact .inr hgone
  · rw [if_neg hflags, if_neg hflags]
    cases c.connectReply with
    | true => exact (Mux.Outlived.put (.inl rfl) m th.dstPort _).tear th.dstPort
    | false => exact (Mux.Outlived.put (.inl rfl) m th.dstPort c).tear th.dstPort

theorem flushAndClose_outlived (hl : l.state.version = 2) (m : Mux) (c : Connection) (q : UInt16) :
    (flushAndClose m l c q).2.Outlived (flushAndClose m.lasting l.lasting c q).2 := by
  unfold flushAndClose
  rcases flushPending_lasting hl c with ⟨k, d, heq, hk, heq'⟩ | ⟨e, k, d, heq, -, hgone⟩
  · rw [heq, heq']
    dsimp only
    by_cases hdone : (d.clientClosed && txDrained d) = true
    · rw [if_pos hdone, if_pos hdone]
      rcases sendTcp_lasting hk d TcpFlags.rst empty_fits with
        ⟨j, hrst, -, hrst'⟩ | ⟨e, j, hrst, -, hgone⟩
      · rw [hrst, hrst']
        exact (Mux.Outlived.put (.inl rfl) m q d).tear q
      · rw [hrst]
        exact .inr hgone
    · rw [if_neg hdone, if_neg hdone]
      exact .inl rfl
  · rw [heq]
    exact .inr hgone

theorem handleConnected_outlived (hv : m.link.state.version = 2) (alive : Bool) (c : Connection)
    (th : ParsedTcp) (payload : Bytes) : (handleConnected m alive c th payload).2.Outlived
      (handleConnected m.lasting alive c th payload).2 := by
  unfold handleConnected
  dsimp only
  by_cases hrst : th.flags &&& TcpFlags.rst ≠ 0
  · rw [if_pos hrst, if_pos hrst]
    exact (Mux.Outlived.put (.inl rfl) m th.dstPort c).tear th.dstPort
  rw [if_neg hrst, if_neg hrst]
  by_cases hack : th.flags ≠ TcpFlags.ack
  · rw [if_pos hack, if_pos hack]
    exact (Mux.Outlived.put (.inl rfl) m th.dstPort c).tear th.dstPort
  rw [if_neg hack, if_neg hack]
  cases payload.isEmpty with
  | true => exact flushAndClose_outlived hv m c th.dstPort
  | false =>
      simp only [Bool.false_eq_true, if_false]
      cases c.rxTx && alive with
      | true =>
          simp only [if_true]
          have hchunk : (m.link.emit c.id (.chunk payload)).state.version = 2 := hv
          rcases sendTcp_lasting hchunk
            { c with
              rxBuffered := saturatingAdd c.rxBuffered (UInt32.ofNat payload.length)
              txAck := c.txAck + UInt32.ofNat payload.length } TcpFlags.ack empty_fits with
            ⟨k, heq, hk, heq'⟩ | ⟨e, k, heq, -, hgone⟩
          · rw [heq, show m.lasting.link.emit c.id (.chunk payload) =
              (m.link.emit c.id (.chunk payload)).lasting from rfl, heq']
            exact flushAndClose_outlived hk m _ th.dstPort
          · rw [heq]
            exact .inr hgone
      | false =>
          simp only [Bool.false_eq_true, if_false]
          have hput := Mux.Outlived.put (sendTcp_outlived hv c TcpFlags.rst) m th.dstPort c
          exact hput.tear th.dstPort

theorem handleTcp_outlived (hv : m.link.state.version = 2) (alive : Nat → Bool) (th : ParsedTcp)
    (payload : Bytes) :
    (handleTcp m alive th payload).2.Outlived (handleTcp m.lasting alive th payload).2 := by
  unfold handleTcp
  dsimp only
  rw [show m.lasting.connections = m.connections from rfl]
  cases m.connections th.dstPort with
  | none =>
      dsimp only
      by_cases hrst : th.flags &&& TcpFlags.rst = 0
      · rw [if_pos hrst, if_pos hrst]
        rcases sendTcp_outlived hv (Connection.anon th.dstPort th.srcPort th.seq) TcpFlags.rst with
          heq | hgone
        · refine .inl ?_
          rw [show m.lasting.link = m.link.lasting from rfl, heq]
          rfl
        · exact .inr hgone
      · rw [if_neg hrst, if_neg hrst]
        exact .inl rfl
  | some c =>
      dsimp only
      cases c.state with
      | connecting => exact handleConnecting_outlived hv _ th payload
      | connected => exact handleConnected_outlived hv _ _ th payload
      | dead => exact .inl rfl

theorem onRxData_outlived (hv : m.link.state.version = 2) (q : UInt16) (payload : Option Bytes) :
    (onRxData m q payload).Outlived (onRxData m.lasting q payload) := by
  unfold onRxData
  rw [show m.lasting.connections = m.connections from rfl]
  cases m.connections q with
  | none => exact .inl rfl
  | some c =>
      dsimp only
      by_cases hs : c.state ≠ .connected
      · rw [if_pos hs, if_pos hs]
        exact .inl rfl
      rw [if_neg hs, if_neg hs]
      cases payload with
      | some bytes =>
          dsimp only
          rcases flushPending_lasting hv { c with pendingTx := c.pendingTx ++ bytes } with
            ⟨k, d, heq, hk, heq'⟩ | ⟨e, k, d, heq, -, hgone⟩
          · rw [heq, show m.lasting.link = m.link.lasting from rfl, heq']
            dsimp only
            split
            · exact .inl rfl
            · exact .inl rfl
          · rw [heq]
            exact .inr ((teardown_writeLeft _ q).trans hgone)
      | none =>
          have hreset : ∀ (k : Link) (d : Connection), k.state.version = 2 →
              (teardown (m.put (sendTcp k d TcpFlags.rst []).2 q d) q).Outlived
                (teardown (m.lasting.put (sendTcp k.lasting d TcpFlags.rst []).2 q d) q) :=
            fun k d hk => (Mux.Outlived.put (sendTcp_outlived hk d TcpFlags.rst) m q d).tear q
          dsimp only
          rcases flushPending_lasting hv { c with clientClosed := true } with
            ⟨k, d, heq, hk, heq'⟩ | ⟨e, k, d, heq, hk, hgone⟩
          · rw [heq, show m.lasting.link = m.link.lasting from rfl, heq']
            dsimp only
            by_cases hdone : txDrained d = true
            · rw [if_pos hdone, if_pos hdone]
              exact hreset k d hk
            · rw [if_neg hdone, if_neg hdone]
              exact .inl rfl
          · rw [heq]
            obtain ⟨a, hafter, -⟩ := sendTcp_sent d TcpFlags.rst hk
            exact .inr ((teardown_writeLeft _ q).trans (hafter.dead hgone).1)

theorem onDrained_outlived (hv : m.link.state.version = 2) (q : UInt16) (n : UInt32) :
    (onDrained m q n).Outlived (onDrained m.lasting q n) := by
  unfold onDrained
  rw [show m.lasting.connections = m.connections from rfl]
  cases m.connections q with
  | none => exact .inl rfl
  | some c =>
      dsimp only
      split
      · exact Mux.Outlived.put (sendTcp_outlived hv _ TcpFlags.ack) m q _
      · exact .inl rfl

theorem dropped_lasting (c : Connection) (l : Link) :
    c.dropped l.lasting = (c.dropped l).lasting := by
  unfold Connection.dropped
  cases c.rxTx <;> cases c.connectReply <;> rfl

theorem Mux.insert_lasting (m : Mux) (k : Link) (q : UInt16) (c : Connection) :
    m.lasting.insert k.lasting q c = (m.insert k q c).lasting := by
  unfold Mux.insert
  rw [show m.lasting.connections = m.connections from rfl]
  cases m.connections q with
  | none => rfl
  | some old =>
      dsimp only
      rw [dropped_lasting]
      rfl

theorem onConnect_outlived (hv : m.link.state.version = 2) (port : UInt16) :
    (onConnect m port).Outlived (onConnect m.lasting port) := by
  unfold onConnect
  dsimp only
  rcases sendTcp_lasting hv (Connection.new (m.ports.length + 1) m.nextSport port) TcpFlags.syn
    empty_fits with ⟨k, heq, -, heq'⟩ | ⟨e, k, heq, -, hgone⟩
  · rw [heq, show m.lasting.link = m.link.lasting from rfl, show m.lasting.ports = m.ports from rfl,
      show m.lasting.nextSport = m.nextSport from rfl, heq']
    refine .inl ?_
    exact Mux.insert_lasting
      { m with nextSport := max (m.nextSport + 1) 1, ports := m.ports ++ [m.nextSport] } k
      m.nextSport _
  · rw [heq]
    exact .inr hgone

theorem onPacket_outlived (hv : m.link.state.version = 2) (alive : Nat → Bool) (pkt : Bytes) :
    (onPacket m alive pkt).Outlived (onPacket m.lasting alive pkt) := by
  have hincoming : ∀ n : Mux, n.link.state.version = 2 →
      (handleIncoming n alive pkt).2.Outlived (handleIncoming n.lasting alive pkt).2 := by
    intro n hn
    unfold handleIncoming
    rw [show n.lasting.link.state = n.link.state from rfl]
    cases splitTcp n.link.state.version pkt with
    | error e => exact .inl rfl
    | ok r =>
        cases r with
        | none => exact .inl rfl
        | some r => exact handleTcp_outlived hn alive r.1 r.2
  by_cases h : 2 ≤ m.link.state.version ∧ v2HeaderSize ≤ pkt.length
  · have h' : 2 ≤ m.lasting.link.state.version ∧ v2HeaderSize ≤ pkt.length := h
    rw [onPacket, onPacket, dif_pos h, dif_pos h']
    exact hincoming { m with
      link := { m.link with state := { m.link.state with rxSeq := u16At pkt 14 h.2 } } } hv
  · have h' : ¬ (2 ≤ m.lasting.link.state.version ∧ v2HeaderSize ≤ pkt.length) := h
    rw [onPacket, onPacket, dif_neg h, dif_neg h']
    exact hincoming m hv

theorem closeNext_outlived (hv : m.link.state.version = 2) :
    (closeNext m).Outlived (closeNext m.lasting) := by
  unfold closeNext
  rw [show m.lasting.phase = m.phase from rfl]
  cases m.phase with
  | running => exact .inl rfl
  | closing ports =>
      cases ports with
      | nil => exact .inl rfl
      | cons p rest =>
          dsimp only
          rw [show m.lasting.connections = m.connections from rfl]
          cases m.connections p with
          | none => exact .inl (teardown_lasting { m with phase := .closing rest } p)
          | some c =>
              have hsent : Mux.Outlived
                  { m with phase := .closing rest, link := (sendTcp m.link c TcpFlags.rst []).2 }
                  { m.lasting with
                    phase := .closing rest
                    link := (sendTcp m.link.lasting c TcpFlags.rst []).2 } := by
                rcases sendTcp_outlived hv c TcpFlags.rst with heq | hgone
                · rw [heq]
                  exact .inl rfl
                · exact .inr hgone
              exact hsent.tear p

/-! ### Steps and runs -/

theorem Mux.handle_outlived (hv : m.link.state.version = 2) (ev : Event) :
    (m.handle ev).Outlived (m.lasting.handle ev) := by
  cases ev with
  | connect port => exact onConnect_outlived hv port
  | rxData p payload => exact onRxData_outlived hv p payload
  | drained p n => exact onDrained_outlived hv p n
  | packet pkt alive => exact onPacket_outlived hv alive pkt
  | stop order => exact .inl rfl
  | closeNext => exact closeNext_outlived hv

/-- A step that leaves the writer there is one that a writer for ever would have seen. -/
theorem Mux.Step.lasting {m m' : Mux} {ev : Event} (hok : m.Ok) (h : m.Step ev m')
    (hthere : m'.link.writeLeft ≠ some 0) : m.lasting.Step ev m'.lasting := by
  obtain ⟨hready, rfl⟩ := h.eq_handle
  have hsame : m.lasting.handle ev = (m.handle ev).lasting :=
    (Mux.handle_outlived hok.version ev).resolve_right hthere
  have hready' : ev.ready m.lasting = true := hready
  refine ⟨?_, ?_⟩
  · rw [Mux.next, if_pos hready', hsame]
  · cases ev with
    | stop order => exact h.2
    | _ => trivial

theorem Mux.Ok.lasting {m : Mux} (hok : m.Ok) : m.lasting.Ok :=
  ⟨hok.version, hok.nextSport, hok.ports, hok.entry, hok.ids⟩

/-- The steps of a run, with a writer that lives on. -/
def lastingSteps (tr : List (Mux × Event × Mux)) : List (Mux × Event × Mux) :=
  tr.map fun t => (t.1.lasting, t.2.1, t.2.2.lasting)

/-- **A run that leaves the writer there is one with a writer for ever.** -/
theorem run_lasting {m m' : Mux} {tr : List (Mux × Event × Mux)} (hok : m.Ok)
    (h : Run Mux.Step m tr m') (hthere : m'.link.writeLeft ≠ some 0) :
    Run Mux.Step m.lasting (lastingSteps tr) m'.lasting := by
  induction h with
  | nil => exact Run.nil
  | snoc hrun hstep ih =>
      have hok' := hrun.invariant hok (fun _ _ _ hm hs => hm.step hs)
      have hbefore := mt (hstep.kept hok').dead hthere
      rw [lastingSteps, List.map_append]
      exact Run.snoc (ih hbefore) (hstep.lasting hok' hthere)

end

end Netmuxd
