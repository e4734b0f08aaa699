/-
What one step of the loop changes.

`Change` is the inversion of `Mux.Step`: nobody listed is concerned, a Connect adds
an entry or fails to, or exactly one listed connection reacts.  `Mux.Ok` is what
the loop keeps about its map whatever happens: an entry sits under its own sport,
and that sport is the one its Connect was given.
-/
import Netmuxd.Proofs.Reaction

namespace Netmuxd

open Lib

/-! ### Whom an event is for -/

/-- The sport whose entry the branch for this event looks up. -/
def Event.target (m : Mux) : Event → Option UInt16
  | .rxData sport _ => some sport
  | .drained sport _ => some sport
  | .packet pkt _ => (tcpOf pkt).map fun r => r.1.dstPort
  | .closeNext =>
    match m.phase with
    | .closing (p :: _) => some p
    | _ => none
  | _ => none

/-- The event as connection `i` meets it. -/
def Event.forConn (i : Nat) : Event → Option ConnEvent
  | .rxData _ (some bytes) => some (.data bytes)
  | .rxData _ none => some .close
  | .drained _ n => some (.drained n)
  | .packet pkt alive => (tcpOf pkt).map fun r => .packet r.1 r.2 (alive i)
  | .closeNext => some .closing
  | _ => none

/-- The entry the next Connect makes, for a service `port` of the device. -/
def Mux.newConn (m : Mux) (port : UInt16) : Connection :=
  Connection.new (m.ports.length + 1) m.nextSport port

/-- `l'` is `l` after whatever dropping the entry at `p` does. -/
def Mux.Replaced (m : Mux) (p : UInt16) (l l' : Link) : Prop :=
  match m.connections p with
  | none => l' = l
  | some old => l.After old.id old.dropActs l'

inductive Change (m : Mux) (ev : Event) (m' : Mux) : Prop
  /-- No listed connection is concerned. -/
  | elsewhere {acts : List Act} (hev : ∀ port, ev ≠ .connect port)
      (hquiet : ∀ a ∈ acts, a.spawn? = none)
      (hidle : ∀ p, ev.target m = some p → m.connections p = none)
      (hconn : m'.connections = m.connections) (hlink : m.link.After 0 acts m'.link)
      (hports : m'.ports = m.ports) (hnext : m'.nextSport = m.nextSport)
      (hphase : m.phase = .running → (∀ order, ev ≠ .stop order) → m'.phase = .running)
  | opened {port : UInt16} {a : Act} {l : Link} (hev : ev = .connect port)
      (ha : a.tcp? = some (headerOf (m.newConn port) TcpFlags.syn, []))
      (hconn : m'.connections =
        Function.update m.connections m.nextSport (some (m.newConn port)))
      (hlink : m.link.After (m.ports.length + 1) [a] l)
      (hold : m.Replaced m.nextSport l m'.link)
      (hports : m'.ports = m.ports ++ [m.nextSport])
      (hnext : m'.nextSport = max (m.nextSport + 1) 1)
      (hphase : m.phase = .running → m'.phase = .running)
  | openFailed {port : UInt16} {e : IoError} (hev : ev = .connect port)
      (hconn : m'.connections = m.connections)
      (hlink : m.link.After (m.ports.length + 1) [.sendFailed e, .reply (.error e)] m'.link)
      (hports : m'.ports = m.ports ++ [m.nextSport])
      (hnext : m'.nextSport = max (m.nextSport + 1) 1)
      (hphase : m.phase = .running → m'.phase = .running)
  | reacts {p : UInt16} {c : Connection} {cev : ConnEvent} {acts : List Act}
      {r : Option Connection} (hc : m.connections p = some c) (htarget : ev.target m = some p)
      (hcev : ev.forConn c.id = some cev) (hr : Reacts c cev acts r)
      (hout : Outcome m p c acts r m')

/-! ### The inversion -/

theorem onConnect_change {m : Mux} (hv : m.link.state.version = 2) (port : UInt16) :
    Change m (.connect port) (onConnect m port) := by
  rcases sendTcp_cases (m.newConn port) TcpFlags.syn hv
    empty_fits with ⟨a, l, heq, h, ha⟩ | ⟨e, l, heq, h⟩
  · have hbranch : onConnect m port =
        Mux.insert
          { m with nextSport := max (m.nextSport + 1) 1, ports := m.ports ++ [m.nextSport] }
          l m.nextSport (m.newConn port) := by
      simp only [onConnect]
      rw [show sendTcp m.link (Connection.new (m.ports.length + 1) m.nextSport port)
        TcpFlags.syn [] = (.ok (), l) from heq]
      rfl
    rw [hbranch, Mux.insert]
    cases hold : m.connections m.nextSport with
    | none =>
        refine Change.opened rfl ha ?_ h ?_ ?_ ?_ id
        all_goals simp [Mux.put, Mux.Replaced, hold]
    | some old =>
        refine Change.opened rfl ha ?_ h ?_ ?_ ?_ id
        all_goals simp only [Mux.put, Mux.Replaced, hold]
        exact dropped_after old l
  · have hbranch : onConnect m port =
        { m with
          nextSport := max (m.nextSport + 1) 1
          ports := m.ports ++ [m.nextSport]
          link := l.emit (m.ports.length + 1) (.reply (.error e)) } := by
      simp only [onConnect]
      rw [show sendTcp m.link (Connection.new (m.ports.length + 1) m.nextSport port)
        TcpFlags.syn [] = (.error e, l) from heq]
      rfl
    rw [hbranch]
    refine Change.openFailed rfl rfl (Link.After.trans h ?_) rfl rfl id
    exact l.emit_after _ rfl

theorem onRxData_change {m : Mux} (hv : m.link.state.version = 2) (p : UInt16)
    (payload : Option Bytes) : Change m (.rxData p payload) (onRxData m p payload) := by
  cases hc : m.connections p with
  | none =>
      have hsame : onRxData m p payload = m := by simp only [onRxData, hc]
      rw [hsame]
      refine Change.elsewhere (fun port h => by cases h) (by simp) ?_ rfl (Link.After.refl _ 0) rfl
        rfl (fun h _ => h)
      intro q hq
      cases hq
      exact hc
  | some c =>
      cases payload with
      | none =>
          obtain ⟨acts, r, hr, hout⟩ := onRxData_none hv hc
          exact Change.reacts hc rfl rfl hr hout
      | some bytes =>
          obtain ⟨acts, r, hr, hout⟩ := onRxData_some hv hc bytes
          exact Change.reacts hc rfl rfl hr hout

theorem onDrained_change {m : Mux} (hv : m.link.state.version = 2) (p : UInt16) (n : UInt32) :
    Change m (.drained p n) (onDrained m p n) := by
  cases hc : m.connections p with
  | none =>
      have hsame : onDrained m p n = m := by simp only [onDrained, hc]
      rw [hsame]
      refine Change.elsewhere (fun port h => by cases h) (by simp) ?_ rfl (Link.After.refl _ 0) rfl
        rfl (fun h _ => h)
      intro q hq
      cases hq
      exact hc
  | some c =>
      obtain ⟨acts, r, hr, hout⟩ := onDrained_reacts hv hc n
      exact Change.reacts hc rfl rfl hr hout

theorem handleIncoming_change {m : Mux} (hv : m.link.state.version = 2) (alive : Nat → Bool)
    (pkt : Bytes) : Change m (.packet pkt alive) (handleIncoming m alive pkt).2 := by
  have hquiet : tcpOf pkt = none → Change m (.packet pkt alive) m := by
    intro hnone
    refine Change.elsewhere (fun port h => by cases h) (by simp) ?_ rfl (Link.After.refl _ 0) rfl
      rfl (fun h _ => h)
    intro p hp
    simp [Event.target, hnone] at hp
  rw [handleIncoming, hv]
  cases hsplit : splitTcp 2 pkt with
  | error e => exact hquiet (by rw [tcpOf, hsplit])
  | ok r =>
      cases r with
      | none => exact hquiet (by rw [tcpOf, hsplit])
      | some r =>
          obtain ⟨th, payload⟩ := r
          have htcp : tcpOf pkt = some (th, payload) := by rw [tcpOf, hsplit]
          cases hc : m.connections th.dstPort with
          | some c =>
              obtain ⟨acts, r, hr, hout⟩ := handleTcp_reacts alive hv hc
              exact Change.reacts hc (by simp [Event.target, htcp])
                (by simp [Event.forConn, htcp]) hr hout
          | none =>
              have hidle : ∀ p, (Event.packet pkt alive).target m = some p →
                  m.connections p = none := by
                intro p hp
                simp only [Event.target, htcp, Option.map_some, Option.some.injEq] at hp
                rw [← hp]
                exact hc
              simp only [handleTcp, hc]
              by_cases hrst : th.flags &&& TcpFlags.rst = 0
              · rw [if_pos hrst]
                obtain ⟨a, hsent, ha⟩ :=
                  sendTcp_sent (Connection.anon th.dstPort th.srcPort th.seq) TcpFlags.rst hv
                refine Change.elsewhere (fun port h => by cases h) ?_ hidle rfl hsent rfl rfl
                  (fun h _ => h)
                intro b hb
                rw [List.mem_singleton.mp hb]
                exact ha.spawn?
              · rw [if_neg hrst]
                exact Change.elsewhere (fun port h => by cases h) (by simp) hidle rfl
                  (Link.After.refl _ 0) rfl rfl (fun h _ => h)

/-- Before a packet is handled its link-level sequence number is recorded. -/
theorem onPacket_eq (m : Mux) (alive : Nat → Bool) (pkt : Bytes) :
    ∃ s : MuxState, s.version = m.link.state.version ∧
      onPacket m alive pkt =
        (handleIncoming { m with link := { m.link with state := s } } alive pkt).2 := by
  by_cases h : 2 ≤ m.link.state.version ∧ v2HeaderSize ≤ pkt.length
  · exact ⟨{ m.link.state with rxSeq := u16At pkt 14 h.2 }, rfl, by rw [onPacket, dif_pos h]⟩
  · exact ⟨m.link.state, rfl, by rw [onPacket, dif_neg h]⟩

/-- The link-level sequence number is nothing `After` looks at. -/
theorem onPacket_change {m : Mux} (hv : m.link.state.version = 2) (alive : Nat → Bool)
    (pkt : Bytes) : Change m (.packet pkt alive) (onPacket m alive pkt) := by
  obtain ⟨s, hs, heq⟩ := onPacket_eq m alive pkt
  rw [heq]
  rcases handleIncoming_change (m := { m with link := { m.link with state := s } })
    (hs.trans hv) alive pkt with
    ⟨hev, hquiet, hidle, hconn, hlink, hports, hnext, hphase⟩ | ⟨hev, -, -, -, -, -, -⟩ |
      ⟨hev, -, -, -, -⟩ | ⟨hc, htarget, hcev, hr, hout⟩
  · exact Change.elsewhere hev hquiet hidle hconn (hlink.of_state hs) hports hnext hphase
  · cases hev
  · cases hev
  · exact Change.reacts hc htarget hcev hr
      ⟨hout.connections, hout.link.of_state hs, hout.ports, hout.nextSport, hout.phase⟩

theorem closeNext_change {m : Mux} (hv : m.link.state.version = 2)
    (hready : Event.closeNext.ready m = true) : Change m .closeNext (closeNext m) := by
  obtain ⟨p, rest, hphase⟩ : ∃ p rest, m.phase = .closing (p :: rest) := by
    simp only [Event.ready] at hready
    split at hready
    · rename_i p rest hphase
      exact ⟨p, rest, hphase⟩
    · cases hready
  have htarget : Event.closeNext.target m = some p := by simp [Event.target, hphase]
  cases hc : m.connections p with
  | some c =>
      obtain ⟨acts, r, hr, hout⟩ := closeNext_reacts hv hphase hc
      exact Change.reacts hc htarget rfl hr hout
  | none =>
      have hsame : closeNext m = { m with phase := .closing rest } := by
        simp only [closeNext, hphase, hc, teardown]
      rw [hsame]
      refine Change.elsewhere (fun port h => by cases h) (by simp) ?_ rfl (Link.After.refl _ 0) rfl
        rfl (fun h _ => by rw [hphase] at h; cases h)
      intro q hq
      rw [htarget] at hq
      cases hq
      exact hc

theorem Mux.Step.eq_handle {m m' : Mux} {ev : Event} (h : m.Step ev m') :
    ev.ready m = true ∧ m' = m.handle ev := by
  have hnext := h.1
  simp only [Mux.next] at hnext
  split at hnext
  · rename_i hready
    exact ⟨hready, (Option.some.inj hnext).symm⟩
  · cases hnext

/-- **A step of the loop is a change of one of four kinds.** -/
theorem Mux.Step.change {m m' : Mux} {ev : Event} (hv : m.link.state.version = 2)
    (h : m.Step ev m') : Change m ev m' := by
  obtain ⟨hready, rfl⟩ := h.eq_handle
  cases ev with
  | connect port => exact onConnect_change hv port
  | rxData p payload => exact onRxData_change hv p payload
  | drained p n => exact onDrained_change hv p n
  | packet pkt alive => exact onPacket_change hv alive pkt
  | stop order =>
      refine Change.elsewhere (fun port h => by cases h) (by simp) ?_ rfl (Link.After.refl _ 0) rfl
        rfl (fun _ h => absurd rfl (h order))
      intro p hp
      cases hp
  | closeNext => exact closeNext_change hv hready

/-! ### The log seen from one connection -/

@[simp] theorem actsOf_append (i : Nat) (out out' : List Effect) :
    actsOf i (out ++ out') = actsOf i out ++ actsOf i out' := by
  simp [actsOf]

theorem actsOf_map_self (i : Nat) (acts : List Act) : actsOf i (acts.map (Effect.mk i)) = acts := by
  induction acts with
  | nil => rfl
  | cons a rest ih => simp_all [actsOf]

theorem actsOf_map_ne {i j : Nat} (h : i ≠ j) (acts : List Act) :
    actsOf j (acts.map (Effect.mk i)) = [] := by
  simp [actsOf, h]

theorem Link.After.acts_self {l l' : Link} {i : Nat} {acts : List Act} (h : l.After i acts l') :
    actsOf i l'.out = actsOf i l.out ++ acts := by
  rw [h.out, actsOf_append, actsOf_map_self]

theorem Link.After.acts_ne {l l' : Link} {i j : Nat} {acts : List Act} (h : l.After i acts l')
    (hij : i ≠ j) : actsOf j l'.out = actsOf j l.out := by
  rw [h.out, actsOf_append, actsOf_map_ne hij, List.append_nil]

/-! ### The invariant of the map -/

/-- The sport of the `k`-th Connect, counted from 0. -/
def sportAt (k : Nat) : UInt16 :=
  UInt16.ofNat (k % 65535 + 1)

theorem sportAt_toNat (k : Nat) : (sportAt k).toNat = k % 65535 + 1 := by
  rw [sportAt, UInt16.toNat_ofNat']
  omega

/-- `next_sport.wrapping_add(1).max(1)` walks through `1..=65535` and starts over. -/
theorem sportAt_succ (k : Nat) : max (sportAt k + 1) 1 = sportAt (k + 1) := by
  apply UInt16.toNat_inj.mp
  have hmax : ∀ a : UInt16, (max a 1).toNat = max a.toNat 1 := by
    intro a
    by_cases h : a ≤ 1
    · rw [show max a 1 = 1 from if_pos h]
      have : a.toNat ≤ 1 := h
      simp
      omega
    · rw [show max a 1 = a from if_neg h]
      have : ¬ a.toNat ≤ 1 := h
      omega
  rw [hmax, UInt16.toNat_add, sportAt_toNat, sportAt_toNat, UInt16.toNat_one]
  omega

structure Mux.Ok (m : Mux) : Prop where
  version : m.link.state.version = 2
  nextSport : m.nextSport = sportAt m.ports.length
  ports : ∀ k p, m.ports[k]? = some p → p = sportAt k
  /-- An entry sits under its sport, the one its Connect was given. -/
  entry : ∀ p c, m.connections p = some c →
    c.sport = p ∧ 0 < c.id ∧ m.ports[c.id - 1]? = some p
  /-- Nothing has been done yet for a connection still to come. -/
  ids : ∀ e ∈ m.link.out, e.id ≤ m.ports.length

theorem Mux.Ok.id_le {m : Mux} (hok : m.Ok) {p : UInt16} {c : Connection}
    (hc : m.connections p = some c) : c.id ≤ m.ports.length := by
  obtain ⟨-, hpos, hport⟩ := hok.entry p c hc
  obtain ⟨hlt, -⟩ := List.getElem?_eq_some_iff.mp hport
  omega

theorem Mux.Ok.acts_nil {m : Mux} (hok : m.Ok) {i : Nat} (hi : m.ports.length < i) :
    actsOf i m.link.out = [] := by
  rw [actsOf, List.filterMap_eq_nil_iff]
  intro e he
  have := hok.ids e he
  rw [if_neg (by omega)]

theorem Link.After.ids_le {l l' : Link} {i n : Nat} {acts : List Act} (h : l.After i acts l')
    (hi : i ≤ n) (hl : ∀ e ∈ l.out, e.id ≤ n) : ∀ e ∈ l'.out, e.id ≤ n := by
  intro e he
  rw [h.out] at he
  rcases List.mem_append.mp he with hold | hnew
  · exact hl e hold
  · obtain ⟨a, -, rfl⟩ := List.mem_map.mp hnew
    exact hi

theorem Connection.accept_fields (c : Connection) (th : ParsedTcp) (payload : Bytes) :
    ∃ txAck rxBuffered, c.accept th payload = { c.hear th with txAck, rxBuffered } := by
  unfold Connection.accept
  split
  · exact ⟨_, _, rfl⟩
  · exact ⟨_, _, rfl⟩

theorem Connection.accept_same (c : Connection) (th : ParsedTcp) (payload : Bytes) :
    c.Same (c.accept th payload) := by
  obtain ⟨t, b, h⟩ := c.accept_fields th payload
  rw [h]
  exact ⟨rfl, rfl, rfl⟩

theorem Connection.accept_state (c : Connection) (th : ParsedTcp) (payload : Bytes) :
    (c.accept th payload).state = c.state ∧ (c.accept th payload).rxTx = c.rxTx := by
  obtain ⟨t, b, h⟩ := c.accept_fields th payload
  rw [h]
  exact ⟨rfl, rfl⟩

theorem Connection.Same.trans {c d e : Connection} (h : c.Same d) (h' : d.Same e) : c.Same e :=
  ⟨h'.1.trans h.1, h'.2.1.trans h.2.1, h'.2.2.trans h.2.2⟩

/-- A reaction keeps a connection's identity. -/
theorem Reacts.same {c c' : Connection} {ev : ConnEvent} {acts : List Act}
    (h : Reacts c ev acts (some c')) : c.Same c' := by
  cases h with
  | ignoredData => exact ⟨rfl, rfl, rfl⟩
  | ignoredClose => exact ⟨rfl, rfl, rfl⟩
  | data _ hm => exact hm.same
  | closeKept _ hm => exact hm.same
  | drained => exact ⟨rfl, rfl, rfl⟩
  | drainedUpdate => exact ⟨rfl, rfl, rfl⟩
  | accepted => exact ⟨rfl, rfl, rfl⟩
  | acceptFailed => exact ⟨rfl, rfl, rfl⟩
  | acked _ _ _ hm => exact (c.accept_same _ _).trans hm.same
  | ackedFailed _ _ _ hm => exact (c.accept_same _ _).trans hm.same
  | unheard => exact ⟨rfl, rfl, rfl⟩

/-- What replacing an entry does is done for that entry, if there is one. -/
theorem Mux.Replaced.after {m : Mux} {p : UInt16} {l l' : Link} (h : m.Replaced p l l') :
    ∃ j acts, l.After j acts l' ∧ (j = 0 ∨ ∃ old, m.connections p = some old ∧ j = old.id) ∧
      ¬ Failed acts := by
  unfold Mux.Replaced at h
  split at h
  · exact ⟨0, [], h ▸ Link.After.refl l 0, Or.inl rfl, not_failed_nil⟩
  · rename_i old hc
    exact ⟨old.id, old.dropActs, h, Or.inr ⟨old, hc, rfl⟩, old.not_failed_dropActs⟩

/-- A sport once handed out keeps its place. -/
theorem getElem?_grow {ports : List UInt16} {p q : UInt16} {k : Nat} (hk : ports[k]? = some p) :
    (ports ++ [q])[k]? = some p := by
  obtain ⟨hlt, -⟩ := List.getElem?_eq_some_iff.mp hk
  rw [List.getElem?_append_left hlt, hk]

theorem Mux.Ok.ports_snoc {m : Mux} (hok : m.Ok) (k : Nat) (p : UInt16)
    (hk : (m.ports ++ [m.nextSport])[k]? = some p) : p = sportAt k := by
  rcases Nat.lt_or_ge k m.ports.length with hlt | hge
  · rw [List.getElem?_append_left hlt] at hk
    exact hok.ports k p hk
  · rw [List.getElem?_append_right hge, List.getElem?_singleton] at hk
    split at hk
    · rename_i hz
      cases hk
      rw [hok.nextSport, show k = m.ports.length by omega]
    · cases hk

/-- A Connect, whether its SYN goes out or not, leaves the map in order. -/
theorem Mux.Ok.allocate {m m' : Mux} (hok : m.Ok) (hversion : m'.link.state.version = 2)
    (hp : m'.ports = m.ports ++ [m.nextSport]) (hnext : m'.nextSport = max (m.nextSport + 1) 1)
    (hconn : ∀ q d, m'.connections q = some d →
      m.connections q = some d ∨ (q = m.nextSport ∧ ∃ port, d = m.newConn port))
    (hids : ∀ e ∈ m'.link.out, e.id ≤ m.ports.length + 1) : m'.Ok where
  version := hversion
  nextSport := by
    rw [hp, hnext, List.length_append, List.length_singleton, hok.nextSport, sportAt_succ]
  ports := by
    rw [hp]
    exact hok.ports_snoc
  entry := by
    intro q d hd
    rw [hp]
    rcases hconn q d hd with hold | ⟨rfl, port, rfl⟩
    · obtain ⟨hsport, hpos, hport⟩ := hok.entry q d hold
      exact ⟨hsport, hpos, getElem?_grow hport⟩
    · exact ⟨rfl, Nat.succ_pos _, by simp [Mux.newConn, Connection.new]⟩
  ids := by
    rw [hp, List.length_append, List.length_singleton]
    exact hids

theorem Mux.Ok.step {m m' : Mux} {ev : Event} (hok : m.Ok) (h : m.Step ev m') : m'.Ok := by
  have hids : ∀ e ∈ m.link.out, e.id ≤ m.ports.length + 1 := by
    intro e he
    exact Nat.le_succ_of_le (hok.ids e he)
  rcases h.change hok.version with
    ⟨hev, -, hidle, hconn, hlink, hp, hnext⟩ | ⟨hev, ha, hconn, hlink, hold, hp, hnext⟩ |
      ⟨hev, hconn, hlink, hp, hnext⟩ | ⟨hc, htarget, hcev, hr, hout⟩
  · refine ⟨hlink.version.trans hok.version, ?_, ?_, ?_, ?_⟩
    · rw [hp, hnext, hok.nextSport]
    · rw [hp]
      exact hok.ports
    · rw [hp, hconn]
      exact hok.entry
    · rw [hp]
      exact hlink.ids_le (Nat.zero_le _) hok.ids
  · rename_i port _ _ _
    obtain ⟨j, acts, hafter, hj, -⟩ := hold.after
    have hle : j ≤ m.ports.length + 1 := by
      rcases hj with rfl | ⟨old, hc, rfl⟩
      · exact Nat.zero_le _
      · exact Nat.le_succ_of_le (hok.id_le hc)
    refine hok.allocate ?_ hp hnext ?_ (hafter.ids_le hle (hlink.ids_le (Nat.le_refl _) hids))
    · rw [hafter.version, hlink.version, hok.version]
    · intro q d hd
      rw [hconn, Function.update_apply] at hd
      split at hd
      · rename_i hq
        exact Or.inr ⟨hq, port, (Option.some.inj hd).symm⟩
      · exact Or.inl hd
  · refine hok.allocate (hlink.version.trans hok.version) hp hnext ?_
      (hlink.ids_le (Nat.le_refl _) hids)
    intro q d hd
    rw [hconn] at hd
    exact Or.inl hd
  · rename_i p c cev acts r
    refine ⟨hout.link.version.trans hok.version, ?_, ?_, ?_, ?_⟩
    · rw [hout.ports, hout.nextSport, hok.nextSport]
    · rw [hout.ports]
      exact hok.ports
    · intro q d hd
      rw [hout.ports]
      rw [hout.connections, Function.update_apply] at hd
      split at hd
      · rename_i hq
        subst hd
        obtain ⟨hid, hsport, -⟩ := hr.same
        rw [hid, hsport, hq]
        exact hok.entry p c hc
      · exact hok.entry q d hd
    · rw [hout.ports]
      exact hout.link.ids_le (hok.id_le hc) hok.ids

end Netmuxd
