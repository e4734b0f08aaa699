/-
How an entry leaves the map, and what the device hears of it.

Every branch that finishes a connection on the client's account queues an RST, and so
does leaving the loop.  What the device brings about is another matter: an entry is
also taken out, without a frame, for flags the loop does not expect, and a Connect
that is given a sport in use takes its place.  `Expected` is what rules these out, and
a step meets it exactly if both ends agree afterwards.
-/
import Netmuxd.Proofs.Ports
import Netmuxd.Proofs.Tasks

namespace Netmuxd

open Lib

/-! ### Statement -/

/-- The RST flag is set. -/
def ParsedTcp.IsRst (th : ParsedTcp) : Prop :=
  th.flags &&& TcpFlags.rst ≠ 0

instance (th : ParsedTcp) : Decidable th.IsRst :=
  inferInstanceAs (Decidable (_ ≠ _))

/-- An RST between the ports of `c` is among these acts. -/
def Connection.TellsRst (c : Connection) (acts : List Act) : Prop :=
  ∃ a ∈ acts, ∃ th payload, a.tcp? = some (th, payload) ∧ th.IsRst ∧
    th.srcPort = c.sport ∧ th.dstPort = c.dport

/-- The event is an RST from the device between the ports of `c`. -/
def Connection.HearsRst (c : Connection) (ev : Event) : Prop :=
  ∃ pkt alive th payload, ev = .packet pkt alive ∧ tcpOf pkt = some (th, payload) ∧ th.IsRst ∧
    th.dstPort = c.sport ∧ th.srcPort = c.dport

/-- Whenever an entry leaves the map, the device has reset the connection or is told. -/
def PartsInAgreement (m : Mux) (ev : Event) (m' : Mux) : Prop :=
  ∀ p c, m.connections p = some c → (∀ c', m'.connections p = some c' → c'.id ≠ c.id) →
    c.HearsRst ev ∨ ∃ new, m'.link.out = m.link.out ++ new ∧ c.TellsRst (new.map Effect.act)

/--
A Connect finds its sport free.  A TCP packet for a listed connection either carries
RST and comes from the connection's port on the device, or is the SYN/ACK of one that
is being opened, or the plain ACK of one that is open.
-/
def Expected (m : Mux) : Event → Prop
  | .connect _ => m.connections m.nextSport = none
  | .packet pkt _ =>
    ∀ th payload c, tcpOf pkt = some (th, payload) → m.connections th.dstPort = some c →
      (th.IsRst → th.srcPort = c.dport) ∧
        (¬ th.IsRst → th.flags = if c.state = .connecting then synAck else TcpFlags.ack)
  | _ => True

/-! ### What a reaction says -/

theorem synAck_not_rst {th : ParsedTcp} (h : th.flags = synAck) : ¬ th.IsRst := by
  rw [ParsedTcp.IsRst, h]
  decide

theorem ack_not_rst {th : ParsedTcp} (h : th.flags = TcpFlags.ack) : ¬ th.IsRst := by
  rw [ParsedTcp.IsRst, h]
  decide

theorem Sent.tellsRst {c c' : Connection} {a : Act} {acts : List Act}
    (ha : Sent c' TcpFlags.rst a) (hmem : a ∈ acts) (hok : ¬ Failed acts) (hsame : c.Same c') :
    c.TellsRst acts := by
  rcases ha with ha | ⟨e, rfl⟩
  · refine ⟨a, hmem, _, _, ha, ?_, hsame.2.1, hsame.2.2⟩
    rw [ParsedTcp.IsRst, headerOf_flags]
    decide
  · exact absurd ⟨e, hmem⟩ hok

theorem Connection.not_tellsRst_of_quiet {c : Connection} {acts : List Act}
    (hq : ∀ a ∈ acts, a.tcp? = none) : ¬ c.TellsRst acts := by
  rintro ⟨a, ha, th, payload, htcp, -⟩
  rw [hq a ha] at htcp
  cases htcp

/-- An entry that goes for any other reason than a packet leaves an RST behind. -/
theorem Reacts.tellsRst {c : Connection} {cev : ConnEvent} {acts : List Act}
    (hr : Reacts c cev acts none) (hok : ¬ Failed acts)
    (hcev : ∀ th payload alive, cev ≠ .packet th payload alive) : c.TellsRst acts := by
  cases hr with
  | dataFailed _ _ hfail => exact absurd (failed_append.mpr (Or.inl hfail)) hok
  | closeDone _ hm _ ha => exact ha.tellsRst (by simp) hok hm.same
  | closeFailed _ hm _ ha => exact ha.tellsRst (by simp) hok hm.same
  | refused => exact absurd rfl (hcev _ _ _)
  | reset => exact absurd rfl (hcev _ _ _)
  | undelivered => exact absurd rfl (hcev _ _ _)
  | ackedDone => exact absurd rfl (hcev _ _ _)
  | closing ha => exact ha.tellsRst (by simp) hok ⟨rfl, rfl, rfl⟩

/-- An entry that goes because of a packet leaves an RST behind exactly if the packet is a
plain ACK on an open connection. -/
theorem Reacts.tellsRst_iff {c : Connection} {th : ParsedTcp} {payload : Bytes} {alive : Bool}
    {acts : List Act} (hr : Reacts c (.packet th payload alive) acts none) (hok : ¬ Failed acts) :
    c.TellsRst acts ↔ c.state = .connected ∧ th.flags = TcpFlags.ack := by
  cases hr with
  | refused hs hflags =>
      refine iff_of_false (Connection.not_tellsRst_of_quiet ?_) ?_
      · intro a ha
        rcases Connection.mem_letGo ha with rfl | rfl <;> rfl
      · rintro ⟨hs', -⟩
        rw [hs] at hs'
        cases hs'
  | reset hs hflags =>
      refine iff_of_false (Connection.not_tellsRst_of_quiet c.tearActs_quiet) ?_
      rintro ⟨-, hack⟩
      rcases hflags with hrst | hne
      · exact ack_not_rst hack hrst
      · exact hne hack
  | undelivered hs hflags _ _ ha =>
      exact iff_of_true (ha.tellsRst (by simp) hok ⟨rfl, rfl, rfl⟩) ⟨hs, hflags⟩
  | ackedDone hs hflags _ hm _ _ ha =>
      refine iff_of_true (Sent.tellsRst (Or.inl ha) (by simp) hok ?_) ⟨hs, hflags⟩
      exact (c.accept_same _ _).trans hm.same

/-- A packet that is not expected takes the entry out; no live connection is dead. -/
theorem Reacts.stays {c c' : Connection} {th : ParsedTcp} {payload : Bytes} {alive : Bool}
    {acts : List Act} (hr : Reacts c (.packet th payload alive) acts (some c'))
    (hs : c.state ≠ .dead) :
    ¬ th.IsRst ∧ th.flags = if c.state = .connecting then synAck else TcpFlags.ack := by
  cases hr with
  | accepted hs' hflags _ => exact ⟨synAck_not_rst hflags, by rw [if_pos hs', hflags]⟩
  | acceptFailed hs' hflags => exact ⟨synAck_not_rst hflags, by rw [if_pos hs', hflags]⟩
  | acked hs' hflags _ _ _ _ _ =>
      exact ⟨ack_not_rst hflags, by rw [if_neg (by simp [hs']), hflags]⟩
  | ackedFailed hs' hflags _ _ _ =>
      exact ⟨ack_not_rst hflags, by rw [if_neg (by simp [hs']), hflags]⟩
  | unheard hs' => exact absurd hs' hs

/-- **A packet and the entry it is for**: they part in agreement exactly if the packet is
one of those expected. -/
theorem Reacts.agrees_iff {c : Connection} {th : ParsedTcp} {payload : Bytes} {alive : Bool}
    {acts : List Act} {r : Option Connection} (hr : Reacts c (.packet th payload alive) acts r)
    (hs : c.state ≠ .dead) (hok : ¬ Failed acts) :
    (r = none → (th.IsRst ∧ th.srcPort = c.dport) ∨ c.TellsRst acts) ↔
      (th.IsRst → th.srcPort = c.dport) ∧
        (¬ th.IsRst → th.flags = if c.state = .connecting then synAck else TcpFlags.ack) := by
  cases r with
  | some c' =>
      obtain ⟨hrst, hflags⟩ := hr.stays hs
      refine iff_of_true (fun h => by cases h) ⟨fun h => absurd h hrst, fun _ => hflags⟩
  | none =>
      have htell := hr.tellsRst_iff hok
      constructor
      · intro hagree
        constructor
        · intro hrst
          rcases hagree rfl with ⟨-, hsrc⟩ | htells
          · exact hsrc
          · exact absurd hrst (ack_not_rst (htell.mp htells).2)
        · intro hrst
          rcases hagree rfl with ⟨hrst', -⟩ | htells
          · exact absurd hrst' hrst
          · obtain ⟨hconn, hack⟩ := htell.mp htells
            rw [if_neg (by simp [hconn]), hack]
      · rintro ⟨hsrc, hflags⟩ -
        by_cases hrst : th.IsRst
        · exact Or.inl ⟨hrst, hsrc hrst⟩
        refine Or.inr (htell.mpr ?_)
        have hexp := hflags hrst
        cases hr with
        | refused hs' hne => exact absurd (hexp.trans (if_pos hs')) hne
        | reset hs' hne =>
            rw [if_neg (by simp [hs'])] at hexp
            exact absurd hexp (hne.resolve_left hrst)
        | undelivered hs' hack _ _ _ => exact ⟨hs', hack⟩
        | ackedDone hs' hack _ _ _ _ _ => exact ⟨hs', hack⟩

/-! ### Steps and runs -/

theorem Mux.Lives.not_dead {live : Prop} {m : Mux} (hm : m.Lives live) {p : UInt16}
    {c : Connection} (hc : m.connections p = some c) : c.state ≠ .dead :=
  (hm.listed hc).not_dead c rfl

/-- Agreement, for a step that concerns one listed connection. -/
theorem Outcome.agrees_iff {m m' : Mux} {ev : Event} {p : UInt16} {c : Connection}
    {cev : ConnEvent} {acts : List Act} {r : Option Connection}
    (hc : m.connections p = some c) (hr : Reacts c cev acts r) (hout : Outcome m p c acts r m') :
    PartsInAgreement m ev m' ↔ (r = none → c.HearsRst ev ∨ c.TellsRst acts) := by
  have hacts : ∀ {new : List Effect}, m'.link.out = m.link.out ++ new →
      new.map Effect.act = acts := by
    intro new hnew
    rw [hout.link.out] at hnew
    rw [← List.append_cancel_left hnew, List.map_map]
    exact List.map_id' acts
  constructor
  · intro hagree hnone
    have hgone : ∀ c', m'.connections p = some c' → c'.id ≠ c.id := by
      intro c' hc'
      rw [hout.connections, Function.update_self, hnone] at hc'
      cases hc'
    rcases hagree p c hc hgone with hhears | ⟨new, hnew, htells⟩
    · exact Or.inl hhears
    · exact Or.inr (hacts hnew ▸ htells)
  · intro hagree q d hd hgone
    rw [hout.connections] at hgone
    by_cases hq : q = p
    · subst hq
      rw [hc] at hd
      cases hd
      have hnone : r = none := by
        cases r with
        | none => rfl
        | some c' =>
            rw [Function.update_self] at hgone
            exact absurd hr.same.1 (hgone c' rfl)
      rcases hagree hnone with hhears | htells
      · exact Or.inl hhears
      · refine Or.inr ⟨_, hout.link.out, ?_⟩
        rw [hacts hout.link.out]
        exact htells
    · rw [Function.update_of_ne hq, hd] at hgone
      exact absurd rfl (hgone d rfl)

/-- An entry that stays where it is has not left. -/
theorem PartsInAgreement.of_kept {m m' : Mux} {ev : Event}
    (hkept : ∀ p c, m.connections p = some c → m'.connections p = some c) :
    PartsInAgreement m ev m' :=
  fun p c hc hgone => absurd rfl (hgone c (hkept p c hc))

/-- A Connect agrees with everybody exactly if its sport is free: the frame it queues is
the new connection's SYN. -/
theorem Mux.Ok.opened_agrees_iff {m m' : Mux} {port : UInt16} {a : Act} {l : Link} (hok : m.Ok)
    (ha : a.tcp? = some (headerOf (m.newConn port) TcpFlags.syn, []))
    (hconn : m'.connections = Function.update m.connections m.nextSport (some (m.newConn port)))
    (hlink : m.link.After (m.ports.length + 1) [a] l) (hold : m.Replaced m.nextSport l m'.link) :
    PartsInAgreement m (.connect port) m' ↔ m.connections m.nextSport = none := by
  constructor
  · intro hagree
    by_contra hused
    obtain ⟨old, hold'⟩ := Option.ne_none_iff_exists'.mp hused
    have hgone : ∀ c', m'.connections m.nextSport = some c' → c'.id ≠ old.id := by
      intro c' hc' hid
      rw [hconn, Function.update_self] at hc'
      cases hc'
      have hle := hok.id_le hold'
      rw [show (m.newConn port).id = m.ports.length + 1 from rfl] at hid
      omega
    rcases hagree _ old hold' hgone with ⟨pkt, alive, th, payload, hev, -⟩ | ⟨new, hnew, htells⟩
    · cases hev
    · simp only [Mux.Replaced, hold'] at hold
      rw [hold.out, hlink.out, List.append_assoc] at hnew
      rw [← List.append_cancel_left hnew] at htells
      obtain ⟨b, hb, th, payload, htcp, hrst, -⟩ := htells
      rw [List.map_append, List.map_map, List.map_map] at hb
      rcases List.mem_append.mp hb with hb | hb
      · obtain rfl : b = a := by simpa using hb
        rw [ha] at htcp
        cases htcp
        exact absurd hrst (by rw [ParsedTcp.IsRst, headerOf_flags]; decide)
      · rw [old.dropActs_quiet b (by simpa using hb)] at htcp
        cases htcp
  · intro hfree
    refine PartsInAgreement.of_kept fun p c hc => ?_
    have hne : p ≠ m.nextSport := by
      intro hp
      rw [hp, hfree] at hc
      cases hc
    rw [hconn, Function.update_of_ne hne]
    exact hc

/-- A packet that is looked up: what the two ends make of it is what it says. -/
theorem Mux.Lives.packet_agrees_iff {m m' : Mux} {pkt : Bytes} {alive : Nat → Bool}
    {th : ParsedTcp} {payload : Bytes} {c : Connection} {acts : List Act} {r : Option Connection}
    (hm : m.Lives True) (htcp : tcpOf pkt = some (th, payload))
    (hc : m.connections th.dstPort = some c)
    (hr : Reacts c (.packet th payload (alive c.id)) acts r) (hok : ¬ Failed acts)
    (hout : Outcome m th.dstPort c acts r m') :
    PartsInAgreement m (.packet pkt alive) m' ↔ Expected m (.packet pkt alive) := by
  have hhears : c.HearsRst (.packet pkt alive) ↔ th.IsRst ∧ th.srcPort = c.dport := by
    constructor
    · rintro ⟨pkt', alive', th', payload', hev, htcp', hrst, -, hsrc⟩
      cases hev
      rw [htcp] at htcp'
      cases htcp'
      exact ⟨hrst, hsrc⟩
    · rintro ⟨hrst, hsrc⟩
      exact ⟨pkt, alive, th, payload, rfl, htcp, hrst, (hm.ok.entry _ c hc).1.symm, hsrc⟩
  rw [hout.agrees_iff hc hr, hhears, hr.agrees_iff (hm.not_dead hc) hok]
  constructor
  · intro hexp th' payload' c' htcp' hc'
    rw [htcp] at htcp'
    cases htcp'
    rw [hc] at hc'
    cases hc'
    exact hexp
  · intro hexp
    exact hexp th payload c htcp hc

theorem Mux.Lives.agrees_iff {m m' : Mux} {ev : Event} (hm : m.Lives True) (h : m.Step ev m') :
    PartsInAgreement m ev m' ↔ Expected m ev := by
  have hlive := hm.writer trivial
  rcases h.change hm.ok.version with
    ⟨hev, -, hidle, hconn, hlink, hp, hnext⟩ | ⟨rfl, ha, hconn, hlink, hold, hp, hnext⟩ |
      ⟨rfl, hconn, hlink, hp, hnext⟩ | ⟨hc, htarget, hcev, hr, hout⟩
  · refine iff_of_true (PartsInAgreement.of_kept (fun p c hc => by rw [hconn]; exact hc)) ?_
    cases ev with
    | connect port => exact absurd rfl (hev port)
    | packet pkt alive =>
        intro th payload c htcp hc
        rw [hidle _ (by simp [Event.target, htcp])] at hc
        cases hc
    | _ => trivial
  · exact hm.ok.opened_agrees_iff ha hconn hlink hold
  · exact absurd ⟨_, List.mem_cons_self ..⟩ (hlink.live hlive).2
  · rename_i p c cev acts r
    have hok := (hout.link.live hlive).2
    -- what is not a packet has an entry that goes told
    have htold : (∀ th payload alive, cev ≠ .packet th payload alive) →
        PartsInAgreement m ev m' := by
      intro hne
      rw [hout.agrees_iff hc hr]
      intro hnone
      subst hnone
      exact Or.inr (hr.tellsRst hok hne)
    cases ev with
    | packet pkt alive =>
        obtain ⟨⟨th, payload⟩, htcp, rfl⟩ := Option.map_eq_some_iff.mp htarget
        simp only [Event.forConn, htcp, Option.map_some, Option.some.injEq] at hcev
        subst hcev
        exact hm.packet_agrees_iff htcp hc hr hok hout
    | connect port => cases htarget
    | stop order => cases htarget
    | rxData q body =>
        refine iff_of_true (htold fun th payload alive hcev' => ?_) trivial
        subst hcev'
        cases body <;> cases hcev
    | drained q n =>
        refine iff_of_true (htold fun th payload alive hcev' => ?_) trivial
        subst hcev'
        cases hcev
    | closeNext =>
        refine iff_of_true (htold fun th payload alive hcev' => ?_) trivial
        subst hcev'
        cases hcev

/-- **When both ends agree that a connection is gone.**  With a writer that lives on they
do in every step of a run if and only if every Connect finds its sport free and every
packet for a listed connection is one of those expected. -/
theorem parts_in_agreement_iff {reply : Bytes} {link : Link} {tr : List (Mux × Event × Mux)}
    {m : Mux} (hs : handshake none reply = .ok link) (h : Run Mux.Step (Mux.start link) tr m) :
    EveryStep PartsInAgreement tr ↔ EveryStep (fun m ev _ => Expected m ev) tr := by
  obtain ⟨hfresh, hwriter⟩ := handshake_fresh hs
  refine h.everyStep_congr (P := Mux.Lives True)
    (Mux.Lives.start hfresh fun _ => hwriter rfl) ?_ ?_
  · intro s a s' hm hstep
    exact hm.step hstep
  · intro s a s' hm hstep
    exact hm.agrees_iff hstep

/-- A device that answers a Connect with a plain ACK: its connection is forgotten, and it
never hears of that. -/
def unexpectedAck : List Event :=
  [.connect 62078, .packet (packetOf {} ⟨62078, 1, 0, 1, TcpFlags.ack, 512⟩ []) fun _ => true]

/-- **An entry can leave without an RST either way.** -/
theorem parting_in_silence : ∃ tr m, Run Mux.Step (Mux.start freshLink) tr m ∧
    tr.map (fun t => t.2.1) = unexpectedAck ∧ ¬ EveryStep PartsInAgreement tr := by
  have hfresh := (handshake_fresh handshake_versionReply).1
  obtain ⟨hstep, hrunning, -, hconn⟩ := (Mux.Running.start hfresh rfl).connect 62078
  have hlives : (onConnect (Mux.start freshLink) 62078).Lives True :=
    (Mux.Lives.start hfresh fun _ => rfl).step hstep
  have hpacket := hrunning.packet (packetOf {} ⟨62078, 1, 0, 1, TcpFlags.ack, 512⟩ []) fun _ => true
  refine ⟨_, _, (Run.single hstep).snoc hpacket, rfl, ?_⟩
  rw [everyStep_snoc]
  rintro ⟨-, hlast⟩
  have hexp := (hlives.agrees_iff hpacket).mp hlast _ _ _ (tcpOf_packetOf _ _ _)
    (by rw [hconn]; exact Function.update_self ..)
  exact absurd (hexp.2 (by decide)) (by decide)

/-- One connection is closed by its client, and another one is refused by the device. -/
def bothLeave : List Event :=
  [.connect 62078, .packet (packetOf {} ⟨62078, 1, 0, 1, synAck, 512⟩ []) fun _ => true,
    .rxData 1 (some [1, 2]), .rxData 1 none, .connect 62078,
    .packet (packetOf {} ⟨62078, 2, 0, 1, TcpFlags.rst, 0⟩ []) fun _ => true]

def afterLeaving : Mux :=
  (exec Mux.next (Mux.start freshLink) bothLeave).getD (Mux.start freshLink)

/-- The device is told of the first, and has told of the second. -/
theorem bothLeave_parts : ∃ tr, Run Mux.Step (Mux.start freshLink) tr afterLeaving ∧
    tr.map (fun t => t.2.1) = bothLeave ∧ afterLeaving.connections 1 = none ∧
    afterLeaving.connections 2 = none ∧ EveryStep PartsInAgreement tr := by
  have hexpected : ∀ {m : Mux} {th : ParsedTcp} {c : Connection} (alive : Nat → Bool),
      m.connections th.dstPort = some c → (th.IsRst → th.srcPort = c.dport) →
      (¬ th.IsRst → th.flags = if c.state = .connecting then synAck else TcpFlags.ack) →
      Expected m (.packet (packetOf {} th []) alive) := by
    intro m th c alive hc hrst hflags th' payload c' htcp hc'
    rw [tcpOf_packetOf] at htcp
    cases htcp
    rw [hc] at hc'
    cases hc'
    exact ⟨hrst, hflags⟩
  have hplays : Plays Mux.next (fun m ev _ => ev.Valid m ∧ Expected m ev)
      (Mux.start freshLink) bothLeave afterLeaving :=
    ⟨_, rfl, ⟨trivial, rfl⟩, _, rfl, ⟨trivial, hexpected _ rfl (by decide) (by decide)⟩,
      _, rfl, ⟨trivial, trivial⟩, _, rfl, ⟨trivial, trivial⟩, _, rfl, ⟨trivial, rfl⟩,
      _, rfl, ⟨trivial, hexpected _ rfl (by decide) (by decide)⟩, rfl⟩
  have hstep : ∀ m ev m', Mux.next m ev = some m' → ev.Valid m ∧ Expected m ev →
      m.Step ev m' := fun _ _ _ hnext hC => ⟨hnext, hC.1⟩
  obtain ⟨tr, hrun, hall, hmap⟩ := Run.of_plays hstep hplays
  exact ⟨tr, hrun, hmap, rfl, rfl, (parts_in_agreement_iff handshake_versionReply hrun).mpr
    (hall.imp fun _ _ _ hC => hC.2)⟩

end Netmuxd
