/-
Whom a packet from the device acts on.

A connection is between two ports, and a TCP packet names both.  The loop looks its
entry up by the packet's destination port alone, and never compares the other one
with what the entry holds.  So a packet acts on its own connection and on no other
exactly if the entry found under its destination port is one to its source port.
-/
import Netmuxd.Proofs.Parting
import Netmuxd.Proofs.Writer

namespace Netmuxd

open Lib

/-! ### Statement -/

/-- The connection is the one between the ports of this header. -/
def Connection.Between (c : Connection) (th : ParsedTcp) : Prop :=
  c.sport = th.dstPort ∧ c.dport = th.srcPort

/-- The frame that resets whoever sent a packet with this header, or a failure to send it
to a writer that is gone. -/
def Mux.RstFor (m : Mux) (th : ParsedTcp) (a : Act) : Prop :=
  a.tcp? = some (headerOf (Connection.anon th.dstPort th.srcPort th.seq) TcpFlags.rst, []) ∨
    (m.link.writeLeft = some 0 ∧ ∃ e, a = .sendFailed e)

/-- A TCP packet with this header acts on the connection between its ports only. -/
structure ActsOnItsOwn (m : Mux) (th : ParsedTcp) (m' : Mux) : Prop where
  /-- Every other connection is as it was, and nothing has been done for it. -/
  others : ∀ p c, m.connections p = some c → ¬ c.Between th →
    m'.connections p = some c ∧ actsOf c.id m'.link.out = actsOf c.id m.link.out
  /-- No connection appears. -/
  free : ∀ p, m.connections p = none → m'.connections p = none
  /-- Where there is no such connection all that happens is an RST, unless the packet is one. -/
  stray : (∀ p c, m.connections p = some c → ¬ c.Between th) →
    (th.IsRst → m'.link.out = m.link.out) ∧
      (¬ th.IsRst → ∃ a, m'.link.out = m.link.out ++ [⟨0, a⟩] ∧ m.RstFor th a)

/-- Every TCP packet from the device acts on its own connection only. -/
def PacketsKeepToTheirOwn (m : Mux) (ev : Event) (m' : Mux) : Prop :=
  ∀ pkt alive th payload, ev = .packet pkt alive → tcpOf pkt = some (th, payload) →
    ActsOnItsOwn m th m'

/-- A TCP packet for a listed connection comes from that connection's port on the device. -/
def FromItsPeer (m : Mux) (ev : Event) : Prop :=
  ∀ pkt alive th payload c, ev = .packet pkt alive → tcpOf pkt = some (th, payload) →
    m.connections th.dstPort = some c → th.srcPort = c.dport

theorem splitTcp_of_tcpOf {pkt : Bytes} {r : ParsedTcp × Bytes} (h : tcpOf pkt = some r) :
    splitTcp 2 pkt = .ok (some r) := by
  unfold tcpOf at h
  split at h
  · rename_i r' hsplit
    rw [hsplit, h]
  · cases h

/-- A packet for a listed connection is a reaction of its entry. -/
theorem Mux.Step.packet_reacts {m m' : Mux} {pkt : Bytes} {alive : Nat → Bool} {th : ParsedTcp}
    {payload : Bytes} {c : Connection} (h : m.Step (.packet pkt alive) m')
    (hv : m.link.state.version = 2) (htcp : tcpOf pkt = some (th, payload))
    (hc : m.connections th.dstPort = some c) :
    ∃ acts r, Reacts c (.packet th payload (alive c.id)) acts r ∧
      Outcome m th.dstPort c acts r m' := by
  have htarget : (Event.packet pkt alive).target m = some th.dstPort := by
    simp [Event.target, htcp]
  rcases h.change hv with
    ⟨-, -, hidle, -⟩ | ⟨hev, -⟩ | ⟨hev, -⟩ | ⟨hd, htarget', hcev, hr, hout⟩
  · rw [hidle _ htarget] at hc
    cases hc
  · cases hev
  · cases hev
  · rw [htarget] at htarget'
    cases htarget'
    rw [hc] at hd
    cases hd
    simp only [Event.forConn, htcp, Option.map_some, Option.some.injEq] at hcev
    subst hcev
    exact ⟨_, _, hr, hout⟩

/-! ### A packet that finds no entry -/

/-- The RST for a packet that finds no entry. -/
theorem onPacket_stray {m : Mux} {pkt : Bytes} (alive : Nat → Bool) {th : ParsedTcp}
    {payload : Bytes} (hv : m.link.state.version = 2) (htcp : tcpOf pkt = some (th, payload))
    (hc : m.connections th.dstPort = none) :
    (onPacket m alive pkt).connections = m.connections ∧
      (th.IsRst → (onPacket m alive pkt).link.out = m.link.out) ∧
      (¬ th.IsRst → ∃ a, (onPacket m alive pkt).link.out = m.link.out ++ [⟨0, a⟩] ∧
        m.RstFor th a) := by
  obtain ⟨s, hs, heq⟩ := onPacket_eq m alive pkt
  have hsplit : splitTcp s.version pkt = .ok (some (th, payload)) := by
    rw [hs, hv]
    exact splitTcp_of_tcpOf htcp
  have hbranch : onPacket m alive pkt =
      if th.flags &&& TcpFlags.rst = 0 then
        { m with
          link := (sendTcp { m.link with state := s }
            (Connection.anon th.dstPort th.srcPort th.seq) TcpFlags.rst []).2 }
      else { m with link := { m.link with state := s } } := by
    rw [heq]
    simp only [handleIncoming, hsplit, handleTcp, hc]
    split <;> rfl
  rw [hbranch]
  by_cases hrst : th.IsRst
  · rw [if_neg hrst]
    exact ⟨rfl, fun _ => rfl, fun h => absurd hrst h⟩
  rw [if_pos (not_not.mp hrst)]
  refine ⟨rfl, fun h => absurd h hrst, fun _ => ?_⟩
  by_cases htakes : m.link.Takes 1
  · obtain ⟨a, hafter, hsent⟩ := sendTcp_sent (l := { m.link with state := s })
      (Connection.anon th.dstPort th.srcPort th.seq) TcpFlags.rst (hs.trans hv)
    obtain ⟨l', hok, hsends⟩ := sendTcp_takes (l := { m.link with state := s })
      (Connection.anon th.dstPort th.srcPort th.seq) TcpFlags.rst
      (hs.trans hv) empty_fits htakes
    refine ⟨a, hafter.out, ?_⟩
    rcases hsent with hframe | ⟨e, rfl⟩
    · exact Or.inl hframe
    · rw [hok] at hafter
      exact absurd ⟨e, List.mem_singleton_self _⟩ (hsends.not_failed hafter)
  · obtain ⟨e, l', hgone, hafter⟩ := sendTcp_gone (l := { m.link with state := s })
      (Connection.anon th.dstPort th.srcPort th.seq) TcpFlags.rst
      (hs.trans hv) empty_fits htakes
    rw [Link.takes_one_iff, not_not] at htakes
    rw [hgone]
    exact ⟨_, hafter.out, Or.inr ⟨htakes, e, rfl⟩⟩

/-! ### Any packet -/

theorem Mux.Lives.packet_own_iff {live : Prop} {m m' : Mux} {pkt : Bytes} {alive : Nat → Bool}
    {th : ParsedTcp} {payload : Bytes} (hm : m.Lives live) (h : m.Step (.packet pkt alive) m')
    (htcp : tcpOf pkt = some (th, payload)) :
    ActsOnItsOwn m th m' ↔ ∀ c, m.connections th.dstPort = some c → th.srcPort = c.dport := by
  have hsport : ∀ p c, m.connections p = some c → c.Between th → p = th.dstPort := by
    intro p c hc hbetween
    rw [← (hm.ok.entry p c hc).1]
    exact hbetween.1
  cases hc : m.connections th.dstPort with
  | none =>
      obtain ⟨-, rfl⟩ := h.eq_handle
      obtain ⟨hconn, hrst, hanswer⟩ := onPacket_stray alive hm.ok.version htcp hc
      refine iff_of_true ⟨?_, ?_, fun _ => ⟨hrst, hanswer⟩⟩ (fun c h => by cases h)
      · intro p c hp _
        have hpos := (hm.ok.entry p c hp).2.1
        refine ⟨hconn.symm ▸ hp, ?_⟩
        show actsOf c.id (onPacket m alive pkt).link.out = _
        by_cases hisRst : th.IsRst
        · rw [hrst hisRst]
        · obtain ⟨a, hout, -⟩ := hanswer hisRst
          rw [hout, actsOf_append, show [⟨0, a⟩] = [a].map (Effect.mk 0) from rfl,
            actsOf_map_ne (by omega), List.append_nil]
      · intro p hp
        exact hconn.symm ▸ hp
  | some c =>
      obtain ⟨acts, r, hr, hout⟩ := h.packet_reacts hm.ok.version htcp hc
      constructor
      · intro hown d hd
        cases hd
        by_contra hsrc
        have hnot : ¬ c.Between th := fun hb => hsrc hb.2.symm
        -- the entry has been left alone
        obtain ⟨hkept, hacts⟩ := hown.others _ _ hc hnot
        have hstays : r = some c := by
          rw [← hkept, hout.connections, Function.update_self]
        have hquiet : acts = [] := by
          rw [hout.link.acts_self] at hacts
          exact List.append_right_eq_self.mp hacts
        subst hstays hquiet
        -- so the packet is no RST, and nobody has told the device
        have hrst := (hr.stays (hm.not_dead hc)).1
        obtain ⟨a, htells, -⟩ := (hown.stray fun p d hd hb => by
          rw [hsport p d hd hb, hc] at hd
          cases hd
          exact hnot hb).2 hrst
        rw [hout.link.out] at htells
        simp at htells
      · intro hsrc
        have hbetween : c.Between th := ⟨(hm.ok.entry _ _ hc).1, (hsrc c rfl).symm⟩
        refine ⟨?_, ?_, fun hnone => absurd hbetween (hnone _ _ hc)⟩
        · intro p d hd hne
          have hp : p ≠ th.dstPort := by
            intro hp
            rw [hp, hc] at hd
            cases hd
            exact hne hbetween
          refine ⟨by rw [hout.connections, Function.update_of_ne hp, hd], hout.link.acts_ne ?_⟩
          intro hid
          have hentry := hm.ok.entry_of hd
          rw [← hid, hm.ok.entry_of hc] at hentry
          cases hentry
          exact hne hbetween
        · intro p hp
          rw [hout.connections, Function.update_of_ne, hp]
          intro heq
          rw [heq, hc] at hp
          cases hp

/-- **Whom a packet acts on.**  In every step of every run a TCP packet from the device
acts on the connection between its two ports only, and is answered with an RST where there
is none, if and only if the entry under its destination port is one to its source port. -/
theorem packets_keep_to_their_own {left : Option Nat} {reply : Bytes} {link : Link}
    {tr : List (Mux × Event × Mux)} {m : Mux} (hs : handshake left reply = .ok link)
    (h : Run Mux.Step (Mux.start link) tr m) :
    EveryStep (fun m ev m' => PacketsKeepToTheirOwn m ev m' ↔ FromItsPeer m ev) tr := by
  obtain ⟨hfresh, hwriter⟩ := handshake_fresh hs
  refine h.everyStep_of (C := fun _ _ _ => True) (P := Mux.Lives (left = none))
    (Mux.Lives.start hfresh hwriter) (fun _ _ _ hm hstep _ => hm.step hstep) ?_
    (fun _ _ => trivial)
  intro s ev s' hm hstep _
  constructor
  · intro hown pkt alive th payload c hev htcp hc
    subst hev
    exact (hm.packet_own_iff hstep htcp).mp (hown pkt alive th payload rfl htcp) c hc
  · intro hpeer pkt alive th payload hev htcp
    subst hev
    exact (hm.packet_own_iff hstep htcp).mpr fun c hc => hpeer pkt alive th payload c rfl htcp hc

/-! ### A late packet -/

/-- While a connection to port 62078 is being opened, an RST arrives from port 80. -/
def lateReset : List Event :=
  [.connect 62078, .packet (packetOf {} ⟨80, 1, 0, 1, TcpFlags.rst, 512⟩ []) fun _ => true]

/-- **A packet from another port takes a connection down.** -/
theorem late_reset_crosses : ∃ tr m, Run Mux.Step (Mux.start freshLink) tr m ∧
    tr.map (fun t => t.2.1) = lateReset ∧ ¬ EveryStep PacketsKeepToTheirOwn tr := by
  have hfresh := (handshake_fresh handshake_versionReply).1
  obtain ⟨hstep, hrunning, -, hconn⟩ := (Mux.Running.start hfresh rfl).connect 62078
  have hlives : (onConnect (Mux.start freshLink) 62078).Lives True :=
    (Mux.Lives.start hfresh fun _ => rfl).step hstep
  have hpacket := hrunning.packet (packetOf {} ⟨80, 1, 0, 1, TcpFlags.rst, 512⟩ []) fun _ => true
  refine ⟨_, _, (Run.single hstep).snoc hpacket, rfl, ?_⟩
  rw [everyStep_snoc]
  rintro ⟨-, hlast⟩
  have htcp := tcpOf_packetOf {} ⟨80, 1, 0, 1, TcpFlags.rst, 512⟩ []
  have hsrc := (hlives.packet_own_iff hpacket htcp).mp (hlast _ _ _ _ rfl htcp) _
    (by rw [hconn]; exact Function.update_self ..)
  exact absurd hsrc (by decide)

/-- The entry of the first connection is the one the greeting talks to. -/
theorem greeting_keeps_to_its_own : ∃ tr, Run Mux.Step (Mux.start freshLink) tr greeted ∧
    EveryStep (fun m ev m' => PacketsKeepToTheirOwn m ev m' ↔ FromItsPeer m ev) tr := by
  obtain ⟨tr, hrun, -⟩ := greeted_run
  exact ⟨tr, hrun, packets_keep_to_their_own handshake_versionReply hrun⟩

end Netmuxd
