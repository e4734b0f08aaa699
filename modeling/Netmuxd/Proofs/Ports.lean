/-
Which sport a Connect is given.

The allocator counts through `1..=65535` and starts over without looking at the
map.  So the sport of a Connect is the one of every Connect a multiple of 65535
before it, and it is free exactly if none of those is still listed.  A run of 65536
Connects that nobody answers is enough to overwrite an entry.
-/
import Netmuxd.Proofs.Life

namespace Netmuxd

open Lib

/-- A Connect takes a sport that is not zero and not in use, and replaces nothing. -/
def TakesFreePort (m : Mux) (ev : Event) (m' : Mux) : Prop :=
  ∀ port, ev = .connect port → m.nextSport ≠ 0 ∧ m.connections m.nextSport = none ∧
    ∀ p c, m.connections p = some c → m'.connections p = some c

/-- At a Connect, no listed connection was opened a multiple of 65535 Connects ago. -/
def NoneWrapsAround (m : Mux) (ev : Event) (_ : Mux) : Prop :=
  ∀ port, ev = .connect port → ∀ p c, m.connections p = some c →
    ¬ 65535 ∣ m.ports.length + 1 - c.id

theorem sportAt_ne_zero (k : Nat) : sportAt k ≠ 0 := by
  intro h
  have htoNat := sportAt_toNat k
  rw [h, UInt16.toNat_zero] at htoNat
  omega

theorem sportAt_eq_iff {j k : Nat} : sportAt j = sportAt k ↔ j % 65535 = k % 65535 := by
  rw [← UInt16.toNat_inj, sportAt_toNat, sportAt_toNat]
  omega

theorem sportAt_wrap (k : Nat) : sportAt (k + 65535) = sportAt k := by
  rw [sportAt_eq_iff]
  omega

/-- An entry is in the way of the next Connect if it is a multiple of 65535 Connects old. -/
theorem Mux.Ok.at_nextSport {m : Mux} (hok : m.Ok) {p : UInt16} {c : Connection}
    (hc : m.connections p = some c) :
    p = m.nextSport ↔ 65535 ∣ m.ports.length + 1 - c.id := by
  obtain ⟨-, hpos, hport⟩ := hok.entry p c hc
  have hle := hok.id_le hc
  rw [hok.ports _ _ hport, hok.nextSport, sportAt_eq_iff]
  omega

theorem Mux.Ok.takesFreePort_iff {m m' : Mux} {ev : Event} (hok : m.Ok) (h : m.Step ev m') :
    TakesFreePort m ev m' ↔ NoneWrapsAround m ev m' := by
  constructor
  · intro hfree port hev p c hc hdvd
    have hnone := (hfree port hev).2.1
    rw [← (hok.at_nextSport hc).mpr hdvd, hc] at hnone
    cases hnone
  · intro hold port hev
    have hnone : m.connections m.nextSport = none := by
      cases hc : m.connections m.nextSport with
      | none => rfl
      | some c => exact absurd ((hok.at_nextSport hc).mp rfl) (hold port hev _ c hc)
    refine ⟨hok.nextSport ▸ sportAt_ne_zero _, hnone, fun p c hc => ?_⟩
    have hne : p ≠ m.nextSport := by
      intro hp
      rw [hp, hnone] at hc
      cases hc
    rcases h.change hok.version with
      ⟨hnot, -, -, -, -, -, -⟩ | ⟨-, -, hconn, -, -, -, -⟩ | ⟨-, hconn, -, -, -⟩ |
        ⟨-, htarget, -, -, -⟩
    · exact absurd hev (hnot port)
    · rw [hconn, Function.update_of_ne hne]
      exact hc
    · rw [hconn]
      exact hc
    · rw [hev] at htarget
      cases htarget

/-- **When every Connect takes a free sport.**  In any run, they all do if and only if no
Connect comes a multiple of 65535 Connects after one whose entry is still there. -/
theorem ports_free_iff {left : Option Nat} {reply : Bytes} {link : Link}
    {tr : List (Mux × Event × Mux)} {m : Mux} (hs : handshake left reply = .ok link)
    (h : Run Mux.Step (Mux.start link) tr m) :
    EveryStep TakesFreePort tr ↔ EveryStep NoneWrapsAround tr := by
  refine h.everyStep_congr (P := Mux.Ok) (Mux.Ok.start (handshake_fresh hs).1) ?_ ?_
  · intro s a s' hok hstep
    exact hok.step hstep
  · intro s a s' hok hstep
    exact hok.takesFreePort_iff hstep

/-! ### Many Connects in a row -/

theorem onConnect_phase (m : Mux) (port : UInt16) : (onConnect m port).phase = m.phase := by
  rw [onConnect]
  split
  · rfl
  · unfold Mux.insert
    split <;> rfl

/-- A loop that runs, with a writer that lives on. -/
structure Mux.Running (m : Mux) : Prop where
  ok : m.Ok
  phase : m.phase = .running
  writer : m.link.writeLeft = none

/-- A Connect on a running loop lists a new connection. -/
theorem Mux.Running.connect {m : Mux} (hm : m.Running) (port : UInt16) :
    m.Step (.connect port) (onConnect m port) ∧ (onConnect m port).Running ∧
      (onConnect m port).ports = m.ports ++ [m.nextSport] ∧
      (onConnect m port).connections =
        Function.update m.connections m.nextSport (some (m.newConn port)) := by
  have hready : (Event.connect port).ready m = true := by simp [Event.ready, hm.phase]
  have hstep : m.Step (.connect port) (onConnect m port) :=
    ⟨by rw [Mux.next, if_pos hready]; rfl, trivial⟩
  have hrunning : (onConnect m port).Running :=
    ⟨hm.ok.step hstep, (onConnect_phase m port).trans hm.phase,
      (hstep.kept hm.ok).live hm.writer⟩
  rcases hstep.change hm.ok.version with
    ⟨hnot, -, -, -, -, -, -⟩ | ⟨hev, -, hconn, -, -, hp, -⟩ | ⟨-, -, hlink, -, -⟩ |
      ⟨-, htarget, -, -, -⟩
  · exact absurd rfl (hnot port)
  · cases hev
    exact ⟨hstep, hrunning, hp, hconn⟩
  · exact absurd ⟨_, List.mem_cons_self ..⟩ (hlink.live hm.writer).2
  · cases htarget

theorem Mux.Running.packet {m : Mux} (hm : m.Running) (pkt : Bytes) (alive : Nat → Bool) :
    m.Step (.packet pkt alive) (onPacket m alive pkt) := by
  have hready : (Event.packet pkt alive).ready m = true := by simp [Event.ready, hm.phase]
  exact ⟨by rw [Mux.next, if_pos hready]; rfl, trivial⟩

/-- What `k` Connects leave behind. -/
structure Mux.Crowded (m : Mux) (k : Nat) (m' : Mux) : Prop where
  running : m'.Running
  count : m'.ports.length = m.ports.length + k
  listed : ∀ j, j < k → (m'.connections (sportAt (m.ports.length + j))).isSome = true
  /-- A connection that had no entry is not touched. -/
  gone : ∀ i, 0 < i → i ≤ m.ports.length → m.entry i = none →
    m'.entry i = none ∧ actsOf i m'.link.out = actsOf i m.link.out

theorem Mux.Crowded.connect {m m' : Mux} {k : Nat} (h : m.Crowded k m') (port : UInt16) :
    m.Crowded (k + 1) (onConnect m' port) := by
  obtain ⟨hstep, hrunning, hp, hconn⟩ := h.running.connect port
  refine ⟨hrunning, ?_, ?_, ?_⟩
  · rw [hp, List.length_append, List.length_singleton, h.count, Nat.add_assoc]
  · intro j hj
    rw [hconn, Function.update_apply]
    split
    · rfl
    · rename_i hne
      refine h.listed j (Nat.lt_of_le_of_ne (Nat.le_of_lt_succ hj) ?_)
      rintro rfl
      exact hne (by rw [h.running.ok.nextSport, h.count])
  · intro i hi hle hnone
    obtain ⟨hentry, hacts⟩ := h.gone i hi hle hnone
    have hcount := h.count
    rcases h.running.ok.share hstep hi with
      ⟨hacts', hentry', -⟩ | ⟨-, hnew, -, -, -⟩ | ⟨-, hnew, -, -, -, -⟩ | ⟨hc, -, -, -, -, -⟩ |
        ⟨-, hc, -, -, -⟩
    · exact ⟨hentry'.trans hentry, hacts'.trans hacts⟩
    · omega
    · omega
    · rw [hentry] at hc
      cases hc
    · rw [hentry] at hc
      cases hc

theorem Mux.Running.crowd {m : Mux} (hm : m.Running) (port : UInt16) (k : Nat) :
    ∃ m', exec Mux.next m (List.replicate k (.connect port)) = some m' ∧ m.Crowded k m' := by
  induction k with
  | zero =>
      refine ⟨m, rfl, hm, rfl, fun j hj => ?_, fun i _ _ hnone => ⟨hnone, rfl⟩⟩
      omega
  | succ k ih =>
      obtain ⟨m', hexec, hm'⟩ := ih
      refine ⟨onConnect m' port, ?_, hm'.connect port⟩
      rw [List.replicate_succ']
      refine exec_append hexec ?_
      rw [exec, (hm'.running.connect port).1.1]
      rfl

theorem Mux.Running.start {link : Link} (h : link.Fresh) (hw : link.writeLeft = none) :
    (Mux.start link).Running :=
  ⟨Mux.Ok.start h, rfl, hw⟩

/-- **A Connect can overwrite a connection**: the last of 65536 Connects that the device
leaves unanswered takes the sport of the first. -/
theorem connect_overwrites : ∃ tr m, Run Mux.Step (Mux.start freshLink) tr m ∧
    tr.map (fun t => t.2.1) = List.replicate 65536 (.connect 62078) ∧
      ¬ EveryStep TakesFreePort tr := by
  have hm := Mux.Running.start (handshake_fresh handshake_versionReply).1 rfl
  obtain ⟨m, hexec, hcrowd⟩ := hm.crowd 62078 65535
  obtain ⟨tr, hrun, hmap⟩ := Mux.run_of_exec
    (fun order h => by cases List.eq_of_mem_replicate h) hexec
  have hstep := (hcrowd.running.connect 62078).1
  refine ⟨_, _, Run.snoc hrun hstep, ?_, ?_⟩
  · rw [List.map_append, hmap, List.map_singleton]
    exact (List.replicate_succ' (n := 65535)).symm
  · rw [everyStep_snoc]
    rintro ⟨-, hlast⟩
    have hfree := (hlast 62078 rfl).2.1
    have hlisted := hcrowd.listed 0 (by omega)
    rw [hcrowd.running.ok.nextSport, hcrowd.count] at hfree
    rw [sportAt_wrap, ← Nat.add_zero (Mux.start freshLink).ports.length] at hfree
    rw [hfree] at hlisted
    cases hlisted

/-- With few Connects nothing wraps around. -/
theorem Mux.Ok.noneWrapsAround {m m' : Mux} {ev : Event} (hok : m.Ok)
    (hfew : m.ports.length < 65535) : NoneWrapsAround m ev m' := by
  intro port _ p c hc hdvd
  have hpos := (hok.entry p c hc).2.1
  have hle := hok.id_le hc
  have hfar := Nat.le_of_dvd (by omega) hdvd
  omega

/-- Of four connections the first is refused, and the second is accepted and then reset, before
the last is opened. -/
def fourConnects : List Event :=
  [.connect 62078, .connect 62078,
    .packet (packetOf {} ⟨62078, 2, 0, 1, synAck, 512⟩ []) fun _ => true,
    .packet (packetOf {} ⟨62078, 1, 0, 1, TcpFlags.rst, 0⟩ []) fun _ => true, .connect 1234,
    .packet (packetOf {} ⟨62078, 2, 1, 1, TcpFlags.rst, 0⟩ []) fun _ => true, .connect 62078]

def afterConnects : Mux :=
  (exec Mux.next (Mux.start freshLink) fourConnects).getD (Mux.start freshLink)

/-- Each of these Connects takes a free sport. -/
theorem fourConnects_ports_free : ∃ tr, Run Mux.Step (Mux.start freshLink) tr afterConnects ∧
    tr.map (fun t => t.2.1) = fourConnects ∧ afterConnects.ports = [1, 2, 3, 4] ∧
    EveryStep TakesFreePort tr := by
  have hplays : Plays Mux.next (fun m ev _ => ev.Valid m ∧ m.ports.length < 65535)
      (Mux.start freshLink) fourConnects afterConnects :=
    ⟨_, rfl, ⟨trivial, by decide⟩, _, rfl, ⟨trivial, by decide⟩, _, rfl, ⟨trivial, by decide⟩,
      _, rfl, ⟨trivial, by decide⟩, _, rfl, ⟨trivial, by decide⟩, _, rfl, ⟨trivial, by decide⟩,
      _, rfl, ⟨trivial, by decide⟩, rfl⟩
  have hstep : ∀ m ev m', Mux.next m ev = some m' → ev.Valid m ∧ m.ports.length < 65535 →
      m.Step ev m' := fun _ _ _ hnext hC => ⟨hnext, hC.1⟩
  obtain ⟨tr, hrun, hfew, hmap⟩ := Run.of_plays hstep hplays
  have hnone : EveryStep NoneWrapsAround tr :=
    hrun.everyStep_of (P := Mux.Ok) (Mux.Ok.start (handshake_fresh handshake_versionReply).1)
      (fun _ _ _ hok hstep _ => hok.step hstep)
      (fun _ _ _ hok _ hC => hok.noneWrapsAround hC.2) hfew
  exact ⟨tr, hrun, hmap, rfl, (ports_free_iff handshake_versionReply hrun).mpr hnone⟩

end Netmuxd
