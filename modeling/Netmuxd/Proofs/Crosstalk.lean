/-
Whom a task's message reaches.

A pump and a forwarder go by a sport, and may be about long after their entry is
gone.  In a tidy run a message of theirs finds its own entry or none.  The sports wrap
around, though, and nothing stops a Connect from being given one that a waiting pump
still goes by: then what its client writes at last is sent on somebody else's
connection.
-/
import Netmuxd.Proofs.View
import Netmuxd.Proofs.Ports

namespace Netmuxd

open Lib

/-- The connection whose task put the message there that the loop takes in this action. -/
def Sys.sender (s : Sys) : Action → Option Nat
  | .takeData => s.txData.head?.map Message.src
  | .takeDrained => s.drains.head?.map Notice.src
  | _ => none

/-- A task's message has no effect on any connection but the one the task was spawned for. -/
def ReachesItsOwn (s : Sys) (a : Action) (s' : Sys) : Prop :=
  ∀ i, s.sender a = some i →
    (∃ acts : List Act, s'.mux.link.out = s.mux.link.out ++ acts.map (Effect.mk i)) ∧
      ∀ p c, c.id ≠ i → (s'.mux.connections p = some c ↔ s.mux.connections p = some c)

/-- What an event for one sport does, when nobody but `i` is listed under it. -/
theorem Mux.Ok.event_own {m m' : Mux} {ev : Event} {p : UInt16} {i : Nat} (hok : m.Ok)
    (h : m.Step ev m') (htarget : ev.target m = some p)
    (hidle : m.connections p = none → m' = m) (hown : ∀ c, m.connections p = some c → c.id = i) :
    (∃ acts : List Act, m'.link.out = m.link.out ++ acts.map (Effect.mk i)) ∧
      ∀ q c, c.id ≠ i → (m'.connections q = some c ↔ m.connections q = some c) := by
  cases hc : m.connections p with
  | none =>
      rw [hidle hc]
      exact ⟨⟨[], by simp⟩, fun _ _ _ => Iff.rfl⟩
  | some d =>
      rcases h.change hok.version with
        ⟨-, -, hnone, -, -, -, -, -⟩ | ⟨rfl, -, -, -, -, -, -, -⟩ | ⟨rfl, -, -, -, -, -⟩ |
          ⟨hd, htarget', -, hr, hout⟩
      · rw [hnone p htarget] at hc
        cases hc
      · cases htarget
      · cases htarget
      · rw [htarget] at htarget'
        cases htarget'
        rw [hc] at hd
        cases hd
        have hid := hown d hc
        refine ⟨⟨_, hid ▸ hout.link.out⟩, fun q c hne => ?_⟩
        rw [hout.connections, Function.update_apply]
        split
        · rename_i hq
          subst hq
          constructor
          · intro hr'
            subst hr'
            exact absurd (hr.same.1.trans hid) hne
          · intro hc'
            rw [hc] at hc'
            cases hc'
            exact absurd hid hne
        · exact Iff.rfl

theorem onRxData_absent {m : Mux} {p : UInt16} (h : m.connections p = none)
    (payload : Option Bytes) : onRxData m p payload = m := by
  simp only [onRxData, h]

theorem onDrained_absent {m : Mux} {p : UInt16} (h : m.connections p = none) (n : UInt32) :
    onDrained m p n = m := by
  simp only [onDrained, h]

theorem Sys.Sound.reaches_own {live : Prop} {s s' : Sys} {a : Action} (hs : s.Sound live)
    (h : s.Step a s') : ReachesItsOwn s a s' := by
  intro i hsender
  cases a with
  | takeData =>
      obtain ⟨msg, hhead, rfl⟩ := Option.map_eq_some_iff.mp hsender
      obtain ⟨rest, hq⟩ := List.head?_eq_some_iff.mp hhead
      have hmem : msg ∈ s.txData := List.mem_of_head? hhead
      have hev := Sys.event_eq_some.mpr (Sys.Takes.message hq)
      rcases h.moved with ⟨hev', hmux, -⟩ | ⟨hev', -, -, -⟩
      · rw [hev] at hev'
        cases hev'
        refine hs.lives.ok.event_own hmux rfl (fun hnone => ?_) (fun c hc => ?_)
        · rw [hmux.eq_handle.2]
          exact onRxData_absent hnone msg.body
        · exact hs.owner _ _ _ (hs.messages msg hmem)
            (Or.inr (Or.inr (Or.inl ⟨msg, hmem, rfl⟩))) hc
      · rw [hev] at hev'
        cases hev'
  | takeDrained =>
      obtain ⟨d, hhead, rfl⟩ := Option.map_eq_some_iff.mp hsender
      obtain ⟨rest, hq⟩ := List.head?_eq_some_iff.mp hhead
      have hmem : d ∈ s.drains := List.mem_of_head? hhead
      have hev := Sys.event_eq_some.mpr (Sys.Takes.notice hq)
      rcases h.moved with ⟨hev', hmux, -⟩ | ⟨hev', -, -, -⟩
      · rw [hev] at hev'
        cases hev'
        refine hs.lives.ok.event_own hmux rfl (fun hnone => ?_) (fun c hc => ?_)
        · rw [hmux.eq_handle.2]
          exact onDrained_absent hnone d.n
        · exact hs.owner _ _ _ (hs.notices d hmem)
            (Or.inr (Or.inr (Or.inr ⟨d, hmem, rfl⟩))) hc
      · rw [hev] at hev'
        cases hev'
  | _ => cases hsender

/-- **No cross-talk in a tidy run.**  As long as no Connect is given a sport that an
unfinished task or a queued message still goes by, a task's message has no effect or
acts on the connection the task was spawned for. -/
theorem no_cross_talk {left : Option Nat} {reply : Bytes} {link : Link}
    {tr : List (Sys × Action × Sys)} {s : Sys} (hs : handshake left reply = .ok link)
    (h : Run Sys.Step (Sys.start link) tr s) (htidy : EveryStep Sys.Tidy tr) :
    EveryStep ReachesItsOwn tr :=
  h.everyStep_of (P := Sys.Sound (left = none)) (handshake_sound hs)
    (fun _ _ _ hsound hstep htidy => hsound.step hstep htidy)
    (fun _ _ _ hsound hstep _ => hsound.reaches_own hstep) htidy

/-! ### A run that is not tidy -/

/-- Connects concern the loop alone. -/
theorem Sys.exec_connects {port : UInt16} {k : Nat} {s : Sys} {m : Mux}
    (h : exec Mux.next s.mux (List.replicate k (.connect port)) = some m) :
    exec Sys.next s (List.replicate k (.connect port)) = some { s with mux := m } := by
  induction k generalizing s with
  | zero =>
      cases h
      rfl
  | succ k ih =>
      obtain ⟨u, hu, hrest⟩ := exec_cons h
      have hnext : s.next (.connect port) = some { s with mux := u } :=
        (Sys.Takes.connect port).next hu
      rw [List.replicate_succ, exec, hnext, Option.bind_some]
      exact ih (s := { s with mux := u }) hrest

/-- The first connection is accepted and then reset by the device. -/
def resetFirst : List Action :=
  [.connect 62078, .packet (packetOf {} ⟨62078, 1, 0, 1, synAck, 0⟩ []),
    .packet (packetOf {} ⟨62078, 1, 1, 1, TcpFlags.rst, 0⟩ [])]

/-- A client, whose pump has been waiting for it, writes one byte. -/
def lateWrite (i : Nat) : List Action :=
  [.clientWrite i [65], .pump i, .pump i, .pump i]

/-- What the first connection comes to. -/
def afterReset : Sys :=
  (exec Sys.next (Sys.start freshLink) resetFirst).getD (Sys.start freshLink)

theorem Moves.eq_of_silent {c c' : Connection} (h : Moves c [] c') : c' = c := by
  generalize hos : ([] : List Act) = os at h
  cases h with
  | refl => rfl
  | tail _ hm =>
      have hnil := (List.append_eq_nil_iff.mp hos.symm).2
      cases hm <;> cases hnil

/-- A connection that takes up bytes without a sound has them queued afterwards. -/
theorem Reacts.data_heard {c : Connection} {bytes : Bytes} {acts : List Act}
    (h : Reacts c (.data bytes) acts (some c)) (hs : c.state = .connected) (hne : bytes ≠ []) :
    acts ≠ [] := by
  intro hnil
  cases h with
  | ignoredData hs' => exact hs' hs
  | data _ hm =>
      rw [hnil] at hm
      have hsame := congrArg Connection.pendingTx hm.eq_of_silent
      exact hne (List.self_eq_append_right.mp hsame)

/-- No act is marked with two different connections. -/
theorem marked_twice {i j : Nat} (h : i ≠ j) {as bs : List Act}
    (heq : as.map (Effect.mk i) = bs.map (Effect.mk j)) : as = [] := by
  cases as with
  | nil => rfl
  | cons a rest =>
      cases bs with
      | nil => cases heq
      | cons b rest' =>
          rw [List.map_cons, List.map_cons] at heq
          exact absurd (congrArg Effect.id (List.cons.inj heq).1) h

/-- What a stale pump's bytes do to the connection that has its sport now. -/
theorem not_reachesItsOwn {s s' : Sys} {msg : Message} {bytes : Bytes} {c : Connection}
    (hok : s.mux.Ok) (h : s.Step .takeData s') (hhead : s.txData.head? = some msg)
    (hbody : msg.body = some bytes) (hne : bytes ≠ [])
    (hc : s.mux.connections msg.sport = some c) (hs : c.state = .connected)
    (hid : c.id ≠ msg.src) : ¬ ReachesItsOwn s .takeData s' := by
  intro hown
  obtain ⟨⟨acts, hacts⟩, hkeep⟩ := hown msg.src (by simp only [Sys.sender, hhead, Option.map_some])
  obtain ⟨rest, hq⟩ := List.head?_eq_some_iff.mp hhead
  have hev := Sys.event_eq_some.mpr (Sys.Takes.message hq)
  rcases h.moved with ⟨hev', hmux, -⟩ | ⟨hev', -, -, -⟩
  · rw [hev] at hev'
    cases hev'
    rcases hmux.change hok.version with
      ⟨-, -, hnone, -, -, -, -, -⟩ | ⟨hopen, -⟩ | ⟨hopen, -⟩ | ⟨hd, htarget, hcev, hr, hout⟩
    · rw [hnone msg.sport rfl] at hc
      cases hc
    · cases hopen
    · cases hopen
    · cases htarget
      rw [hc] at hd
      cases hd
      rw [hbody] at hcev
      cases hcev
      have hsame := (hkeep _ c hid).mpr hc
      rw [hout.connections, Function.update_self] at hsame
      subst hsame
      rw [hout.link.out] at hacts
      exact hr.data_heard hs hne (marked_twice hid (List.append_cancel_left hacts))
  · rw [hev] at hev'
    cases hev'

theorem afterReset_exec :
    exec Sys.next (Sys.start freshLink) resetFirst = some afterReset := rfl

/-- A new connection's log is the SYN it has sent. -/
theorem Mux.Running.connect_acts {m : Mux} (hm : m.Running) (port : UInt16) :
    spawnedAs (actsOf (m.ports.length + 1) (onConnect m port).link.out) = none ∧
      pauseFlag (actsOf (m.ports.length + 1) (onConnect m port).link.out) = false := by
  rcases hm.ok.share (hm.connect port).1 (Nat.succ_pos m.ports.length) with
    ⟨-, hentry, -⟩ | ⟨-, -, ha, hacts, -⟩ | ⟨-, -, hlive, -, -, -⟩ | ⟨hc, -, -, -, -, -⟩ |
      ⟨-, hc, -, -, -⟩
  · obtain ⟨-, hrunning, hp, hconn⟩ := hm.connect port
    have hnew : (onConnect m port).entry (m.ports.length + 1) = some (m.newConn port) := by
      have hlisted : (onConnect m port).connections m.nextSport = some (m.newConn port) := by
        rw [hconn, Function.update_self]
      exact hrunning.ok.entry_of hlisted
    rw [hentry, m.entry_new (Nat.lt_succ_self _)] at hnew
    cases hnew
  · obtain ⟨buf, rfl, -⟩ := Act.eq_frame_of_tcp? ha
    rw [hacts]
    exact ⟨rfl, rfl⟩
  · exact absurd hm.writer hlive
  · rw [m.entry_new (Nat.lt_succ_self _)] at hc
    cases hc
  · rw [m.entry_new (Nat.lt_succ_self _)] at hc
    cases hc

/-- An acceptance that can be sent spawns the tasks, and leaves the pause flag alone. -/
theorem Reacts.acceptance {c : Connection} {th : ParsedTcp} {payload : Bytes} {alive : Bool}
    {acts : List Act} {r : Option Connection} (hr : Reacts c (.packet th payload alive) acts r)
    (hs : c.state = .connecting) (hflags : th.flags = synAck) (hlive : ¬ Failed acts) :
    r = some (c.hear th).bump.connect ∧ spawnedAs acts = some c.sport ∧
      acts.filterMap Act.pause? = [] := by
  rcases hr.syn hs hflags with ⟨hr', a, ha, rfl⟩ | ⟨-, e, rfl⟩
  · obtain ⟨buf, rfl, -⟩ := Act.eq_frame_of_tcp? ha
    refine ⟨hr', ?_⟩
    cases c.connectReply <;> exact ⟨rfl, rfl⟩
  · exact absurd ⟨e, List.mem_singleton_self _⟩ hlive

/-- A connecting entry whose SYN/ACK comes is connected; nobody else notices. -/
theorem Mux.Running.accepts {m : Mux} (hm : m.Running) {c : Connection} (th : ParsedTcp)
    (hc : m.connections th.dstPort = some c) (hs : c.state = .connecting)
    (hflags : th.flags = synAck) (payload : Bytes) (alive : Nat → Bool) :
    let m' := onPacket m alive (packetOf {} th payload)
    m'.Running ∧ (∃ c', m'.connections th.dstPort = some c' ∧ c'.state = .connected ∧
      c'.id = c.id) ∧ (∃ acts, actsOf c.id m'.link.out = actsOf c.id m.link.out ++ acts ∧
        spawnedAs acts = some c.sport ∧ acts.filterMap Act.pause? = []) ∧
      ∀ j, j ≠ c.id → actsOf j m'.link.out = actsOf j m.link.out := by
  intro m'
  have hstep : m.Step (.packet (packetOf {} th payload) alive) m' := hm.packet _ alive
  have hrunning : m'.Running :=
    ⟨hm.ok.step hstep, hstep.running hm.ok hm.phase (fun _ h => by cases h),
      (hstep.kept hm.ok).live hm.writer⟩
  refine ⟨hrunning, ?_⟩
  rcases hstep.change hm.ok.version with
    ⟨-, -, hnone, -, -, -, -, -⟩ | ⟨hopen, -⟩ | ⟨hopen, -⟩ | ⟨hd, htarget, hcev, hr, hout⟩
  · rw [hnone th.dstPort (by simp [Event.target, tcpOf_packetOf])] at hc
    cases hc
  · cases hopen
  · cases hopen
  · simp only [Event.target, tcpOf_packetOf, Option.map_some, Option.some.injEq] at htarget
    subst htarget
    rw [hc] at hd
    cases hd
    simp only [Event.forConn, tcpOf_packetOf, Option.map_some, Option.some.injEq] at hcev
    subst hcev
    have hlive := (hout.link.live hm.writer).2
    obtain ⟨hr', hacts⟩ := hr.acceptance hs hflags hlive
    refine ⟨⟨(c.hear th).bump.connect, ?_, rfl, rfl⟩, ⟨_, hout.link.acts_self, hacts⟩,
      fun j hj => hout.link.acts_ne (Ne.symm hj)⟩
    rw [hout.connections, Function.update_self, hr']

/-- A pump that nothing has happened to takes its client's byte to the loop. -/
theorem lateWrite_exec {s : Sys} {i : Nat} {p : UInt16} (hspawn : spawnedAs (s.acts i) = some p)
    (hpause : pauseFlag (s.acts i) = false) (htask : s.tasks i = {}) (hreturned : ¬ s.returned)
    (hempty : s.txData = []) :
    ∃ s', exec Sys.next s (lateWrite i) = some s' ∧ s'.mux = s.mux ∧
      s'.txData = [⟨i, p, some [65]⟩] ∧ s'.taken = s.taken ∧ s'.settled = s.settled := by
  have hwrite : s.next (.clientWrite i [65]) =
      some (s.setTask i { toMux := [65], written := [65] }) := by
    show s.taskNext (.clientWrite i [65]) = _
    simp [Sys.taskNext, hspawn, htask, pollWrite, Task.ourSideDropped, duplexBuf]
  have hlook : ∀ t : Task, t.pump = .check →
      (s.setTask i t).next (.pump i) = some (s.setTask i { t with pump := .reading }) := by
    intro t hp
    rw [Sys.next_pump (s := s.setTask i t) hspawn]
    simp [Sys.pumpStep, hp, hpause]
  have hread : ∀ t : Task, t.pump = .reading → t.toMux = [65] →
      (s.setTask i t).next (.pump i) =
        some (s.setTask i { t with pump := .sending (some [65]), toMux := [] }) := by
    intro t hp hbuf
    rw [Sys.next_pump (s := s.setTask i t) hspawn]
    simp [Sys.pumpStep, hp, hbuf, pollRead, maxPayload, usbMtu, v2HeaderSize, tcpHeaderSize]
  have hsend : ∀ t : Task, t.pump = .sending (some [65]) →
      (s.setTask i t).next (.pump i) =
        some { s.setTask i { t with pump := .check } with txData := [⟨i, p, some [65]⟩] } := by
    intro t hp
    have hret : ¬ (s.setTask i t).returned := hreturned
    have hnil : (s.setTask i t).txData = [] := hempty
    rw [Sys.next_pump (s := s.setTask i t) hspawn]
    simp [Sys.pumpStep, hp, hret, hnil, Sys.txDataCap]
  refine ⟨{ s.setTask i { toMux := [], written := [65] } with txData := [⟨i, p, some [65]⟩] },
    ?_, rfl, rfl, rfl, rfl⟩
  rw [lateWrite, exec, hwrite, Option.bind_some, exec, hlook _ rfl, Option.bind_some, exec,
    hread _ rfl rfl, Option.bind_some, exec, hsend _ rfl, Option.bind_some, exec]

/-- The tasks, their channels and what has been taken from them. -/
structure Sys.SameTasks (s s' : Sys) : Prop where
  tasks : s'.tasks = s.tasks
  txData : s'.txData = s.txData
  drains : s'.drains = s.drains
  taken : s'.taken = s.taken
  settled : s'.settled = s.settled

/-- A Connect and a packet, as far as the tasks can tell. -/
theorem Sys.exec_connect_packet {s : Sys} {port : UInt16} {pkt : Bytes} {m₁ m₂ : Mux}
    (h₁ : s.mux.next (.connect port) = some m₁)
    (h₂ : m₁.next (.packet pkt s.alive) = some m₂) :
    ∃ s', exec Sys.next s [.connect port, .packet pkt] = some s' ∧ s'.mux = m₂ ∧
      s.SameTasks s' := by
  have hnext₁ : s.next (.connect port) = some { s with mux := m₁ } :=
    (Sys.Takes.connect port).next h₁
  have hnext₂ : Sys.next { s with mux := m₁ } (.packet pkt) =
      some { Sys.consume { s with mux := m₁ } (.packet pkt) with mux := m₂ } :=
    (Sys.Takes.packet pkt).next h₂
  refine ⟨{ Sys.consume { s with mux := m₁ } (.packet pkt) with mux := m₂ }, ?_, rfl,
    ⟨rfl, rfl, rfl, rfl, rfl⟩⟩
  rw [exec, hnext₁, Option.bind_some, exec, hnext₂, Option.bind_some, exec]

/-- A message at the head of the queue can be taken while the loop runs. -/
theorem Sys.takeData_step {s : Sys} {msg : Message} {rest : List Message}
    (hdata : s.txData = msg :: rest) (hphase : s.mux.phase = .running) :
    ∃ s', s.Step .takeData s' ∧ s'.taken = s.taken ++ [msg] ∧ s'.settled = s.settled := by
  have hready : (Event.rxData msg.sport msg.body).ready s.mux = true := decide_eq_true hphase
  refine ⟨_, (Sys.Takes.message hdata).step ⟨if_pos hready, trivial⟩, ?_, rfl⟩
  show s.taken ++ s.txData.head?.toList = _
  rw [hdata]
  rfl

theorem Mux.Running.not_returned {s : Sys} (h : Mux.Running s.mux) : ¬ s.returned := by
  rw [Sys.returned, h.phase]
  exact fun h => by cases h

/-- The first connection is gone, and is the only one so far. -/
structure Sys.FirstGone (s : Sys) : Prop where
  running : s.mux.Running
  count : s.mux.ports.length = 1
  gone : s.mux.entry 1 = none

/-- A Connect that is accepted. -/
def acceptOne : List Action :=
  [.connect 62078, .packet (packetOf {} ⟨62078, 1, 0, 1, synAck, 0⟩ [])]

/-- After `k` more Connects and one that is accepted, connection `i` has the sport of the
first. -/
structure Sys.Reused (s : Sys) (i : Nat) (s' : Sys) : Prop where
  running : s'.mux.Running
  listed : ∃ c, s'.mux.connections 1 = some c ∧ c.state = .connected ∧ c.id = i
  spawned : spawnedAs (s'.acts i) = some 1
  free : pauseFlag (s'.acts i) = false
  first : s'.acts 1 = s.acts 1
  same : s.SameTasks s'

/-- Once the allocator has come round, the first connection's sport is somebody else's. -/
theorem Sys.FirstGone.reused {s : Sys} (hs : s.FirstGone) {k : Nat} (hk : sportAt (1 + k) = 1) :
    ∃ s', exec Sys.next s (List.replicate k (.connect 62078) ++ acceptOne) = some s' ∧
      s.Reused (1 + k + 1) s' := by
  obtain ⟨m₁, hexec₁, hcrowd⟩ := hs.running.crowd 62078 k
  obtain ⟨hstep₂, hrunning₂, -, hconn₂⟩ := hcrowd.running.connect 62078
  have hcount : m₁.ports.length = 1 + k := by rw [hcrowd.count, hs.count]
  have hnew := hcrowd.running.connect_acts 62078
  have hsport : m₁.nextSport = 1 := by rw [hcrowd.running.ok.nextSport, hcount, hk]
  have hid : (m₁.newConn 62078).id = 1 + k + 1 := by
    rw [Mux.newConn, hcount]
    rfl
  have hsport' : (m₁.newConn 62078).sport = 1 := hsport
  have hlisted : (onConnect m₁ 62078).connections 1 = some (m₁.newConn 62078) := by
    rw [hconn₂, hsport, Function.update_self]
  have hone : 1 ≤ s.mux.ports.length := Nat.le_of_eq hs.count.symm
  have hacts₂ := ((hcrowd.connect 62078).gone 1 Nat.one_pos hone hs.gone).2
  have haccepts := hrunning₂.accepts ⟨62078, 1, 0, 1, synAck, 0⟩ hlisted rfl rfl [] s.alive
  have hstep₃ := hrunning₂.packet (packetOf {} ⟨62078, 1, 0, 1, synAck, 0⟩ []) s.alive
  generalize onPacket (onConnect m₁ 62078) s.alive
    (packetOf {} ⟨62078, 1, 0, 1, synAck, 0⟩ []) = m₃ at haccepts hstep₃
  obtain ⟨hrunning₃, ⟨c, hc, hstate, hcid⟩, ⟨acts, hacts₃, hspawn, hpause⟩, hother⟩ := haccepts
  obtain ⟨s', hexec', rfl, hsame⟩ :=
    Sys.exec_connect_packet (s := { s with mux := m₁ }) hstep₂.1 hstep₃.1
  rw [hid] at hcid hacts₃ hother
  rw [hcount] at hnew
  refine ⟨s', exec_append (Sys.exec_connects hexec₁) hexec', hrunning₃, ⟨c, hc, hstate, hcid⟩,
    ?_, ?_, (hother 1 (by omega)).trans hacts₂,
    ⟨hsame.tasks, hsame.txData, hsame.drains, hsame.taken, hsame.settled⟩⟩
  · rw [Sys.acts, hacts₃, spawnedAs_append, hnew.1, hspawn, hsport']
    rfl
  · rw [Sys.acts, hacts₃, pauseFlag_append, hpause]
    exact hnew.2

/-- The first connection is gone, and its pump has yet to look at the pipe. -/
structure Sys.Stale (s : Sys) : Prop extends s.FirstGone where
  spawned : spawnedAs (s.acts 1) = some 1
  free : pauseFlag (s.acts 1) = false
  task : s.tasks 1 = {}
  empty : s.txData = []

theorem Sys.Stale.crosses {s : Sys} (hs : s.Stale) {k : Nat} (hk : sportAt (1 + k) = 1) :
    ∃ tr s', Run Sys.Step s tr s' ∧
      tr.map (fun t => t.2.1) =
        List.replicate k (.connect 62078) ++ acceptOne ++ lateWrite 1 ++ [.takeData] ∧
      ¬ EveryStep ReachesItsOwn tr := by
  obtain ⟨s₃, hexec₃, hreused⟩ := hs.reused hk
  obtain ⟨c, hc, hstate, hid⟩ := hreused.listed
  obtain ⟨s₄, hexec₄, hmux₄, hdata₄, -, -⟩ := lateWrite_exec (i := 1) (p := 1)
    (hreused.first ▸ hs.spawned) (hreused.first ▸ hs.free) (hreused.same.tasks ▸ hs.task)
    (Mux.Running.not_returned hreused.running) (hreused.same.txData ▸ hs.empty)
  have hrunning : s₄.mux.Running := hmux₄ ▸ hreused.running
  rw [← hmux₄] at hc
  obtain ⟨tr, hrun, hmap⟩ := Sys.run_of_exec
    (by simp [acceptOne, lateWrite, List.mem_replicate]) (exec_append hexec₃ hexec₄)
  obtain ⟨s₅, hstep₅, -, -⟩ := Sys.takeData_step hdata₄ hrunning.phase
  refine ⟨_, _, hrun.snoc hstep₅, by rw [List.map_append, hmap]; rfl, ?_⟩
  rw [everyStep_snoc]
  rintro ⟨-, hlast⟩
  refine not_reachesItsOwn hrunning.ok hstep₅ (by rw [hdata₄]; rfl) rfl (by simp) hc hstate ?_ hlast
  rw [hid]
  show 1 + k + 1 ≠ 1
  omega

theorem afterReset_stale {tr : List (Sys × Action × Sys)}
    (h : Run Sys.Step (Sys.start freshLink) tr afterReset) : afterReset.Stale := by
  obtain ⟨tr', hmux⟩ := Sys.mux_run h
  exact ⟨⟨⟨(mux_lives handshake_versionReply hmux).ok, rfl, rfl⟩, rfl, rfl⟩, rfl, rfl, rfl, rfl⟩

/-- The actions of a run with cross-talk: the first connection is reset, 65535 Connects
follow, the last of them is accepted, and then the first client writes. -/
def crossTalk : List Action :=
  resetFirst ++ (List.replicate 65534 (.connect 62078) ++ acceptOne ++ lateWrite 1 ++ [.takeData])

/-- **A late message reaches a later connection**: after 65535 further Connects, what the
client of a connection that was reset writes is sent to whoever has its sport. -/
theorem late_message_crosses : ∃ tr s, Run Sys.Step (Sys.start freshLink) tr s ∧
    tr.map (fun t => t.2.1) = crossTalk ∧ ¬ EveryStep ReachesItsOwn tr := by
  obtain ⟨tr₀, hrun₀, hmap₀⟩ := Sys.run_of_exec (by simp [resetFirst]) afterReset_exec
  obtain ⟨tr, s, hrun, hmap, hcross⟩ := (afterReset_stale hrun₀).crosses (k := 65534) rfl
  refine ⟨_, _, hrun₀.trans hrun, ?_, fun h => hcross fun t ht => h t (List.mem_append_right _ ht)⟩
  rw [List.map_append, hmap₀, hmap, crossTalk]

/-! ### A run that is tidy, though a sport is used again -/

/-- No task is about, and no message of one. -/
def Sys.Idle (s : Sys) : Prop :=
  ∀ i p, spawnedAs (s.acts i) = some p → ¬ s.Busy i

/-- A Connect spawns nothing. -/
theorem Mux.Ok.connect_spawned {m m' : Mux} {port : UInt16} (hok : m.Ok)
    (h : m.Step (.connect port) m') {i : Nat} (hi : 0 < i) {p : UInt16}
    (hspawn : spawnedAs (actsOf i m'.link.out) = some p) :
    spawnedAs (actsOf i m.link.out) = some p := by
  cases hok.share h hi with
  | untouched hacts _ _ => rwa [hacts] at hspawn
  | opened _ _ ha hacts _ =>
      rw [hacts, (Sent.log (Or.inl ha)).1] at hspawn
      cases hspawn
  | openFailed _ _ _ _ hacts _ =>
      rw [hacts] at hspawn
      cases hspawn
  | reacts _ htarget => cases htarget
  | dropped _ _ _ hacts _ =>
      rw [hacts, spawnedAs_append, (dropActs_log _).1, Option.or_none] at hspawn
      exact hspawn

theorem Sys.Sound.idle_connect {live : Prop} {s s' : Sys} {port : UInt16} (hs : s.Sound live)
    (hidle : s.Idle) (h : s.Step (.connect port) s') : s'.Idle := by
  intro i p hspawn hbusy
  rcases h.moved with ⟨hev, hmux, heq⟩ | ⟨hev, -, -, -⟩
  · cases hev
    have hpos : 0 < i := by
      rcases Nat.eq_zero_or_pos i with rfl | hpos
      · have hnone := (hmux.change hs.lives.ok.version).nobody hs.lives.ok hs.nobody
        rw [Sys.acts, hnone] at hspawn
        cases hspawn
      · exact hpos
    rw [heq] at hbusy
    exact hidle i p (hs.lives.ok.connect_spawned hmux hpos hspawn) hbusy
  · cases hev

/-- Where no task is about, any number of Connects are tidy. -/
theorem Sys.Sound.connects_tidy {live : Prop} {s s' : Sys} {port : UInt16} {k : Nat}
    {tr : List (Sys × Action × Sys)} (hs : s.Sound live) (hidle : s.Idle)
    (h : Run Sys.Step s tr s') (hmap : tr.map (fun t => t.2.1) = List.replicate k (.connect port)) :
    EveryStep Sys.Tidy tr := by
  have hconnects : EveryStep (fun _ a _ => a = Action.connect port) tr :=
    everyStep_of_actions hmap fun _ _ _ ha => List.eq_of_mem_replicate ha
  have htidy : ∀ u a u', u.Idle → Sys.Tidy u a u' := by
    intro u a u' hidle _ _ i hspawn
    exact hidle i _ hspawn
  refine h.everyStep_of (P := fun u => u.Sound live ∧ u.Idle) ⟨hs, hidle⟩ ?_
    (fun u a u' hu _ _ => htidy u a u' hu.2) hconnects
  rintro u a u' ⟨hsound, hidle⟩ hstep rfl
  exact ⟨hsound.step hstep (htidy u _ u' hidle), hsound.idle_connect hidle hstep⟩

/-- The last of the Connects that bring the allocator round is given the sport of the first
connection, and its client writes. -/
theorem Sys.Sound.serves_again {live : Prop} {s : Sys} (hs : s.Sound live) (hgone : s.FirstGone)
    (hidle : s.Idle) (hempty : s.txData = []) {k : Nat} (hk : sportAt (1 + k) = 1) :
    ∃ tr s', Run Sys.Step s tr s' ∧
      tr.map (fun t => t.2.1) =
        List.replicate k (.connect 62078) ++ acceptOne ++ lateWrite (1 + k + 1) ++ [.takeData] ∧
      s'.taken = s.taken ++ [⟨1 + k + 1, 1, some [65]⟩] ∧ s'.settled = s.settled ∧
      EveryStep Sys.Tidy tr := by
  obtain ⟨s₂, hexec₂, hreused⟩ := hgone.reused hk
  have hfresh : s.tasks (1 + k + 1) = {} := by
    refine hs.unspawned _ ?_
    rw [Sys.acts, hs.lives.ok.acts_nil (by rw [hgone.count]; omega)]
    rfl
  -- first come Connects only
  have hsplit : List.replicate k (.connect 62078) ++ acceptOne =
      List.replicate (k + 1) (.connect 62078) ++
        [.packet (packetOf {} ⟨62078, 1, 0, 1, synAck, 0⟩ [])] := by
    rw [List.replicate_succ', List.append_assoc]
    rfl
  obtain ⟨s₁, hexec₁, hpacket⟩ := exec_split (hsplit ▸ hexec₂)
  obtain ⟨tr₁, hrun₁, hmap₁⟩ := Sys.run_of_exec (by simp [List.mem_replicate]) hexec₁
  -- nothing else has to be tidy
  obtain ⟨s₃, hexec₃, hmux₃, hdata₃, htaken₃, hsettled₃⟩ := lateWrite_exec hreused.spawned
    hreused.free (hreused.same.tasks ▸ hfresh) hreused.running.not_returned
    (hreused.same.txData.trans hempty)
  obtain ⟨tr₂, hrun₂, hmap₂⟩ := Sys.run_of_exec (by simp [lateWrite]) (exec_append hpacket hexec₃)
  have hphase : s₃.mux.phase = .running := by rw [hmux₃, hreused.running.phase]
  obtain ⟨s₄, hstep₄, htaken₄, hsettled₄⟩ := Sys.takeData_step hdata₃ hphase
  have hrest : EveryStep Sys.Tidy (tr₂ ++ [(s₃, .takeData, s₄)]) := by
    refine everyStep_snoc.mpr ⟨everyStep_of_actions hmap₂ ?_, fun _ h => by cases h⟩
    rintro u a u' ha port rfl
    simp [lateWrite] at ha
  refine ⟨tr₁ ++ (tr₂ ++ [(s₃, .takeData, s₄)]), s₄, hrun₁.trans (hrun₂.snoc hstep₄), ?_, ?_, ?_,
    (hs.connects_tidy hidle hrun₁ hmap₁).append hrest⟩
  · rw [List.map_append, List.map_append, hmap₁, hmap₂, hsplit]
    simp
  · rw [htaken₄, htaken₃, hreused.same.taken]
  · rw [hsettled₄, hsettled₃, hreused.same.settled]

/-- The first connection carries data both ways, and its client hangs up. -/
def serveFirst : List Action :=
  [.connect 62078, .packet (packetOf {} ⟨62078, 1, 0, 1, synAck, 512⟩ []),
    .clientWrite 1 [65, 66], .pump 1, .pump 1, .pump 1, .takeData,
    .packet (packetOf {} ⟨62078, 1, 1, 3, TcpFlags.ack, 512⟩ [7]),
    .forwarder 1, .forwarder 1, .forwarder 1, .forwarder 1, .takeDrained,
    .clientDrop 1, .pump 1, .pump 1, .pump 1, .takeData, .forwarder 1]

def afterServe : Sys :=
  (exec Sys.next (Sys.start freshLink) serveFirst).getD (Sys.start freshLink)

theorem afterServe_exec :
    exec Sys.next (Sys.start freshLink) serveFirst = some afterServe := rfl

theorem afterServe_firstGone {tr : List (Sys × Action × Sys)}
    (h : Run Sys.Step (Sys.start freshLink) tr afterServe) : afterServe.FirstGone := by
  obtain ⟨tr', hmux⟩ := Sys.mux_run h
  exact ⟨⟨(mux_lives handshake_versionReply hmux).ok, rfl, rfl⟩, rfl, rfl⟩

/-- Both tasks of the first connection have ended, and all that they have sent was taken. -/
theorem afterServe_idle (hs : afterServe.Sound True) : afterServe.Idle := by
  intro i p hspawn
  have hi : i = 1 := by
    have hpos := (hs.spawned_sport hspawn).1
    by_contra hne
    have hone : afterServe.mux.ports.length = 1 := rfl
    rw [Sys.acts, hs.lives.ok.acts_nil (by omega)] at hspawn
    cases hspawn
  subst hi
  rintro (hpump | hforwarder | ⟨msg, hmem, -⟩ | ⟨d, hmem, -⟩)
  · exact hpump rfl
  · exact hforwarder rfl
  · cases hmem
  · cases hmem

/-- The first connection's tasks serve it and end, 65535 Connects follow, the last of them is
given its sport and is accepted, and then its client writes: every message is taken for the
connection whose task has sent it. -/
theorem reusedSport_no_cross_talk : ∃ tr s, Run Sys.Step (Sys.start freshLink) tr s ∧
    tr.map (fun t => t.2.1) = serveFirst ++
      (List.replicate 65534 (.connect 62078) ++ acceptOne ++ lateWrite 65536 ++ [.takeData]) ∧
    s.taken = [⟨1, 1, some [65, 66]⟩, ⟨1, 1, none⟩, ⟨65536, 1, some [65]⟩] ∧
    s.settled = [⟨1, 1, 1⟩] ∧ EveryStep ReachesItsOwn tr := by
  obtain ⟨tr₀, hrun₀, hmap₀⟩ := Sys.run_of_exec (by simp [serveFirst]) afterServe_exec
  have htidy₀ : EveryStep Sys.Tidy tr₀ := tidy_of_nodup handshake_versionReply hrun₀
    (List.nodup_cons.mpr ⟨by simp, List.nodup_nil⟩)
  have hsound : afterServe.Sound True := by
    have h := hrun₀.invariant_of (handshake_sound handshake_versionReply)
      (fun _ _ _ hsound hstep htidy => hsound.step hstep htidy) htidy₀
    exact (eq_true rfl : ((none : Option Nat) = none) = True) ▸ h
  obtain ⟨tr, s, hrun, hmap, htaken, hsettled, htidy⟩ :=
    hsound.serves_again (afterServe_firstGone hrun₀) (afterServe_idle hsound) rfl (k := 65534) rfl
  have hwhole := hrun₀.trans hrun
  refine ⟨_, s, hwhole, by rw [List.map_append, hmap₀, hmap], htaken, hsettled,
    no_cross_talk handshake_versionReply hwhole (htidy₀.append htidy)⟩

end Netmuxd
