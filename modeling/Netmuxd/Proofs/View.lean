/-
The system as a product of connections.

`View` is everything that belongs to one connection: its log, its entry, its tasks,
and what is its own on the shared channels and in the histories.  `View.Step` is that
connection as a machine on its own, with no map and no other connection in it.
`sys_views` says that a run of the system, looked at from any connection, is a run of
this machine, as long as no Connect is given a sport whose earlier tasks are still
about (`Sys.Tidy`).

The premise is needed.  Messages name a sport and not a connection, so a sport that
is handed out too early joins two connections that should have nothing to do with
each other.
-/
import Netmuxd.Proofs.Tasks
import Mathlib.Logic.Relation

namespace Netmuxd

open Lib Relation

/-! ### One connection on its own -/

structure View where
  acts : List Act := []
  entry : Option Connection := none
  task : Task := {}
  /-- What the loop has taken off `tx_data`, and what is still queued there. -/
  taken : List (Option Bytes) := []
  queued : List (Option Bytes) := []
  /-- What the loop has taken off `drain_tx`, and what is still queued there. -/
  settled : List UInt32 := []
  owed : List UInt32 := []
  /-- The packets handled for this connection. -/
  inbox : List (ParsedTcp × Bytes) := []

def bodiesOf (i : Nat) (msgs : List Message) : List (Option Bytes) :=
  msgs.filterMap fun m => if m.src = i then some m.body else none

def amountsOf (i : Nat) (ds : List Notice) : List UInt32 :=
  ds.filterMap fun d => if d.src = i then some d.n else none

def packetsOf (i : Nat) (rs : List Received) : List (ParsedTcp × Bytes) :=
  rs.filterMap fun r => if r.id = i then some (r.th, r.payload) else none

def Sys.view (s : Sys) (i : Nat) : View where
  acts := s.acts i
  entry := s.mux.entry i
  task := s.tasks i
  taken := bodiesOf i s.taken
  queued := bodiesOf i s.txData
  settled := amountsOf i s.settled
  owed := amountsOf i s.drains
  inbox := packetsOf i s.inbox

/-- A message of the connection's pump, as its entry meets it. -/
def bodyEvent : Option Bytes → ConnEvent
  | some bytes => .data bytes
  | none => .close

/-- The loop takes something up for this connection. -/
inductive View.Takes (v : View) : ConnEvent → View → Prop
  | message {body : Option Bytes} {rest : List (Option Bytes)} (hq : v.queued = body :: rest) :
      v.Takes (bodyEvent body) { v with taken := v.taken ++ [body], queued := rest }
  | notice {n : UInt32} {rest : List UInt32} (ho : v.owed = n :: rest) :
      v.Takes (.drained n) { v with settled := v.settled ++ [n], owed := rest }
  | packet {th : ParsedTcp} {payload : Bytes} :
      v.Takes (.packet th payload (decide (v.task.forwarder ≠ .done)))
        { v with inbox := v.inbox ++ [(th, payload)] }
  | closing : v.Takes .closing v

theorem View.Takes.acts {v u : View} {cev : ConnEvent} (h : v.Takes cev u) :
    u.acts = v.acts ∧ u.entry = v.entry := by
  cases h <;> exact ⟨rfl, rfl⟩

/-- What a pump's message is taken up as tells which message it was. -/
theorem View.Takes.of_message {v u : View} {b : Option Bytes} (h : v.Takes (bodyEvent b) u) :
    ∃ rest, v.queued = b :: rest ∧ u = { v with taken := v.taken ++ [b], queued := rest } := by
  generalize hcev : bodyEvent b = cev at h
  cases h with
  | @message body rest hq =>
      have hbody : body = b := by
        cases b <;> cases body <;> cases hcev <;> rfl
      subst hbody
      exact ⟨rest, hq, rfl⟩
  | notice => cases b <;> cases hcev
  | packet => cases b <;> cases hcev
  | closing => cases b <;> cases hcev

/--
One step of connection `i` on its own.  `Q` is what is known of the events it may
meet, given all that has happened on it: which packets the device sends, for one.
-/
inductive View.Step (live : Prop) (Q : View → ConnEvent → Prop) (i : Nat) (v : View) :
    View → Prop
  | opened {dport : UInt16} {a : Act} (hacts : v.acts = []) (hentry : v.entry = none)
      (ha : a.tcp? = some (headerOf (Connection.new i (sportAt (i - 1)) dport) TcpFlags.syn, [])) :
      v.Step live Q i
        { v with acts := [a], entry := some (Connection.new i (sportAt (i - 1)) dport) }
  | openFailed {e : IoError} (hacts : v.acts = []) (hentry : v.entry = none) (hlive : ¬ live) :
      v.Step live Q i { v with acts := [.sendFailed e, .reply (.error e)] }
  | reacts {c : Connection} {cev : ConnEvent} {u : View} {acts : List Act} {r : Option Connection}
      (hc : v.entry = some c) (hQ : Q v cev) (ht : v.Takes cev u) (hr : Reacts c cev acts r)
      (hlive : live → ¬ Failed acts) (hdead : Failed v.acts → ∀ a ∈ acts, a.tcp? = none) :
      v.Step live Q i { u with acts := v.acts ++ acts, entry := r }
  /-- A message or a notice that comes when the entry is gone. -/
  | late {cev : ConnEvent} {u : View} (hc : v.entry = none) (ht : v.Takes cev u)
      (hbox : u.inbox = v.inbox) : v.Step live Q i u
  /-- A later Connect is given the same sport. -/
  | dropped {c : Connection} (hc : v.entry = some c) :
      v.Step live Q i { v with acts := v.acts ++ c.dropActs, entry := none }
  | task {t : Task} {msgs : List (Option Bytes)} {ns : List UInt32}
      (hspawn : spawnedAs v.acts ≠ none) (ht : TaskStep v.acts (v.entry = none) v.task t msgs ns) :
      v.Step live Q i { v with task := t, queued := v.queued ++ msgs, owed := v.owed ++ ns }

/-! ### Premises on a run -/

namespace Sys

/-- Something of connection `i` can still reach the loop. -/
def Busy (s : Sys) (i : Nat) : Prop :=
  (s.tasks i).pump ≠ .done ∨ (s.tasks i).forwarder ≠ .done ∨ (∃ msg ∈ s.txData, msg.src = i) ∨
    ∃ d ∈ s.drains, d.src = i

/-- A Connect is given a sport that no task or queued message still goes by. -/
def Tidy (s : Sys) (a : Action) (_ : Sys) : Prop :=
  ∀ port, a = .connect port → ∀ i, spawnedAs (s.acts i) = some s.mux.nextSport → ¬ s.Busy i

/-- What the loop takes up for a listed connection is something it may meet. -/
def Meets (Q : Nat → View → ConnEvent → Prop) (s : Sys) (a : Action) (_ : Sys) : Prop :=
  ∀ ev, s.event a = some ev → ∀ p c cev, s.mux.connections p = some c → ev.target s.mux = some p →
    ev.forConn c.id = some cev → Q c.id (s.view c.id) cev

end Sys

/-- An event that a connection meets as a packet is a packet for it. -/
theorem Event.addressee {m : Mux} {ev : Event} {p : UInt16} {c : Connection} {th : ParsedTcp}
    {payload : Bytes} {alive : Bool} (hc : m.connections p = some c)
    (htarget : ev.target m = some p) (hcev : ev.forConn c.id = some (.packet th payload alive)) :
    ∃ pkt f, ev = .packet pkt f ∧ Sys.addressee m pkt = some (c, th, payload) ∧
      alive = f c.id := by
  cases ev with
  | packet pkt f =>
      obtain ⟨r, htcp, hr⟩ := Option.map_eq_some_iff.mp hcev
      obtain ⟨r', htcp', hr'⟩ := Option.map_eq_some_iff.mp htarget
      rw [htcp] at htcp'
      cases htcp'
      cases hr
      exact ⟨pkt, f, rfl, Sys.addressee_eq_some.mpr ⟨htcp, hr' ▸ hc⟩, rfl⟩
  | rxData _ body => cases body <;> cases hcev
  | _ => cases hcev

theorem Sys.event_packet {s : Sys} {a : Action} {ev : Event} {p : UInt16} {c : Connection}
    {th : ParsedTcp} {payload : Bytes} {alive : Bool} (hev : s.event a = some ev)
    (hc : s.mux.connections p = some c) (htarget : ev.target s.mux = some p)
    (hcev : ev.forConn c.id = some (.packet th payload alive)) :
    ∃ pkt, a = .packet pkt ∧ Sys.addressee s.mux pkt = some (c, th, payload) ∧
      alive = s.alive c.id := by
  obtain ⟨pkt, f, rfl, haddr, halive⟩ := Event.addressee hc htarget hcev
  cases Sys.event_eq_some.mp hev
  exact ⟨pkt, rfl, haddr, halive⟩

theorem Sys.event_closing {s : Sys} {a : Action} {ev : Event} {i : Nat}
    (hev : s.event a = some ev) (hcev : ev.forConn i = some .closing) : a = .closeNext := by
  cases ev with
  | closeNext =>
      cases Sys.event_eq_some.mp hev
      rfl
  | packet pkt f =>
      obtain ⟨r, -, hr⟩ := Option.map_eq_some_iff.mp hcev
      cases hr
  | rxData _ body => cases body <;> cases hcev
  | _ => cases hcev

/-! ### Which connection a message finds -/

/-- Whatever is still about finds its own connection under its sport, or none. -/
structure Sys.Sound (live : Prop) (s : Sys) : Prop where
  lives : s.mux.Lives live
  /-- Every entry still has its turn when the loop has been left. -/
  exits : ∀ rest, s.mux.phase = .closing rest → ∀ p c, s.mux.connections p = some c → p ∈ rest
  nobody : spawnedAs (s.acts 0) = none
  unspawned : ∀ i, spawnedAs (s.acts i) = none → s.tasks i = {}
  messages : ∀ msg ∈ s.txData, spawnedAs (s.acts msg.src) = some msg.sport
  notices : ∀ d ∈ s.drains, spawnedAs (s.acts d.src) = some d.sport
  owner : ∀ i p c, spawnedAs (s.acts i) = some p → s.Busy i → s.mux.connections p = some c →
    c.id = i

theorem Sys.Sound.start {live : Prop} {link : Link} (h : link.Fresh)
    (hw : live → link.writeLeft = none) (h0 : spawnedAs (actsOf 0 link.out) = none) :
    (Sys.start link).Sound live where
  lives := Mux.Lives.start h hw
  exits := fun rest hr => by cases hr
  nobody := h0
  unspawned := fun _ _ => rfl
  messages := fun msg hm => by cases hm
  notices := fun d hd => by cases hd
  owner := fun i p c _ _ hc => by cases hc

theorem closeNext_phase {m : Mux} {p : UInt16} {rest : List UInt16}
    (h : m.phase = .closing (p :: rest)) : (closeNext m).phase = .closing rest := by
  simp only [closeNext, h]
  cases hc : m.connections p with
  | none => simp only [teardown, hc]
  | some c => simp only [teardown, hc]

theorem Mux.Step.running {m m' : Mux} {ev : Event} (hok : m.Ok) (h : m.Step ev m')
    (hrun : m.phase = .running) (hstop : ∀ order, ev ≠ .stop order) : m'.phase = .running := by
  rcases h.change hok.version with
    ⟨-, -, -, -, -, -, -, hphase⟩ | ⟨-, -, -, -, -, -, -, hphase⟩ | ⟨-, -, -, -, -, hphase⟩ |
      ⟨-, -, -, -, hout⟩
  · exact hphase hrun hstop
  · exact hphase hrun
  · exact hphase hrun
  · exact hout.phase hrun

theorem mux_exits {m m' : Mux} {ev : Event} (hok : m.Ok) (h : m.Step ev m')
    (hexits : ∀ rest, m.phase = .closing rest → ∀ p c, m.connections p = some c → p ∈ rest) :
    ∀ rest, m'.phase = .closing rest → ∀ p c, m'.connections p = some c → p ∈ rest := by
  intro rest hrest q c hc
  obtain ⟨hready, hm'⟩ := h.eq_handle
  by_cases hstop : ∃ order, ev = .stop order
  · obtain ⟨order, rfl⟩ := hstop
    subst hm'
    cases hrest
    exact (h.2.2 q).mpr (by rw [show m.connections q = some c from hc]; rfl)
  by_cases hclose : ev = .closeNext
  · subst hclose
    obtain ⟨p, rest', hphase⟩ : ∃ p rest', m.phase = .closing (p :: rest') := by
      simp only [Event.ready] at hready
      split at hready
      · exact ⟨_, _, ‹_›⟩
      · cases hready
    have hrest' : rest' = rest := by
      have := closeNext_phase hphase
      rw [show closeNext m = m' from hm'.symm, hrest] at this
      cases this
      rfl
    have htarget : Event.closeNext.target m = some p := by simp only [Event.target, hphase]
    have hold : m.connections q = some c ∧ q ≠ p := by
      rcases h.change hok.version with
        ⟨-, -, hidle, hconn, -, -, -, -⟩ | ⟨hev, -, -, -, -, -, -, -⟩ | ⟨hev, -, -, -, -, -⟩ |
          ⟨-, htarget', hcev, hr, hout⟩
      · rw [hconn] at hc
        refine ⟨hc, ?_⟩
        rintro rfl
        rw [hidle q htarget] at hc
        cases hc
      · cases hev
      · cases hev
      · rw [htarget] at htarget'
        cases htarget'
        cases hcev
        cases hr with
        | closing _ =>
            rw [hout.connections] at hc
            have hne : q ≠ p := by
              rintro rfl
              rw [Function.update_self] at hc
              cases hc
            rw [Function.update_of_ne hne] at hc
            exact ⟨hc, hne⟩
    rcases List.mem_cons.mp (hexits _ hphase q c hold.1) with heq | hmem
    · exact absurd heq hold.2
    · exact hrest' ▸ hmem
  · have hrun : m.phase = .running := by
      cases ev <;> first | exact of_decide_eq_true hready | exact absurd rfl hclose
    rw [h.running hok hrun (fun order hev => hstop ⟨order, hev⟩)] at hrest
    cases hrest

/-! ### Sound steps -/

theorem Change.nobody {m m' : Mux} {ev : Event} (hok : m.Ok) (h : Change m ev m') :
    spawnedAs (actsOf 0 m.link.out) = none → spawnedAs (actsOf 0 m'.link.out) = none := by
  intro hnone
  rcases h with ⟨-, hquiet, -, -, hlink, -, -, -⟩ | ⟨-, -, -, hlink, hold, -, -, -⟩ |
    ⟨-, -, hlink, -, -, -⟩ | ⟨hc, -, -, -, hout⟩
  · rw [hlink.acts_self, spawnedAs_append, hnone, Option.none_or]
    exact spawnedAs_eq_none.mpr hquiet
  · rw [hold.acts_ne (fun old hc => Nat.ne_of_gt (hok.entry _ _ hc).2.1),
      hlink.acts_ne (Nat.succ_ne_zero _)]
    exact hnone
  · rw [hlink.acts_ne (Nat.succ_ne_zero _)]
    exact hnone
  · rw [hout.link.acts_ne (Nat.ne_of_gt (hok.entry _ _ hc).2.1)]
    exact hnone

/-- What the tasks go by does not change under them. -/
theorem Mux.Step.spawned_mono {m m' : Mux} {ev : Event} (hok : m.Ok) (h : m.Step ev m') {i : Nat}
    {p : UInt16} (hi : spawnedAs (actsOf i m.link.out) = some p) :
    spawnedAs (actsOf i m'.link.out) = some p := by
  obtain ⟨as, has⟩ := (h.kept hok).grows i
  rw [← has, spawnedAs_append, hi, Option.some_or]

/-- The sport the tasks of `i` go by is the one its entry is under. -/
theorem Sys.Sound.spawned_sport {live : Prop} {s : Sys} (hs : s.Sound live) {i : Nat} {p : UInt16}
    (hi : spawnedAs (s.acts i) = some p) : 0 < i ∧ p = sportAt (i - 1) := by
  rcases Nat.eq_zero_or_pos i with rfl | hpos
  · rw [hs.nobody] at hi
    cases hi
  · exact ⟨hpos, (hs.lives.life i hpos).linked.sport p hi⟩

theorem consume_busy {s : Sys} {a : Action} {m : Mux} {i : Nat}
    (h : Sys.Busy { s.consume a with mux := m } i) : s.Busy i := by
  have htail : ∀ {l : List Message}, (∃ msg ∈ l.tail, msg.src = i) → ∃ msg ∈ l, msg.src = i :=
    fun ⟨msg, hmem, hsrc⟩ => ⟨msg, List.mem_of_mem_tail hmem, hsrc⟩
  have htail' : ∀ {l : List Notice}, (∃ d ∈ l.tail, d.src = i) → ∃ d ∈ l, d.src = i :=
    fun ⟨d, hmem, hsrc⟩ => ⟨d, List.mem_of_mem_tail hmem, hsrc⟩
  cases a with
  | takeData => exact h.imp id (Or.imp id (Or.imp htail id))
  | takeDrained => exact h.imp id (Or.imp id (Or.imp id htail'))
  | _ => exact h

theorem consume_tasks (s : Sys) (a : Action) : (s.consume a).tasks = s.tasks := by
  cases a <;> rfl

theorem consume_sub (s : Sys) (a : Action) :
    (∀ msg ∈ (s.consume a).txData, msg ∈ s.txData) ∧
      ∀ d ∈ (s.consume a).drains, d ∈ s.drains := by
  cases a with
  | takeData => exact ⟨fun msg h => List.mem_of_mem_tail h, fun d h => h⟩
  | takeDrained => exact ⟨fun msg h => h, fun d h => List.mem_of_mem_tail h⟩
  | _ => exact ⟨fun msg h => h, fun d h => h⟩

/-- Tasks that are spawned in a step are spawned for a connection that is listed. -/
theorem Share.newly_spawned {m m' : Mux} {ev : Event} {i : Nat} {p : UInt16}
    (h : Share m ev i m') (hold : spawnedAs (actsOf i m.link.out) = none)
    (hnew : spawnedAs (actsOf i m'.link.out) = some p) : ∃ c, m'.entry i = some c := by
  cases h with
  | untouched hacts _ _ =>
      rw [hacts, hold] at hnew
      cases hnew
  | opened _ _ ha hacts _ =>
      rw [hacts, (Sent.log (Or.inl ha)).1] at hnew
      cases hnew
  | openFailed _ _ _ _ hacts _ =>
      rw [hacts] at hnew
      cases hnew
  | dropped _ _ _ hacts _ =>
      rw [hacts, spawnedAs_append, hold, (dropActs_log _).1] at hnew
      cases hnew
  | reacts _ _ _ hr hlink hentry =>
      rcases hr.spawned with ⟨-, -, c', hr', -, -⟩ | ⟨hnone, -⟩
      · exact ⟨c', hentry.trans hr'⟩
      · rw [hlink.acts_self, spawnedAs_append, hold, hnone] at hnew
        cases hnew

/-- Under its own sport a connection with tasks about finds itself or nobody. -/
theorem Sys.Sound.owner_loop {live : Prop} {s s' : Sys} {a : Action} {ev : Event}
    (hs : s.Sound live) (htidy : s.Tidy a s') (hev : s.event a = some ev)
    (h : s.mux.Step ev s'.mux) {i : Nat} {p : UInt16} {c : Connection}
    (hi : spawnedAs (s'.acts i) = some p) (hbusy : s.Busy i)
    (hc : s'.mux.connections p = some c) : c.id = i := by
  have hlives' := hs.lives.step h
  cases hold : spawnedAs (s.acts i) with
  | none =>
      have hpos : 0 < i := by
        rcases Nat.eq_zero_or_pos i with rfl | hpos
        · have hnone := (h.change hs.lives.ok.version).nobody hs.lives.ok hs.nobody
          rw [Sys.acts, hnone] at hi
          cases hi
        · exact hpos
      obtain ⟨d, hd⟩ := (hs.lives.ok.share h hpos).newly_spawned hold hi
      have hlinked := (hlives'.life i hpos).linked
      obtain ⟨hd', hid⟩ := hlives'.ok.of_entry hd
      rw [(hlinked.listed d hd).1, ← hlinked.sport p hi, hc] at hd'
      cases hd'
      exact hid
  | some q =>
      have hq : q = p := by
        have := h.spawned_mono hs.lives.ok hold
        rw [show actsOf i s'.mux.link.out = s'.acts i from rfl, hi] at this
        exact (Option.some.inj this).symm
      subst hq
      rcases h.change hs.lives.ok.version with
        ⟨-, -, -, hconn, -, -, -, -⟩ | ⟨hopen, -, hconn, -, -, -, -, -⟩ | ⟨-, hconn, -, -, -, -⟩ |
          ⟨hd, -, -, hr, hout⟩
      · exact hs.owner i q c hold hbusy (hconn ▸ hc)
      · -- the sport of a Connect is one that nothing goes by any more
        rw [hconn, Function.update_apply] at hc
        split at hc
        · rename_i hq
          subst hopen
          cases Sys.event_eq_some.mp hev
          exact absurd hbusy (htidy _ rfl i (hq ▸ hold))
        · exact hs.owner i q c hold hbusy hc
      · exact hs.owner i q c hold hbusy (hconn ▸ hc)
      · rw [hout.connections, Function.update_apply] at hc
        split at hc
        · rename_i hq
          subst hc
          rw [hr.same.1]
          exact hs.owner i q _ hold hbusy (hq ▸ hd)
        · exact hs.owner i q c hold hbusy hc

/-- An event the loop takes leaves everything sound. -/
theorem Sys.Sound.loop {live : Prop} {s s' : Sys} {a : Action} {ev : Event} (hs : s.Sound live)
    (htidy : s.Tidy a s') (hev : s.event a = some ev) (h : s.mux.Step ev s'.mux)
    (heq : s' = { s.consume a with mux := s'.mux }) : s'.Sound live := by
  have htasks : s'.tasks = s.tasks := by rw [heq]; exact consume_tasks s a
  refine ⟨hs.lives.step h, mux_exits hs.lives.ok h hs.exits,
    (h.change hs.lives.ok.version).nobody hs.lives.ok hs.nobody, ?_, ?_, ?_, ?_⟩
  · intro i hi
    rw [htasks]
    refine hs.unspawned i ?_
    cases hold : spawnedAs (s.acts i) with
    | none => rfl
    | some p =>
        rw [Sys.acts, h.spawned_mono hs.lives.ok hold] at hi
        cases hi
  · intro msg hmem
    rw [heq] at hmem
    exact h.spawned_mono hs.lives.ok (hs.messages msg ((consume_sub s a).1 msg hmem))
  · intro d hmem
    rw [heq] at hmem
    exact h.spawned_mono hs.lives.ok (hs.notices d ((consume_sub s a).2 d hmem))
  · intro i p c hi hbusy hc
    exact hs.owner_loop htidy hev h hi (consume_busy (a := a) (m := s'.mux) (heq ▸ hbusy)) hc

/-- Tasks that have ended, with nothing of theirs queued, do not come back. -/
theorem Sys.Busy.of_afterTask {s : Sys} {i j : Nat} {sport : UInt16} {t : Task}
    {msgs : List (Option Bytes)} {ns : List UInt32}
    (ht : TaskStep (s.acts i) s.returned (s.tasks i) t msgs ns)
    (h : (s.afterTask i sport t msgs ns).Busy j) : s.Busy j := by
  by_contra hidle
  have hpump : (s.tasks j).pump = .done := by
    by_contra hne
    exact hidle (Or.inl hne)
  have hforwarder : (s.tasks j).forwarder = .done := by
    by_contra hne
    exact hidle (Or.inr (Or.inl hne))
  by_cases hij : j = i
  · subst hij
    obtain ⟨hp, hnone⟩ := ht.pump_done hpump
    obtain ⟨hf, hnone'⟩ := ht.forwarder_done hforwarder
    rcases h with hne | hne | ⟨msg, hmem, hsrc⟩ | ⟨d, hmem, hsrc⟩
    · exact hne (by rw [Sys.afterTask_self]; exact hp)
    · exact hne (by rw [Sys.afterTask_self]; exact hf)
    · have hmem' := (Sys.mem_txData_afterTask hmem).resolve_right fun hnew => hnew.1 hnone
      exact hidle (Or.inr (Or.inr (Or.inl ⟨msg, hmem', hsrc⟩)))
    · have hmem' := (Sys.mem_drains_afterTask hmem).resolve_right fun hnew => hnew.1 hnone'
      exact hidle (Or.inr (Or.inr (Or.inr ⟨d, hmem', hsrc⟩)))
  · rcases h with hne | hne | ⟨msg, hmem, hsrc⟩ | ⟨d, hmem, hsrc⟩
    · exact hne (by rw [Sys.afterTask_ne hij]; exact hpump)
    · exact hne (by rw [Sys.afterTask_ne hij]; exact hforwarder)
    · have hmem' := (Sys.mem_txData_afterTask hmem).resolve_right fun hnew =>
        hij (hsrc.symm.trans hnew.2.1)
      exact hidle (Or.inr (Or.inr (Or.inl ⟨msg, hmem', hsrc⟩)))
    · have hmem' := (Sys.mem_drains_afterTask hmem).resolve_right fun hnew =>
        hij (hsrc.symm.trans hnew.2.1)
      exact hidle (Or.inr (Or.inr (Or.inr ⟨d, hmem', hsrc⟩)))

theorem Sys.Sound.task {live : Prop} {s s' : Sys} {i : Nat} {sport : UInt16} (hs : s.Sound live)
    (hspawn : spawnedAs (s.acts i) = some sport) (h : s.TaskMoves i sport s') : s'.Sound live := by
  obtain ⟨t', msgs, ns, ht, rfl⟩ := h
  have hacts : ∀ j, (s.afterTask i sport t' msgs ns).acts j = s.acts j := fun _ => rfl
  refine ⟨hs.lives, hs.exits, hs.nobody, ?_, ?_, ?_, ?_⟩
  · intro j hj
    have hne : j ≠ i := by
      intro hji
      rw [hacts, hji, hspawn] at hj
      cases hj
    rw [Sys.afterTask_ne hne]
    exact hs.unspawned j hj
  · intro msg hmem
    rcases Sys.mem_txData_afterTask hmem with hmem | ⟨-, hsrc, hsport⟩
    · exact hs.messages msg hmem
    · rw [hacts, hsrc, hsport]
      exact hspawn
  · intro d hmem
    rcases Sys.mem_drains_afterTask hmem with hmem | ⟨-, hsrc, hsport⟩
    · exact hs.notices d hmem
    · rw [hacts, hsrc, hsport]
      exact hspawn
  · intro j p c hj hbusy hc
    exact hs.owner j p c hj (hbusy.of_afterTask ht) hc

theorem Sys.Sound.moved {live : Prop} {s s' : Sys} {a : Action} (hs : s.Sound live)
    (h : s.Moved a s') (htidy : s.Tidy a s') : s'.Sound live := by
  rcases h with ⟨hev, hstep, heq⟩ | ⟨-, -, hspawn, hmoves⟩
  · exact hs.loop htidy hev hstep heq
  · exact hs.task hspawn hmoves

theorem Sys.Sound.step {live : Prop} {s s' : Sys} {a : Action} (hs : s.Sound live)
    (h : s.Step a s') (htidy : s.Tidy a s') : s'.Sound live :=
  hs.moved h.moved htidy

/-! ### The projection -/

@[simp] theorem bodiesOf_append (i : Nat) (ms ms' : List Message) :
    bodiesOf i (ms ++ ms') = bodiesOf i ms ++ bodiesOf i ms' := by
  simp [bodiesOf]

@[simp] theorem amountsOf_append (i : Nat) (ds ds' : List Notice) :
    amountsOf i (ds ++ ds') = amountsOf i ds ++ amountsOf i ds' := by
  simp [amountsOf]

@[simp] theorem packetsOf_append (i : Nat) (rs rs' : List Received) :
    packetsOf i (rs ++ rs') = packetsOf i rs ++ packetsOf i rs' := by
  simp [packetsOf]

theorem bodiesOf_map_self (i : Nat) (sport : UInt16) (msgs : List (Option Bytes)) :
    bodiesOf i (msgs.map (Message.mk i sport)) = msgs := by
  simp only [bodiesOf, List.filterMap_map, Function.comp_def, ↓reduceIte, List.filterMap_some]

theorem bodiesOf_map_ne {i j : Nat} (h : j ≠ i) (sport : UInt16) (msgs : List (Option Bytes)) :
    bodiesOf i (msgs.map (Message.mk j sport)) = [] := by
  simp [bodiesOf, h]

theorem amountsOf_map_self (i : Nat) (sport : UInt16) (ns : List UInt32) :
    amountsOf i (ns.map (Notice.mk i sport)) = ns := by
  simp only [amountsOf, List.filterMap_map, Function.comp_def, ↓reduceIte, List.filterMap_some]

theorem amountsOf_map_ne {i j : Nat} (h : j ≠ i) (sport : UInt16) (ns : List UInt32) :
    amountsOf i (ns.map (Notice.mk j sport)) = [] := by
  simp [amountsOf, h]

theorem Sys.view_task {live : Prop} {Q : View → ConnEvent → Prop} {s s' : Sys} {j : Nat}
    {sport : UInt16} (hs : s.Sound live) (hspawn : spawnedAs (s.acts j) = some sport)
    (h : s.TaskMoves j sport s') (i : Nat) :
    s'.view i = s.view i ∨ (s.view i).Step live Q i (s'.view i) := by
  obtain ⟨t', msgs, ns, ht, rfl⟩ := h
  by_cases hij : j = i
  · subst hij
    have hview : (s.afterTask j sport t' msgs ns).view j =
        { s.view j with
          task := t'
          queued := (s.view j).queued ++ msgs
          owed := (s.view j).owed ++ ns } := by
      simp only [Sys.view, Sys.afterTask, Sys.setTask, bodiesOf_append, amountsOf_append,
        bodiesOf_map_self, amountsOf_map_self, Function.update_self]
      rfl
    rw [hview]
    refine Or.inr (View.Step.task ?_ (ht.mono ?_))
    · rw [show (s.view j).acts = s.acts j from rfl, hspawn]
      exact Option.some_ne_none _
    · -- once the loop has returned, no entry is left
      intro hret
      show s.mux.entry j = none
      cases hc : s.mux.entry j with
      | none => rfl
      | some c => cases hs.exits [] hret _ c (hs.lives.ok.of_entry hc).1
  · refine Or.inl ?_
    simp only [Sys.view, Sys.afterTask, Sys.setTask, bodiesOf_append, amountsOf_append,
      bodiesOf_map_ne hij, amountsOf_map_ne hij, List.append_nil,
      Function.update_of_ne (Ne.symm hij)]
    rfl

/-- A message of a pump, as its connection sees it taken up. -/
theorem Sys.view_message {s : Sys} {msg : Message} {rest : List Message}
    (hq : s.txData = msg :: rest) :
    ∃ u, (s.view msg.src).Takes (bodyEvent msg.body) u ∧ u.inbox = (s.view msg.src).inbox ∧
      ∀ m : Mux, Sys.view { s.consume .takeData with mux := m } msg.src =
        { u with acts := actsOf msg.src m.link.out, entry := m.entry msg.src } := by
  have hqueued : (s.view msg.src).queued = msg.body :: bodiesOf msg.src rest := by
    simp [Sys.view, bodiesOf, hq]
  have htaken : bodiesOf msg.src [msg] = [msg.body] := by simp [bodiesOf]
  refine ⟨_, View.Takes.message hqueued, rfl, fun m => ?_⟩
  simp only [Sys.view, Sys.consume, hq, List.head?_cons, List.tail_cons, Option.toList_some,
    bodiesOf_append, htaken]
  rfl

/-- A notice of a forwarder, likewise. -/
theorem Sys.view_notice {s : Sys} {d : Notice} {rest : List Notice} (hq : s.drains = d :: rest) :
    ∃ u, (s.view d.src).Takes (.drained d.n) u ∧ u.inbox = (s.view d.src).inbox ∧
      ∀ m : Mux, Sys.view { s.consume .takeDrained with mux := m } d.src =
        { u with acts := actsOf d.src m.link.out, entry := m.entry d.src } := by
  have howed : (s.view d.src).owed = d.n :: amountsOf d.src rest := by
    simp [Sys.view, amountsOf, hq]
  have hsettled : amountsOf d.src [d] = [d.n] := by simp [amountsOf]
  refine ⟨_, View.Takes.notice howed, rfl, fun m => ?_⟩
  simp only [Sys.view, Sys.consume, hq, List.head?_cons, List.tail_cons, Option.toList_some,
    amountsOf_append, hsettled]
  rfl

/-- What the loop takes up for connection `i` in this action, if it is for `i` at all. -/
theorem Sys.Sound.takes {live : Prop} {s : Sys} {a : Action} {ev : Event} (hs : s.Sound live)
    (hev : s.event a = some ev) {i : Nat} {c : Connection} {cev : ConnEvent}
    (hc : s.mux.entry i = some c) (htarget : ev.target s.mux = some c.sport)
    (hcev : ev.forConn i = some cev) :
    ∃ u, (s.view i).Takes cev u ∧ ∀ m : Mux, Sys.view { s.consume a with mux := m } i =
      { u with acts := actsOf i m.link.out, entry := m.entry i } := by
  obtain ⟨hlisted, hid⟩ := hs.lives.ok.of_entry hc
  cases Sys.event_eq_some.mp hev with
  | @message msg rest hq =>
      have hmem : msg ∈ s.txData := by rw [hq]; exact List.mem_cons_self
      have hsport : msg.sport = c.sport := Option.some.inj htarget
      have hsrc : c.id = msg.src := by
        refine hs.owner _ _ _ (hs.messages msg hmem) ?_ (hsport ▸ hlisted)
        exact Or.inr (Or.inr (Or.inl ⟨msg, hmem, rfl⟩))
      obtain rfl : msg.src = i := hsrc.symm.trans hid
      have hbody : cev = bodyEvent msg.body := by
        cases hb : msg.body with
        | none => rw [hb] at hcev; exact (Option.some.inj hcev).symm
        | some bytes => rw [hb] at hcev; exact (Option.some.inj hcev).symm
      obtain ⟨u, htakes, -, hview⟩ := Sys.view_message hq
      exact ⟨u, hbody ▸ htakes, hview⟩
  | @notice d rest hq =>
      have hmem : d ∈ s.drains := by rw [hq]; exact List.mem_cons_self
      have hsport : d.sport = c.sport := Option.some.inj htarget
      have hsrc : c.id = d.src := by
        refine hs.owner _ _ _ (hs.notices d hmem) ?_ (hsport ▸ hlisted)
        exact Or.inr (Or.inr (Or.inr ⟨d, hmem, rfl⟩))
      obtain rfl : d.src = i := hsrc.symm.trans hid
      cases hcev
      obtain ⟨u, htakes, -, hview⟩ := Sys.view_notice hq
      exact ⟨u, htakes, hview⟩
  | packet pkt =>
      obtain ⟨⟨th, payload⟩, htcp, hport⟩ := Option.map_eq_some_iff.mp htarget
      simp only [Event.forConn, htcp, Option.map_some, Option.some.injEq] at hcev
      subst hcev
      have haddr : Sys.addressee s.mux pkt = some (c, th, payload) :=
        Sys.addressee_eq_some.mpr ⟨htcp, show s.mux.connections th.dstPort = some c from
          (show th.dstPort = c.sport from hport) ▸ hlisted⟩
      have hbox : packetsOf i (Sys.received s.mux pkt) = [(th, payload)] := by
        simp [Sys.received, haddr, packetsOf, hid]
      refine ⟨_, View.Takes.packet, fun m => ?_⟩
      simp only [Sys.view, Sys.consume, packetsOf_append, hbox]
      rfl
  | closeNext =>
      cases hcev
      exact ⟨_, View.Takes.closing, fun _ => rfl⟩
  | connect => cases htarget
  | stop => cases htarget

/-- What is taken up in a step that is not for the entry of `i` is somebody else's, or
comes when that entry is gone. -/
theorem Sys.Sound.untouched {live : Prop} {s : Sys} {a : Action} {ev : Event} (hs : s.Sound live)
    (hev : s.event a = some ev) {i : Nat} (hi : 0 < i)
    (hidle : ∀ c, s.mux.entry i = some c → ev.target s.mux ≠ some c.sport) :
    ∃ u, (u = s.view i ∨ (s.mux.entry i = none ∧ u.inbox = (s.view i).inbox ∧
        ∃ cev, (s.view i).Takes cev u)) ∧
      ∀ m : Mux, Sys.view { s.consume a with mux := m } i =
        { u with acts := actsOf i m.link.out, entry := m.entry i } := by
  -- a message that names the sport of `i` would be for its entry
  have hgone : ∀ p, spawnedAs (s.acts i) = some p → ev.target s.mux = some p →
      s.mux.entry i = none := by
    intro p hp htarget
    cases hc : s.mux.entry i with
    | none => rfl
    | some c =>
        refine absurd htarget ?_
        have hlife := (hs.lives.life i hi).linked
        rw [hlife.sport p hp, ← (hlife.listed c hc).1]
        exact hidle c hc
  cases Sys.event_eq_some.mp hev with
  | @message msg rest hq =>
      by_cases hsrc : msg.src = i
      · subst hsrc
        have hmem : msg ∈ s.txData := by rw [hq]; exact List.mem_cons_self
        obtain ⟨u, htakes, hbox, hview⟩ := Sys.view_message hq
        exact ⟨u, Or.inr ⟨hgone msg.sport (hs.messages msg hmem) rfl, hbox, _, htakes⟩, hview⟩
      · refine ⟨_, Or.inl rfl, fun m => ?_⟩
        simp [Sys.consume, Sys.view, hq, bodiesOf, hsrc]
        rfl
  | @notice d rest hq =>
      by_cases hsrc : d.src = i
      · subst hsrc
        have hmem : d ∈ s.drains := by rw [hq]; exact List.mem_cons_self
        obtain ⟨u, htakes, hbox, hview⟩ := Sys.view_notice hq
        exact ⟨u, Or.inr ⟨hgone d.sport (hs.notices d hmem) rfl, hbox, _, htakes⟩, hview⟩
      · refine ⟨_, Or.inl rfl, fun m => ?_⟩
        simp [Sys.consume, Sys.view, hq, amountsOf, hsrc]
        rfl
  | packet pkt =>
      have hbox : packetsOf i (Sys.received s.mux pkt) = [] := by
        rw [Sys.received]
        split
        · rfl
        · rename_i c th payload haddr
          obtain ⟨htcp, hlisted⟩ := Sys.addressee_eq_some.mp haddr
          rw [packetsOf, List.filterMap_cons, if_neg ?_]
          · rfl
          · rintro rfl
            refine hidle c (hs.lives.ok.entry_of hlisted) ?_
            rw [(hs.lives.ok.entry _ _ hlisted).1]
            simp [Event.target, htcp]
      refine ⟨_, Or.inl rfl, fun m => ?_⟩
      simp only [Sys.view, Sys.consume, packetsOf_append, hbox, List.append_nil]
      rfl
  | _ => exact ⟨_, Or.inl rfl, fun _ => rfl⟩

theorem Sys.Sound.view_loop {live : Prop} {Q : Nat → View → ConnEvent → Prop} {s s' : Sys}
    {a : Action} {ev : Event} (hs : s.Sound live) (hQ : s.Meets Q a s') (hev : s.event a = some ev)
    (h : s.mux.Step ev s'.mux) (heq : s' = { s.consume a with mux := s'.mux }) {i : Nat}
    (hi : 0 < i) : s'.view i = s.view i ∨ (s.view i).Step live (Q i) i (s'.view i) := by
  have hconnect : ∀ port, ev = .connect port →
      s'.view i = { s.view i with acts := actsOf i s'.mux.link.out, entry := s'.mux.entry i } := by
    rintro port rfl
    cases Sys.event_eq_some.mp hev
    rw [heq]
    rfl
  rcases hs.lives.ok.share h hi with
    ⟨hacts, hentry, hidle⟩ | ⟨hopen, hnew, ha, hacts, hentry⟩ |
      ⟨hopen, hnew, hlive, -, hacts, hentry⟩ | ⟨hc, htarget, hcev, hr, hlink, hentry⟩ |
        ⟨hopen, hc, -, hacts, hentry⟩
  · obtain ⟨u, hu, hview⟩ := hs.untouched hev hi hidle
    rw [heq, hview, hacts, hentry]
    rcases hu with rfl | ⟨hnone, hbox, cev, htakes⟩
    · exact Or.inl rfl
    · have hsame : { u with acts := actsOf i s.mux.link.out, entry := s.mux.entry i } = u := by
        obtain ⟨hacts', hentry'⟩ := htakes.acts
        rw [show actsOf i s.mux.link.out = u.acts from hacts'.symm,
          show s.mux.entry i = u.entry from hentry'.symm]
      rw [hsame]
      exact Or.inr (.late hnone htakes hbox)
  · rw [hconnect _ hopen, hacts, hentry]
    refine Or.inr (View.Step.opened (v := s.view i) ?_ ?_ ha)
    · exact hs.lives.ok.acts_nil (hnew ▸ Nat.lt_succ_self _)
    · exact s.mux.entry_new (hnew ▸ Nat.lt_succ_self _)
  · rw [hconnect _ hopen, hacts, hentry]
    have hnone : s.mux.entry i = none := s.mux.entry_new (hnew ▸ Nat.lt_succ_self _)
    rw [← hnone]
    refine Or.inr (View.Step.openFailed (v := s.view i) ?_ hnone ?_)
    · exact hs.lives.ok.acts_nil (hnew ▸ Nat.lt_succ_self _)
    · exact fun hl => hlive (hs.lives.writer hl)
  · obtain ⟨u, htakes, hview⟩ := hs.takes hev hc htarget hcev
    obtain ⟨hlisted, hid⟩ := hs.lives.ok.of_entry hc
    have hmeets := hQ _ hev _ _ _ hlisted htarget (hid.symm ▸ hcev)
    rw [hid] at hmeets
    rw [heq, hview, hlink.acts_self, hentry]
    refine Or.inr (View.Step.reacts (v := s.view i) hc hmeets htakes hr ?_ ?_)
    · exact fun hl => (hlink.live (hs.lives.writer hl)).2
    · exact fun hf => (hlink.dead (hs.lives.failed i hi hf)).2
  · rw [hconnect _ hopen, hacts, hentry]
    exact Or.inr (View.Step.dropped (v := s.view i) hc)

/-- **A connection's share of a step of the system** is a step of that connection, or none. -/
theorem Sys.Sound.view_moved {live : Prop} {Q : Nat → View → ConnEvent → Prop} {s s' : Sys}
    {a : Action} (hs : s.Sound live) (h : s.Moved a s') (hQ : s.Meets Q a s') {i : Nat}
    (hi : 0 < i) : s'.view i = s.view i ∨ (s.view i).Step live (Q i) i (s'.view i) := by
  rcases h with ⟨hev, hstep, heq⟩ | ⟨-, -, hspawn, hmoves⟩
  · exact hs.view_loop hQ hev hstep heq hi
  · exact Sys.view_task hs hspawn hmoves i

theorem Sys.Sound.view_step {live : Prop} {Q : Nat → View → ConnEvent → Prop} {s s' : Sys}
    {a : Action} (hs : s.Sound live) (h : s.Step a s') (hQ : s.Meets Q a s') {i : Nat}
    (hi : 0 < i) : s'.view i = s.view i ∨ (s.view i).Step live (Q i) i (s'.view i) :=
  hs.view_moved h.moved hQ hi

theorem View.start {link : Link} (h : link.Fresh) {i : Nat} (hi : 0 < i) :
    (Sys.start link).view i = {} := by
  simp only [Sys.view, Sys.acts, Sys.start, Mux.start, h.acts_nil hi]
  rfl

theorem handshake_sound {left : Option Nat} {reply : Bytes} {link : Link}
    (h : handshake left reply = .ok link) : (Sys.start link).Sound (left = none) := by
  obtain ⟨hfresh, hwriter⟩ := handshake_fresh h
  refine Sys.Sound.start hfresh hwriter (spawnedAs_eq_none.mpr fun a ha => ?_)
  obtain ⟨e, he, heq⟩ := List.mem_filterMap.mp ha
  split at heq
  · cases heq
    have hwrite := hfresh.writes e he
    cases hact : e.act <;> rw [hact] at hwrite <;> first | rfl | cases hwrite
  · cases heq

/-- **The system is a product of connections**, in runs whose Connects are all tidy. -/
theorem sys_views {left : Option Nat} {reply : Bytes} {link : Link}
    {Q : Nat → View → ConnEvent → Prop} {tr : List (Sys × Action × Sys)} {s : Sys}
    (hs : handshake left reply = .ok link) (h : Run Sys.Step (Sys.start link) tr s)
    (htidy : EveryStep Sys.Tidy tr) (hQ : EveryStep (Sys.Meets Q) tr) :
    s.Sound (left = none) ∧
      ∀ i, 0 < i → ReflTransGen (View.Step (left = none) (Q i) i) {} (s.view i) := by
  refine h.invariant_of (C := fun s a s' => s.Tidy a s' ∧ s.Meets Q a s')
    (P := fun s => s.Sound (left = none) ∧
      ∀ i, 0 < i → ReflTransGen (View.Step (left = none) (Q i) i) {} (s.view i)) ?_ ?_
    (fun t ht => ⟨htidy t ht, hQ t ht⟩)
  · refine ⟨handshake_sound hs, fun i hi => ?_⟩
    rw [View.start (handshake_fresh hs).1 hi]
  · rintro s a s' ⟨hsound, hviews⟩ hstep ⟨htidy, hQ⟩
    refine ⟨hsound.step hstep htidy, fun i hi => ?_⟩
    rcases hsound.view_step hstep hQ hi with heq | hv
    · rw [heq]
      exact hviews i hi
    · exact (hviews i hi).tail hv

/-! ### One connection's run -/

theorem View.Takes.keeps {v u : View} {cev : ConnEvent} (h : v.Takes cev u) :
    u.task = v.task ∧ u.taken ++ u.queued = v.taken ++ v.queued ∧
      u.settled ++ u.owed = v.settled ++ v.owed := by
  cases h with
  | message hq => exact ⟨rfl, by rw [hq]; simp, rfl⟩
  | notice ho => exact ⟨rfl, rfl, by rw [ho]; simp⟩
  | packet => exact ⟨rfl, rfl, rfl⟩
  | closing => exact ⟨rfl, rfl, rfl⟩

theorem View.Takes.taken_mono {v u : View} {cev : ConnEvent} (h : v.Takes cev u)
    {body : Option Bytes} (hmem : body ∈ v.taken) : body ∈ u.taken := by
  cases h with
  | message => exact List.mem_append_left _ hmem
  | _ => exact hmem

theorem View.Step.life {live : Prop} {Q : View → ConnEvent → Prop} {i : Nat} {v v' : View}
    (hl : Life live i v.acts v.entry) (h : v.Step live Q i v') : Life live i v'.acts v'.entry := by
  cases h with
  | opened _ _ ha => exact Life.opened ha
  | openFailed _ hentry hlive =>
      show Life live i _ v.entry
      rw [hentry]
      exact Life.openFailed hlive
  | reacts hc _ ht hr hlive hdead =>
      rw [hc] at hl
      exact Life.reacts hl hr hlive hdead
  | late _ ht _ =>
      rw [ht.acts.1, ht.acts.2]
      exact hl
  | dropped hc =>
      rw [hc] at hl
      exact Life.dropped hl
  | task => exact hl

theorem View.Step.weaken {live : Prop} {Q Q' : View → ConnEvent → Prop} {i : Nat} {v v' : View}
    (h : v.Step live Q i v') (hQ : ∀ v cev, Q v cev → Q' v cev) : v.Step live Q' i v' := by
  cases h with
  | opened hacts hentry ha => exact .opened hacts hentry ha
  | openFailed hacts hentry hlive => exact .openFailed hacts hentry hlive
  | reacts hc hq ht hr hlive hdead => exact .reacts hc (hQ _ _ hq) ht hr hlive hdead
  | late hc ht hbox => exact .late hc ht hbox
  | dropped hc => exact .dropped hc
  | task hspawn ht => exact .task hspawn ht

/--
How a pump's messages go: there are none before it is spawned, and after the one for
the end of the stream there is no other.
-/
structure View.Orderly (v : View) : Prop where
  unspawned : spawnedAs v.acts = none →
    v.task = {} ∧ v.taken ++ v.queued = [] ∧ v.settled ++ v.owed = []
  closed : none ∈ v.taken ++ v.queued → v.task.pump = .done
  last : none ∉ (v.taken ++ v.queued).dropLast

/-- Only what has been spawned can have been spawned before. -/
theorem spawnedAs_of_append {h acts : List Act} (hn : spawnedAs (h ++ acts) = none) :
    spawnedAs h = none := by
  rw [spawnedAs_append] at hn
  exact (Option.or_eq_none_iff.mp hn).1

theorem View.Orderly.task {v : View} {gone : Prop} {t : Task} {msgs : List (Option Bytes)}
    {ns : List UInt32} (hv : v.Orderly) (hspawn : spawnedAs v.acts ≠ none)
    (ht : TaskStep v.acts gone v.task t msgs ns) :
    View.Orderly { v with task := t, queued := v.queued ++ msgs, owed := v.owed ++ ns } := by
  refine ⟨fun hn => absurd hn hspawn, ?_, ?_⟩
  · show none ∈ v.taken ++ (v.queued ++ msgs) → t.pump = .done
    rw [← List.append_assoc, List.mem_append]
    rintro (hmem | hmem)
    · exact (ht.pump_done (hv.closed hmem)).1
    · cases ht with
      | send hp => rw [← List.mem_singleton.mp hmem]; rfl
      | _ => cases hmem
  · show none ∉ (v.taken ++ (v.queued ++ msgs)).dropLast
    rw [← List.append_assoc]
    cases ht with
    | send hp =>
        rw [List.dropLast_concat]
        intro hmem
        rw [hv.closed hmem] at hp
        cases hp
    | _ =>
        rw [List.append_nil]
        exact hv.last

theorem View.Orderly.step {live : Prop} {Q : View → ConnEvent → Prop} {i : Nat} {v v' : View}
    (hv : v.Orderly) (h : v.Step live Q i v') : v'.Orderly := by
  have htakes : ∀ {cev : ConnEvent} {u : View}, v.Takes cev u → u.Orderly := by
    intro cev u ht
    obtain ⟨htask, hmsgs, hns⟩ := ht.keeps
    refine ⟨fun hn => ?_, ?_, ?_⟩
    · rw [htask, hmsgs, hns]
      exact hv.unspawned (ht.acts.1 ▸ hn)
    · rw [htask, hmsgs]
      exact hv.closed
    · rw [hmsgs]
      exact hv.last
  cases h with
  | opened hacts _ _ => exact ⟨fun _ => hv.unspawned (by rw [hacts]; rfl), hv.closed, hv.last⟩
  | openFailed hacts _ _ => exact ⟨fun _ => hv.unspawned (by rw [hacts]; rfl), hv.closed, hv.last⟩
  | reacts _ _ ht _ _ _ =>
      obtain ⟨hunspawned, hclosed, hlast⟩ := htakes ht
      exact ⟨fun hn => hunspawned (ht.acts.1 ▸ spawnedAs_of_append hn), hclosed, hlast⟩
  | late _ ht _ => exact htakes ht
  | dropped _ => exact ⟨fun hn => hv.unspawned (spawnedAs_of_append hn), hv.closed, hv.last⟩
  | task hspawn ht => exact hv.task hspawn ht

/-- What holds of every connection, whatever the device does. -/
structure View.Plain (live : Prop) (i : Nat) (v : View) : Prop where
  life : Life live i v.acts v.entry
  orderly : v.Orderly

theorem View.Plain.start (live : Prop) (i : Nat) : View.Plain live i {} :=
  ⟨Life.unborn, fun _ => ⟨rfl, rfl, rfl⟩, by simp, by simp⟩

theorem View.Plain.step {live : Prop} {Q : View → ConnEvent → Prop} {i : Nat} {v v' : View}
    (hv : v.Plain live i) (h : v.Step live Q i v') : v'.Plain live i :=
  ⟨h.life hv.life, hv.orderly.step h⟩

/-- **Invariants of one connection.**  What holds of a connection nobody has opened and
survives each step of it, holds of that connection after every tidy run. -/
theorem view_invariant {left : Option Nat} {reply : Bytes} {link : Link}
    {Q : Nat → View → ConnEvent → Prop} {tr : List (Sys × Action × Sys)} {s : Sys}
    (hs : handshake left reply = .ok link) (h : Run Sys.Step (Sys.start link) tr s)
    (htidy : EveryStep Sys.Tidy tr) (hQ : EveryStep (Sys.Meets Q) tr) {i : Nat} (hi : 0 < i)
    {P : View → Prop} (h0 : P {})
    (hstep : ∀ v v', v.Plain (left = none) i → P v → v.Step (left = none) (Q i) i v' → P v') :
    (s.view i).Plain (left = none) i ∧ P (s.view i) := by
  have hrun := (sys_views hs h htidy hQ).2 i hi
  generalize s.view i = v at hrun ⊢
  induction hrun with
  | refl => exact ⟨View.Plain.start _ i, h0⟩
  | tail _ hv ih => exact ⟨ih.1.step hv, hstep _ _ ih.1 ih.2 hv⟩

/-- What follows from such an invariant for a step of the connection holds of every step of
the run; most of them leave the connection as it is. -/
theorem view_everyStep {left : Option Nat} {reply : Bytes} {link : Link}
    {Q : Nat → View → ConnEvent → Prop} {tr : List (Sys × Action × Sys)} {s : Sys}
    (hs : handshake left reply = .ok link) (h : Run Sys.Step (Sys.start link) tr s)
    (htidy : EveryStep Sys.Tidy tr) (hQ : EveryStep (Sys.Meets Q) tr) {i : Nat} (hi : 0 < i)
    {P : View → Prop} {R : View → View → Prop} (h0 : P {})
    (hstep : ∀ v v', v.Plain (left = none) i → P v → v.Step (left = none) (Q i) i v' → P v')
    (hR : ∀ v v', v.Plain (left = none) i → P v →
      v' = v ∨ v.Step (left = none) (Q i) i v' → R v v') :
    EveryStep (fun s _ s' => R (s.view i) (s'.view i)) tr := by
  refine h.everyStep_of (C := fun s a s' => s.Tidy a s' ∧ s.Meets Q a s')
    (P := fun s => s.Sound (left = none) ∧ (s.view i).Plain (left = none) i ∧ P (s.view i)) ?_ ?_ ?_
    (fun t ht => ⟨htidy t ht, hQ t ht⟩)
  · rw [View.start (handshake_fresh hs).1 hi]
    exact ⟨handshake_sound hs, View.Plain.start _ i, h0⟩
  · rintro s a s' ⟨hsound, hplain, hp⟩ hs' ⟨htidy, hQ⟩
    refine ⟨hsound.step hs' htidy, ?_⟩
    rcases hsound.view_step hs' hQ hi with heq | hv
    · rw [heq]
      exact ⟨hplain, hp⟩
    · exact ⟨hplain.step hv, hstep _ _ hplain hp hv⟩
  · rintro s a s' ⟨hsound, hplain, hp⟩ hs' ⟨-, hQ⟩
    exact hR _ _ hplain hp (hsound.view_step hs' hQ hi)

/-- Nothing is known of what the loop may meet. -/
theorem meets_anything (tr : List (Sys × Action × Sys)) :
    EveryStep (Sys.Meets fun _ _ _ => True) tr :=
  fun _ _ _ _ _ _ _ _ _ _ => trivial

/-- A premise on the steps of a run tells what the loop may meet in it. -/
theorem everyStep_meets {left : Option Nat} {reply : Bytes} {link : Link}
    {Q : Nat → View → ConnEvent → Prop} {C : Sys → Action → Sys → Prop}
    {tr : List (Sys × Action × Sys)} {s : Sys} (hs : handshake left reply = .ok link)
    (h : Run Sys.Step (Sys.start link) tr s)
    (hmeets : ∀ s a s', s.mux.Ok → C s a s' → s.Meets Q a s') (hC : EveryStep C tr) :
    EveryStep (Sys.Meets Q) tr := by
  refine h.everyStep_of (P := fun s => s.mux.Ok) (mux_lives hs Run.nil).ok ?_ ?_ hC
  · intro s a s' hok hstep _
    rcases hstep.moved with ⟨-, hmux, -⟩ | ⟨-, -, -, t', msgs, ns, -, rfl⟩
    · exact hok.step hmux
    · exact hok
  · intro s a s' hok _ hC
    exact hmeets s a s' hok hC

/-! ### Runs without reuse -/

theorem Mux.Step.ports {m m' : Mux} {ev : Event} (hok : m.Ok) (h : m.Step ev m') :
    m.ports <+: m'.ports ∧ ∀ port, ev = .connect port → m'.ports = m.ports ++ [m.nextSport] := by
  rcases h.change hok.version with
    ⟨hev, -, -, -, -, hp, -, -⟩ | ⟨-, -, -, -, -, hp, -, -⟩ | ⟨-, -, -, hp, -, -⟩ |
      ⟨-, htarget, -, -, hout⟩
  · exact ⟨hp ▸ List.prefix_rfl, fun port h => absurd h (hev port)⟩
  · exact ⟨hp ▸ List.prefix_append _ _, fun _ _ => hp⟩
  · exact ⟨hp ▸ List.prefix_append _ _, fun _ _ => hp⟩
  · refine ⟨hout.ports ▸ List.prefix_rfl, fun port h => ?_⟩
    subst h
    cases htarget

theorem Sys.Sound.sport_mem {live : Prop} {s : Sys} (hs : s.Sound live) {i : Nat} {p : UInt16}
    (hi : spawnedAs (s.acts i) = some p) : p ∈ s.mux.ports := by
  obtain ⟨hpos, hp⟩ := hs.spawned_sport hi
  have hle : i ≤ s.mux.ports.length := by
    by_contra hlt
    rw [Sys.acts, hs.lives.ok.acts_nil (Nat.lt_of_not_le hlt)] at hi
    cases hi
  have hlt : i - 1 < s.mux.ports.length := by omega
  have hget : s.mux.ports[i - 1]? = some s.mux.ports[i - 1] := List.getElem?_eq_getElem hlt
  rw [hp, ← hs.lives.ok.ports _ _ hget]
  exact List.getElem_mem _

/-- The sports handed out stay so. -/
theorem Sys.Moved.ports {s s' : Sys} {a : Action} (hok : s.mux.Ok) (h : s.Moved a s') :
    s.mux.ports <+: s'.mux.ports := by
  rcases h with ⟨-, hmux, -⟩ | ⟨-, -, -, t', msgs, ns, -, rfl⟩
  · exact (hmux.ports hok).1
  · exact List.prefix_rfl

/-- A step after which no sport has been handed out twice is tidy. -/
theorem Sys.Sound.tidy {live : Prop} {s s' : Sys} {a : Action} (hs : s.Sound live)
    (h : s.Moved a s') (hports : s'.mux.ports.Nodup) : s.Tidy a s' := by
  intro port ha i hi
  subst ha
  rcases h with ⟨hev, hmux, -⟩ | ⟨hev, -, -, -⟩
  · cases hev
    rw [(hmux.ports hs.lives.ok).2 port rfl] at hports
    exact absurd rfl
      ((List.nodup_append.mp hports).2.2 _ (hs.sport_mem hi) _ (List.mem_singleton.mpr rfl))
  · cases hev

/-- A run in which no sport is handed out twice is tidy. -/
theorem tidy_of_nodup {left : Option Nat} {reply : Bytes} {link : Link}
    {tr : List (Sys × Action × Sys)} {s : Sys} (hs : handshake left reply = .ok link)
    (h : Run Sys.Step (Sys.start link) tr s) (hports : s.mux.ports.Nodup) :
    EveryStep Sys.Tidy tr := by
  induction h with
  | nil => exact everyStep_nil _
  | @snoc tr s s' a hrun hstep ih =>
      obtain ⟨tr', hrun'⟩ := Sys.mux_run hrun
      have hgrows := hstep.moved.ports (mux_lives hs hrun').ok
      have htidy := ih (hports.sublist hgrows.sublist)
      have hsound : s.Sound (left = none) := hrun.invariant_of (handshake_sound hs)
        (fun _ _ _ hsound hstep htidy => hsound.step hstep htidy) htidy
      exact everyStep_snoc.mpr ⟨htidy, hsound.tidy hstep.moved hports⟩

end Netmuxd
