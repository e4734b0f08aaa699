/-
What a heartbeat task does.

A run of its program is judged as it goes along by how far the task has got and what the device
has said last (`Beat`).  The stage in this is the one that the daemon's steps speak of, so each
call that others notice is one of these steps, and the tasks run as they are written, call by
call among the others, do what the daemon does.
-/
import Netmuxd.Daemon.Heartbeat
import Netmuxd.Proofs.HeartbeatFailure

namespace Netmuxd

open Lib Talk

/-! ### What is known along a run -/

/-- How far a task has got. -/
structure Beat where
  stage : Stage := .connecting
  /-- How many steps of the set-up have been made. -/
  up : Nat := 0
  /-- Where the device's heartbeat service is. -/
  port : Option UInt16 := none
  /-- The interval the device has told last. -/
  interval : UInt64 := 10
  /-- A heartbeat of the device is to be answered. -/
  asked : Bool := false
  broken : Bool := false
  /-- The manager is gone. -/
  disconnected : Bool := false

/-- A step of the set-up. -/
def Beat.made (s : Beat) (ok : Bool) : Beat :=
  if ok then { s with up := s.up + 1 } else { s with broken := true }

def Beat.next (s : Beat) : Exchange BeatCall.Answer → Beat
  | ⟨.connect _ _, ok⟩ => s.made ok
  | ⟨.startSession, ok⟩ => s.made ok
  | ⟨.startService _, port⟩ => { s.made port.isSome with port }
  | ⟨.wrap, ok⟩ => s.made ok
  | ⟨.getMarco _, some interval⟩ => { s with interval, asked := true }
  | ⟨.getMarco _, none⟩ => { s with broken := true }
  | ⟨.sendPolo, ok⟩ => if ok then { s with asked := false } else { s with broken := true }
  | ⟨.isDisconnected, disconnected⟩ => { s with disconnected }
  | ⟨.send (.deferredMuxerAdd _ _), _⟩ => { s with stage := .beating }
  | ⟨.send (.heartbeatFailed _), _⟩ => { s with stage := .over }
  | ⟨.send _, _⟩ => s
  | ⟨.respond _ _, _⟩ => { s with stage := .over }

section
variable (lockdowndPort : UInt16) (device : MuxerDevice) (response : Option Nat)

/-- Calls that suit what is known. -/
def BeatSuits (s : Beat) (e : Exchange BeatCall.Answer) : Prop :=
  match e.1 with
  | .connect addr port => s.stage = .connecting ∧ s.broken = false ∧
      device.networkAddress = some addr ∧
      (s.up = 0 ∧ port = lockdowndPort ∨ s.up = 3 ∧ s.port = some port)
  | .startSession => s.stage = .connecting ∧ s.broken = false ∧ s.up = 1
  | .startService name => s.stage = .connecting ∧ s.broken = false ∧ s.up = 2 ∧
      name = "com.apple.mobile.heartbeat"
  | .wrap => s.stage = .connecting ∧ s.broken = false ∧ s.up = 4
  | .getMarco seconds => s.stage = .beating ∧ s.broken = false ∧ s.disconnected = false ∧
      s.asked = false ∧ seconds = s.interval + 5
  | .sendPolo => s.stage = .beating ∧ s.broken = false ∧ s.asked = true
  | .isDisconnected => s.stage = .beating ∧ s.broken = false ∧ s.asked = false
  | .send (.deferredMuxerAdd device' response') => s.stage = .connecting ∧ s.broken = false ∧
      s.up = 5 ∧ device' = device ∧ response' = response
  | .send (.heartbeatFailed udid) => s.stage = .beating ∧ s.broken = true ∧
      udid = device.serialNumber
  | .send _ => False
  | .respond caller p => s.stage = .connecting ∧ s.broken = true ∧ response = some caller ∧
      p = resultPlist 0

/-- A task that is over has answered its caller or reported the device, or there was no one to
tell. -/
def Beat.Over (s : Beat) : Prop :=
  s.stage = .over ∨
    s.stage = .connecting ∧ (s.broken = true ∧ response = none ∨ device.networkAddress = none) ∨
    s.stage = .beating ∧ s.disconnected = true

/-- A task that is about to wait for a heartbeat. -/
structure Beat.Loops (s : Beat) (interval : UInt64) : Prop where
  stage : s.stage = .beating
  interval : s.interval = interval
  asked : s.asked = false
  broken : s.broken = false
  disconnected : s.disconnected = false

/-- What a program leaves. -/
def BeatLeaves (_ : List (Exchange BeatCall.Answer)) (r : Option UInt64) (s : Beat) : Prop :=
  r.elim (s.Over device response) s.Loops

variable {lockdowndPort device response} {s : Beat}

/-! ### The programs -/

theorem giveUp_safe (hstage : s.stage = .connecting) (hbroken : s.broken = true) :
    (giveUp response).Safe Beat.next (BeatSuits lockdowndPort device response) s
      (BeatLeaves device response) := by
  unfold giveUp
  cases hresponse : response with
  | none => exact safe_pure (Or.inr (Or.inl ⟨hstage, Or.inl ⟨hbroken, rfl⟩⟩))
  | some caller =>
      refine Safe.bind (safe_perform (fun _ => ⟨hstage, hbroken, rfl, rfl⟩) fun _ => ?_)
      exact safe_pure (Or.inl rfl)

theorem reportFailure_safe (hstage : s.stage = .beating) (hbroken : s.broken = true) :
    (reportFailure device).Safe Beat.next (BeatSuits lockdowndPort device response) s
      (BeatLeaves device response) := by
  unfold reportFailure
  refine Safe.bind (safe_perform (fun _ => ⟨hstage, hbroken, rfl⟩) fun _ => ?_)
  exact safe_pure (Or.inl rfl)

/-- A step of the set-up that fails ends it. -/
theorem made_safe {rest : Heartbeat (Option UInt64)} (ok : Bool) (hstage : s.stage = .connecting)
    (hrest : rest.Safe Beat.next (BeatSuits lockdowndPort device response)
      { s with up := s.up + 1 } (BeatLeaves device response)) :
    (if ok = true then rest else giveUp response).Safe Beat.next
      (BeatSuits lockdowndPort device response) (s.made ok) (BeatLeaves device response) := by
  by_cases hok : ok = true
  · simpa [Beat.made, hok] using hrest
  · simp only [Beat.made, hok]
    exact giveUp_safe hstage rfl

theorem startHeartbeat_safe :
    (startHeartbeat lockdowndPort device response).Safe Beat.next
      (BeatSuits lockdowndPort device response) {} (BeatLeaves device response) := by
  unfold startHeartbeat
  cases haddr : device.networkAddress with
  | none => exact safe_pure (Or.inr (Or.inl ⟨rfl, Or.inr haddr⟩))
  | some addr =>
      refine Safe.bind (safe_perform (fun _ => ⟨rfl, rfl, haddr, Or.inl ⟨rfl, rfl⟩⟩) fun ok => ?_)
      refine made_safe ok rfl ?_
      refine Safe.bind (safe_perform (fun _ => ⟨rfl, rfl, rfl⟩) fun ok => ?_)
      refine made_safe ok rfl ?_
      refine Safe.bind (safe_perform (fun _ => ⟨rfl, rfl, rfl, rfl⟩) fun port => ?_)
      cases port with
      | none => exact giveUp_safe rfl rfl
      | some port =>
          refine Safe.bind (safe_perform (fun _ => ⟨rfl, rfl, haddr, Or.inr ⟨rfl, rfl⟩⟩)
            fun ok => ?_)
          refine made_safe ok rfl ?_
          refine Safe.bind (safe_perform (fun _ => ⟨rfl, rfl, rfl⟩) fun ok => ?_)
          refine made_safe ok rfl ?_
          refine Safe.bind (safe_perform (fun _ => ⟨rfl, rfl, rfl, rfl, rfl⟩) fun _ => ?_)
          exact safe_pure ⟨rfl, rfl, rfl, rfl, rfl⟩

theorem beatTurn_safe {interval : UInt64} (h : s.Loops interval) :
    (beatTurn device interval).Safe Beat.next (BeatSuits lockdowndPort device response) s
      (BeatLeaves device response) := by
  obtain ⟨hstage, hinterval, hasked, hbroken, hdisconnected⟩ := h
  subst hinterval
  unfold beatTurn
  refine Safe.bind (safe_perform (fun _ => ⟨hstage, hbroken, hdisconnected, hasked, rfl⟩)
    fun told => ?_)
  cases told with
  | none => exact reportFailure_safe hstage rfl
  | some told =>
      refine Safe.bind (safe_perform (fun _ => ⟨hstage, hbroken, rfl⟩) fun sent => ?_)
      cases sent with
      | false => exact reportFailure_safe hstage rfl
      | true =>
          refine Safe.bind (safe_perform (fun _ => ⟨hstage, hbroken, rfl⟩) fun gone => ?_)
          cases gone with
          | false => exact safe_pure ⟨hstage, rfl, rfl, hbroken, rfl⟩
          | true => exact safe_pure (Or.inr (Or.inr ⟨hstage, rfl⟩))

/-- **A heartbeat task keeps to its stages.**  In every run, whatever the device and the manager
answer, its device is asked to be added when all of the set-up has been made and only then, or
else the caller is told; each heartbeat is awaited for the interval told last and five seconds and
answered before the next; and the device is reported once, after a heartbeat or an answer has
failed, and nothing is done after that. -/
theorem heartbeat_keeps_to_its_stages (lockdowndPort : UInt16) (device : MuxerDevice)
    (response : Option Nat) (n : Nat) :
    (heartbeat lockdowndPort device response n).Safe Beat.next
      (BeatSuits lockdowndPort device response) {} (BeatLeaves device response) := by
  unfold heartbeat
  refine Safe.bind (Safe.imp startHeartbeat_safe fun tr r s' hr => ?_)
  cases r with
  | none => exact safe_pure hr
  | some interval => exact safe_turns (fun s interval h => beatTurn_safe h) n hr

end

/-! ### Without the stages -/

def Daemon.bare (d : Daemon) : Daemon :=
  { d with stage := fun _ => .connecting }

section
variable {cfg : Config} {d d' : Daemon} {a : Happening} {k : Nat}

@[simp] theorem Daemon.bare_session : d.bare.session k = d.session k := rfl

/-- The others do not look at the stages, and leave them. -/
theorem Daemon.bare_next {e : Daemon} (ha : a.ofHeartbeats = false)
    (h : d.bare.next cfg a = some e) :
    ∃ d', d.next cfg a = some d' ∧ e = d'.bare ∧ d'.stage = d.stage := by
  cases a with
  | submit request =>
      by_cases hreq : request.requestType.unconditional = true
      · simp only [Daemon.next, hreq, if_true, Option.some.injEq] at h ⊢
        exact ⟨_, rfl, h.symm, rfl⟩
      · simp [Daemon.next, hreq] at h
  | listen | leave | dial =>
      simp only [Daemon.next, Option.some.injEq] at h ⊢
      exact ⟨_, rfl, h.symm, rfl⟩
  | tunnel client =>
      simp only [Daemon.next] at h
      split at h
      · next id lookup hid hfound hopen =>
          have hid' : d.dials[client]? = some id := hid
          have hfound' : found client d.mgr.out = some lookup := hfound
          have hopen' : d.opened client = false := hopen
          rw [Option.some.injEq] at h
          refine ⟨{ d.send { request := { requestType := .openSocket id client } } with
            opened := Function.update d.opened client true }, ?_, h.symm, rfl⟩
          simp only [Daemon.next, hid', hfound', hopen']
      · simp at h
  | serve order paired =>
      simp only [Daemon.next] at h
      split at h
      · simp at h
      · next envelope rest hqueue =>
          have hqueue' : d.queue = envelope :: rest := hqueue
          obtain ⟨mgr, hmgr, he⟩ := Option.map_eq_some_iff.mp h
          have hmgr' : d.mgr.handle cfg (d.surroundings order paired) envelope.request = some mgr :=
            hmgr
          refine ⟨{ d with mgr, queue := rest }, ?_, he.symm, rfl⟩
          simp only [Daemon.next, hqueue', hmgr', Option.map_some]
  | beats | givesUp | fails => simp [Happening.ofHeartbeats] at ha

end

/-! ### The steps of a task -/

section
variable {cfg : Config} {d : Daemon} {k : Nat} {device : MuxerDevice} {response : Option Nat}

theorem Daemon.step_beats (hsession : d.session k = some (device, response))
    (hstage : d.stage k = .connecting) :
    Daemon.Step cfg d (.beats k)
      { d.send { request := { requestType := .deferredMuxerAdd device response }
                 session := some k } with
        stage := Function.update d.stage k .beating } := by
  refine ⟨?_, trivial⟩
  simp only [Daemon.next, hsession, hstage]

theorem Daemon.step_givesUp (hsession : d.session k = some (device, response))
    (hstage : d.stage k = .connecting) :
    Daemon.Step cfg d (.givesUp k)
      { d with
        mgr := respond d.mgr response (resultPlist 0)
        stage := Function.update d.stage k .over } := by
  refine ⟨?_, trivial⟩
  simp only [Daemon.next, hsession, hstage]

theorem Daemon.step_fails (hsession : d.session k = some (device, response))
    (hstage : d.stage k = .beating) :
    Daemon.Step cfg d (.fails k)
      { d.send { request := { requestType := .heartbeatFailed device.serialNumber }
                 session := some k } with
        stage := Function.update d.stage k .over } := by
  refine ⟨?_, trivial⟩
  simp only [Daemon.next, hsession, hstage]

end

/-! ### The tasks among the others -/

section
variable (lockdowndPort : UInt16)

/-- What is left of a task's program does what is still to be done in its stage. -/
def TaskBeats (x : MuxerDevice × Option Nat) (task : Option (Heartbeat (Option UInt64)))
    (stage : Stage) : Prop :=
  ∃ b : Beat, b.stage = stage ∧
    (task.getD (startHeartbeat lockdowndPort x.1 x.2)).Safe Beat.next
      (BeatSuits lockdowndPort x.1 x.2) b (BeatLeaves x.1 x.2)

/-- The daemon has come to the same, with the tasks in these stages. -/
structure Heartbeats.Shadows (s : Heartbeats) (d : Daemon) : Prop where
  bare : s.daemon = d.bare
  task : ∀ k x, d.session k = some x → TaskBeats lockdowndPort x (s.task k) (d.stage k)
  unborn : ∀ k, d.session k = none → s.task k = none ∧ d.stage k = .connecting

variable {lockdowndPort} {cfg : Config} {s s' : Heartbeats} {d d' : Daemon} {k : Nat}

theorem Heartbeats.shadows_start (cfg : Config) :
    (Heartbeats.start cfg).Shadows lockdowndPort (.start cfg) where
  bare := rfl
  task := by
    intro k x hk
    simp [Daemon.session, Daemon.start, Manager.start, heartbeats] at hk
  unborn := fun _ _ => ⟨rfl, rfl⟩

/-- It is enough to look at the tasks that have moved. -/
theorem Heartbeats.Shadows.after (hsh : s.Shadows lockdowndPort d)
    (hkeeps : ∀ j x, d.session j = some x → d'.session j = some x) (hbare : s'.daemon = d'.bare)
    (hmoved : ∀ j, s'.task j = s.task j ∧ d'.stage j = d.stage j ∨
      ∃ x, d.session j = some x ∧ TaskBeats lockdowndPort x (s'.task j) (d'.stage j)) :
    s'.Shadows lockdowndPort d' where
  bare := hbare
  task := by
    intro j x hj
    cases hold : d.session j with
    | none =>
        obtain ⟨htask, hstage⟩ := hsh.unborn j hold
        rcases hmoved j with ⟨htask', hstage'⟩ | ⟨y, hy, -⟩
        · rw [htask', hstage', htask, hstage]
          exact ⟨{}, rfl, startHeartbeat_safe⟩
        · simp [hold] at hy
    | some y =>
        have hsame := hkeeps j y hold
        rw [hj, Option.some.injEq] at hsame
        subst hsame
        rcases hmoved j with ⟨htask', hstage'⟩ | ⟨y, hy, hbeats⟩
        · rw [htask', hstage']
          exact hsh.task j x hold
        · rw [hold, Option.some.injEq] at hy
          exact hy ▸ hbeats
  unborn := by
    intro j hj
    cases hold : d.session j with
    | some y => simp [hkeeps j y hold] at hj
    | none =>
        rcases hmoved j with ⟨htask', hstage'⟩ | ⟨y, hy, -⟩
        · rw [htask', hstage']
          exact hsh.unborn j hold
        · simp [hold] at hy

/-- A call is one that nobody notices, or a step of the daemon. -/
theorem BeatSuits.step {x : MuxerDevice × Option Nat} {b : Beat} {c : BeatCall}
    {answer : c.Answer} (cfg : Config) (h : BeatSuits lockdowndPort x.1 x.2 b ⟨c, answer⟩)
    (hsession : d.session k = some x)
    (hstage : b.stage = d.stage k) :
    (c.effect k d.bare = d.bare ∧ (b.next ⟨c, answer⟩).stage = d.stage k) ∨
      ∃ a d', Daemon.Step cfg d a d' ∧ c.effect k d.bare = d'.bare ∧
        d'.stage = Function.update d.stage k (b.next ⟨c, answer⟩).stage := by
  have hmade (ok : Bool) : (b.made ok).stage = b.stage := by
    by_cases hok : ok = true
    · simp [Beat.made, hok]
    · simp [Beat.made, hok]
  cases c with
  | connect | startSession | wrap | startService =>
      exact Or.inl ⟨rfl, (hmade _).trans hstage⟩
  | getMarco =>
      refine Or.inl ⟨rfl, Eq.trans ?_ hstage⟩
      cases answer with
      | none => rfl
      | some interval => rfl
  | sendPolo =>
      refine Or.inl ⟨rfl, Eq.trans ?_ hstage⟩
      by_cases hsent : answer = true
      · simp [Beat.next, hsent]
      · simp [Beat.next, hsent]
  | isDisconnected => exact Or.inl ⟨rfl, hstage⟩
  | send request =>
      right
      cases request with
      | deferredMuxerAdd device response =>
          obtain ⟨hconnecting, -, -, hdevice, hresponse⟩ := h
          have hx : d.session k = some (device, response) := by
            rw [hsession, hdevice, hresponse]
          have hconnecting' : d.stage k = .connecting := hstage.symm.trans hconnecting
          exact ⟨.beats k, _, Daemon.step_beats hx hconnecting', rfl, rfl⟩
      | heartbeatFailed udid =>
          obtain ⟨hbeating, -, hudid⟩ := h
          have hbeating' : d.stage k = .beating := hstage.symm.trans hbeating
          exact ⟨.fails k, _, Daemon.step_fails hsession hbeating', hudid ▸ rfl, rfl⟩
      | _ => exact h.elim
  | respond caller p =>
      right
      obtain ⟨hconnecting, -, hresponse, hp⟩ := h
      have hconnecting' : d.stage k = .connecting := hstage.symm.trans hconnecting
      refine ⟨.givesUp k, _, Daemon.step_givesUp hsession hconnecting', ?_, rfl⟩
      rw [hresponse, hp]
      rfl

/-- The task that is to make a step, and what is known of it. -/
theorem Heartbeats.Shadows.rest {device : MuxerDevice} {m : Heartbeat (Option UInt64)}
    (hsh : s.Shadows lockdowndPort d) (h : s.rest lockdowndPort k = some (device, m)) :
    ∃ x : MuxerDevice × Option Nat, d.session k = some x ∧ x.1 = device ∧
      ∃ b : Beat, b.stage = d.stage k ∧ m.Safe Beat.next (BeatSuits lockdowndPort x.1 x.2) b
        (BeatLeaves x.1 x.2) := by
  unfold Heartbeats.rest at h
  rw [hsh.bare] at h
  obtain ⟨x, hx, heq⟩ := Option.map_eq_some_iff.mp h
  obtain ⟨hdevice, hm⟩ := Prod.mk.inj heq
  obtain ⟨b, hb, hsafe⟩ := hsh.task k x hx
  exact ⟨x, hx, hdevice, b, hb, hm ▸ hsafe⟩

theorem Heartbeats.Shadows.other {a : Happening} (hsh : s.Shadows lockdowndPort d)
    (hstep : Heartbeats.Step lockdowndPort cfg s (.other a) s') :
    ∃ d', Daemon.Step cfg d a d' ∧ s'.Shadows lockdowndPort d' := by
  obtain ⟨hnext, hvalid⟩ := hstep
  have hvalid' : a.Valid d := by
    have hv : a.Valid s.daemon := hvalid
    rw [hsh.bare] at hv
    cases a <;> exact hv
  simp only [Heartbeats.next] at hnext
  split at hnext
  · simp at hnext
  · next ha =>
      rw [Bool.not_eq_true] at ha
      obtain ⟨e, he, hs'⟩ := Option.map_eq_some_iff.mp hnext
      subst hs'
      rw [hsh.bare] at he
      obtain ⟨d', hd', hbare, hstage⟩ := Daemon.bare_next ha he
      have hstep' : Daemon.Step cfg d a d' := ⟨hd', hvalid'⟩
      refine ⟨d', hstep', hsh.after (fun j x hj => hstep'.stepped.session_keeps hj) hbare ?_⟩
      intro j
      exact Or.inl ⟨rfl, by rw [hstage]⟩

/-- A task has gone on. -/
theorem Heartbeats.Shadows.moves {x : MuxerDevice × Option Nat} {b : Beat} {daemon : Daemon}
    {m : Heartbeat (Option UInt64)} (hsh : s.Shadows lockdowndPort d)
    (hkeeps : ∀ j x, d.session j = some x → d'.session j = some x) (hbare : daemon = d'.bare)
    (hx : d.session k = some x) (hstage : d'.stage = Function.update d.stage k b.stage)
    (hsafe : m.Safe Beat.next (BeatSuits lockdowndPort x.1 x.2) b (BeatLeaves x.1 x.2)) :
    ({ daemon, task := Function.update s.task k (some m) } : Heartbeats).Shadows lockdowndPort
      d' := by
  refine hsh.after hkeeps hbare ?_
  intro j
  by_cases hj : j = k
  · subst hj
    refine Or.inr ⟨x, hx, b, ?_, ?_⟩
    · rw [hstage, Function.update_self]
    · simp only [Function.update_self, Option.getD_some]
      exact hsafe
  · left
    rw [hstage]
    simp [Function.update_of_ne hj]

theorem Heartbeats.Shadows.call {answer : (c : BeatCall) → c.Answer}
    (hsh : s.Shadows lockdowndPort d)
    (hstep : Heartbeats.Step lockdowndPort cfg s (.call k answer) s') :
    ∃ tr d', Run (Daemon.Step cfg) d tr d' ∧ s'.Shadows lockdowndPort d' := by
  obtain ⟨hnext, -⟩ := hstep
  simp only [Heartbeats.next] at hnext
  split at hnext
  · next device c next hrest =>
      rw [Option.some.injEq] at hnext
      subst hnext
      obtain ⟨x, hx, -, b, hb, hsafe⟩ := hsh.rest hrest
      obtain ⟨hsuits, hsafe'⟩ := hsafe.call answer (answer c)
      rcases hsuits.step cfg hx hb with ⟨hquiet, hstage⟩ | ⟨a, d', hstep, hbare, hstage⟩
      · refine ⟨[], d, Run.nil, hsh.moves (fun _ _ hj => hj) ?_ hx ?_ hsafe'⟩
        · rw [hsh.bare]
          exact hquiet
        · rw [hstage, Function.update_eq_self]
      · have hkeeps (j : Nat) (y : MuxerDevice × Option Nat) (hj : d.session j = some y) :
            d'.session j = some y := hstep.stepped.session_keeps hj
        refine ⟨_, d', Run.nil.snoc hstep, hsh.moves hkeeps ?_ hx hstage hsafe'⟩
        rw [hsh.bare]
        exact hbare
  · simp at hnext

theorem Heartbeats.Shadows.turn (hsh : s.Shadows lockdowndPort d)
    (hstep : Heartbeats.Step lockdowndPort cfg s (.turn k) s') : s'.Shadows lockdowndPort d := by
  obtain ⟨hnext, -⟩ := hstep
  simp only [Heartbeats.next] at hnext
  split at hnext
  · next device interval hrest =>
      rw [Option.some.injEq] at hnext
      subst hnext
      obtain ⟨x, hx, hdevice, b, hb, hsafe⟩ := hsh.rest hrest
      subst hdevice
      have hloops : b.Loops interval := hsafe.done
      refine hsh.moves (fun _ _ hj => hj) hsh.bare hx ?_ (beatTurn_safe hloops)
      rw [hb, Function.update_eq_self]
  · simp at hnext

end

/-- The devices that tasks are spawned for have an address, so no task panics. -/
theorem session_address {cfg : Config} {d : Daemon} {tr : List (Daemon × Happening × Daemon)}
    (hrun : Run (Daemon.Step cfg) (.start cfg) tr d) :
    ∀ k x, d.session k = some x → x.1.networkAddress ≠ none := by
  refine hrun.invariant (P := fun d => ∀ k x, d.session k = some x → x.1.networkAddress ≠ none)
    ?_ ?_
  · intro k x hk
    simp [Daemon.session, Daemon.start, Manager.start, heartbeats] at hk
  · intro d a d' ih hstep k x hk
    rcases hstep.stepped.session with
      hsame | ⟨_, _, _, _, _, addr, _, _, -, -, -, -, -, -, hsession⟩
    · rw [hsame] at hk
      exact ih k x hk
    · rw [hsession] at hk
      split at hk
      · rw [Option.some.injEq] at hk
        subst hk
        simp [Manager.networkDevice]
      · exact ih k x hk

/-- **The heartbeat programs make the daemon's steps.**  However the calls of the heartbeat tasks
come in between what others do, and whatever they are answered, the daemon has a run to a state
with the same manager and the same requests on their way.  No task is without its device's
address. -/
theorem heartbeats_are_daemon {lockdowndPort : UInt16} {cfg : Config} {s : Heartbeats}
    {tr : List (Heartbeats × BeatStep × Heartbeats)}
    (hrun : Run (Heartbeats.Step lockdowndPort cfg) (.start cfg) tr s) :
    ∃ tr' d, Run (Daemon.Step cfg) (.start cfg) tr' d ∧ s.Shadows lockdowndPort d ∧
      s.daemon.mgr = d.mgr ∧ s.daemon.queue = d.queue ∧
      ∀ k x, s.daemon.session k = some x → x.1.networkAddress ≠ none := by
  have hsim : ∃ tr' d, Run (Daemon.Step cfg) (.start cfg) tr' d ∧ s.Shadows lockdowndPort d := by
    refine hrun.simulate_of (C := fun _ _ _ => True) (Heartbeats.shadows_start cfg) ?_
      fun _ _ => trivial
    intro s a s' d hsh hstep _
    cases a with
    | other a =>
        obtain ⟨d', hstep', hsh'⟩ := hsh.other hstep
        exact ⟨_, d', Run.nil.snoc hstep', hsh'⟩
    | call k answer => exact hsh.call hstep
    | turn k => exact ⟨[], d, Run.nil, hsh.turn hstep⟩
  obtain ⟨tr', d, hrun', hsh⟩ := hsim
  refine ⟨tr', d, hrun', hsh, ?_⟩
  rw [hsh.bare]
  exact ⟨rfl, rfl, fun k x hk => session_address hrun' k x hk⟩

/-! ### A run -/

/-- A device that answers, and whose heartbeats come unless `silent`. -/
def beatingDevice (silent : Bool) : (c : BeatCall) → c.Answer
  | .connect _ _ | .startSession | .wrap | .sendPolo => true
  | .isDisconnected => false
  | .startService _ => some 49152
  | .getMarco _ => if silent then none else some 10
  | .send _ | .respond _ _ => ()

/-- The device is added, beats once and then no more. -/
def fallsSilent : List BeatStep :=
  [.other announcePhone, .other (.serve [] fun _ => true)] ++
    List.replicate 6 (.call 0 (beatingDevice false)) ++
    [.other (.serve [] fun _ => true), .turn 0] ++
    List.replicate 3 (.call 0 (beatingDevice false)) ++
    [.turn 0, .call 0 (beatingDevice true), .call 0 (beatingDevice true)]

theorem fallsSilent_reports : ∃ tr d, Run (Daemon.Step ⟨true, false, false⟩)
    (.start ⟨true, false, false⟩) tr d ∧
      d.queue = [{ request := { requestType := .heartbeatFailed "u" }, session := some 0 }] := by
  have hplays : Lib.Plays (Heartbeats.next 62078 ⟨true, false, false⟩)
      (fun s a _ => BeatStep.Valid s a) (.start ⟨true, false, false⟩) fallsSilent _ :=
    ⟨_, rfl, trivial, _, rfl, orderOf_nil, _, rfl, trivial, _, rfl, trivial, _, rfl, trivial,
      _, rfl, trivial, _, rfl, trivial, _, rfl, trivial, _, rfl, orderOf_nil, _, rfl, trivial,
      _, rfl, trivial, _, rfl, trivial, _, rfl, trivial, _, rfl, trivial, _, rfl, trivial,
      _, rfl, trivial, rfl⟩
  obtain ⟨tr, hrun, -, -⟩ := Run.of_plays
    (fun s a s' hnext hvalid => show Heartbeats.Step 62078 ⟨true, false, false⟩ s a s' from
      ⟨hnext, hvalid⟩) hplays
  obtain ⟨tr', d, hrun', -, -, hqueue, -⟩ := heartbeats_are_daemon hrun
  exact ⟨tr', d, hrun', hqueue.symm.trans rfl⟩

end Netmuxd
