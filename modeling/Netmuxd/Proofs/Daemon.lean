/-
What every run of the daemon keeps.

`Stepped` is the inversion of a step.  The heartbeat tasks are what ties a request to an
earlier one: a deferred add or a failure on the queue comes from one of them and is about
the device it was given, and each task asks for its device to be added at most once.
`Owes` says that it has yet to be.
-/
import Netmuxd.Proofs.Manager

namespace Netmuxd

open Lib

/-! ### The inversion -/

inductive Daemon.Stepped (cfg : Config) (d : Daemon) : Happening → Daemon → Prop
  | submit {request : ManagerRequest} (hreq : request.requestType.unconditional = true) :
      Stepped cfg d (.submit request) (d.send { request })
  | listen :
      Stepped cfg d .listen
        { d.send { request := { requestType := .subscribe d.subscribers } } with
          subscribers := d.subscribers + 1 }
  | leave {l : Nat} :
      Stepped cfg d (.leave l) { d with dropped := Function.update d.dropped l true }
  | dial {id : UInt64} :
      Stepped cfg d (.dial id)
        { d.send { request := { requestType := .getDeviceConnection id d.dials.length } } with
          dials := d.dials ++ [id] }
  | tunnel {client : Nat} {id : UInt64} {lookup : DeviceConnection}
      (hid : d.dials[client]? = some id) (hfound : found client d.mgr.out = some lookup)
      (hopen : d.opened client = false) :
      Stepped cfg d (.tunnel client)
        { d.send { request := { requestType := .openSocket id client } } with
          opened := Function.update d.opened client true }
  | beats {k : Nat} {device : MuxerDevice} {response : Option Nat}
      (hsession : d.session k = some (device, response)) (hstage : d.stage k = .connecting) :
      Stepped cfg d (.beats k)
        { d.send { request := { requestType := .deferredMuxerAdd device response }
                   session := some k } with
          stage := Function.update d.stage k .beating }
  | givesUp {k : Nat} {device : MuxerDevice} {response : Option Nat}
      (hsession : d.session k = some (device, response)) (hstage : d.stage k = .connecting) :
      Stepped cfg d (.givesUp k)
        { d with
          mgr := d.mgr.emit (responses response (resultPlist 0))
          stage := Function.update d.stage k .over }
  | fails {k : Nat} {device : MuxerDevice} {response : Option Nat}
      (hsession : d.session k = some (device, response)) (hstage : d.stage k = .beating) :
      Stepped cfg d (.fails k)
        { d.send { request := { requestType := .heartbeatFailed device.serialNumber }
                   session := some k } with
          stage := Function.update d.stage k .over }
  | serve {order : List UInt64} {paired : String → Bool} {e : Envelope} {rest : List Envelope}
      {m : Manager} (hqueue : d.queue = e :: rest) (horder : OrderOf d.mgr.devices order)
      (hserved : Served cfg (d.surroundings order paired) d.mgr e.request m) :
      Stepped cfg d (.serve order paired) { d with mgr := m, queue := rest }

section
variable {cfg : Config} {d d' : Daemon} {a : Happening}

theorem Daemon.Step.stepped (h : Daemon.Step cfg d a d') : Daemon.Stepped cfg d a d' := by
  obtain ⟨hnext, hvalid⟩ := h
  cases a with
  | submit request =>
      simp only [Daemon.next] at hnext
      split at hnext
      · rename_i hreq
        cases hnext
        exact .submit hreq
      · cases hnext
  | listen =>
      cases hnext
      exact .listen
  | leave l =>
      cases hnext
      exact .leave
  | dial id =>
      cases hnext
      exact .dial
  | tunnel client =>
      simp only [Daemon.next] at hnext
      split at hnext
      · rename_i id lookup hid hfound hopen
        cases hnext
        exact .tunnel hid hfound hopen
      · cases hnext
  | beats k =>
      simp only [Daemon.next] at hnext
      split at hnext
      · rename_i device response hsession hstage
        cases hnext
        exact .beats hsession hstage
      · cases hnext
  | givesUp k =>
      simp only [Daemon.next] at hnext
      split at hnext
      · rename_i device response hsession hstage
        cases hnext
        rw [respond_eq]
        exact .givesUp hsession hstage
      · cases hnext
  | fails k =>
      simp only [Daemon.next] at hnext
      split at hnext
      · rename_i device response hsession hstage
        cases hnext
        exact .fails hsession hstage
      · cases hnext
  | serve order paired =>
      simp only [Daemon.next] at hnext
      split at hnext
      · cases hnext
      · rename_i e rest hqueue
        obtain ⟨m, hm, rfl⟩ := Option.map_eq_some_iff.mp hnext
        exact .serve hqueue hvalid (Manager.handle_served hvalid hm)

/-- The manager serves the request at the head of its queue. -/
theorem Daemon.Step.served {order : List UInt64} {paired : String → Bool}
    (h : Daemon.Step cfg d (.serve order paired) d') :
    ∃ e rest m, d.queue = e :: rest ∧
      OrderOf d.mgr.devices (d.surroundings order paired).order ∧
      d.mgr.handle cfg (d.surroundings order paired) e.request = some m ∧
      d' = { d with mgr := m, queue := rest } := by
  obtain ⟨hnext, hvalid⟩ := h
  simp only [Daemon.next] at hnext
  split at hnext
  · cases hnext
  · rename_i e rest hqueue
    obtain ⟨m, hm, rfl⟩ := Option.map_eq_some_iff.mp hnext
    exact ⟨e, rest, m, hqueue, hvalid, hm, rfl⟩

end

/-! ### What is read off the log -/

/-- What goes to listeners, tunnels and mux tasks is not read. -/
structure Unread {β : Type} (f : Output → Option β) : Prop where
  tell : ∀ listener event, f (.tell listener event) = none
  kill : ∀ k, f (.kill k) = none
  shutdown : ∀ handle, f (.shutdown handle) = none

section
variable {cfg : Config} {env : Surroundings} {m m' : Manager} {req : ManagerRequest}
  {β : Type} {f : Output → Option β}

theorem Unread.tells (hf : Unread f) (listeners : List Nat) (event : ListenerEvent) :
    (tells listeners event).filterMap f = [] := by
  refine List.filterMap_eq_nil_iff.mpr fun o ho => ?_
  obtain ⟨l, -, rfl⟩ := List.mem_map.mp ho
  exact hf.tell l event

theorem Unread.kills (hf : Unread f) (m : Manager) (id : UInt64) :
    (kills m id).filterMap f = [] := by
  refine List.filterMap_eq_nil_iff.mpr fun o ho => ?_
  obtain ⟨k, -, rfl⟩ := List.mem_map.mp ho
  exact hf.kill k

theorem Unread.shutdowns (hf : Unread f) (m : Manager) (id : UInt64) :
    (shutdowns m id).filterMap f = [] := by
  unfold Netmuxd.shutdowns
  split
  · exact List.filterMap_cons_none (hf.shutdown _)
  · rfl

theorem Unread.list (hf : Unread f) (alive : Nat → Bool) (device : MuxerDevice) (p : Dictionary) :
    (m.list alive device p).out.filterMap f = m.out.filterMap f := by
  unfold Manager.list
  rw [broadcast_out, List.filterMap_append, hf.tells, List.append_nil]

theorem Unread.dropEntry (hf : Unread f) (alive : Nat → Bool) (id : UInt64)
    (event : ListenerEvent) :
    (broadcast alive (dropEntry m id) event).out.filterMap f = m.out.filterMap f := by
  rw [broadcast_out, dropEntry_out, List.filterMap_append, List.filterMap_append, hf.kills,
    hf.tells, List.append_nil, List.append_nil]

theorem Unread.removeEntry (hf : Unread f) (alive : Nat → Bool) (id : UInt64) :
    (removeEntry alive m id).out.filterMap f = m.out.filterMap f := by
  rw [removeEntry_eq, broadcast_out, emit_out, dropEntry_out, List.filterMap_append,
    List.filterMap_append, List.filterMap_append, hf.tells, hf.shutdowns, hf.kills,
    List.append_nil, List.append_nil, List.append_nil]

theorem Unread.foldl (hf : Unread f) (alive : Nat → Bool) (ids : List UInt64) :
    (ids.foldl (Netmuxd.removeEntry alive) m).out.filterMap f = m.out.filterMap f := by
  refine List.foldlRecOn
    (motive := fun m' : Manager => m'.out.filterMap f = m.out.filterMap f) ids _ rfl ?_
  intro m' ih id _
  rw [hf.removeEntry, ih]

/-- A request that is not to be answered leaves nothing to be read. -/
theorem Unread.served (hf : Unread f) (h : Served cfg env m req m')
    (hans : req.requestType.answerable = false)
    (hadd : ∀ device response, req.requestType ≠ .deferredMuxerAdd device response) :
    m'.out.filterMap f = m.out.filterMap f := by
  cases h with
  | answered outs hreq =>
      rw [hans] at hreq
      cases hreq
  | deferred => cases hans
  | listedNetwork => cases hans
  | added => exact absurd rfl (hadd _ _)
  | listedUsb => exact hf.list _ _ _
  | removed ids => exact hf.foldl _ ids
  | failed => exact hf.dropEntry _ _ _
  | @subscribed listener response ps halive hps =>
      have hnone : (ps.map fun p => Output.tell listener (.attached p)).filterMap f = [] := by
        refine List.filterMap_eq_nil_iff.mpr fun o ho => ?_
        obtain ⟨p, -, rfl⟩ := List.mem_map.mp ho
        exact hf.tell _ _
      rw [List.filterMap_append, hnone, List.append_nil]
  | _ => rfl

/-! ### What the log says of the heartbeat tasks -/

theorem Output.unread_heartbeat : Unread Output.heartbeat? where
  tell := fun _ _ => rfl
  kill := fun _ => rfl
  shutdown := fun _ => rfl

theorem heartbeats_append (out outs : List Output) :
    heartbeats (out ++ outs) = heartbeats out ++ heartbeats outs :=
  List.filterMap_append ..

theorem heartbeats_responses (response : Option Nat) (p : Dictionary) :
    heartbeats (responses response p) = [] := by
  cases response with
  | none => rfl
  | some caller => rfl

theorem heartbeats_listed (alive : Nat → Bool) (device : MuxerDevice) (p p' : Dictionary)
    (response : Option Nat) :
    heartbeats ((m.list alive device p).emit (responses response p')).out = heartbeats m.out := by
  rw [emit_out, heartbeats_append, heartbeats_responses, List.append_nil]
  exact Output.unread_heartbeat.list alive device p

/-- Only a discovery on the network spawns a heartbeat task, and only for a device that
is not listed. -/
theorem Served.heartbeats (h : Served cfg env m req m') :
    heartbeats m'.out = heartbeats m.out ∨
      ∃ udid networkAddress serviceName connectionType,
        req.requestType =
          .discoveredNetworkDevice udid networkAddress serviceName connectionType ∧
        ¬ Lists m.devices udid connectionType ∧ env.paired udid = true ∧
        cfg.useHeartbeat = true ∧
        m' = m.issue.emit [.heartbeat
          (m.networkDevice udid networkAddress serviceName connectionType) req.response] := by
  have hserved := h
  cases h with
  | answered outs _ houts =>
      left
      have hnone : Netmuxd.heartbeats outs = [] := by
        refine List.filterMap_eq_nil_iff.mpr fun o ho => ?_
        have := houts o ho
        cases o with
        | heartbeat => cases this
        | _ => rfl
      rw [emit_out, heartbeats_append, hnone, List.append_nil]
  | deferred hnew hpaired hcfg => exact Or.inr ⟨_, _, _, _, rfl, hnew, hpaired, hcfg, rfl⟩
  | listedNetwork => exact Or.inl (heartbeats_listed _ _ _ _ _)
  | added => exact Or.inl (heartbeats_listed _ _ _ _ _)
  | _ =>
      left
      refine Output.unread_heartbeat.served hserved rfl ?_
      intro device response hreq
      cases hreq

theorem networkDevice_showable (udid : String) (networkAddress : IpAddr)
    (serviceName connectionType : String) :
    (m.networkDevice udid networkAddress serviceName connectionType).Showable :=
  fun _ => ⟨rfl, rfl⟩

theorem usbDevice_showable (udid : String) (locationId productId speed : UInt64) :
    (m.usbDevice udid locationId productId speed).Showable := by
  intro h
  exact absurd (show "USB" = "Network" from h) (by decide)

end

section
variable {cfg : Config} {d d' : Daemon} {a : Happening} {k : Nat}
  {x : MuxerDevice × Option Nat}

theorem getElem?_concat {α : Type} (xs : List α) (x : α) (k : Nat) :
    (xs ++ [x])[k]? = if k = xs.length then some x else xs[k]? := by
  by_cases hk : k = xs.length
  · rw [if_pos hk, hk]
    exact List.getElem?_concat_length
  · rw [if_neg hk]
    rcases Nat.lt_or_gt_of_ne hk with hlt | hgt
    · exact List.getElem?_append_left hlt
    · rw [List.getElem?_eq_none (Nat.le_of_lt hgt), List.getElem?_eq_none]
      rw [List.length_append]
      exact hgt

/-- A task that is spawned is spawned for the next number. -/
theorem Daemon.Stepped.session (h : d.Stepped cfg a d') :
    (∀ k, d'.session k = d.session k) ∨
      ∃ order paired e rest udid networkAddress serviceName connectionType,
        a = .serve order paired ∧ d.queue = e :: rest ∧
        e.request.requestType =
          .discoveredNetworkDevice udid networkAddress serviceName connectionType ∧
        ¬ Lists d.mgr.devices udid connectionType ∧ paired udid = true ∧
        let device := d.mgr.networkDevice udid networkAddress serviceName connectionType
        d' = { d with
                mgr := d.mgr.issue.emit [.heartbeat device e.request.response], queue := rest } ∧
          ∀ k, d'.session k =
            if k = (heartbeats d.mgr.out).length then some (device, e.request.response)
            else d.session k := by
  unfold Daemon.session
  cases h with
  | givesUp =>
      left
      intro k
      rw [emit_out, heartbeats_append, heartbeats_responses, List.append_nil]
  | serve hqueue horder hserved =>
      rename_i order paired e rest m
      rcases hserved.heartbeats with hsame | ⟨udid, addr, name, ct, hreq, hnew, hpaired, -, hm⟩
      · left
        intro k
        dsimp only
        rw [hsame]
      · right
        refine ⟨order, paired, e, rest, udid, addr, name, ct, rfl, hqueue, hreq, hnew, hpaired,
          by rw [hm], fun k => ?_⟩
        dsimp only
        rw [hm, emit_out, heartbeats_append]
        exact getElem?_concat _ _ k
  | _ => exact Or.inl fun k => rfl

theorem Daemon.session_length (d : Daemon) : d.session (heartbeats d.mgr.out).length = none :=
  List.getElem?_eq_none (Nat.le_refl _)

/-- What a task was given stays. -/
theorem Daemon.Stepped.session_keeps (h : d.Stepped cfg a d') (hk : d.session k = some x) :
    d'.session k = some x := by
  rcases h.session with hsame | ⟨_, _, _, _, _, _, _, _, -, -, -, -, -, -, hsession⟩
  · rw [hsame, hk]
  · rw [hsession, if_neg, hk]
    intro hlen
    rw [hlen, d.session_length] at hk
    cases hk

end

/-! ### The queue -/

theorem mem_queue {d : Daemon} {e : Envelope} {rest : List Envelope} (h : d.queue = e :: rest) :
    e ∈ d.queue := by
  rw [h]
  exact List.mem_cons_self ..

/-- The heartbeat task that asks for its device to be added. -/
def Envelope.adding? (e : Envelope) : Option Nat :=
  match e.request.requestType with
  | .deferredMuxerAdd .. => e.session
  | _ => none

/-- The heartbeat tasks whose deferred adds are on the queue. -/
def pendingAdds (queue : List Envelope) : List Nat :=
  queue.filterMap Envelope.adding?

theorem pendingAdds_send (d : Daemon) (e : Envelope) :
    pendingAdds (d.send e).queue = pendingAdds d.queue ++ e.adding?.toList := by
  unfold pendingAdds Daemon.send
  rw [List.filterMap_append]
  cases h : e.adding? with
  | none => simp [h]
  | some k => simp [h]

theorem mem_pendingAdds {queue : List Envelope} {k : Nat} :
    k ∈ pendingAdds queue ↔ ∃ e ∈ queue, e.session = some k ∧
      ∃ device response, e.request.requestType = .deferredMuxerAdd device response := by
  unfold pendingAdds
  rw [List.mem_filterMap]
  constructor
  · rintro ⟨e, he, hk⟩
    unfold Envelope.adding? at hk
    split at hk
    · rename_i device response hreq
      exact ⟨e, he, hk, device, response, hreq⟩
    · cases hk
  · rintro ⟨e, he, hk, device, response, hreq⟩
    refine ⟨e, he, ?_⟩
    unfold Envelope.adding?
    rw [hreq]
    exact hk

/-- The task has a device that it has yet to have added. -/
def Daemon.Owes (d : Daemon) (k : Nat) (device : MuxerDevice) : Prop :=
  (∃ response, d.session k = some (device, response)) ∧
    (d.stage k = .connecting ∨ k ∈ pendingAdds d.queue)

/-- What ties the queue to the heartbeat tasks, and the shape of what is listed. -/
structure Daemon.Sound (d : Daemon) : Prop where
  adds : ∀ e ∈ d.queue, ∀ device response,
    e.request.requestType = .deferredMuxerAdd device response →
      ∃ k, e.session = some k ∧ d.session k = some (device, response) ∧ d.stage k ≠ .connecting
  failures : ∀ e ∈ d.queue, ∀ udid, e.request.requestType = .heartbeatFailed udid →
    ∃ k device response, e.session = some k ∧ d.session k = some (device, response) ∧
      device.serialNumber = udid
  once : (pendingAdds d.queue).Nodup
  later : ∀ k, d.session k = none → d.stage k = .connecting
  given : ∀ k device response, d.session k = some (device, response) → device.Showable
  listed : ∀ id device, d.mgr.devices id = some device → device.deviceId = id ∧ device.Showable

theorem Daemon.sound_start (cfg : Config) : (Daemon.start cfg).Sound where
  adds := by
    intro e he
    cases he
  failures := by
    intro e he
    cases he
  once := List.nodup_nil
  later := fun _ _ => rfl
  given := by
    intro k device response h
    cases h
  listed := by
    intro id device h
    cases h

/-! ### One step -/

/-- The device that a discovery is about, as it is looked up. -/
def ManagerRequestType.discovers? : ManagerRequestType → Option (String × String)
  | .discoveredNetworkDevice udid _ _ connectionType => some (udid, connectionType)
  | .discoveredUsbDevice udid .. => some (udid, "USB")
  | _ => none

section
variable {cfg : Config} {env : Surroundings} {m m' : Manager} {req : ManagerRequest}

theorem removeEntry_devices (alive : Nat → Bool) (id : UInt64) :
    (removeEntry alive m id).devices = Function.update m.devices id none := by
  rw [removeEntry_eq]
  rfl

theorem foldl_removeEntry_devices (alive : Nat → Bool) (ids : List UInt64) (id : UInt64) :
    (ids.foldl (removeEntry alive) m).devices id = if id ∈ ids then none else m.devices id := by
  induction ids generalizing m with
  | nil => rfl
  | cons i ids ih =>
      rw [List.foldl_cons, ih, removeEntry_devices]
      by_cases hid : id = i
      · simp [hid]
      · simp [hid]

theorem removeEntry_usbHandles (alive : Nat → Bool) (id : UInt64) :
    (removeEntry alive m id).usbHandles = Function.update m.usbHandles id none := by
  rw [removeEntry_eq]
  rfl

theorem foldl_removeEntry_usbHandles (alive : Nat → Bool) (ids : List UInt64) (id : UInt64) :
    (ids.foldl (removeEntry alive) m).usbHandles id =
      if id ∈ ids then none else m.usbHandles id := by
  induction ids generalizing m with
  | nil => rfl
  | cons i ids ih =>
      rw [List.foldl_cons, ih, removeEntry_usbHandles]
      by_cases hid : id = i
      · simp [hid]
      · simp [hid]

theorem foldl_removeEntry_lastIndex (alive : Nat → Bool) (ids : List UInt64) :
    (ids.foldl (removeEntry alive) m).lastIndex = m.lastIndex := by
  refine List.foldlRecOn (motive := fun m' : Manager => m'.lastIndex = m.lastIndex) ids _ rfl ?_
  intro m' ih id _
  rw [removeEntry_eq]
  exact ih

theorem lt_next {x : UInt64} (h : x ≤ x + 1) : x < x + 1 := by
  rw [UInt64.le_iff_toNat_le, UInt64.toNat_add] at h
  rw [UInt64.lt_iff_toNat_lt, UInt64.toNat_add]
  have h1 : (1 : UInt64).toNat = 1 := rfl
  rw [h1] at h ⊢
  have := x.toNat_lt
  omega

/-- A request takes entries away, or lists one device: one it has discovered, with the next
id and a pair that was not listed, or that of a deferred add. -/
theorem Served.devices (h : Served cfg env m req m') :
    (∀ id device, m'.devices id = some device → m.devices id = some device) ∨
      ∃ device, m'.devices = Function.update m.devices device.deviceId (some device) ∧
        ((req.requestType.discovers? = some (device.serialNumber, device.connectionType) ∧
            ¬ Lists m.devices device.serialNumber device.connectionType ∧ device.Showable ∧
            device.deviceId = m.lastIndex ∧ m'.lastIndex = m.lastIndex + 1) ∨
          ∃ response, req.requestType = .deferredMuxerAdd device response) := by
  cases h with
  | listedNetwork hnew =>
      exact Or.inr ⟨_, rfl, Or.inl ⟨rfl, hnew, networkDevice_showable _ _ _ _, rfl, rfl⟩⟩
  | listedUsb hnew =>
      exact Or.inr ⟨_, rfl, Or.inl ⟨rfl, hnew, usbDevice_showable _ _ _ _, rfl, rfl⟩⟩
  | added => exact Or.inr ⟨_, rfl, Or.inr ⟨_, rfl⟩⟩
  | removed ids =>
      left
      intro id device hid
      rw [foldl_removeEntry_devices] at hid
      split at hid
      · cases hid
      · exact hid
  | failed =>
      left
      rename_i i _ _ _ _
      intro id device hid
      by_cases heq : id = i
      · subst heq
        simp at hid
      · simpa [heq] using hid
  | _ => exact Or.inl fun _ _ hid => hid

theorem Served.adds (h : Served cfg env m req m') {device : MuxerDevice} {response : Option Nat}
    (hreq : req.requestType = .deferredMuxerAdd device response) :
    m'.devices = Function.update m.devices device.deviceId (some device) := by
  cases h with
  | added =>
      cases hreq
      rfl
  | answered outs hans =>
      rw [hreq] at hans
      cases hans
  | _ => cases hreq

theorem update_isSome {devices : UInt64 → Option MuxerDevice} {i id : UInt64}
    {device : MuxerDevice} (h : (devices i).isSome = true) :
    (Function.update devices id (some device) i).isSome = true := by
  by_cases heq : i = id
  · rw [heq, Function.update_self]
    rfl
  · rw [Function.update_of_ne heq]
    exact h

/-- What is listed was listed, or is the device put in. -/
theorem update_eq_some {devices : UInt64 → Option MuxerDevice} {id i : UInt64}
    {device dev : MuxerDevice} (h : Function.update devices id (some device) i = some dev) :
    devices i = some dev ∨ (i = id ∧ dev = device) := by
  by_cases heq : i = id
  · rw [heq, Function.update_self] at h
    cases h
    exact Or.inr ⟨heq, rfl⟩
  · rw [Function.update_of_ne heq] at h
    exact Or.inl h

end

section
variable {cfg : Config} {d d' : Daemon} {a : Happening}

/-- A request nobody needs anything for adds no device and fails no heartbeat. -/
theorem unconditional_plain {r : ManagerRequestType} (h : r.unconditional = true) :
    (∀ device response, r ≠ .deferredMuxerAdd device response) ∧
      ∀ udid, r ≠ .heartbeatFailed udid := by
  constructor
  · rintro device response rfl
    cases h
  · rintro udid rfl
    cases h

/-- What a step puts on the queue, if anything: nothing of a heartbeat task, its deferred
add or its failure. -/
inductive Daemon.Sends (d : Daemon) (e : Envelope) (d' : Daemon) : Prop
  | plain (hstage : d'.stage = d.stage)
      (hadd : ∀ device response, e.request.requestType ≠ .deferredMuxerAdd device response)
      (hfail : ∀ udid, e.request.requestType ≠ .heartbeatFailed udid)
  | add {k : Nat} {device : MuxerDevice} {response : Option Nat}
      (he : e = { request := { requestType := .deferredMuxerAdd device response }
                  session := some k })
      (hsession : d.session k = some (device, response)) (hstage : d.stage k = .connecting)
      (hstage' : d'.stage = Function.update d.stage k .beating)
  | failure {k : Nat} {device : MuxerDevice} {response : Option Nat}
      (he : e = { request := { requestType := .heartbeatFailed device.serialNumber }
                  session := some k })
      (hsession : d.session k = some (device, response)) (hstage : d.stage k = .beating)
      (hstage' : d'.stage = Function.update d.stage k .over)

theorem Daemon.Sends.adding {e : Envelope} {k : Nat} (h : d.Sends e d')
    (hk : e.adding? = some k) : d.stage k = .connecting := by
  unfold Envelope.adding? at hk
  split at hk
  · rename_i hreq
    cases h with
    | plain _ hadd => exact absurd hreq (hadd _ _)
    | failure he => rw [he] at hreq; cases hreq
    | add he _ hstage =>
        rw [he] at hk
        cases hk
        exact hstage
  · cases hk

/-- A step serves the head of the queue, puts one request at its end, or leaves it. -/
theorem Daemon.Stepped.shape (h : d.Stepped cfg a d') :
    (∃ order paired e, a = .serve order paired ∧ d.queue = e :: d'.queue ∧
        d'.stage = d.stage ∧ OrderOf d.mgr.devices order ∧
        Served cfg (d.surroundings order paired) d.mgr e.request d'.mgr) ∨
      ((∃ outs, (∀ o ∈ outs, o.isAnswer = true) ∧ d'.mgr = d.mgr.emit outs) ∧
        ((d'.queue = d.queue ∧ (d'.stage = d.stage ∨
            ∃ k x, d.session k = some x ∧ d.stage k = .connecting ∧
              d'.stage = Function.update d.stage k .over)) ∨
          ∃ e, d'.queue = d.queue ++ [e] ∧ d.Sends e d')) := by
  cases h with
  | serve hqueue horder hserved =>
      left
      exact ⟨_, _, _, rfl, hqueue, rfl, horder, hserved⟩
  | givesUp hsession hstage =>
      right
      exact ⟨⟨_, responses_isAnswer _ _, rfl⟩, Or.inl ⟨rfl, Or.inr ⟨_, _, hsession, hstage, rfl⟩⟩⟩
  | leave =>
      right
      exact ⟨⟨[], by simp, (emit_nil _).symm⟩, Or.inl ⟨rfl, Or.inl rfl⟩⟩
  | submit hreq =>
      right
      obtain ⟨hadd, hfail⟩ := unconditional_plain hreq
      exact ⟨⟨[], by simp, (emit_nil _).symm⟩, Or.inr ⟨_, rfl, .plain rfl hadd hfail⟩⟩
  | beats hsession hstage =>
      right
      exact ⟨⟨[], by simp, (emit_nil _).symm⟩, Or.inr ⟨_, rfl, .add rfl hsession hstage rfl⟩⟩
  | fails hsession hstage =>
      right
      exact ⟨⟨[], by simp, (emit_nil _).symm⟩, Or.inr ⟨_, rfl, .failure rfl hsession hstage rfl⟩⟩
  | _ =>
      right
      refine ⟨⟨[], by simp, (emit_nil _).symm⟩, Or.inr ⟨_, rfl, .plain rfl ?_ ?_⟩⟩
      · intro device response hreq
        cases hreq
      · intro udid hreq
        cases hreq

/-- Only serving a request changes the manager, answers apart. -/
theorem Daemon.Stepped.mgr_eq (h : d.Stepped cfg a d')
    (ha : ∀ order paired, a ≠ .serve order paired) :
    ∃ outs, (∀ o ∈ outs, o.isAnswer = true) ∧ d'.mgr = d.mgr.emit outs := by
  rcases h.shape with ⟨order, paired, _, hserve, -⟩ | ⟨hmgr, -⟩
  · exact absurd hserve (ha order paired)
  · exact hmgr

/-- A task that is not asked about keeps its stage, and none connects twice. -/
theorem Daemon.Stepped.stage (h : d.Stepped cfg a d') (k : Nat) :
    d'.stage k = d.stage k ∨ ((∃ x, d.session k = some x) ∧ d'.stage k ≠ .connecting) := by
  have hupdate : ∀ j s x, d.session j = some x → s ≠ .connecting →
      d'.stage = Function.update d.stage j s →
        d'.stage k = d.stage k ∨ ((∃ x, d.session k = some x) ∧ d'.stage k ≠ .connecting) := by
    intro j s x hx hs hstage
    rw [hstage]
    by_cases hk : k = j
    · right
      rw [hk, Function.update_self]
      exact ⟨⟨x, hx⟩, hs⟩
    · left
      exact Function.update_of_ne hk ..
  rcases h.shape with ⟨_, _, _, -, -, hstage, -, -⟩ | ⟨-, ⟨-, hstage⟩ | ⟨e, -, hsends⟩⟩
  · rw [hstage]
    exact Or.inl rfl
  · rcases hstage with hstage | ⟨j, x, hx, -, hstage⟩
    · rw [hstage]
      exact Or.inl rfl
    · exact hupdate j _ x hx (by decide) hstage
  · cases hsends with
    | plain hstage =>
        rw [hstage]
        exact Or.inl rfl
    | add he hsession hconn hstage => exact hupdate _ _ _ hsession (by decide) hstage
    | failure he hsession hconn hstage => exact hupdate _ _ _ hsession (by decide) hstage

theorem Daemon.Stepped.stage_leaves (h : d.Stepped cfg a d') {k : Nat}
    (hk : d.stage k ≠ .connecting) : d'.stage k ≠ .connecting := by
  rcases h.stage k with hsame | ⟨-, hne⟩
  · rwa [hsame]
  · exact hne

/-- What is on the queue was there before, or has just been sent. -/
theorem Daemon.Stepped.queued (h : d.Stepped cfg a d') {e : Envelope} (he : e ∈ d'.queue) :
    e ∈ d.queue ∨ d.Sends e d' := by
  rcases h.shape with ⟨_, _, e', -, hqueue, -, -, -⟩ | ⟨-, ⟨hqueue, -⟩ | ⟨e', hqueue, hsends⟩⟩
  · left
    rw [hqueue]
    exact List.mem_cons_of_mem _ he
  · left
    rwa [hqueue] at he
  · rw [hqueue] at he
    rcases List.mem_append.mp he with hold | hnew
    · exact Or.inl hold
    · right
      rwa [List.mem_singleton.mp hnew]

theorem Daemon.Stepped.sound (h : d.Stepped cfg a d') (hd : d.Sound) : d'.Sound where
  adds := by
    intro e he device response hreq
    rcases h.queued he with hold | hsends
    · obtain ⟨k, hk, hsession, hstage⟩ := hd.adds e hold device response hreq
      exact ⟨k, hk, h.session_keeps hsession, h.stage_leaves hstage⟩
    cases hsends with
    | plain hstage hadd => exact absurd hreq (hadd device response)
    | failure he => rw [he] at hreq; cases hreq
    | add he hsession hconn hstage =>
        subst he
        cases hreq
        refine ⟨_, rfl, h.session_keeps hsession, ?_⟩
        rw [hstage, Function.update_self]
        decide
  failures := by
    intro e he udid hreq
    rcases h.queued he with hold | hsends
    · obtain ⟨k, device, response, hk, hsession, hserial⟩ := hd.failures e hold udid hreq
      exact ⟨k, device, response, hk, h.session_keeps hsession, hserial⟩
    cases hsends with
    | plain hstage hadd hfail => exact absurd hreq (hfail udid)
    | add he => rw [he] at hreq; cases hreq
    | failure he hsession hconn hstage =>
        subst he
        cases hreq
        exact ⟨_, _, _, rfl, h.session_keeps hsession, rfl⟩
  once := by
    rcases h.shape with ⟨_, _, e', -, hqueue, -, -, -⟩ | ⟨-, ⟨hqueue, -⟩ | ⟨e', hqueue, hsends⟩⟩
    · refine hd.once.sublist ?_
      unfold pendingAdds
      rw [hqueue]
      exact (List.sublist_cons_self _ _).filterMap _
    · rw [hqueue]
      exact hd.once
    have hsend : pendingAdds d'.queue = pendingAdds d.queue ++ e'.adding?.toList := by
      rw [hqueue]
      exact pendingAdds_send d e'
    rw [hsend]
    cases hadd : e'.adding? with
    | none => simpa using hd.once
    | some k =>
        refine List.nodup_append.mpr ⟨hd.once, by simp, ?_⟩
        intro j hj j' hj'
        have hj' : j' = k := by simpa using hj'
        subst hj'
        rintro rfl
        -- what is on the queue is of a task that connects no longer
        obtain ⟨e, he, hk, device, response, hreq⟩ := mem_pendingAdds.mp hj
        obtain ⟨k', hk', -, hstage⟩ := hd.adds e he device response hreq
        rw [hk] at hk'
        cases hk'
        exact hstage (hsends.adding hadd)
  later := by
    intro k hk
    have hnone : d.session k = none := by
      cases hs : d.session k with
      | none => rfl
      | some x =>
          rw [h.session_keeps hs] at hk
          cases hk
    rcases h.stage k with hsame | ⟨⟨x, hx⟩, -⟩
    · rw [hsame]
      exact hd.later k hnone
    · rw [hnone] at hx
      cases hx
  given := by
    intro k device response hk
    rcases h.session with hsame | ⟨_, _, _, _, _, _, _, _, -, -, -, -, -, -, hsession⟩
    · rw [hsame] at hk
      exact hd.given k device response hk
    · rw [hsession] at hk
      split at hk
      · cases hk
        exact networkDevice_showable _ _ _ _
      · exact hd.given k device response hk
  listed := by
    intro id device hid
    rcases h.shape with ⟨_, _, e, -, hqueue, -, -, hserved⟩ | ⟨⟨outs, -, hmgr⟩, -⟩
    · rcases hserved.devices with hless | ⟨dev, hdevices, horigin⟩
      · exact hd.listed id device (hless id device hid)
      rw [hdevices] at hid
      rcases update_eq_some hid with hold | ⟨rfl, rfl⟩
      · exact hd.listed id device hold
      · refine ⟨rfl, ?_⟩
        rcases horigin with ⟨-, -, hshow, -⟩ | ⟨response, hreq⟩
        · exact hshow
        · obtain ⟨k, -, hk, -⟩ :=
            hd.adds e (mem_queue hqueue) device response hreq
          exact hd.given k device response hk
    · rw [hmgr] at hid
      exact hd.listed id device hid

theorem Daemon.sound {tr : List (Daemon × Happening × Daemon)}
    (hrun : Run (Daemon.Step cfg) (Daemon.start cfg) tr d) : d.Sound :=
  Run.invariant (sound_start cfg) (fun _ _ _ hd hstep => hstep.stepped.sound hd) hrun

/-! ### What a task owes -/

theorem Daemon.Stepped.pendingAdds_from (h : d.Stepped cfg a d') {k : Nat}
    (hk : k ∈ pendingAdds d'.queue) : k ∈ pendingAdds d.queue ∨ d.stage k = .connecting := by
  obtain ⟨e, he, hadd⟩ := List.mem_filterMap.mp hk
  rcases h.queued he with hold | hsends
  · exact Or.inl (List.mem_filterMap.mpr ⟨e, hold, hadd⟩)
  · exact Or.inr (hsends.adding hadd)

/-- A debt was there before, or is that of a task that has just been spawned. -/
theorem Daemon.Stepped.owes (h : d.Stepped cfg a d') {k : Nat} {device : MuxerDevice}
    (ho : d'.Owes k device) :
    d.Owes k device ∨ ∃ order paired e rest udid networkAddress serviceName connectionType,
        a = .serve order paired ∧ d.queue = e :: rest ∧
        e.request.requestType =
          .discoveredNetworkDevice udid networkAddress serviceName connectionType ∧
        ¬ Lists d.mgr.devices udid connectionType ∧ paired udid = true ∧
        device = d.mgr.networkDevice udid networkAddress serviceName connectionType ∧
        k = (heartbeats d.mgr.out).length ∧
        d' = { d with
                mgr := d.mgr.issue.emit [.heartbeat device e.request.response]
                queue := rest } := by
  obtain ⟨⟨response, hk⟩, howes⟩ := ho
  have hstill : d.stage k = .connecting ∨ k ∈ pendingAdds d.queue := by
    rcases howes with hconn | hmem
    · rcases h.stage k with hsame | ⟨-, hne⟩
      · exact Or.inl (hsame ▸ hconn)
      · exact absurd hconn hne
    · exact (h.pendingAdds_from hmem).symm
  rcases h.session with hsame | ⟨order, paired, e, rest, udid, addr, name, ct, ha, hqueue, hreq,
    hnew, hpaired, hd', hsession⟩
  · rw [hsame] at hk
    exact Or.inl ⟨⟨response, hk⟩, hstill⟩
  · rw [hsession] at hk
    split at hk
    · rename_i hlen
      cases hk
      exact Or.inr ⟨order, paired, e, rest, udid, addr, name, ct, ha, hqueue, hreq, hnew, hpaired,
        rfl, hlen, hd'⟩
    · exact Or.inl ⟨⟨response, hk⟩, hstill⟩

/-- The task whose deferred add is served owes its device before, and nothing after. -/
theorem Daemon.Stepped.pays (h : d.Stepped cfg a d') (hd : d.Sound) {order : List UInt64}
    {paired : String → Bool} {e : Envelope} {rest : List Envelope} {device : MuxerDevice}
    {response : Option Nat} (ha : a = .serve order paired) (hqueue : d.queue = e :: rest)
    (hreq : e.request.requestType = .deferredMuxerAdd device response) :
    ∃ k, d.Owes k device ∧ d.session k = some (device, response) ∧
      ∀ device', ¬ d'.Owes k device' := by
  obtain ⟨k, hk, hsession, hstage⟩ :=
    hd.adds e (mem_queue hqueue) device response hreq
  have hadd : e.adding? = some k := by
    unfold Envelope.adding?
    rw [hreq]
    exact hk
  have hpending : pendingAdds d.queue = k :: pendingAdds rest := by
    unfold pendingAdds
    rw [hqueue, List.filterMap_cons, hadd]
  refine ⟨k, ⟨⟨response, hsession⟩, Or.inr ?_⟩, hsession, ?_⟩
  · rw [hpending]
    exact List.mem_cons_self ..
  rintro device' ⟨-, hconn | hmem⟩
  · exact h.stage_leaves hstage hconn
  have hrest : d'.queue = rest := by
    rw [ha] at h
    cases h with
    | serve hqueue' =>
        rw [hqueue] at hqueue'
        injection hqueue' with _ hr
        exact hr.symm
  have honce := hd.once
  rw [hpending, List.nodup_cons] at honce
  rw [hrest] at hmem
  exact honce.1 hmem

/-- The daemon's happenings of a list, taken in order, with `C` checked at each. -/
def Daemon.Plays (cfg : Config) (C : Daemon → Happening → Daemon → Prop) (as : List Happening)
    (d : Daemon) : Prop :=
  Lib.Plays (Daemon.next cfg) (fun d a d' => a.Valid d ∧ C d a d') (Daemon.start cfg) as d

theorem Daemon.Plays.run {C : Daemon → Happening → Daemon → Prop} {as : List Happening}
    (h : Daemon.Plays cfg C as d) :
    ∃ tr, Run (Daemon.Step cfg) (Daemon.start cfg) tr d ∧ EveryStep C tr := by
  obtain ⟨tr, hrun, hall, -⟩ := Run.of_plays
    (fun s a s' hnext hC => show Daemon.Step cfg s a s' from ⟨hnext, hC.1⟩) h
  exact ⟨tr, hrun, hall.imp fun _ _ _ hC => hC.2⟩

end

/-- mDNS has resolved a service of this device. -/
def resolution (udid : String) : Happening :=
  .submit ⟨.discoveredNetworkDevice udid (.v4 (.replicate 4 10)) "name" "Network", none⟩

end Netmuxd
