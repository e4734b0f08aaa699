/-
What serving a request does to the manager.

`Served` is the inversion of `Manager.handle`: the handlers of the source come to nine
things, and each is a state written out.  Looking a device up, which depends on the
order of the map, is turned into what is listed and what is not.
-/
import Netmuxd.Daemon.System
import Netmuxd.Lib.Run

namespace Netmuxd

/-! ### Looking a device up -/

/-- Some listed device is known by this UDID and connection type. -/
def Lists (devices : UInt64 → Option MuxerDevice) (udid connectionType : String) : Prop :=
  ∃ id d, devices id = some d ∧ d.Matches udid connectionType

theorem any_eq_true_iff {α : Type} {o : Option α} {p : α → Bool} :
    o.any p = true ↔ ∃ a, o = some a ∧ p a = true := by
  cases o with
  | none => simp
  | some a => simp

section
variable {devices : UInt64 → Option MuxerDevice} {order : List UInt64}
  {udid connectionType : String}

theorem findDeviceId_some {id : UInt64}
    (h : findDeviceId order devices udid connectionType = some id) :
    id ∈ order ∧ ∃ d, devices id = some d ∧ d.Matches udid connectionType := by
  unfold findDeviceId at h
  have hany := List.find?_some h
  obtain ⟨d, hd, hmatch⟩ := any_eq_true_iff.mp hany
  exact ⟨List.mem_of_find?_eq_some h, d, hd, of_decide_eq_true hmatch⟩

theorem findDeviceId_none (hall : ∀ id, id ∈ order ↔ (devices id).isSome = true)
    (h : findDeviceId order devices udid connectionType = none) :
    ¬ Lists devices udid connectionType := by
  rintro ⟨id, d, hd, hmatch⟩
  unfold findDeviceId at h
  have hnot := List.find?_eq_none.mp h id ((hall id).mpr (by rw [hd]; rfl))
  rw [hd] at hnot
  simp [hmatch] at hnot

theorem findDeviceId_isSome (hall : ∀ id, id ∈ order ↔ (devices id).isSome = true) :
    (findDeviceId order devices udid connectionType).isSome = true ↔
      Lists devices udid connectionType := by
  constructor
  · intro h
    obtain ⟨id, hid⟩ := Option.isSome_iff_exists.mp h
    obtain ⟨-, d, hd, hmatch⟩ := findDeviceId_some hid
    exact ⟨id, d, hd, hmatch⟩
  · intro h
    by_contra hnone
    rw [Option.not_isSome_iff_eq_none] at hnone
    exact findDeviceId_none hall hnone h

end

/-! ### The order of the map -/

theorem orderOf_nil : OrderOf (fun _ => none) [] :=
  ⟨List.nodup_nil, fun id => by simp⟩

theorem OrderOf.insert {devices : UInt64 → Option MuxerDevice} {order : List UInt64}
    (h : OrderOf devices order) {id : UInt64} {device : MuxerDevice} (hid : id ∉ order) :
    OrderOf (Function.update devices id (some device)) (id :: order) := by
  refine ⟨List.nodup_cons.mpr ⟨hid, h.1⟩, fun i => ?_⟩
  rw [List.mem_cons, h.2]
  by_cases hi : i = id
  · simp [hi]
  · simp [hi]

theorem OrderOf.erase {devices : UInt64 → Option MuxerDevice} {order : List UInt64}
    (h : OrderOf devices order) (id : UInt64) :
    OrderOf (Function.update devices id none) (order.erase id) := by
  refine ⟨h.1.erase id, fun i => ?_⟩
  rw [h.1.mem_erase_iff, h.2]
  by_cases hi : i = id
  · simp [hi]
  · simp [hi]

/-! ### Small steps -/

section
variable (m : Manager) (alive : Nat → Bool) (event : ListenerEvent) (id : UInt64)
  (response : Option Nat) (p : Dictionary) (outs : List Output)

@[simp] theorem emit_devices : (m.emit outs).devices = m.devices := rfl
@[simp] theorem emit_listeners : (m.emit outs).listeners = m.listeners := rfl
@[simp] theorem emit_openSockets : (m.emit outs).openSockets = m.openSockets := rfl
@[simp] theorem emit_lastIndex : (m.emit outs).lastIndex = m.lastIndex := rfl
@[simp] theorem emit_out : (m.emit outs).out = m.out ++ outs := rfl

@[simp] theorem emit_nil : m.emit [] = m := by
  unfold Manager.emit
  rw [List.append_nil]

/-- The answer of a caller that waits for one. -/
def responses (response : Option Nat) (p : Dictionary) : List Output :=
  match response with
  | some caller => [.respond caller p]
  | none => []

theorem respond_eq : respond m response p = m.emit (responses response p) := by
  cases response with
  | some caller => rfl
  | none => exact (emit_nil m).symm

/-- What the listeners that are left are told. -/
def tells (listeners : List Nat) (event : ListenerEvent) : List Output :=
  listeners.map fun l => .tell l event

@[simp] theorem broadcast_devices : (broadcast alive m event).devices = m.devices := rfl
@[simp] theorem broadcast_openSockets :
    (broadcast alive m event).openSockets = m.openSockets := rfl
@[simp] theorem broadcast_lastIndex : (broadcast alive m event).lastIndex = m.lastIndex := rfl
@[simp] theorem broadcast_listeners :
    (broadcast alive m event).listeners = m.listeners.filter alive := rfl
@[simp] theorem broadcast_out :
    (broadcast alive m event).out = m.out ++ tells (m.listeners.filter alive) event := rfl

@[simp] theorem dropEntry_devices :
    (dropEntry m id).devices = Function.update m.devices id none := rfl
@[simp] theorem dropEntry_openSockets :
    (dropEntry m id).openSockets = Function.update m.openSockets id none := rfl
@[simp] theorem dropEntry_listeners : (dropEntry m id).listeners = m.listeners := rfl
@[simp] theorem dropEntry_lastIndex : (dropEntry m id).lastIndex = m.lastIndex := rfl

/-- The kill switches registered for an id. -/
def kills (m : Manager) (id : UInt64) : List Output :=
  ((m.openSockets id).getD []).map .kill

@[simp] theorem dropEntry_out : (dropEntry m id).out = m.out ++ kills m id := rfl

/-- The shutdown of an entry's mux task, if it has one. -/
def shutdowns (m : Manager) (id : UInt64) : List Output :=
  match m.usbHandles id with
  | some h => [.shutdown h]
  | none => []

theorem removeEntry_eq :
    removeEntry alive m id =
      broadcast alive ((dropEntry m id).emit (shutdowns m id)) (.detached id) := by
  unfold removeEntry shutdowns
  cases h : m.usbHandles id with
  | some handle => rfl
  | none => simp only [Manager.emit, List.append_nil]

end

/-! ### The inversion -/

/-- The device a discovery on the network makes. -/
def Manager.networkDevice (m : Manager) (udid : String) (networkAddress : IpAddr)
    (serviceName connectionType : String) : MuxerDevice :=
  { connectionType, deviceId := m.lastIndex, interfaceIndex := m.lastInterfaceIndex,
    serialNumber := udid, networkAddress := some networkAddress, serviceName := some serviceName,
    connectionSpeed := none, locationId := none, productId := none }

/-- The device a discovery on USB makes. -/
def Manager.usbDevice (m : Manager) (udid : String) (locationId productId speed : UInt64) :
    MuxerDevice :=
  { connectionType := "USB", deviceId := m.lastIndex, interfaceIndex := m.lastInterfaceIndex,
    serialNumber := udid, networkAddress := none, serviceName := none,
    connectionSpeed := some speed, locationId := some locationId, productId := some productId }

/-- The manager after it has handed out an id. -/
def Manager.issue (m : Manager) : Manager :=
  { m with
    lastIndex := m.lastIndex + 1
    lastInterfaceIndex := m.lastInterfaceIndex + 1 }

/-- The manager after `device` has been listed and shown to the listeners as `p`. -/
def Manager.list (m : Manager) (alive : Nat → Bool) (device : MuxerDevice) (p : Dictionary) :
    Manager :=
  broadcast alive { m with devices := Function.update m.devices device.deviceId (some device) }
    (.attached p)

/-- An output that is an answer to a caller, and nothing else. -/
def Output.isAnswer : Output → Bool
  | .respond .. | .connection .. => true
  | _ => false

/-- The requests that can come to nothing but an answer. -/
def ManagerRequestType.answerable : ManagerRequestType → Bool
  | .discoveredNetworkDevice .. | .listDevices | .getDeviceConnection .. => true
  | _ => false

theorem responses_isAnswer (response : Option Nat) (p : Dictionary) :
    ∀ o ∈ responses response p, o.isAnswer = true := by
  cases response with
  | none => simp [responses]
  | some caller => simp [responses, Output.isAnswer]

inductive Served (cfg : Config) (env : Surroundings) (m : Manager) :
    ManagerRequest → Manager → Prop
  /-- Nothing but answers. -/
  | answered {req : ManagerRequest} (outs : List Output)
      (hreq : req.requestType.answerable = true) (houts : ∀ o ∈ outs, o.isAnswer = true) :
      Served cfg env m req (m.emit outs)
  | handleReplaced {udid : String} {locationId productId speed : UInt64} {handle : UsbMuxHandle}
      {response : Option Nat} {id : UInt64} {d : MuxerDevice} (hd : m.devices id = some d)
      (hmatch : d.Matches udid "USB") :
      Served cfg env m ⟨.discoveredUsbDevice udid locationId productId speed handle, response⟩
        { m with usbHandles := Function.update m.usbHandles id (some handle) }
  /-- A heartbeat task is to see to the device first. -/
  | deferred {udid : String} {networkAddress : IpAddr} {serviceName connectionType : String}
      {response : Option Nat} (hnew : ¬ Lists m.devices udid connectionType)
      (hpaired : env.paired udid = true) (hcfg : cfg.useHeartbeat = true) :
      Served cfg env m
        ⟨.discoveredNetworkDevice udid networkAddress serviceName connectionType, response⟩
        (m.issue.emit
          [.heartbeat (m.networkDevice udid networkAddress serviceName connectionType) response])
  | listedNetwork {udid : String} {networkAddress : IpAddr} {serviceName connectionType : String}
      {response : Option Nat} {p : Dictionary} (hnew : ¬ Lists m.devices udid connectionType)
      (hpaired : env.paired udid = true) (hcfg : cfg.useHeartbeat = false)
      (hp : attachedPlist cfg.bsdSockaddr
        (m.networkDevice udid networkAddress serviceName connectionType) = some p) :
      Served cfg env m
        ⟨.discoveredNetworkDevice udid networkAddress serviceName connectionType, response⟩
        ((m.issue.list env.alive (m.networkDevice udid networkAddress serviceName connectionType)
          p).emit (responses response (resultPlist 1)))
  | listedUsb {udid : String} {locationId productId speed : UInt64} {handle : UsbMuxHandle}
      {response : Option Nat} {p : Dictionary} (hnew : ¬ Lists m.devices udid "USB")
      (hp : attachedPlist cfg.bsdSockaddr (m.usbDevice udid locationId productId speed) = some p) :
      Served cfg env m ⟨.discoveredUsbDevice udid locationId productId speed handle, response⟩
        (Manager.list
          { m.issue with usbHandles := Function.update m.usbHandles m.lastIndex (some handle) }
          env.alive (m.usbDevice udid locationId productId speed) p)
  | added {device : MuxerDevice} {response response' : Option Nat} {p : Dictionary}
      (hp : attachedPlist cfg.bsdSockaddr device = some p) :
      Served cfg env m ⟨.deferredMuxerAdd device response, response'⟩
        ((m.list env.alive device p).emit (responses response (resultPlist 1)))
  | removed {udid : String} {connectionType : Option String} {response : Option Nat}
      (ids : List UInt64) (hids : ids.Nodup)
      (hall : ∀ id, id ∈ ids ↔ ∃ d, m.devices id = some d ∧ d.Removed udid connectionType = true) :
      Served cfg env m ⟨.removeDevice udid connectionType, response⟩
        (ids.foldl (removeEntry env.alive) m)
  | failed {udid : String} {response : Option Nat} {id : UInt64} {d : MuxerDevice}
      (hfind : findDeviceId env.order m.devices udid "Network" = some id)
      (hd : m.devices id = some d) (hmatch : d.Matches udid "Network") :
      Served cfg env m ⟨.heartbeatFailed udid, response⟩
        (broadcast env.alive (dropEntry m id) (.detached id))
  | failedNobody {udid : String} {response : Option Nat}
      (hnone : ¬ Lists m.devices udid "Network") :
      Served cfg env m ⟨.heartbeatFailed udid, response⟩ m
  | opened {deviceId : UInt64} {kill : Nat} {response : Option Nat} :
      Served cfg env m ⟨.openSocket deviceId kill, response⟩ (openSocket m deviceId kill)
  | subscribed {listener : Nat} {response : Option Nat} {ps : List Dictionary}
      (halive : env.alive listener = true) (hps : deviceList cfg env m = some ps) :
      Served cfg env m ⟨.subscribe listener, response⟩
        { m with
          listeners := m.listeners ++ [listener]
          out := m.out ++ ps.map fun p => .tell listener (.attached p) }
  /-- A listener that is gone before it is served is kept or not. -/
  | subscribedGone {listener : Nat} {response : Option Nat} (kept : List Nat)
      (hgone : env.alive listener = false) (hkept : kept = [] ∨ kept = [listener]) :
      Served cfg env m ⟨.subscribe listener, response⟩
        { m with listeners := m.listeners ++ kept }

theorem Served.unchanged {cfg : Config} {env : Surroundings} {m : Manager} {req : ManagerRequest}
    (hreq : req.requestType.answerable = true) : Served cfg env m req m := by
  have h : Served cfg env m req (m.emit []) := .answered [] hreq (by simp)
  rwa [emit_nil] at h

section
variable {cfg : Config} {env : Surroundings} {m m' : Manager}

theorem addNetworkDevice_some {device : MuxerDevice} {response : Option Nat}
    (h : addNetworkDevice cfg env m device response = some m') :
    ∃ p, attachedPlist cfg.bsdSockaddr device = some p ∧
      m' = (m.list env.alive device p).emit (responses response (resultPlist 1)) := by
  unfold addNetworkDevice at h
  split at h
  · cases h
  · rename_i p hp
    cases h
    exact ⟨p, hp, respond_eq _ _ _⟩

theorem discoveredNetworkDevice_served {udid : String} {networkAddress : IpAddr}
    {serviceName connectionType : String} {response : Option Nat}
    (horder : OrderOf m.devices env.order)
    (h : discoveredNetworkDevice cfg env m udid networkAddress serviceName connectionType response
      = some m') :
    Served cfg env m
      ⟨.discoveredNetworkDevice udid networkAddress serviceName connectionType, response⟩ m' := by
  unfold discoveredNetworkDevice at h
  split at h
  · cases h
    exact Served.unchanged rfl
  rename_i hnone
  rw [findDeviceId_isSome horder.2] at hnone
  split at h
  · cases h
    exact Served.unchanged rfl
  rename_i hpaired
  have hpaired : env.paired udid = true := by simpa using hpaired
  split at h
  · rename_i hcfg
    cases h
    exact .deferred hnone hpaired hcfg
  · rename_i hcfg
    obtain ⟨p, hp, rfl⟩ := addNetworkDevice_some h
    exact .listedNetwork hnone hpaired (by simpa using hcfg) hp

theorem discoveredUsbDevice_served {udid : String} {locationId productId speed : UInt64}
    {handle : UsbMuxHandle} {response : Option Nat} (horder : OrderOf m.devices env.order)
    (h : discoveredUsbDevice cfg env m udid locationId productId speed handle = some m') :
    Served cfg env m ⟨.discoveredUsbDevice udid locationId productId speed handle, response⟩
      m' := by
  unfold discoveredUsbDevice at h
  split at h
  · rename_i id hid
    cases h
    obtain ⟨-, d, hd, hmatch⟩ := findDeviceId_some hid
    exact .handleReplaced hd hmatch
  · rename_i hnone
    dsimp only at h
    split at h
    · cases h
    · rename_i p hp
      cases h
      exact .listedUsb (findDeviceId_none horder.2 hnone) hp

theorem removeDevice_served {udid : String} {connectionType : Option String}
    {response : Option Nat} (horder : OrderOf m.devices env.order) :
    Served cfg env m ⟨.removeDevice udid connectionType, response⟩
      (removeDevice env m udid connectionType) := by
  refine .removed _ (horder.1.filter _) fun id => ?_
  rw [List.mem_filter, horder.2]
  constructor
  · rintro ⟨-, hany⟩
    exact any_eq_true_iff.mp hany
  · rintro ⟨d, hd, hrem⟩
    rw [hd]
    exact ⟨rfl, hrem⟩

theorem heartbeatFailed_served {udid : String} {response : Option Nat}
    (horder : OrderOf m.devices env.order) :
    Served cfg env m ⟨.heartbeatFailed udid, response⟩ (heartbeatFailed env m udid) := by
  unfold heartbeatFailed
  split
  · rename_i hnone
    exact .failedNobody (findDeviceId_none horder.2 hnone)
  · rename_i id hid
    obtain ⟨-, d, hd, hmatch⟩ := findDeviceId_some hid
    exact .failed hid hd hmatch

theorem subscribe_served {listener : Nat} {response : Option Nat}
    (h : subscribe cfg env m listener = some m') :
    Served cfg env m ⟨.subscribe listener, response⟩ m' := by
  unfold subscribe at h
  split at h
  · rename_i halive
    obtain ⟨ps, hps, rfl⟩ := Option.map_eq_some_iff.mp h
    exact .subscribed halive hps
  · rename_i hgone
    have hgone : env.alive listener = false := by simpa using hgone
    split at h
    · cases h
      exact .subscribedGone [listener] hgone (Or.inr rfl)
    · obtain ⟨p, -, rfl⟩ := Option.map_eq_some_iff.mp h
      have hnone : Served cfg env m ⟨.subscribe listener, response⟩
          { m with listeners := m.listeners ++ [] } := .subscribedGone [] hgone (Or.inl rfl)
      rwa [List.append_nil] at hnone

/-- **Serving a request comes to one of these.** -/
theorem Manager.handle_served {req : ManagerRequest} (horder : OrderOf m.devices env.order)
    (h : m.handle cfg env req = some m') : Served cfg env m req m' := by
  obtain ⟨requestType, response⟩ := req
  cases requestType with
  | discoveredNetworkDevice => exact discoveredNetworkDevice_served horder h
  | discoveredUsbDevice => exact discoveredUsbDevice_served horder h
  | deferredMuxerAdd device response' =>
      obtain ⟨p, hp, rfl⟩ := addNetworkDevice_some h
      exact .added hp
  | removeDevice =>
      cases h
      exact removeDevice_served horder
  | listDevices =>
      simp only [Manager.handle, listDevices] at h
      split at h
      · cases h
        exact Served.unchanged rfl
      · obtain ⟨list, -, rfl⟩ := Option.map_eq_some_iff.mp h
        exact .answered _ rfl (by simp [Output.isAnswer])
  | getDeviceConnection id caller =>
      cases h
      exact .answered _ rfl (by simp [Output.isAnswer])
  | heartbeatFailed =>
      cases h
      exact heartbeatFailed_served horder
  | openSocket =>
      cases h
      exact .opened
  | subscribe => exact subscribe_served h

end

end Netmuxd
