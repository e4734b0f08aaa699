/-
The manager of `src/manager.rs`.

One task owns the maps of devices, USB handles and open sockets and the list of
listeners, and serves requests one after the other.  `Manager.handle` is the body of
its loop: it takes a request and what the surroundings contribute (`Surroundings`),
and returns the state the next request finds.  What the manager does to others goes
on a log.  Nothing else changes the maps, so a request is one step.

Ends of channels, mux handles and kill switches are numbers.  A hash map is a
function, and the order it yields its keys in is part of the surroundings.  `none` is a
panic, which ends the manager's task.
-/
import Netmuxd.Daemon.Devices

namespace Netmuxd

/-! ### Requests -/

/-- A `UsbMuxHandle`: one for every mux task. -/
abbrev UsbMuxHandle := Nat

inductive ListenerEvent
  | attached (p : Dictionary)
  | detached (id : UInt64)

structure DeviceConnection where
  connectionType : String
  serialNumber : String
  networkAddress : Option IpAddr
  usb : Option UsbMuxHandle

inductive ManagerRequestType
  | discoveredNetworkDevice (udid : String) (networkAddress : IpAddr)
      (serviceName connectionType : String)
  | discoveredUsbDevice (udid : String) (locationId productId speed : UInt64)
      (handle : UsbMuxHandle)
  | deferredMuxerAdd (device : MuxerDevice) (response : Option Nat)
  | removeDevice (udid : String) (connectionType : Option String)
  | listDevices
  | getDeviceConnection (id : UInt64) (response : Nat)
  | heartbeatFailed (udid : String)
  | openSocket (deviceId : UInt64) (kill : Nat)
  | subscribe (listener : Nat)

structure ManagerRequest where
  requestType : ManagerRequestType
  response : Option Nat := none

/-! ### Surroundings and effects -/

structure Config where
  useHeartbeat : Bool
  /-- An upstream muxer is configured, the shim mode. -/
  upstream : Bool
  /-- The platform's `sockaddr` starts with a length byte. -/
  bsdSockaddr : Bool

/-- What a request meets besides the manager's own state. -/
structure Surroundings where
  /-- The order in which the devices map yields its keys. -/
  order : List UInt64
  /-- Whether a listener's receiver is still there. -/
  alive : Nat → Bool
  /-- Whether there is a pairing record for this UDID. -/
  paired : String → Bool

inductive Output
  /-- `response.send(p)`. -/
  | respond (caller : Nat) (p : Dictionary)
  /-- The answer to a GetDeviceConnection. -/
  | connection (caller : Nat) (lookup : Option DeviceConnection)
  /-- An event put on a listener's channel. -/
  | tell (listener : Nat) (event : ListenerEvent)
  /-- A tunnel's kill switch is fired. -/
  | kill (kill : Nat)
  /-- A mux task is told to shut down. -/
  | shutdown (handle : UsbMuxHandle)
  /-- A heartbeat task is spawned for this device. -/
  | heartbeat (device : MuxerDevice) (response : Option Nat)

/-! ### State -/

/-- The first id of a network device in shim mode, out of reach of upstream's own. -/
def shimNetworkIdBase : UInt64 := 0x10000000

structure Manager where
  devices : UInt64 → Option MuxerDevice := fun _ => none
  usbHandles : UInt64 → Option UsbMuxHandle := fun _ => none
  openSockets : UInt64 → Option (List Nat) := fun _ => none
  listeners : List Nat := []
  lastIndex : UInt64
  lastInterfaceIndex : UInt64 := 1
  out : List Output := []

def Manager.start (cfg : Config) : Manager :=
  { lastIndex := if cfg.upstream then shimNetworkIdBase else 1 }

def Manager.emit (m : Manager) (outs : List Output) : Manager :=
  { m with out := m.out ++ outs }

/-- The order in which a map of these devices can yield its keys. -/
def OrderOf (devices : UInt64 → Option MuxerDevice) (order : List UInt64) : Prop :=
  order.Nodup ∧ ∀ id, id ∈ order ↔ (devices id).isSome = true

/-! ### Helpers -/

/-- The device is the one known by this UDID and connection type. -/
def MuxerDevice.Matches (d : MuxerDevice) (udid connectionType : String) : Prop :=
  d.serialNumber = udid ∧ d.connectionType = connectionType

instance (d : MuxerDevice) (udid connectionType : String) :
    Decidable (d.Matches udid connectionType) :=
  inferInstanceAs (Decidable (_ ∧ _))

/-- Find the id of a (udid, connection type) pair, if any. -/
def findDeviceId (order : List UInt64) (devices : UInt64 → Option MuxerDevice)
    (udid connectionType : String) : Option UInt64 :=
  order.find? fun id => (devices id).any fun d => decide (d.Matches udid connectionType)

/-- `drop_entry`, without the mux handle it returns. -/
def dropEntry (m : Manager) (id : UInt64) : Manager :=
  { m with
    devices := Function.update m.devices id none
    openSockets := Function.update m.openSockets id none
    usbHandles := Function.update m.usbHandles id none
    out := m.out ++ ((m.openSockets id).getD []).map .kill }

/-- A listener that cannot be told any more is forgotten. -/
def broadcast (alive : Nat → Bool) (m : Manager) (event : ListenerEvent) : Manager :=
  { m with
    listeners := m.listeners.filter alive
    out := m.out ++ (m.listeners.filter alive).map fun l => .tell l event }

/-- `{"Result": n}`, what a caller is sent. -/
def resultPlist (n : UInt64) : Dictionary :=
  [("Result", .integer n)]

def respond (m : Manager) (response : Option Nat) (p : Dictionary) : Manager :=
  match response with
  | some caller => m.emit [.respond caller p]
  | none => m

/-- A network device is listed, told about, and its caller answered. -/
def addNetworkDevice (cfg : Config) (env : Surroundings) (m : Manager) (device : MuxerDevice)
    (response : Option Nat) : Option Manager :=
  match attachedPlist cfg.bsdSockaddr device with
  | none => none
  | some attached =>
    let m := { m with devices := Function.update m.devices device.deviceId (some device) }
    let m := broadcast env.alive m (.attached attached)
    some (respond m response (resultPlist 1))

/-- `RemoveDevice` for one of the ids it has collected. -/
def removeEntry (alive : Nat → Bool) (m : Manager) (id : UInt64) : Manager :=
  let handle := m.usbHandles id
  let m := dropEntry m id
  let m :=
    match handle with
    | some h => m.emit [.shutdown h]
    | none => m
  broadcast alive m (.detached id)

/-! ### Serving a request -/

def discoveredNetworkDevice (cfg : Config) (env : Surroundings) (m : Manager) (udid : String)
    (networkAddress : IpAddr) (serviceName connectionType : String) (response : Option Nat) :
    Option Manager :=
  if (findDeviceId env.order m.devices udid connectionType).isSome then some m
  -- no pairing record: the caller's channel is dropped unanswered
  else if !env.paired udid then some m
  else
    let device : MuxerDevice :=
      { connectionType
        deviceId := m.lastIndex
        interfaceIndex := m.lastInterfaceIndex
        serialNumber := udid
        networkAddress := some networkAddress
        serviceName := some serviceName
        connectionSpeed := none
        locationId := none
        productId := none }
    let m :=
      { m with
        lastIndex := m.lastIndex + 1
        lastInterfaceIndex := m.lastInterfaceIndex + 1 }
    if cfg.useHeartbeat then some (m.emit [.heartbeat device response])
    else addNetworkDevice cfg env m device response

def discoveredUsbDevice (cfg : Config) (env : Surroundings) (m : Manager) (udid : String)
    (locationId productId speed : UInt64) (handle : UsbMuxHandle) : Option Manager :=
  match findDeviceId env.order m.devices udid "USB" with
  -- the handle is replaced, the device entry kept
  | some id => some { m with usbHandles := Function.update m.usbHandles id (some handle) }
  | none =>
    let device : MuxerDevice :=
      { connectionType := "USB"
        deviceId := m.lastIndex
        interfaceIndex := m.lastInterfaceIndex
        serialNumber := udid
        networkAddress := none
        serviceName := none
        connectionSpeed := some speed
        locationId := some locationId
        productId := some productId }
    match attachedPlist cfg.bsdSockaddr device with
    | none => none
    | some attached =>
      let m :=
        { m with
          devices := Function.update m.devices m.lastIndex (some device)
          usbHandles := Function.update m.usbHandles m.lastIndex (some handle) }
      let m := broadcast env.alive m (.attached attached)
      some
        { m with
          lastIndex := m.lastIndex + 1
          lastInterfaceIndex := m.lastInterfaceIndex + 1 }

/-- Whether `RemoveDevice` is about this device; no connection type stands for any. -/
def MuxerDevice.Removed (d : MuxerDevice) (udid : String) (connectionType : Option String) :
    Bool :=
  decide (d.serialNumber = udid) &&
    (connectionType.map fun ct => decide (d.connectionType = ct)).getD true

def removeDevice (env : Surroundings) (m : Manager) (udid : String)
    (connectionType : Option String) : Manager :=
  let ids := env.order.filter fun id => (m.devices id).any (·.Removed udid connectionType)
  ids.foldl (removeEntry env.alive) m

/-- The dictionaries of all devices, in the order of the map. -/
def deviceList (cfg : Config) (env : Surroundings) (m : Manager) : Option (List Dictionary) :=
  env.order.mapM fun id => (m.devices id).bind (attachedPlist cfg.bsdSockaddr)

def listDevices (cfg : Config) (env : Surroundings) (m : Manager) (response : Option Nat) :
    Option Manager :=
  match response with
  | none => some m
  | some caller =>
    (deviceList cfg env m).map fun list =>
      m.emit [.respond caller [("DeviceList", .array (list.map .dictionary))]]

def getDeviceConnection (m : Manager) (id : UInt64) (response : Nat) : Manager :=
  m.emit [.connection response ((m.devices id).map fun d =>
    { connectionType := d.connectionType
      serialNumber := d.serialNumber
      networkAddress := d.networkAddress
      usb := m.usbHandles id })]

def heartbeatFailed (env : Surroundings) (m : Manager) (udid : String) : Manager :=
  match findDeviceId env.order m.devices udid "Network" with
  | none => m
  | some id => broadcast env.alive (dropEntry m id) (.detached id)

def openSocket (m : Manager) (deviceId : UInt64) (kill : Nat) : Manager :=
  { m with
    openSockets := Function.update m.openSockets deviceId
      (some ((m.openSockets deviceId).getD [] ++ [kill])) }

/-- A new listener is told about all devices there are.  One whose receiver is gone already
is not kept if there is any. -/
def subscribe (cfg : Config) (env : Surroundings) (m : Manager) (listener : Nat) :
    Option Manager :=
  if env.alive listener then
    (deviceList cfg env m).map fun list =>
      { m with
        listeners := m.listeners ++ [listener]
        out := m.out ++ list.map fun p => .tell listener (.attached p) }
  else
    match env.order with
    | [] => some { m with listeners := m.listeners ++ [listener] }
    | id :: _ => ((m.devices id).bind (attachedPlist cfg.bsdSockaddr)).map fun _ => m

def Manager.handle (cfg : Config) (env : Surroundings) (m : Manager) (message : ManagerRequest) :
    Option Manager :=
  match message.requestType with
  | .discoveredNetworkDevice udid networkAddress serviceName connectionType =>
    discoveredNetworkDevice cfg env m udid networkAddress serviceName connectionType
      message.response
  | .discoveredUsbDevice udid locationId productId speed handle =>
    discoveredUsbDevice cfg env m udid locationId productId speed handle
  | .deferredMuxerAdd device response => addNetworkDevice cfg env m device response
  | .removeDevice udid connectionType => some (removeDevice env m udid connectionType)
  | .listDevices => listDevices cfg env m message.response
  | .getDeviceConnection id response => some (getDeviceConnection m id response)
  | .heartbeatFailed udid => some (heartbeatFailed env m udid)
  | .openSocket deviceId kill => some (openSocket m deviceId kill)
  | .subscribe listener => subscribe cfg env m listener

end Netmuxd
