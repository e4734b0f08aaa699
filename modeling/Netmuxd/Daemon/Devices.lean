/-
The devices the daemon lists, `src/devices.rs`.

A device is shown to clients as a property list dictionary.  Such a dictionary keeps
its keys in the order they were first inserted, so it is a list of entries here.
Turning a device into one panics for a network device that lacks its address or its
service name, which is `none`.
-/
import Netmuxd.Usb.Wire

namespace Netmuxd

/-! ### Property lists -/

inductive Value
  | string (s : String)
  | integer (n : UInt64)
  | data (bytes : Bytes)
  | array (items : List Value)
  | dictionary (entries : List (String × Value))

abbrev Dictionary := List (String × Value)

def Dictionary.get (p : Dictionary) (key : String) : Option Value :=
  p.lookup key

/-- A key that is already there keeps its place. -/
def Dictionary.insert (p : Dictionary) (key : String) (value : Value) : Dictionary :=
  if p.any fun e => e.1 = key then p.map fun e => if e.1 = key then (key, value) else e
  else p ++ [(key, value)]

/-! ### Devices -/

inductive IpAddr
  | v4 (octets : Vector UInt8 4)
  | v6 (octets : Vector UInt8 16)
  deriving DecidableEq

structure MuxerDevice where
  -- universal types
  connectionType : String
  deviceId : UInt64
  interfaceIndex : UInt64
  serialNumber : String
  -- network types
  networkAddress : Option IpAddr
  serviceName : Option String
  -- USB types
  connectionSpeed : Option UInt64
  locationId : Option UInt64
  productId : Option UInt64
  deriving DecidableEq

/-- The 128 bytes of a `sockaddr_storage`; `bsdSockaddr` says whether the platform's has a
length byte. -/
def sockaddr (bsdSockaddr : Bool) : IpAddr → Bytes
  | .v4 octets =>
    -- family, then two bytes of port
    (if bsdSockaddr then [0x10, 0x02] else [0x02, 0x00]) ++ [0, 0] ++ octets.toList ++
      List.replicate 120 0
  | .v6 octets =>
    -- family, then port and flowinfo
    (if bsdSockaddr then [0x1C, 0x1E] else [0x0A, 0x00]) ++ List.replicate 6 0 ++ octets.toList ++
      List.replicate 104 0

/-- `if let Some(v) = value { p.insert(key, v) }`. -/
def Dictionary.insertSome (p : Dictionary) (key : String) (value : Option Value) : Dictionary :=
  match value with
  | some v => p.insert key v
  | none => p

def MuxerDevice.toDictionary (bsdSockaddr : Bool) (device : MuxerDevice) : Option Dictionary :=
  let p : Dictionary := []
  let p := p.insert "ConnectionType" (.string device.connectionType)
  let p := p.insert "DeviceID" (.integer device.deviceId)
  let p := p.insert "InterfaceIndex" (.integer device.interfaceIndex)
  let p := p.insert "SerialNumber" (.string device.serialNumber)
  if device.connectionType = "Network" then
    match device.serviceName, device.networkAddress with
    | some serviceName, some networkAddress =>
      let p := p.insert "EscapedFullServiceName" (.string serviceName)
      some (p.insert "NetworkAddress" (.data (sockaddr bsdSockaddr networkAddress)))
    | _, _ => none
  else if device.connectionType = "USB" then
    let p := p.insertSome "ConnectionSpeed" (device.connectionSpeed.map .integer)
    -- only the low 32 bits of a location reach the client
    let p := p.insertSome "LocationID"
      (device.locationId.map fun location => .integer location.toUInt32.toUInt64)
    some (p.insertSome "ProductID" (device.productId.map .integer))
  else some p

/-- The dictionary of an Attached event, and of an entry of the device list. -/
def attachedPlist (bsdSockaddr : Bool) (device : MuxerDevice) : Option Dictionary :=
  (device.toDictionary bsdSockaddr).map fun properties =>
    [("DeviceID", .integer device.deviceId), ("MessageType", .string "Attached"),
      ("Properties", .dictionary properties)]

/-- What a client goes by: the DeviceID of a dictionary. -/
def Dictionary.deviceId (p : Dictionary) : Option UInt64 :=
  match p.get "DeviceID" with
  | some (.integer id) => some id
  | _ => none

theorem attachedPlist_deviceId {bsd : Bool} {device : MuxerDevice} {p : Dictionary}
    (h : attachedPlist bsd device = some p) : p.deviceId = some device.deviceId := by
  obtain ⟨properties, -, rfl⟩ := Option.map_eq_some_iff.mp h
  rfl

/-- A device that can be shown: one over the network has its address and its name. -/
def MuxerDevice.Showable (device : MuxerDevice) : Prop :=
  device.connectionType = "Network" →
    device.serviceName.isSome = true ∧ device.networkAddress.isSome = true

theorem attachedPlist_isSome (bsd : Bool) {device : MuxerDevice} (h : device.Showable) :
    ∃ p, attachedPlist bsd device = some p := by
  unfold attachedPlist MuxerDevice.toDictionary
  by_cases hnet : device.connectionType = "Network"
  · obtain ⟨hname, haddr⟩ := h hnet
    obtain ⟨name, hname⟩ := Option.isSome_iff_exists.mp hname
    obtain ⟨addr, haddr⟩ := Option.isSome_iff_exists.mp haddr
    rw [if_pos hnet, hname, haddr]
    exact ⟨_, rfl⟩
  · rw [if_neg hnet]
    split
    · exact ⟨_, rfl⟩
    · exact ⟨_, rfl⟩

end Netmuxd
