/-
The two searches for the mux interface among the descriptors nusb hands out.

`collect_mux_candidates` of `src/usb/apple.rs` is the library's: it collects the targets of
all configurations, those of the active one first.  `find_mux_target` of
`src/daemon/nusb_backend.rs` is the daemon's: it sorts the configurations and stops at the
first target.  A descriptor is what its accessors return.
-/
import Netmuxd.Usb.Wire

namespace Netmuxd.Nusb

/-! ### Descriptors -/

inductive TransferType
  | control
  | isochronous
  | bulk
  | interrupt
  deriving DecidableEq, Repr

inductive Direction
  | out
  | in
  deriving DecidableEq, Repr

structure EndpointDescriptor where
  address : UInt8
  direction : Direction
  transferType : TransferType
  deriving DecidableEq, Repr

/-- One alternate setting of an interface. -/
structure InterfaceDescriptor where
  interfaceNumber : UInt8
  class_ : UInt8
  subclass : UInt8
  protocol : UInt8
  endpoints : List EndpointDescriptor
  deriving DecidableEq, Repr

/-- The interfaces, each with its alternate settings. -/
structure ConfigurationDescriptor where
  configurationValue : UInt8
  interfaces : List (List InterfaceDescriptor)
  deriving DecidableEq, Repr

/-- `active` is the value of the configuration the device is in. -/
structure Device where
  configurations : List ConfigurationDescriptor
  active : Option UInt8 := none

/-- `device.active_configuration().ok()` -/
def Device.activeConfiguration (device : Device) : Option ConfigurationDescriptor :=
  device.active.bind fun v => device.configurations.find? fun c => c.configurationValue = v

/-! ### One alternate setting -/

def muxInterfaceClass : UInt8 := 0xff
def muxInterfaceSubclass : UInt8 := 0xfe
def muxInterfaceProtocol : UInt8 := 0x02

structure MuxTarget where
  configValue : UInt8
  interfaceNumber : UInt8
  epIn : UInt8
  epOut : UInt8
  deriving DecidableEq, Repr

/-- The loop over the endpoints: the last bulk one of each direction. -/
def bulkEndpoints (alt : InterfaceDescriptor) : Option UInt8 × Option UInt8 :=
  alt.endpoints.foldl
    (fun (epIn, epOut) ep =>
      if ep.transferType ≠ .bulk then (epIn, epOut)
      else
        match ep.direction with
        | .in => (some ep.address, epOut)
        | .out => (epIn, some ep.address))
    (none, none)

/-- What both searches do with an alternate setting of a configuration. -/
def altTarget (configValue : UInt8) (alt : InterfaceDescriptor) : Option MuxTarget :=
  if alt.class_ ≠ muxInterfaceClass ∨ alt.subclass ≠ muxInterfaceSubclass ∨
      alt.protocol ≠ muxInterfaceProtocol then none
  else
    match bulkEndpoints alt with
    | (some epIn, some epOut) =>
      some { configValue, interfaceNumber := alt.interfaceNumber, epIn, epOut }
    | _ => none

/-! ### The library's search -/

/-- The targets a configuration adds to `all`. -/
def targetsOf (cfg : ConfigurationDescriptor) : List MuxTarget :=
  cfg.interfaces.flatMap fun intf => intf.filterMap (altTarget cfg.configurationValue)

def collectMuxCandidates (device : Device) : List MuxTarget :=
  let active := device.activeConfiguration.map ConfigurationDescriptor.configurationValue
  let all := device.configurations.flatMap targetsOf
  all.filter (fun t => some t.configValue = active) ++
    all.filter fun t => some t.configValue ≠ active

/-! ### The daemon's search -/

def findMuxInConfig (cfg : ConfigurationDescriptor) : Option MuxTarget :=
  cfg.interfaces.findSome? fun intf => intf.findSome? (altTarget cfg.configurationValue)

/-- `configs.sort_by_key(|c| Reverse(c.configuration_value()))` -/
def sortConfigs (configs : List ConfigurationDescriptor) : List ConfigurationDescriptor :=
  configs.mergeSort fun a b => b.configurationValue ≤ a.configurationValue

def findMuxTarget (device : Device) : Option MuxTarget :=
  match device.activeConfiguration.bind findMuxInConfig with
  | some target => some target
  -- otherwise highest-numbered first
  | none => (sortConfigs device.configurations).findSome? findMuxInConfig

/-! ### Where a device is -/

structure DeviceInfo where
  busId : String
  portChain : List UInt8
  deriving DecidableEq

/-- `device_location_id`, anywhere but on macOS. -/
def deviceLocationId (info : DeviceInfo) : UInt64 :=
  info.portChain.foldl (fun acc b => (acc <<< 4) ||| (b.toUInt64 &&& 0xf)) 0

end Netmuxd.Nusb
