/-
Taking a device in, `handle_connected` of `src/daemon/nusb_backend.rs`, up to the mux task.

A device that does not show its mux interface is switched into a mode in which it does, and
comes back.  Else the interface is claimed, and what the mux task and `connect_device` are
started with is the result.
-/
import Netmuxd.Daemon.Hotplug
import Netmuxd.Usb.OpenMux

namespace Netmuxd.Nusb

open Lib Opening

/-! ### What is known of the device -/

inductive Speed
  | low
  | full
  | high
  | super
  | superPlus

structure UsbInfo extends DeviceInfo where
  serialNumber : Option String
  productId : UInt16
  speed : Option Speed

def speedToBps : Option Speed → UInt64
  | some .low => 1500000
  | some .full => 12000000
  | some .high => 480000000
  | some .super => 5000000000
  | some .superPlus => 10000000000
  | none => 0

/-- `char::is_whitespace` -/
def isWhitespace (c : Char) : Bool :=
  let v := c.toNat
  (0x9 ≤ v && v ≤ 0xd) || v = 0x20 || v = 0x85 || v = 0xa0 || v = 0x1680 ||
    (0x2000 ≤ v && v ≤ 0x200a) || v = 0x2028 || v = 0x2029 || v = 0x202f || v = 0x205f || v = 0x3000

def isPadding (c : Char) : Bool :=
  c.toNat = 0 || isWhitespace c

/-- `trim_matches` -/
def trimSerial (s : String) : String :=
  String.ofList ((s.toList.dropWhile isPadding).reverse.dropWhile isPadding).reverse

def UsbInfo.meta (info : UsbInfo) : DeviceMeta where
  locationId := deviceLocationId info.toDeviceInfo
  productId := info.productId.toUInt64
  speed := speedToBps info.speed

/-! ### The interface -/

def claimInterfaceRetries : Nat := 5

/-- The loop of `claim_interface_with_retry`, with the retries that are left. -/
def claimWithRetries (interfaceNumber : UInt8) : Nat → Opening (Except NusbError Unit)
  | 0 => detachAndClaimInterface interfaceNumber
  | left + 1 => do
    match ← detachAndClaimInterface interfaceNumber with
    | .ok () => return .ok ()
    | .error e =>
      if e.busy then
        sleep
        claimWithRetries interfaceNumber left
      else return .error e

def claimInterfaceWithRetry (interfaceNumber : UInt8) : Opening (Except NusbError Unit) :=
  claimWithRetries interfaceNumber claimInterfaceRetries

/-- Whether the device is in the configuration of the target. -/
def configure (target : MuxTarget) : Opening Bool := do
  if (← activeConfiguration) = some target.configValue then return true
  else
    match ← setConfiguration target.configValue with
    | .error _ => return false
    | .ok () => return true

/-- Whether there is a reader and a writer. -/
def openEndpoints (target : MuxTarget) : Opening Bool := do
  match ← endpointIn target.epIn with
  | .error _ => return false
  | .ok () =>
    match ← endpointOut target.epOut with
    | .error _ => return false
    | .ok () => return true

/-! ### The device -/

def targetMode : UInt16 := 3

/-- What the mux task and `connect_device` are started with. -/
structure Taken where
  raw : String
  info : DeviceMeta
  target : MuxTarget

def claimTarget (info : UsbInfo) (target : MuxTarget) : Opening (Option Taken) := do
  match ← claimInterfaceWithRetry target.interfaceNumber with
  | .error _ => return none
  | .ok () =>
    unless ← openEndpoints target do return none
    -- a device without a serial is skipped
    return info.serialNumber.map fun serial =>
      { raw := trimSerial serial, info := info.meta, target }

def takeTarget (info : UsbInfo) (target : MuxTarget) : Opening (Option Taken) := do
  unless ← configure target do return none
  claimTarget info target

def handleConnected (info : UsbInfo) : Opening (Option Taken) := do
  match ← openDevice with
  | .error _ => return none
  | .ok device =>
    match findMuxTarget device with
    | some target => takeTarget info target
    | none =>
      let _ ← setMode targetMode
      return none

end Netmuxd.Nusb
