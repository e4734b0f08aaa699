/-
USB hotplug, `src/daemon/mod.rs` and `src/daemon/nusb_backend.rs`.

Four parties keep the manager informed of what is plugged in: the hotplug loop, and for
each connection a mux task whose exit is watched, and possibly a task that pairs with the
device.  They share the map `known`, behind a lock, and send the manager requests that go
by UDID.  A step is what a party does between two awaits, so that another may come in
between looking at `known` and sending.

Connections are numbered in the order in which the devices are plugged in, and each has a
key of its own, its number; so has its mux handle.  Disappearing from a scan, in the
backends that poll, is the same as a disconnect event here.
-/
import Netmuxd.Daemon.Manager
import Netmuxd.Lib.Mirror

namespace Netmuxd

/-! ### UDIDs -/

def isAsciiHexdigit (c : Char) : Bool :=
  c.isDigit || ('a' ≤ c && c ≤ 'f') || ('A' ≤ c && c ≤ 'F')

/-- A raw serial of 24 hexadecimal digits is written with a dash. -/
def synthesizeUdid (raw : String) : String :=
  if raw.utf8ByteSize = 24 && raw.all isAsciiHexdigit then
    String.ofList (raw.toList.take 8) ++ "-" ++ String.ofList (raw.toList.drop 8)
  else raw

/-- The UDIDs `resolve_paired_udid` tries. -/
def pairedCandidates (raw : String) : List String :=
  if raw.utf8ByteSize = 24 && raw.all isAsciiHexdigit then [raw, synthesizeUdid raw] else [raw]

/-! ### Connections -/

/-- Where the task that pairs with the device is. -/
inductive Pairing
  /-- It is not needed, or has not been started yet. -/
  | idle
  /-- It waits for the user to trust this host. -/
  | asking
  /-- It has seen to `known` and is about to register the device under this UDID. -/
  | registering (udid : String)
  | registered
  /-- It has told the mux task to shut down. -/
  | failed

/-- Where the task that watches the mux task is. -/
inductive Watcher
  | unborn
  | waiting
  /-- It has taken this UDID out of `known` and is about to send the removal. -/
  | removing (udid : String)
  | over

/-- What the hotplug loop has made of a connection. -/
inductive Attention
  /-- It has yet to take its connect event. -/
  | due
  /-- It has, and may or may not have made something of it. -/
  | taken
  /-- It has taken its disconnect event. -/
  | left
  deriving DecidableEq

/-- The bits of `ListDevices` info a backend has on hand at connect time. -/
structure DeviceMeta where
  locationId : UInt64
  productId : UInt64
  speed : UInt64

structure Plug where
  raw : String
  info : DeviceMeta
  connected : Bool := true
  notice : Attention := .due
  mux : Bool := false
  pairing : Pairing := .idle
  watcher : Watcher := .unborn

/-! ### The system -/

/-- Where the hotplug loop is. -/
inductive LoopAt
  /-- It waits for an event. -/
  | idle
  /-- `handle_connected`: the mux task is running. -/
  | connecting (k : Nat)
  /-- `connect_device` has returned this UDID. -/
  | recording (k : Nat) (udid : String)
  /-- It has taken this UDID out of `known` and is about to send the removal. -/
  | removing (k : Nat) (udid : String)

/-- A request to the manager, sent on behalf of connection `k`. -/
inductive UsbMessage
  | discovered (k : Nat) (udid : String) (info : DeviceMeta)
  | removed (k : Nat) (udid : String)

def UsbMessage.request : UsbMessage → ManagerRequest
  | .discovered k udid info =>
    { requestType := .discoveredUsbDevice udid info.locationId info.productId info.speed k }
  | .removed _ udid => { requestType := .removeDevice udid (some "USB") }

structure Hotplug where
  mgr : Manager
  /-- What the manager has been served of what was sent to it. -/
  served : List UsbMessage := []
  queue : List UsbMessage := []
  known : Nat → Option String := fun _ => none
  loop : LoopAt := .idle
  count : Nat := 0
  plug : Nat → Plug := fun _ => { raw := "", info := ⟨0, 0, 0⟩, notice := .left }

def Hotplug.start (cfg : Config) : Hotplug :=
  { mgr := Manager.start cfg }

def Hotplug.send (s : Hotplug) (message : UsbMessage) : Hotplug :=
  { s with queue := s.queue ++ [message] }

def Hotplug.set (s : Hotplug) (k : Nat) (p : Plug) : Hotplug :=
  { s with plug := Function.update s.plug k p }

def Hotplug.learn (s : Hotplug) (k : Nat) (udid : Option String) : Hotplug :=
  { s with known := Function.update s.known k udid }

inductive HotplugStep
  /-- A device is plugged in. -/
  | plug (raw : String) (info : DeviceMeta)
  | unplug (k : Nat)
  /-- The loop takes a connect event and gets as far as spawning the mux task. -/
  | take (k : Nat)
  /-- The loop takes a connect event and nothing comes of it. -/
  | skip (k : Nat)
  /-- `connect_device` finds a pairing record and registers the device. -/
  | paired (udid : String)
  /-- `connect_device` starts the pair flow. -/
  | unpaired
  /-- The loop records the connection and has its mux task watched. -/
  | record
  /-- The loop takes a disconnect event. -/
  | drop (k : Nat)
  /-- The loop sends the removal. -/
  | sendRemove
  /-- The mux task exits. -/
  | exits (k : Nat)
  /-- The exit is noticed. -/
  | watch (k : Nat)
  /-- The watcher sends the removal. -/
  | watchSend (k : Nat)
  /-- The device is paired, and it has told its canonical UDID. -/
  | pairs (k : Nat) (udid : String)
  /-- The pairing task registers the device. -/
  | pairSend (k : Nat)
  | pairFails (k : Nat)
  /-- The manager serves the next request. -/
  | serve (order : List UInt64)

def Hotplug.surroundings (order : List UInt64) : Surroundings :=
  { order, alive := fun _ => true, paired := fun _ => true }

def Hotplug.next (cfg : Config) (s : Hotplug) : HotplugStep → Option Hotplug
  | .plug raw info =>
    some { s.set s.count { raw, info } with count := s.count + 1 }
  | .unplug k =>
    if k < s.count then some (s.set k { s.plug k with connected := false }) else none
  | .take k =>
    match s.loop, (s.plug k).notice with
    | .idle, .due =>
      some { s.set k { s.plug k with notice := .taken, mux := true } with loop := .connecting k }
    | _, _ => none
  | .skip k =>
    match s.loop, (s.plug k).notice with
    | .idle, .due => some (s.set k { s.plug k with notice := .taken })
    | _, _ => none
  | .paired udid =>
    match s.loop with
    | .connecting k =>
      if udid ∈ pairedCandidates (s.plug k).raw then
        some { s.send (.discovered k udid (s.plug k).info) with loop := .recording k udid }
      else none
    | _ => none
  | .unpaired =>
    match s.loop with
    | .connecting k =>
      some { s.set k { s.plug k with pairing := .asking } with
        loop := .recording k (s.plug k).raw }
    | _ => none
  | .record =>
    match s.loop with
    | .recording k udid =>
      some { (s.learn k (some udid)).set k { s.plug k with watcher := .waiting } with
        loop := .idle }
    | _ => none
  | .drop k =>
    match s.loop, (s.plug k).notice, (s.plug k).connected with
    | .idle, .taken, false =>
      some { (s.learn k none).set k { s.plug k with notice := .left } with
        loop := match s.known k with
          | some udid => .removing k udid
          | none => .idle }
    | _, _, _ => none
  | .sendRemove =>
    match s.loop with
    | .removing k udid => some { s.send (.removed k udid) with loop := .idle }
    | _ => none
  | .exits k =>
    if (s.plug k).mux then some (s.set k { s.plug k with mux := false }) else none
  | .watch k =>
    match (s.plug k).watcher, (s.plug k).mux with
    | .waiting, false =>
      some ((s.learn k none).set k
        { s.plug k with
          watcher := match s.known k with
            | some udid => .removing udid
            | none => .over })
    | _, _ => none
  | .watchSend k =>
    match (s.plug k).watcher with
    | .removing udid =>
      some ((s.send (.removed k udid)).set k { s.plug k with watcher := .over })
    | _ => none
  | .pairs k udid =>
    match (s.plug k).pairing with
    | .asking =>
      some ((s.learn k ((s.known k).map fun _ => udid)).set k
        { s.plug k with pairing := .registering udid })
    | _ => none
  | .pairSend k =>
    match (s.plug k).pairing with
    | .registering udid =>
      some ((s.send (.discovered k udid (s.plug k).info)).set k
        { s.plug k with pairing := .registered })
    | _ => none
  | .pairFails k =>
    match (s.plug k).pairing with
    | .asking => some (s.set k { s.plug k with pairing := .failed })
    | _ => none
  | .serve order =>
    match s.queue with
    | [] => none
    | message :: rest =>
      (s.mgr.handle cfg (Hotplug.surroundings order) message.request).map fun mgr =>
        { s with mgr, served := s.served ++ [message], queue := rest }

/-- What the map guarantees about the order it yields its keys in. -/
def HotplugStep.Valid (s : Hotplug) : HotplugStep → Prop
  | .serve order => OrderOf s.mgr.devices order
  | _ => True

def Hotplug.Step (cfg : Config) (s : Hotplug) (a : HotplugStep) (s' : Hotplug) : Prop :=
  s.next cfg a = some s' ∧ a.Valid s

end Netmuxd
