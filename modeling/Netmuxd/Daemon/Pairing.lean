/-
Connecting to a device, `src/daemon/mod.rs`.

`connect_device` looks for a pairing record under the forms of the device's serial and tries
it out on the device.  Then it registers the device, or spawns a task that pairs with it and
registers it afterwards.  What the lockdown service on the device answers is an answer to a
call, as is what becomes of the files and of the way to the device.
-/
import Netmuxd.Daemon.Hotplug
import Netmuxd.Daemon.PairingFile
import Netmuxd.Lib.Served

namespace Netmuxd

open Lib

/-- What is used of the crate idevice beyond what serves clients. -/
structure Lockdown (PairingFile : Type) extends Idevice PairingFile where
  /-- `pairing_file.udid = Some(udid)`. -/
  setUdid : PairingFile → String → PairingFile
  lockdowndPort : UInt16

/-- The type of a device that runs its lockdown service. -/
def lockdownType : String := "com.apple.mobile.lockdown"

def Value.asString : Value → Option String
  | .string s => some s
  | _ => none

/-! ### Calls -/

/-- What comes of `start_session`. -/
inductive StartSession
  | started
  /-- `IdeviceError::InvalidHostID`. -/
  | invalidHostId
  /-- `IdeviceError::Rustls`. -/
  | rustls
  | failed
  deriving DecidableEq

inductive PairCall (PairingFile : Type)
  -- the file system, and the way to the device
  | client (c : ClientCall)
  -- the device's lockdown service
  | getType
  | getValue (key : String)
  | pair (hostId systemBuid : String)
  | startSession (pairingFile : PairingFile)
  -- the other parties
  | send (message : UsbMessage)
  /-- The connection's entry in `known` gets this UDID if it is still there. -/
  | rename (udid : String)
  /-- The mux task is told to shut down. -/
  | shutdown

variable {PairingFile : Type}

@[reducible] def PairCall.Answer : PairCall PairingFile → Type
  | .client c => c.Answer
  | .getType => Option String
  | .getValue _ => Option Value
  | .pair _ _ => Option PairingFile
  | .startSession _ => StartSession
  | .send _ | .rename _ | .shutdown => Unit

abbrev PairTask (PairingFile : Type) := Talk (@PairCall.Answer PairingFile)

namespace PairTask

open Talk

def fileCalls : Embedding ClientCall.Answer (@PairCall.Answer PairingFile) where
  call := .client
  answer _ := Equiv.refl _

@[simp] theorem fileCalls_exchange (e : Exchange ClientCall.Answer) :
    fileCalls.exchange e =
      (⟨.client e.1, e.2⟩ : Exchange (@PairCall.Answer PairingFile)) :=
  rfl

abbrev client {α : Type} (m : Client α) : PairTask PairingFile α := m.lift fileCalls
abbrev getType : PairTask PairingFile (Option String) := perform PairCall.getType
abbrev getValue (key : String) : PairTask PairingFile (Option Value) :=
  perform (PairCall.getValue key)
abbrev pair (hostId systemBuid : String) : PairTask PairingFile (Option PairingFile) :=
  perform (PairCall.pair hostId systemBuid)
abbrev startSession (pairingFile : PairingFile) : PairTask PairingFile StartSession :=
  perform (PairCall.startSession pairingFile)
abbrev send (message : UsbMessage) : PairTask PairingFile Unit := perform (PairCall.send message)
abbrev rename (udid : String) : PairTask PairingFile Unit := perform (PairCall.rename udid)
abbrev shutdown : PairTask PairingFile Unit := perform PairCall.shutdown

end PairTask

open PairTask

variable (lockdown : Lockdown PairingFile) (finder : PairingFileFinder)

/-! ### The records -/

/-- The first of these UDIDs that has a record. -/
def PairingFileFinder.firstPaired : List String → Client (Option String)
  | [] => return none
  | udid :: rest => do
    match ← finder.getPairingRecord lockdown.toIdevice udid with
    | some _ => return some udid
    | none => firstPaired rest

def resolvePairedUdid (raw : String) : Client (Option String) :=
  finder.firstPaired lockdown (pairedCandidates raw)

/-- The reasons only reach the log. -/
inductive RecordCheck
  | valid
  | stale
  | unknown

def checkPairingRecord (handle : UsbMuxHandle) (udid : String) :
    PairTask PairingFile RecordCheck := do
  let some pairingFile ← client (finder.getPairingRecord lockdown.toIdevice udid)
    | return .unknown
  unless ← client (Client.connectUsb handle lockdown.lockdowndPort) do return .unknown
  match ← getType with
  | none => return .unknown
  | some ty =>
    if ty ≠ lockdownType then return .unknown
    match ← startSession pairingFile with
    | .started => return .valid
    | .invalidHostId => return .stale
    | .rustls => return .stale
    | .failed => return .unknown

/-! ### Pairing -/

/-- The UDID as the device tells it, else the one that its serial makes. -/
def canonicalUdid (raw : String) : PairTask PairingFile (Option String) := do
  match ← getValue "UniqueDeviceID" with
  | some v => return v.asString
  | none => return some (synthesizeUdid raw)

/-- What `pair_via_usb` does once the device is known to be able to pair, or not known not
to be. -/
def pairAndStore (raw : String) : PairTask PairingFile (Option String) := do
  let some udid ← canonicalUdid raw | return none
  let some (hostId, systemBuid) ← client (finder.getHostIdentity lockdown.toIdevice)
    | return none
  let some pairingFile ← pair hostId systemBuid | return none
  let some bytes := lockdown.serialize (lockdown.setUdid pairingFile udid) | return none
  let path := finder.join (udid ++ ".plist")
  client (createParent path)
  unless ← client (Client.writeFile path bytes) do return none
  return some udid

def pairViaUsb (handle : UsbMuxHandle) (raw : String) : PairTask PairingFile (Option String) := do
  unless ← client (Client.connectUsb handle lockdown.lockdowndPort) do return none
  match ← getType with
  | some ty =>
    -- a device in restore mode is exposed as it is
    if ty ≠ lockdownType then return some (synthesizeUdid raw)
    pairAndStore lockdown finder raw
  | none => pairAndStore lockdown finder raw

/-! ### Connecting -/

def registerWithManager (udid : String) (handle : UsbMuxHandle) (info : DeviceMeta) :
    PairTask PairingFile Unit :=
  send (.discovered handle udid info)

/-- The task that `connect_device` spawns. -/
def pairTask (handle : UsbMuxHandle) (raw : String) (info : DeviceMeta) :
    PairTask PairingFile Unit := do
  match ← pairViaUsb lockdown finder handle raw with
  | some udid =>
    rename udid
    registerWithManager udid handle info
  | none => shutdown

/-- The UDID to register the device under at once. -/
def validatedUdid (handle : UsbMuxHandle) (raw : String) :
    PairTask PairingFile (Option String) := do
  match ← client (resolvePairedUdid lockdown finder raw) with
  | none => return none
  | some udid =>
    match ← checkPairingRecord lockdown finder handle udid with
    | .valid => return some udid
    | .stale =>
      let _ ← client (finder.removePairingRecord udid)
      return none
    | .unknown => return some udid

/-- The UDID the connection is recorded under, and the task that is spawned. -/
def connectDevice (handle : UsbMuxHandle) (raw : String) (info : DeviceMeta) :
    PairTask PairingFile (String × Option (PairTask PairingFile Unit)) := do
  match ← validatedUdid lockdown finder handle raw with
  | some udid =>
    registerWithManager udid handle info
    return (udid, none)
  | none => return (raw, some (pairTask lockdown finder handle raw info))

/-! ### All parties -/

/-- Hotplug with the programs in it. -/
structure Programs (PairingFile : Type) where
  hotplug : Hotplug
  /-- What is left of `connect_device` while the loop is in it. -/
  connecting : Option (PairTask PairingFile (String × Option (PairTask PairingFile Unit))) := none
  /-- What is left of the task that pairs with a connection's device. -/
  task : Nat → Option (PairTask PairingFile Unit) := fun _ => none

def Programs.start (cfg : Config) : Programs PairingFile :=
  { hotplug := .start cfg }

/-- Steps that are made by the programs here. -/
def HotplugStep.ofPrograms : HotplugStep → Bool
  | .paired _ | .unpaired | .pairs _ _ | .pairSend _ | .pairFails _ => true
  | _ => false

inductive ProgramStep (PairingFile : Type)
  | other (a : HotplugStep)
  /-- `connect_device` makes its next call, which is answered so. -/
  | call (answer : (c : PairCall PairingFile) → c.Answer)
  | returns
  /-- A pairing task makes its next call. -/
  | taskCall (k : Nat) (answer : (c : PairCall PairingFile) → c.Answer)

/-- What a call does to what the parties share.  A mux task that is told to shut down may exit
as it may at any other time. -/
def PairCall.effect (k : Nat) (s : Hotplug) : PairCall PairingFile → Hotplug
  | .send message => s.send message
  | .rename udid => s.learn k ((s.known k).map fun _ => udid)
  | _ => s

def Programs.next (cfg : Config) (s : Programs PairingFile) :
    ProgramStep PairingFile → Option (Programs PairingFile)
  | .other a =>
    if a.ofPrograms then none
    else (s.hotplug.next cfg a).map fun hotplug =>
      { s with
        hotplug
        connecting := match a with
          | .take k =>
            some (connectDevice lockdown finder k (hotplug.plug k).raw (hotplug.plug k).info)
          | _ => s.connecting }
  | .call answer =>
    match s.hotplug.loop, s.connecting with
    | .connecting k, some (.call c next) =>
      some { s with hotplug := c.effect k s.hotplug, connecting := some (next (answer c)) }
    | _, _ => none
  | .returns =>
    match s.hotplug.loop, s.connecting with
    | .connecting k, some (.done (udid, task)) =>
      some
        { hotplug := { s.hotplug with loop := .recording k udid }
          connecting := none
          task := Function.update s.task k task }
    | _, _ => none
  | .taskCall k answer =>
    match s.task k with
    | some (.call c next) =>
      some
        { s with
          hotplug := c.effect k s.hotplug
          task := Function.update s.task k (some (next (answer c))) }
    | _ => none

def ProgramStep.Valid (s : Programs PairingFile) : ProgramStep PairingFile → Prop
  | .other a => a.Valid s.hotplug
  | _ => True

def Programs.Step (cfg : Config) (s : Programs PairingFile) (a : ProgramStep PairingFile)
    (s' : Programs PairingFile) : Prop :=
  s.next lockdown finder cfg a = some s' ∧ a.Valid s

end Netmuxd
