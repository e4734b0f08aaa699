/-
The heartbeat tasks, `src/heartbeat.rs`.

A heartbeat task connects to a device's lockdown service, starts the heartbeat service and
connects to that.  Then it asks the manager to add the device, and answers the device's
heartbeats until one fails or the manager is gone.  The set-up and a turn of the loop are
programs; what the device says is an answer to a call.

`interval + 5` wraps as in a release build.
-/
import Netmuxd.Daemon.System
import Netmuxd.Lib.Served

namespace Netmuxd

open Lib

/-! ### Calls -/

inductive BeatCall
  | connect (addr : IpAddr) (port : UInt16)
  /-- A session with the lockdown service, with the pairing record. -/
  | startSession
  | startService (name : String)
  /-- The way to the heartbeat service is wrapped in TLS, with the pairing record. -/
  | wrap
  /-- The device's next heartbeat, awaited for so many seconds. -/
  | getMarco (seconds : UInt64)
  | sendPolo
  /-- `sender.is_disconnected()`. -/
  | isDisconnected
  -- what others notice
  | send (request : ManagerRequestType)
  | respond (caller : Nat) (p : Dictionary)

@[reducible] def BeatCall.Answer : BeatCall → Type
  | .connect _ _ | .startSession | .wrap | .sendPolo | .isDisconnected => Bool
  | .startService _ => Option UInt16
  | .getMarco _ => Option UInt64
  | .send _ | .respond _ _ => Unit

abbrev Heartbeat := Talk BeatCall.Answer

namespace Heartbeat

open Talk

abbrev connectTo (addr : IpAddr) (port : UInt16) : Heartbeat Bool :=
  perform (BeatCall.connect addr port)
abbrev startSession : Heartbeat Bool := perform BeatCall.startSession
abbrev startService (name : String) : Heartbeat (Option UInt16) :=
  perform (BeatCall.startService name)
abbrev wrap : Heartbeat Bool := perform BeatCall.wrap
abbrev getMarco (seconds : UInt64) : Heartbeat (Option UInt64) :=
  perform (BeatCall.getMarco seconds)
abbrev sendPolo : Heartbeat Bool := perform BeatCall.sendPolo
abbrev isDisconnected : Heartbeat Bool := perform BeatCall.isDisconnected
abbrev send (request : ManagerRequestType) : Heartbeat Unit := perform (BeatCall.send request)
abbrev answer (caller : Nat) (p : Dictionary) : Heartbeat Unit :=
  perform (BeatCall.respond caller p)

end Heartbeat

open Heartbeat

/-! ### The programs -/

/-- The caller is told, if there is one, and the task is over. -/
def giveUp (response : Option Nat) : Heartbeat (Option UInt64) := do
  match response with
  | some caller =>
    answer caller (resultPlist 0)
    return none
  | none => return none

section
variable (lockdowndPort : UInt16) (device : MuxerDevice) (response : Option Nat)

/-- The interval the loop starts with, if it gets that far.  A device without an address makes
the task panic. -/
def startHeartbeat : Heartbeat (Option UInt64) := do
  let some addr := device.networkAddress | return none
  unless ← connectTo addr lockdowndPort do return ← giveUp response
  unless ← startSession do return ← giveUp response
  let some port ← startService "com.apple.mobile.heartbeat" | giveUp response
  unless ← connectTo addr port do return ← giveUp response
  unless ← wrap do return ← giveUp response
  send (.deferredMuxerAdd device response)
  return some 10

/-- The device's failure is reported, and the task is over. -/
def reportFailure : Heartbeat (Option UInt64) := do
  send (.heartbeatFailed device.serialNumber)
  return none

/-- A turn of the loop, and the interval for the next. -/
def beatTurn (interval : UInt64) : Heartbeat (Option UInt64) := do
  match ← getMarco (interval + 5) with
  | none => reportFailure device
  | some interval =>
    if ← sendPolo then
      if ← isDisconnected then return none else return some interval
    else reportFailure device

/-- The whole task, with so many turns of its loop. -/
def heartbeat (n : Nat) : Heartbeat (Option UInt64) := do
  match ← startHeartbeat lockdowndPort device response with
  | some interval => Talk.turns (beatTurn device) n interval
  | none => return none

end

/-! ### Among the others -/

/-- The daemon with the programs of its heartbeat tasks.  The stages of the tasks are not used. -/
structure Heartbeats where
  daemon : Daemon
  /-- What is left of a task's set-up or turn, once it has made a call. -/
  task : Nat → Option (Heartbeat (Option UInt64)) := fun _ => none

def Heartbeats.start (cfg : Config) : Heartbeats :=
  { daemon := .start cfg }

/-- Steps that are made by the programs here. -/
def Happening.ofHeartbeats : Happening → Bool
  | .beats _ | .givesUp _ | .fails _ => true
  | _ => false

inductive BeatStep
  | other (a : Happening)
  /-- A task makes its next call, which is answered so. -/
  | call (k : Nat) (answer : (c : BeatCall) → c.Answer)
  /-- A task begins the loop's next turn. -/
  | turn (k : Nat)

/-- What is left to do for a task that has been spawned. -/
def Heartbeats.rest (lockdowndPort : UInt16) (s : Heartbeats) (k : Nat) :
    Option (MuxerDevice × Heartbeat (Option UInt64)) :=
  (s.daemon.session k).map fun x =>
    (x.1, (s.task k).getD (startHeartbeat lockdowndPort x.1 x.2))

/-- What a call does to what the parties share. -/
def BeatCall.effect (k : Nat) (d : Daemon) : BeatCall → Daemon
  | .send request => d.send { request := { requestType := request }, session := some k }
  | .respond caller p => { d with mgr := Netmuxd.respond d.mgr (some caller) p }
  | _ => d

def Heartbeats.next (lockdowndPort : UInt16) (cfg : Config) (s : Heartbeats) :
    BeatStep → Option Heartbeats
  | .other a =>
    if a.ofHeartbeats then none
    else (s.daemon.next cfg a).map fun daemon => { s with daemon }
  | .call k answer =>
    match s.rest lockdowndPort k with
    | some (_, .call c next) =>
      some
        { daemon := c.effect k s.daemon
          task := Function.update s.task k (some (next (answer c))) }
    | _ => none
  | .turn k =>
    match s.rest lockdowndPort k with
    | some (device, .done (some interval)) =>
      some { s with task := Function.update s.task k (some (beatTurn device interval)) }
    | _ => none

def BeatStep.Valid (s : Heartbeats) : BeatStep → Prop
  | .other a => a.Valid s.daemon
  | _ => True

def Heartbeats.Step (lockdowndPort : UInt16) (cfg : Config) (s : Heartbeats) (a : BeatStep)
    (s' : Heartbeats) : Prop :=
  s.next lockdowndPort cfg a = some s' ∧ a.Valid s

end Netmuxd
