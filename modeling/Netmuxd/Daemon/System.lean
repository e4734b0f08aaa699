/-
The manager among those who talk to it.

Requests reach the manager through one unbounded queue, in the order they were sent.
mDNS, hotplug and clients may submit whatever they like at any time.  Modelled step by
step are those whose later requests depend on earlier ones: the heartbeat tasks of
`src/heartbeat.rs`, which the manager spawns and which report back to it, the clients
that look a device up before they open a tunnel to it, and the listeners, whose
receivers can go away.

Heartbeat tasks are numbered in the order they are spawned, so what they were given is
read off the manager's log; listeners and tunnel clients are numbered too.
-/
import Netmuxd.Daemon.Manager

namespace Netmuxd

/-- Where a heartbeat task is. -/
inductive Stage
  /-- It connects, pairs a session and starts the service. -/
  | connecting
  /-- It has asked for its device to be added, and answers the device's heartbeats. -/
  | beating
  | over
  deriving DecidableEq

/-- A request on the manager's queue, with the heartbeat task it comes from if it is one. -/
structure Envelope where
  request : ManagerRequest
  session : Option Nat := none

structure Daemon where
  mgr : Manager
  queue : List Envelope := []
  stage : Nat → Stage := fun _ => .connecting
  /-- How many listeners have been made. -/
  subscribers : Nat := 0
  /-- The listeners whose receiver is gone. -/
  dropped : Nat → Bool := fun _ => false
  /-- The ids that clients have looked up, one client for each. -/
  dials : List UInt64 := []
  /-- The clients that have opened their tunnel. -/
  opened : Nat → Bool := fun _ => false

def Daemon.start (cfg : Config) : Daemon :=
  { mgr := Manager.start cfg }

/-! ### Reading the log -/

def Output.heartbeat? : Output → Option (MuxerDevice × Option Nat)
  | .heartbeat device response => some (device, response)
  | _ => none

/-- What the heartbeat tasks were given, in the order they were spawned. -/
def heartbeats (out : List Output) : List (MuxerDevice × Option Nat) :=
  out.filterMap Output.heartbeat?

def Daemon.session (d : Daemon) (k : Nat) : Option (MuxerDevice × Option Nat) :=
  (heartbeats d.mgr.out)[k]?

def Output.connection? (client : Nat) : Output → Option DeviceConnection
  | .connection caller (some lookup) => if caller = client then some lookup else none
  | _ => none

/-- The device a client has found. -/
def found (client : Nat) (out : List Output) : Option DeviceConnection :=
  out.findSome? (Output.connection? client)

/-! ### What can happen -/

inductive Happening
  /-- A request from mDNS, hotplug or a client. -/
  | submit (request : ManagerRequest)
  /-- A client starts to listen. -/
  | listen
  /-- A listener's receiver is dropped. -/
  | leave (listener : Nat)
  /-- A client looks a device up. -/
  | dial (id : UInt64)
  /-- A client that has connected to its device registers the tunnel. -/
  | tunnel (client : Nat)
  /-- A heartbeat task is up. -/
  | beats (k : Nat)
  /-- A heartbeat task does not get that far. -/
  | givesUp (k : Nat)
  /-- A heartbeat fails. -/
  | fails (k : Nat)
  /-- The manager serves the next request. -/
  | serve (order : List UInt64) (paired : String → Bool)

/-- The requests nobody needs anything for. -/
def ManagerRequestType.unconditional : ManagerRequestType → Bool
  | .discoveredNetworkDevice .. | .discoveredUsbDevice .. | .removeDevice .. | .listDevices => true
  | _ => false

def Daemon.send (d : Daemon) (e : Envelope) : Daemon :=
  { d with queue := d.queue ++ [e] }

def Daemon.surroundings (d : Daemon) (order : List UInt64) (paired : String → Bool) :
    Surroundings :=
  { order, alive := fun l => !d.dropped l, paired }

def Daemon.next (cfg : Config) (d : Daemon) : Happening → Option Daemon
  | .submit request =>
    if request.requestType.unconditional then some (d.send { request }) else none
  | .listen =>
    some
      { d.send { request := { requestType := .subscribe d.subscribers } } with
        subscribers := d.subscribers + 1 }
  | .leave listener =>
    some { d with dropped := Function.update d.dropped listener true }
  | .dial id =>
    some
      { d.send { request := { requestType := .getDeviceConnection id d.dials.length } } with
        dials := d.dials ++ [id] }
  | .tunnel client =>
    match d.dials[client]?, found client d.mgr.out, d.opened client with
    | some id, some _, false =>
      some
        { d.send { request := { requestType := .openSocket id client } } with
          opened := Function.update d.opened client true }
    | _, _, _ => none
  | .beats k =>
    match d.session k, d.stage k with
    | some (device, response), .connecting =>
      some
        { d.send { request := { requestType := .deferredMuxerAdd device response }
                   session := some k } with
          stage := Function.update d.stage k .beating }
    | _, _ => none
  | .givesUp k =>
    match d.session k, d.stage k with
    | some (_, response), .connecting =>
      some
        { d with
          mgr := respond d.mgr response (resultPlist 0)
          stage := Function.update d.stage k .over }
    | _, _ => none
  | .fails k =>
    match d.session k, d.stage k with
    | some (device, _), .beating =>
      some
        { d.send { request := { requestType := .heartbeatFailed device.serialNumber }
                   session := some k } with
          stage := Function.update d.stage k .over }
    | _, _ => none
  | .serve order paired =>
    match d.queue with
    | [] => none
    | e :: rest =>
      (d.mgr.handle cfg (d.surroundings order paired) e.request).map fun mgr =>
        { d with mgr, queue := rest }

/-- What the map guarantees about the order it yields its keys in. -/
def Happening.Valid (d : Daemon) : Happening → Prop
  | .serve order _ => OrderOf d.mgr.devices order
  | _ => True

def Daemon.Step (cfg : Config) (d : Daemon) (a : Happening) (d' : Daemon) : Prop :=
  d.next cfg a = some d' ∧ a.Valid d

end Netmuxd
