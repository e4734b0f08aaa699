/-
The backends that poll, `run` of `src/daemon/libusbk_backend.rs` and of
`src/daemon/apple_mux_backend.rs`.

Neither driver tells of devices that come and go.  So the loop asks every now and then what
is there, connects to what it does not know, and takes leave of what it knows and no longer
sees.  The two loops are the same but for what names a device: a key of the operating
system's, that may come back with another device.

A connection that got as far as a mux task is a session.  Sessions are numbered in the order
of their mux tasks, and so are the mux handles.  As in `Netmuxd.Daemon.Hotplug` a step is
what a party does between two awaits, and what a scan finds and what opening a device comes
to are up to the surroundings.
-/
import Netmuxd.Daemon.Hotplug

namespace Netmuxd

/-! ### The loop -/

/-- A scan that is being worked off. -/
structure Rescan where
  /-- The keys of what the scan has found. -/
  current : List String
  /-- The keys in `known` when the scan was taken up. -/
  active : String → Bool

/-- Where the loop is. -/
inductive PollingAt
  /-- It sleeps, or waits for a scan. -/
  | between
  /-- It waits for `known`, with what a scan has found. -/
  | found (paths : List String)
  /-- It goes through what is left of that. -/
  | visiting (scan : Rescan) (rest : List String)
  /-- `handle_connected`: the mux task is running. -/
  | connecting (scan : Rescan) (rest : List String) (j : Nat)
  /-- `connect_device` has returned this UDID. -/
  | recording (scan : Rescan) (rest : List String) (j : Nat) (udid : String)
  /-- It goes through what is left of the keys that have disappeared. -/
  | sweeping (scan : Rescan) (stale : List String)
  /-- It has taken this UDID out of `known` and is about to send the removal. -/
  | removing (scan : Rescan) (stale : List String) (udid : String)

/-! ### The system -/

structure MuxSession where
  key : String
  raw : String
  info : DeviceMeta
  mux : Bool := true
  pairing : Pairing := .idle
  watcher : Watcher := .unborn

structure Polling where
  mgr : Manager
  served : List ManagerRequest := []
  queue : List ManagerRequest := []
  known : String → Option String := fun _ => none
  loop : PollingAt := .between
  count : Nat := 0
  session : Nat → MuxSession := fun _ => { key := "", raw := "", info := ⟨0, 0, 0⟩, mux := false }

def Polling.start (cfg : Config) : Polling :=
  { mgr := Manager.start cfg }

def Polling.send (s : Polling) (request : ManagerRequest) : Polling :=
  { s with queue := s.queue ++ [request] }

def Polling.set (s : Polling) (j : Nat) (p : MuxSession) : Polling :=
  { s with session := Function.update s.session j p }

def Polling.learn (s : Polling) (key : String) (udid : Option String) : Polling :=
  { s with known := Function.update s.known key udid }

/-- `register_with_manager`. -/
def MuxSession.register (p : MuxSession) (j : Nat) (udid : String) : ManagerRequest :=
  { requestType :=
      .discoveredUsbDevice udid p.info.locationId p.info.productId p.info.speed j }

/-- `send_remove`. -/
def removeRequest (udid : String) : ManagerRequest :=
  { requestType := .removeDevice udid (some "USB") }

inductive PollingStep
  -- the loop
  | scanned (paths : List String)
  | scanFails
  /-- The keys of `known` are copied. -/
  | compare
  /-- A device is passed over that was known. -/
  | pass
  /-- A device cannot be opened, has no mux interface or no serial. -/
  | openFails
  | opened (raw : String) (info : DeviceMeta)
  /-- `connect_device` finds a pairing record and registers the device. -/
  | paired (udid : String)
  /-- `connect_device` starts the pair flow. -/
  | unpaired
  | record
  /-- Everything found has been gone through, and the keys that have disappeared come in
  this order. -/
  | sweep (stale : List String)
  | take
  | sendRemove
  | rest
  -- the tasks
  | exits (j : Nat)
  | watch (j : Nat)
  | watchSend (j : Nat)
  | pairs (j : Nat) (udid : String)
  | pairSend (j : Nat)
  | pairFails (j : Nat)
  -- the manager
  | serve (order : List UInt64)

def Polling.next (cfg : Config) (s : Polling) : PollingStep → Option Polling
  | .scanned paths =>
    match s.loop with
    | .between => some { s with loop := .found paths }
    | _ => none
  | .scanFails =>
    match s.loop with
    | .between => some s
    | _ => none
  | .compare =>
    match s.loop with
    | .found paths =>
      let scan := { current := paths, active := fun key => (s.known key).isSome }
      some { s with loop := .visiting scan paths }
    | _ => none
  | .pass =>
    match s.loop with
    | .visiting scan (key :: rest) =>
      if scan.active key then some { s with loop := .visiting scan rest } else none
    | _ => none
  | .openFails =>
    match s.loop with
    | .visiting scan (key :: rest) =>
      if scan.active key then none else some { s with loop := .visiting scan rest }
    | _ => none
  | .opened raw info =>
    match s.loop with
    | .visiting scan (key :: rest) =>
      if scan.active key then none
      else
        some
          { s.set s.count { key, raw, info } with
            count := s.count + 1
            loop := .connecting scan rest s.count }
    | _ => none
  | .paired udid =>
    match s.loop with
    | .connecting scan rest j =>
      if udid ∈ pairedCandidates (s.session j).raw then
        some
          { s.send ((s.session j).register j udid) with loop := .recording scan rest j udid }
      else none
    | _ => none
  | .unpaired =>
    match s.loop with
    | .connecting scan rest j =>
      some { s.set j { s.session j with pairing := .asking } with
        loop := .recording scan rest j (s.session j).raw }
    | _ => none
  | .record =>
    match s.loop with
    | .recording scan rest j udid =>
      some { (s.learn (s.session j).key (some udid)).set j
          { s.session j with watcher := .waiting } with
        loop := .visiting scan rest }
    | _ => none
  | .sweep stale =>
    match s.loop with
    | .visiting scan [] => some { s with loop := .sweeping scan stale }
    | _ => none
  | .take =>
    match s.loop with
    | .sweeping scan (key :: stale) =>
      some { s.learn key none with
        loop := match s.known key with
          | some udid => .removing scan stale udid
          | none => .sweeping scan stale }
    | _ => none
  | .sendRemove =>
    match s.loop with
    | .removing scan stale udid =>
      some { s.send (removeRequest udid) with loop := .sweeping scan stale }
    | _ => none
  | .rest =>
    match s.loop with
    | .sweeping _ [] => some { s with loop := .between }
    | _ => none
  | .exits j =>
    if (s.session j).mux then some (s.set j { s.session j with mux := false }) else none
  | .watch j =>
    match (s.session j).watcher, (s.session j).mux with
    | .waiting, false =>
      some ((s.learn (s.session j).key none).set j
        { s.session j with
          watcher := match s.known (s.session j).key with
            | some udid => .removing udid
            | none => .over })
    | _, _ => none
  | .watchSend j =>
    match (s.session j).watcher with
    | .removing udid =>
      some ((s.send (removeRequest udid)).set j { s.session j with watcher := .over })
    | _ => none
  | .pairs j udid =>
    match (s.session j).pairing with
    | .asking =>
      let key := (s.session j).key
      some ((s.learn key ((s.known key).map fun _ => udid)).set j
        { s.session j with pairing := .registering udid })
    | _ => none
  | .pairSend j =>
    match (s.session j).pairing with
    | .registering udid =>
      some ((s.send ((s.session j).register j udid)).set j
        { s.session j with pairing := .registered })
    | _ => none
  | .pairFails j =>
    match (s.session j).pairing with
    | .asking => some (s.set j { s.session j with pairing := .failed })
    | _ => none
  | .serve order =>
    match s.queue with
    | [] => none
    | request :: rest =>
      (s.mgr.handle cfg (Hotplug.surroundings order) request).map fun mgr =>
        { s with mgr, served := s.served ++ [request], queue := rest }

/-- What a set guarantees about the order it yields its difference to another in, and a map
about that of its keys. -/
def PollingStep.Valid (s : Polling) : PollingStep → Prop
  | .sweep stale => stale.Nodup ∧ ∀ scan, s.loop = .visiting scan [] →
      ∀ key, key ∈ stale ↔ scan.active key = true ∧ key ∉ scan.current
  | .serve order => OrderOf s.mgr.devices order
  | _ => True

def Polling.Step (cfg : Config) (s : Polling) (a : PollingStep) (s' : Polling) : Prop :=
  s.next cfg a = some s' ∧ a.Valid s

end Netmuxd
