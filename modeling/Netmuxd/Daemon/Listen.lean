/-
Relaying the upstream muxer's devices, `run_listen` and `upstream_listen_pump` of
`src/main.rs`.

In shim mode a client that listens is also told what the upstream muxer says of its own
devices.  A task, the pump, asks upstream to listen and passes every frame of the answer
on, and `run_listen` writes it to the client.  When the stream drops the pump sleeps and
asks again.  How long it sleeps is left out, and so are the manager's own events, which
are about other ids.

Of upstream all that is assumed is how it answers a Listen: with a Result, then with an
Attached for each device that is present, then with each later event in order.
-/
import Netmuxd.Daemon.Manager
import Netmuxd.Lib.Mirror

namespace Netmuxd

open Lib

inductive UpstreamFrame
  | result
  | attached (id : UInt64) (p : Dictionary)
  | detached (id : UInt64)

/-- What a frame says to a client that listens. -/
def UpstreamFrame.edit? : UpstreamFrame → Option (Edit UInt64 Dictionary)
  | .attached id p => some (.put id p)
  | .detached id => some (.drop id)
  | .result => none

def edits (frames : List UpstreamFrame) : List (Edit UInt64 Dictionary) :=
  frames.filterMap UpstreamFrame.edit?

/-- Where the pump is. -/
inductive PumpPhase
  /-- It connects, or sleeps before it tries again. -/
  | away
  /-- It has asked to listen and waits for the Result. -/
  | opening
  | relaying
  | over
  deriving DecidableEq

structure Relay where
  /-- The devices upstream has. -/
  present : UInt64 → Option Dictionary := fun _ => none
  phase : PumpPhase := .away
  /-- What upstream has sent on the current stream and the pump has yet to read, once it
  has answered. -/
  stream : Option (List UpstreamFrame) := none
  /-- The channel from the pump to `run_listen`. -/
  channel : List UpstreamFrame := []
  /-- What has been written to the client. -/
  client : List UpstreamFrame := []
  /-- `run_listen` has returned, and its receiver is gone. -/
  ended : Bool := false

inductive RelayStep
  -- upstream
  | attach (id : UInt64) (p : Dictionary)
  | detach (id : UInt64)
  /-- A Listen is answered, in the order in which upstream yields its devices. -/
  | answer (order : List UInt64)
  -- the pump
  /-- Upstream is reached and the Listen is written. -/
  | connect
  | connectFails
  | readResult
  | relay
  /-- A read fails, of the Result or of a frame. -/
  | drop
  -- `run_listen`
  | forward
  | finish
  /-- The guard aborts the pump. -/
  | abort

/-- What upstream says on a stream that it has answered on. -/
def Relay.say (s : Relay) (frame : UpstreamFrame) : Option (List UpstreamFrame) :=
  s.stream.map fun frames => frames ++ [frame]

def Relay.next (s : Relay) : RelayStep → Option Relay
  | .attach id p =>
    match s.present id with
    | none =>
      some
        { s with
          present := Function.update s.present id (some p)
          stream := s.say (.attached id p) }
    | some _ => none
  | .detach id =>
    match s.present id with
    | some _ =>
      some
        { s with
          present := Function.update s.present id none
          stream := s.say (.detached id) }
    | none => none
  | .answer order =>
    match s.phase, s.stream with
    | .opening, none =>
      let devices := order.filterMap fun id => (s.present id).map (.attached id)
      some { s with stream := some (.result :: devices) }
    | _, _ => none
  | .connect =>
    match s.phase with
    | .away => some { s with phase := .opening, stream := none }
    | _ => none
  | .connectFails =>
    match s.phase with
    | .away => some s
    | _ => none
  | .readResult =>
    match s.phase, s.stream with
    | .opening, some (_ :: rest) => some { s with phase := .relaying, stream := some rest }
    | _, _ => none
  | .relay =>
    match s.phase, s.stream with
    | .relaying, some (frame :: rest) =>
      -- stop for good once the client's Listen session has ended
      if s.ended then some { s with phase := .over, stream := none }
      else some { s with stream := some rest, channel := s.channel ++ [frame] }
    | _, _ => none
  | .drop =>
    match s.phase with
    | .opening | .relaying => some { s with phase := .away, stream := none }
    | _ => none
  | .forward =>
    match s.ended, s.channel with
    | false, frame :: rest =>
      some { s with channel := rest, client := s.client ++ [frame] }
    | _, _ => none
  | .finish => some { s with ended := true }
  | .abort => if s.ended then some { s with phase := .over, stream := none } else none

/-- What upstream's own map guarantees about the order it yields its devices in. -/
def RelayStep.Valid (s : Relay) : RelayStep → Prop
  | .answer order => order.Nodup ∧ ∀ id, id ∈ order ↔ (s.present id).isSome = true
  | _ => True

def Relay.Step (s : Relay) (a : RelayStep) (s' : Relay) : Prop :=
  s.next a = some s' ∧ a.Valid s

end Netmuxd
