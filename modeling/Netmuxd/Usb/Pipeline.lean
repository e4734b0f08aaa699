/-
A device's mux from end to end: `run` of `src/usb/mux.rs` between its two pipes.

Three tasks go on at the same time.  The reader task takes frames off the inbound pipe, `run`
itself takes them in order and queues its own, and the writer task takes those off the queue and
writes them.  Before its loop `run` has queued VERSION and waits for the first frame, which
answers it.  The clients and their tasks are part of what `run` has become by then.

The first frame is read by `run` itself and the others by the task it spawns, which is one reader
here; and the channel between the two is not bounded, so the reader may run ahead further than
it does.
-/
import Netmuxd.Lib.Sink
import Netmuxd.Usb.BulkIo
import Netmuxd.Usb.FrameReader
import Netmuxd.Usb.Tasks

namespace Netmuxd

open Lib

/-! ### The task of `run` -/

inductive RunAt
  /-- VERSION is queued, and its answer has not come. -/
  | greeting
  /-- The handshake has failed and `run` has returned. -/
  | refused (e : IoError)
  | looping (s : Sys)

structure RunTask where
  place : RunAt := .greeting
  /-- The frames it has been given. -/
  given : List Bytes := []

inductive RunEvent
  /-- The first frame. -/
  | hello (reply : Bytes)
  | act (a : Action)

/-- The frame that a step takes. -/
def RunEvent.takes : RunEvent → Option Bytes
  | .hello reply => some reply
  | .act (.packet pkt) => some pkt
  | .act _ => none

def RunTask.next (left : Option Nat) (t : RunTask) (e : RunEvent) : Option RunTask :=
  let given := t.given ++ e.takes.toList
  match t.place, e with
  | .greeting, .hello reply =>
    match handshake left reply with
    | .error e => some { place := .refused e, given }
    | .ok link => some { place := .looping (.start link), given }
  | .looping s, .act a => (s.next a).map fun s => { place := .looping s, given }
  | _, _ => none

/-- What the map guarantees, in the loop. -/
def RunEvent.Valid (t : RunTask) (e : RunEvent) : Prop :=
  ∀ s a, t.place = .looping s → e = .act a → ∀ ev, s.event a = some ev → ev.Valid s.mux

def RunTask.Step (left : Option Nat) (t : RunTask) (e : RunEvent) (t' : RunTask) : Prop :=
  t.next left e = some t' ∧ e.Valid t

/-- Its link: before the loop, the one that VERSION has been sent on. -/
def RunTask.link (left : Option Nat) (t : RunTask) : Link :=
  match t.place with
  | .looping s => s.mux.link
  | _ => (sendVersion { writeLeft := left } 2 0).2

/-! ### With what it reads -/

section
variable {σ α : Type} (S : Source σ α UInt8 String)

/-- The reader task, while the answers it gets are as they may be. -/
def ReadStep (u : Reader.ReaderTask σ α) (e : Reader.ReaderEvent α) (u' : Reader.ReaderTask σ α) :
    Prop :=
  Reader.ReaderTask.Step S u e u' ∧
    ∀ answers, e = .poll answers → S.fits u.source u.future.room answers

/-- `run` takes the frames off the reader task. -/
abbrev RunStep (left : Option Nat) : Fed (Reader.ReaderTask σ α) RunTask →
    FedEvent (Reader.ReaderEvent α) RunEvent → Fed (Reader.ReaderTask σ α) RunTask → Prop :=
  Fed.Step (ReadStep S) Reader.ReaderTask.frames (RunTask.Step left) RunTask.given RunEvent.takes

end

/-! ### The pipes of `open_mux` -/

/-- `BulkWriter`, for the task that writes frames. -/
def BulkIo.BulkWriter.sink : Sink BulkIo.BulkWriter (List BulkIo.Status) UInt8 String where
  pollWrite := BulkIo.BulkWriter.pollWrite
  pollFlush := BulkIo.BulkWriter.pollFlush

/-! ### What a device reads -/

/-- The client bytes of a segment, to one who looks for a sport. -/
def carries (p : UInt16) : Option (ParsedTcp × Bytes) → Bytes
  | some (th, payload) => if th.srcPort = p then payload else []
  | none => []

/-- The client bytes in these frames that come from a sport, one after the other. -/
def carried (p : UInt16) (frames : List Bytes) : Bytes :=
  frames.flatMap fun frame => carries p (tcpOf frame)

end Netmuxd
