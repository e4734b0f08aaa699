/-
The writers, `src/libusbk/io.rs`, `src/apple_mux/io.rs` and `ZlpWriter` of
`src/daemon/nusb_backend.rs`.

Over a blocking driver each write runs on a thread of its own and is polled as a future.  A
poll is given the steps the thread makes while it lasts; what the thread makes of them when
no poll is going on is seen by the next one.  What of a transfer that failed has arrived is
not known, so only transfers that completed are kept.

`ZlpWriter` adds the ends of transfers to nusb's own writer.  What that one answers is given
to the poll, and it takes no more than it is offered.
-/
import Netmuxd.Lib.Sink
import Netmuxd.Usb.PipeIo

namespace Netmuxd.PipeIo

open Lib (Poll Sink Mark)
open BulkIo (IoResult)

/-! ### Blocking writes -/

/-- Where the thread is. -/
inductive Job
  /-- The caller's bytes are being transferred. -/
  | transfer (bytes : Bytes)
  /-- They have been, and the empty packet that ends the transfer is. -/
  | terminator (transferred : Nat)
  | done (res : IoResult Nat)

structure PipeWriter where
  maxPacket : Nat
  /-- The write in flight. -/
  pending : Option Job
  /-- How many bytes were submitted with it. -/
  pendingLen : Nat
  /-- The transfers that have completed, in order. -/
  written : List Bytes

/-- What a blocking call of the thread comes to. -/
inductive WorkerStep
  | completes (transferred : Nat)
  | fails (e : String)

namespace PipeWriter

def new (maxPacket : Nat) : PipeWriter :=
  { maxPacket, pending := none, pendingLen := 0, written := [] }

/-- A transfer that fills its packets needs an empty one after it. -/
def NeedsTerminator (maxPacket : Nat) (bytes : Bytes) : Prop :=
  0 < maxPacket ∧ bytes ≠ [] ∧ bytes.length % maxPacket = 0

instance (maxPacket : Nat) (bytes : Bytes) : Decidable (NeedsTerminator maxPacket bytes) :=
  inferInstanceAs (Decidable (_ ∧ _ ∧ _))

/-- A step of the thread that `spawn_write` starts. -/
def workerStep (me : PipeWriter) : WorkerStep → PipeWriter
  | .completes n =>
    match me.pending with
    | some (.transfer bytes) =>
      { me with
        written := me.written ++ [bytes]
        pending := some (if NeedsTerminator me.maxPacket bytes then .terminator n
          else .done (.ok n)) }
    | some (.terminator transferred) =>
      { me with written := me.written ++ [[]], pending := some (.done (.ok transferred)) }
    | _ => me
  | .fails e =>
    match me.pending with
    | some (.transfer _) | some (.terminator _) =>
      { me with pending := some (.done (.error e)) }
    | _ => me

def work (me : PipeWriter) (steps : List WorkerStep) : PipeWriter :=
  steps.foldl workerStep me

/-- The count reported is that of the bytes submitted, not of those transferred. -/
def pollPending (me : PipeWriter) : Poll (IoResult Nat) × PipeWriter :=
  match me.pending with
  | none => (.ready (.ok 0), me)
  | some (.done res) =>
    let n := me.pendingLen
    let me := { me with pending := none, pendingLen := 0 }
    match res with
    | .ok _ => (.ready (.ok n), me)
    | .error e => (.ready (.error e), me)
  | some _ => (.pending, me)

def spawnWrite (me : PipeWriter) (bytes : Bytes) : PipeWriter :=
  { me with pendingLen := bytes.length, pending := some (.transfer bytes) }

def pollWrite (me : PipeWriter) (steps : List WorkerStep) (buf : Bytes) :
    Poll (IoResult Nat) × PipeWriter :=
  -- a second write cannot be started
  if me.pending.isSome then (me.work steps).pollPending
  else if buf = [] then (.ready (.ok 0), me)
  else ((me.spawnWrite buf).work steps).pollPending

def pollFlush (me : PipeWriter) (steps : List WorkerStep) : Poll (IoResult Unit) × PipeWriter :=
  match (me.work steps).pollPending with
  | (.pending, me) => (.pending, me)
  | (.ready (.ok _), me) => (.ready (.ok ()), me)
  | (.ready (.error e), me) => (.ready (.error e), me)

def sink : Sink PipeWriter (List WorkerStep) UInt8 String where
  pollWrite := pollWrite
  pollFlush := pollFlush

end PipeWriter

/-- `LibusbkWriter`: `UsbK_WritePipe`, with an empty one where it is needed. -/
def LibusbkWriter.sink : Sink PipeWriter (List WorkerStep) UInt8 String :=
  PipeWriter.sink

/-- `AppleMuxWriter`: the same by way of the driver's write request. -/
def AppleMuxWriter.sink : Sink PipeWriter (List WorkerStep) UInt8 String :=
  PipeWriter.sink

/-! ### Ends of transfers -/

/-- What nusb's writer answers to a poll. -/
structure InnerAnswer where
  write : Poll (IoResult Nat)
  flush : Poll (IoResult Unit)

structure ZlpWriter where
  ended : Bool := true
  /-- What nusb's writer has been given, in order. -/
  inner : List (Mark UInt8) := []

namespace ZlpWriter

/-- `EndpointWrite::poll_write`. -/
def innerWrite (me : ZlpWriter) (answer : Poll (IoResult Nat)) (buf : Bytes) :
    Poll (IoResult Nat) × ZlpWriter :=
  match answer with
  | .ready (.ok n) =>
    (.ready (.ok (min n buf.length)), { me with inner := me.inner ++ [.bytes (buf.take n)] })
  | answer => (answer, me)

def pollWrite (me : ZlpWriter) (answer : InnerAnswer) (buf : Bytes) :
    Poll (IoResult Nat) × ZlpWriter :=
  match me.innerWrite answer.write buf with
  | (.ready (.ok (n + 1)), me) => (.ready (.ok (n + 1)), { me with ended := false })
  | res => res

/-- `submit_end`. -/
def submitEnd (me : ZlpWriter) : ZlpWriter :=
  { me with inner := me.inner ++ [.finish], ended := true }

def pollFlush (me : ZlpWriter) (answer : InnerAnswer) : Poll (IoResult Unit) × ZlpWriter :=
  (answer.flush, if me.ended then me else me.submitEnd)

def sink : Sink ZlpWriter InnerAnswer UInt8 String where
  pollWrite := pollWrite
  pollFlush := pollFlush

end ZlpWriter

end Netmuxd.PipeIo
