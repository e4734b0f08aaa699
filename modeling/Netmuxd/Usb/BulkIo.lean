/-
Bulk endpoints as byte streams, `src/usb/bulk_io.rs`.

An endpoint hands completions back in the order of the submissions.  Whether one is there
when it is polled for is up to the device and the executor: a poll is given the answers
that are there, and finds nothing once they are used up.  Counts of bytes are natural
numbers, since no buffer is longer than `usize` counts.
-/
import Netmuxd.Lib.Loop
import Netmuxd.Lib.Source
import Netmuxd.Usb.Wire

namespace Netmuxd.BulkIo

open Lib (Poll)

/-- `Result<T, io::Error>`, an error being its message. -/
abbrev IoResult (α : Type) := Except String α

/-- The status of a completion, an error being what `{e:?}` writes. -/
abbrev Status := Except String Unit

/-! ### Reading -/

/-- A completed IN transfer: what is received stands at the front of its buffer. -/
structure InCompletion where
  status : Status
  buffer : Bytes
  actualLen : Nat
  le : actualLen ≤ buffer.length

/-- A completed buffer with the range `off..stop` still to be handed out. -/
structure Drain where
  buffer : Bytes
  off : Nat
  stop : Nat
  lt : off < stop
  le : stop ≤ buffer.length

/-- What is handed out of a drained buffer, and what is left of it. -/
def Drain.copy (d : Drain) (remaining : Nat) : Bytes × Option Drain :=
  let avail := (d.buffer.take d.stop).drop d.off
  let n := min avail.length remaining
  (avail.take n, if h : d.off + n < d.stop then some { d with off := d.off + n, lt := h } else none)

structure BulkReader where
  /-- How many submissions have not been handed back, `ep.pending()`. -/
  pending : Nat
  transferSize : Nat
  inFlightTarget : Nat
  drain : Option Drain

namespace BulkReader

def new (maxPacketSize transferSize : Nat) : BulkReader where
  pending := 0
  transferSize :=
    Nat.max ((transferSize + maxPacketSize - 1) / maxPacketSize) 1 * maxPacketSize
  inFlightTarget := 1
  drain := none

def withInFlight (r : BulkReader) (n : Nat) : BulkReader :=
  { r with inFlightTarget := Nat.max n 1 }

def submitTurn (r : BulkReader) : Lib.Turn BulkReader BulkReader :=
  if r.pending < r.inFlightTarget then
    .again { r with pending := r.pending + 1 }
  else
    .leave r

theorem submitTurn_lowers : Lib.Lowers submitTurn fun r => r.inFlightTarget - r.pending := by
  intro r r' h
  unfold submitTurn at h
  split at h
  · next hlt =>
      cases h
      show r.inFlightTarget - (r.pending + 1) < r.inFlightTarget - r.pending
      omega
  · cases h

def submitUntilTarget (r : BulkReader) : BulkReader :=
  Lib.whileLoop submitTurn _ submitTurn_lowers r

/-- One turn of the loop in `poll_read`, for a buffer with room for `remaining` bytes. -/
def readTurn (remaining : Nat) (s : BulkReader × List InCompletion) :
    Lib.Turn (BulkReader × List InCompletion)
      (Poll (IoResult Bytes) × BulkReader × List InCompletion) :=
  match s.1.drain with
  | some d =>
    let (out, drain) := d.copy remaining
    .leave (.ready (.ok out), { s.1 with drain }, s.2)
  | none =>
    let r := s.1.submitUntilTarget
    match s.2 with
    | [] => .leave (.pending, r, [])
    | comp :: rest =>
      let r := { r with pending := r.pending - 1 }
      match comp.status with
      | .error e => .leave (.ready (.error ("usb in: " ++ e)), r, rest)
      | .ok () =>
        if h : 0 < comp.actualLen then
          let d :=
            { buffer := comp.buffer, off := 0, stop := comp.actualLen, lt := h, le := comp.le }
          .again ({ r with drain := some d }, rest)
        else
          -- an empty packet: nothing to deliver
          .again (r, rest)

theorem readTurn_lowers (remaining : Nat) :
    Lib.Lowers (readTurn remaining) fun s => s.2.length := by
  intro s s' h
  unfold readTurn at h
  split at h
  · cases h
  · dsimp only at h
    split at h
    · cases h
    · next comp rest hs =>
        show s'.2.length < s.2.length
        rw [hs]
        split at h
        · cases h
        · split at h <;> cases h <;> exact Nat.lt_succ_self _

def pollRead (r : BulkReader) (remaining : Nat) (answers : List InCompletion) :
    Poll (IoResult Bytes) × BulkReader × List InCompletion :=
  Lib.whileLoop (readTurn remaining) _ (readTurn_lowers remaining) (r, answers)

end BulkReader

/-! ### Writing -/

/-- `Endpoint<Bulk, Out>`. -/
structure EndpointOut where
  maxPacketSize : Nat
  /-- All that has been submitted, in order. -/
  submitted : List Bytes
  /-- How many submissions have not been handed back, `pending()`. -/
  pending : Nat

def EndpointOut.submit (ep : EndpointOut) (buffer : Bytes) : EndpointOut :=
  { ep with submitted := ep.submitted ++ [buffer], pending := ep.pending + 1 }

structure BulkWriter where
  ep : EndpointOut
  maxOut : Nat
  inFlight : Bool
  bytesSinceFlush : Nat
  zlpSent : Bool

namespace BulkWriter

def defaultMaxOut : Nat := 64 * 1024

def new (ep : EndpointOut) : BulkWriter :=
  { ep, maxOut := defaultMaxOut, inFlight := false, bytesSinceFlush := 0, zlpSent := false }

def withMaxOut (w : BulkWriter) (max : Nat) : BulkWriter :=
  { w with maxOut := Nat.max max 1 }

/-- A submission, as `poll_write` and `poll_flush` make it. -/
def submit (w : BulkWriter) (buffer : Bytes) : BulkWriter :=
  { w with ep := w.ep.submit buffer, inFlight := true }

/-- `poll_next_complete`, and what `poll_drain` sets when it is ready. -/
def completed (w : BulkWriter) : BulkWriter :=
  { w with ep := { w.ep with pending := w.ep.pending - 1 }, inFlight := false }

def statusResult : Status → IoResult Unit
  | .ok () => .ok ()
  | .error e => .error ("usb out: " ++ e)

/-- The result, the writer and the answers that are left. -/
def pollDrain (w : BulkWriter) (answers : List Status) :
    Poll (IoResult Unit) × BulkWriter × List Status :=
  if !w.inFlight then
    (.ready (.ok ()), w, answers)
  else
    match answers with
    | [] => (.pending, w, [])
    | status :: answers => (.ready (statusResult status), w.completed, answers)

def pollWrite (w : BulkWriter) (answers : List Status) (buf : Bytes) :
    Poll (IoResult Nat) × BulkWriter :=
  match w.pollDrain answers with
  | (.pending, w, _) => (.pending, w)
  | (.ready (.error e), w, _) => (.ready (.error e), w)
  | (.ready (.ok ()), w, _) =>
    if buf = [] then
      (.ready (.ok 0), w)
    else
      let n := min buf.length w.maxOut
      let w := w.submit (buf.take n)
      (.ready (.ok n), { w with bytesSinceFlush := w.bytesSinceFlush + n, zlpSent := false })

/-- The condition on which `poll_flush` submits an empty buffer. -/
def OwesZlp (w : BulkWriter) : Prop :=
  w.zlpSent = false ∧ 0 < w.bytesSinceFlush ∧ w.bytesSinceFlush % w.ep.maxPacketSize = 0

instance (w : BulkWriter) : Decidable w.OwesZlp :=
  inferInstanceAs (Decidable (_ ∧ _ ∧ _))

/-- One turn of the loop in `poll_flush`. -/
def flushTurn (s : BulkWriter × List Status) :
    Lib.Turn (BulkWriter × List Status) (Poll (IoResult Unit) × BulkWriter) :=
  match s.1.pollDrain s.2 with
  | (.pending, w, _) => .leave (.pending, w)
  | (.ready (.error e), w, _) => .leave (.ready (.error e), w)
  | (.ready (.ok ()), w, answers) =>
    if w.OwesZlp then
      .again ({ w with zlpSent := true }.submit [], answers)
    else
      .leave (.ready (.ok ()), { w with bytesSinceFlush := 0 })

/-- `poll_drain` changes nothing but what is in flight. -/
theorem pollDrain_cases (w : BulkWriter) (answers : List Status) :
    (w.inFlight = false ∧ w.pollDrain answers = (.ready (.ok ()), w, answers)) ∨
    (w.inFlight = true ∧ answers = [] ∧ w.pollDrain answers = (.pending, w, [])) ∨
    (w.inFlight = true ∧ ∃ status rest, answers = status :: rest ∧
      w.pollDrain answers = (.ready (statusResult status), w.completed, rest)) := by
  unfold pollDrain
  cases w.inFlight with
  | false => exact .inl ⟨rfl, rfl⟩
  | true =>
      cases answers with
      | nil => exact .inr (.inl ⟨rfl, rfl, rfl⟩)
      | cons status rest => exact .inr (.inr ⟨rfl, status, rest, rfl, rfl⟩)

theorem flushTurn_again {s s' : BulkWriter × List Status} (h : flushTurn s = .again s') :
    ∃ w, (w = s.1 ∨ w = s.1.completed) ∧ w.inFlight = false ∧ w.OwesZlp ∧
      s'.1 = { w with zlpSent := true }.submit [] := by
  obtain ⟨w, answers⟩ := s
  unfold flushTurn at h
  rcases w.pollDrain_cases answers with ⟨hidle, hdrain⟩ | ⟨-, -, hdrain⟩ |
    ⟨-, status, rest, -, hdrain⟩
  · rw [hdrain] at h
    dsimp only at h
    split at h
    · next howes =>
        cases h
        exact ⟨w, .inl rfl, hidle, howes, rfl⟩
    · cases h
  · rw [hdrain] at h
    cases h
  · rw [hdrain] at h
    cases status with
    | error e => cases h
    | ok u =>
        dsimp only [statusResult] at h
        split at h
        · next howes =>
            cases h
            exact ⟨w.completed, .inr rfl, rfl, howes, rfl⟩
        · cases h

/-- The empty buffer is submitted at most once. -/
theorem flushTurn_lowers :
    Lib.Lowers flushTurn fun s : BulkWriter × List Status => if s.1.zlpSent then 0 else 1 := by
  intro s s' h
  obtain ⟨w, hw, -, howes, hs'⟩ := flushTurn_again h
  have hfalse : s.1.zlpSent = false := by
    rcases hw with rfl | rfl
    · exact howes.1
    · exact howes.1
  show (if s'.1.zlpSent then 0 else 1) < if s.1.zlpSent then 0 else 1
  rw [hs', hfalse]
  exact Nat.zero_lt_one

def pollFlush (w : BulkWriter) (answers : List Status) : Poll (IoResult Unit) × BulkWriter :=
  Lib.whileLoop flushTurn _ flushTurn_lowers (w, answers)

end BulkWriter

/-! ### The writer task -/

/-- Where the task is: waiting for a frame, in `write_all` with bytes left, in `flush`, or
out of its loop after an error. -/
inductive Phase
  | waiting
  | writing (rest : Bytes)
  | flushing
  | broken
  deriving DecidableEq

structure WriterTask where
  writer : BulkWriter
  phase : Phase
  /-- The frames received from the channel, in order. -/
  frames : List Bytes

def WriterTask.start (maxPacketSize maxOut : Nat) : WriterTask where
  writer := (BulkWriter.new { maxPacketSize, submitted := [], pending := 0 }).withMaxOut maxOut
  phase := .waiting
  frames := []

/-- Polls of the task with the answers they meet, and the frames it receives.  A writer may
be flushed without a frame, too. -/
inductive WriterEvent
  | recv (buf : Bytes)
  | pollWrite (answers : List Status)
  | pollFlush (answers : List Status)

/-- `write_all` returns once nothing is left. -/
def writeAll (rest : Bytes) : Phase :=
  if rest = [] then .flushing else .writing rest

def WriterTask.flushed (s : WriterTask) : Poll (IoResult Unit) × BulkWriter → WriterTask
  | (.pending, w) => { s with writer := w }
  | (.ready (.error _), w) => { s with writer := w, phase := .broken }
  | (.ready (.ok ()), w) => { s with writer := w, phase := .waiting }

def WriterTask.next (s : WriterTask) : WriterEvent → Option WriterTask
  | .recv buf =>
    match s.phase with
    | .waiting => some { s with phase := writeAll buf, frames := s.frames ++ [buf] }
    | _ => none
  | .pollWrite answers =>
    match s.phase with
    | .writing rest =>
      match s.writer.pollWrite answers rest with
      | (.pending, w) => some { s with writer := w }
      | (.ready (.error _), w) => some { s with writer := w, phase := .broken }
      -- `WriteZero`
      | (.ready (.ok 0), w) => some { s with writer := w, phase := .broken }
      | (.ready (.ok n), w) => some { s with writer := w, phase := writeAll (rest.drop n) }
    | _ => none
  | .pollFlush answers =>
    match s.phase with
    | .flushing => some (s.flushed (s.writer.pollFlush answers))
    | .waiting => some (s.flushed (s.writer.pollFlush answers))
    | _ => none

def WriterTask.Step (s : WriterTask) (e : WriterEvent) (s' : WriterTask) : Prop :=
  s.next e = some s'

end Netmuxd.BulkIo
