/-
`read_frame` of `src/usb/mux.rs` as the future it is.

`Reader.readFrame` says what comes off a pipe of which all bytes are known.  Here the bytes
come in pieces, from a source that may wait, and the future keeps what it has so far.  Each
poll of the source is a step of its own; the 50 ms that are given to the bytes after an
implausible length end in a step, too.
-/
import Netmuxd.Lib.Source
import Netmuxd.Usb.Reader

namespace Netmuxd.Reader

open Lib (Poll Source)

inductive FrameError
  | read (e : ReadError)
  /-- What `poll_read` failed with. -/
  | io (e : String)

/-- Where `read_frame` waits: for the first 8 bytes, for the rest of the packet, for the
bytes that its error is to show, or it has returned. -/
inductive FrameFuture
  | head (got : Bytes)
  | body (head8 : Bytes) (length : Nat) (got : Bytes)
  | tail (head8 : Bytes) (protocol : UInt32) (length : Nat)
  | done (r : Except FrameError Bytes)

namespace FrameFuture

/-- `read_exact` for the first 8 bytes, and what follows once they are there. -/
def afterHead (got : Bytes) : FrameFuture :=
  if h : 8 ≤ got.length then
    let protocol := u32At got 0 (by omega)
    let length := (u32At got 4 (by omega)).toNat
    if ¬ Plausible length then tail got protocol length else body got length []
  else
    head got

/-- `read_exact` for the rest. -/
def afterBody (head8 : Bytes) (length : Nat) (got : Bytes) : FrameFuture :=
  if length - v1HeaderSize ≤ got.length then done (.ok (head8 ++ got)) else body head8 length got

def refuse (head8 : Bytes) (protocol : UInt32) (length : Nat) (next : Bytes) : FrameFuture :=
  done (.error (.read (.implausibleLength length protocol head8 next)))

/-- A poll in `read_exact`: `again` of what has been read, and the end of the stream if that
is nothing. -/
def readMore (f : FrameFuture) (again : Bytes → FrameFuture) :
    Poll (Except String Bytes) → FrameFuture
  | .pending => f
  | .ready (.error e) => done (.error (.io e))
  | .ready (.ok []) => done (.error (.read .unexpectedEof))
  | .ready (.ok (b :: out)) => again (b :: out)

/-- How much room the next poll of the source has. -/
def room : FrameFuture → Nat
  | head got => v1HeaderSize - got.length
  | body _ length got => length - v1HeaderSize - got.length
  | tail .. => 32
  | done _ => 0

/-- What the future makes of a poll of the source. -/
def resume (f : FrameFuture) (r : Poll (Except String Bytes)) : FrameFuture :=
  match f with
  | head got => f.readMore (fun out => afterHead (got ++ out)) r
  | body head8 length got => f.readMore (fun out => afterBody head8 length (got ++ out)) r
  | tail head8 protocol length =>
    match r with
    | .pending => f
    | .ready (.ok next) => refuse head8 protocol length next
    | .ready (.error _) => refuse head8 protocol length []
  | done r => done r

end FrameFuture

/-! ### The reader task -/

variable {σ α : Type}

structure ReaderTask (σ α : Type) where
  source : σ
  future : FrameFuture
  /-- The frames that have been read. -/
  frames : List Bytes
  /-- The answers the source has taken. -/
  taken : List α

def ReaderTask.start (s : σ) : ReaderTask σ α :=
  { source := s, future := .head [], frames := [], taken := [] }

inductive ReaderEvent (α : Type)
  /-- The source is polled and takes these answers. -/
  | poll (answers : List α)
  /-- The 50 ms are over. -/
  | elapsed
  /-- `read_frame` has returned a packet, and is called again. -/
  | next

inductive ReaderTask.Step (S : Source σ α UInt8 String) (u : ReaderTask σ α) :
    ReaderEvent α → ReaderTask σ α → Prop
  | poll {answers : List α} {r : Poll (Except String Bytes)} {t : σ}
      (hwaits : ∀ r, u.future ≠ .done r)
      (hpoll : S.poll u.source u.future.room answers = (r, t, [])) :
      Step S u (.poll answers)
        { u with source := t, future := u.future.resume r, taken := u.taken ++ answers }
  | elapsed {head8 : Bytes} {protocol : UInt32} {length : Nat}
      (htail : u.future = .tail head8 protocol length) :
      Step S u .elapsed { u with future := .refuse head8 protocol length [] }
  | next {pkt : Bytes} (hdone : u.future = .done (.ok pkt)) :
      Step S u .next { u with future := .head [], frames := u.frames ++ [pkt] }

end Netmuxd.Reader
