/-
Frames off the bulk pipe: `read_frame` of `src/usb/mux.rs`.

The pipe is the bytes the device has still to send before it ends.  A read that
waits for more bytes is one that ends the pipe here, and what `read_frame` returns
then is the error of `read_exact`.  The 32 bytes read after an implausible length
are only for the error message; how many of them arrive within the 50 ms is up to
the device and the clock, so their number is a parameter.
-/
import Netmuxd.Usb.Wire

namespace Netmuxd.Reader

/-- The errors `read_frame` returns. -/
inductive ReadError
  /-- `read_exact` met the end of the pipe. -/
  | unexpectedEof
  /-- "implausible mux packet length {length} (protocol={protocol}, head={head8}, next_{n}={})" -/
  | implausibleLength (length : Nat) (protocol : UInt32) (head8 next : Bytes)
  deriving DecidableEq, Repr

/-- `reader.read_exact(buf)` for a buffer of `n` bytes: the bytes and the rest of the pipe. -/
def readExact (n : Nat) (stream : Bytes) : Except ReadError (Bytes × Bytes) :=
  if stream.length < n then .error .unexpectedEof else .ok (stream.take n, stream.drop n)

theorem readExact_length {n : Nat} {stream bytes rest : Bytes}
    (h : readExact n stream = .ok (bytes, rest)) : bytes.length = n := by
  unfold readExact at h
  split at h
  · cases h
  · cases h
    rw [List.length_take]
    omega

theorem readExact_ok {n : Nat} {stream : Bytes} (h : n ≤ stream.length) :
    readExact n stream = .ok (stream.take n, stream.drop n) :=
  if_neg (Nat.not_lt.mpr h)

theorem readExact_eof {n : Nat} {stream : Bytes} (h : stream.length < n) :
    readExact n stream = .error .unexpectedEof :=
  if_pos h

/-- `(V2_HEADER_SIZE..=USB_MTU).contains(&length)` -/
def Plausible (length : Nat) : Prop :=
  v2HeaderSize ≤ length ∧ length ≤ usbMtu

instance (length : Nat) : Decidable (Plausible length) :=
  inferInstanceAs (Decidable (_ ∧ _))

/-- `read_frame` once it has its first 8 bytes and the two fields in them. -/
def readBody (tailRead : Nat) (head8 : Bytes) (protocol : UInt32) (length : Nat)
    (stream : Bytes) : Except ReadError (Bytes × Bytes) :=
  if ¬ Plausible length then
    .error (.implausibleLength length protocol head8 (stream.take (min tailRead 32)))
  else
    -- `length` is at least 16 by now, so there is always a rest to read
    match readExact (length - v1HeaderSize) stream with
    | .error e => .error e
    | .ok (body, stream) => .ok (head8 ++ body, stream)

/-- `read_frame`, with `tailRead` bytes arriving for the message of the error. -/
def readFrame (tailRead : Nat) (stream : Bytes) : Except ReadError (Bytes × Bytes) :=
  match hh : readExact v1HeaderSize stream with
  | .error e => .error e
  | .ok (head8, stream) =>
    have hlen : head8.length = 8 := readExact_length hh
    let protocol := u32At head8 0 (by omega)
    let length := (u32At head8 4 (by omega)).toNat
    readBody tailRead head8 protocol length stream

/-- Up to `n` frames, one after the other; the reader task stops at the first error. -/
def readFrames (tailRead : Nat) : Nat → Bytes → Except ReadError (List Bytes × Bytes)
  | 0, stream => .ok ([], stream)
  | n + 1, stream =>
    match readFrame tailRead stream with
    | .error e => .error e
    | .ok (pkt, stream) =>
      match readFrames tailRead n stream with
      | .error e => .error e
      | .ok (pkts, stream) => .ok (pkt :: pkts, stream)

end Netmuxd.Reader
