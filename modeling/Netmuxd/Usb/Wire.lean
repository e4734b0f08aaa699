/-
The frames on the bulk pipe.

A frame is an 8-byte v1 header (protocol, length), from mux version 2 on a
16-byte one (magic and the two link-level sequence numbers follow), then for the
TCP protocol a 20-byte header, then payload.  This file has the constants, the
big-endian fields, and the two parsers with the slicing `handle_incoming` does
around them.

Every index into a buffer carries the proof that it is in range, so a reader that
looks past the end of a short frame cannot be written down here.
-/
import Mathlib.Logic.Function.Basic
import Mathlib.Tactic.Common

namespace Netmuxd

/-- A `Vec<u8>` or `&[u8]`. -/
abbrev Bytes := List UInt8

/-! ### Constants -/

def v1HeaderSize : Nat := 8
def v2HeaderSize : Nat := 16
def muxMagic : UInt32 := 0xfeedface
def tcpHeaderSize : Nat := 20
def usbMtu : Nat := 3 * 16384
def maxPayload : Nat := usbMtu - v2HeaderSize - tcpHeaderSize
def rxWindow : UInt32 := 131072
def duplexBuf : Nat := 65536

def txHighWater : Nat := 1024 * 1024
def txLowWater : Nat := 256 * 1024

def muxHeaderSize (version : UInt8) : Nat :=
  if version < 2 then v1HeaderSize else v2HeaderSize

theorem v1HeaderSize_le (version : UInt8) : 8 ≤ muxHeaderSize version := by
  unfold muxHeaderSize v1HeaderSize v2HeaderSize
  split <;> omega

inductive Proto
  | version
  | control
  | setup
  | tcp
  deriving DecidableEq, Repr

/-- The `repr(u32)` value of a protocol. -/
def Proto.toU32 : Proto → UInt32
  | .version => 0
  | .control => 1
  | .setup => 2
  | .tcp => 6

namespace TcpFlags

def syn : UInt8 := 0x02
def rst : UInt8 := 0x04
def ack : UInt8 := 0x10

end TcpFlags

/--
The errors the mux code returns, one constructor for each place that builds an
`io::Error`.  A constructor's arguments are the values the message is formatted
from.
-/
inductive IoError
  /-- "packet too large: {total}" -/
  | packetTooLarge (total : Nat)
  /-- "writer task gone", of kind `BrokenPipe` -/
  | writerGone
  /-- "mux header too short" -/
  | muxHeaderTooShort
  /-- "TCP packet too short" -/
  | tcpPacketTooShort
  /-- "TCP header too short" -/
  | tcpHeaderTooShort
  /-- "expected VERSION reply, got proto {}" -/
  | expectedVersion (protocol : UInt32)
  /-- "VERSION payload too short" -/
  | versionTooShort
  /-- "unsupported mux version {major}.{minor}" -/
  | unsupportedVersion (major minor : UInt32)
  /-- "device refused (flags=0x{:x}, reason: {})", of kind `ConnectionRefused` -/
  | deviceRefused (flags : UInt8) (reason : Bytes)
  /-- "device refused or closed connection", of kind `ConnectionRefused` -/
  | refusedOrClosed
  deriving DecidableEq, Repr

/-! ### Big-endian fields -/

def toBe16 (x : UInt16) : Bytes :=
  [UInt8.ofNat (x.toNat / 256), UInt8.ofNat x.toNat]

def toBe32 (x : UInt32) : Bytes :=
  [UInt8.ofNat (x.toNat / 16777216), UInt8.ofNat (x.toNat / 65536),
    UInt8.ofNat (x.toNat / 256), UInt8.ofNat x.toNat]

def fromBe16 (a b : UInt8) : UInt16 :=
  UInt16.ofNat (a.toNat * 256 + b.toNat)

def fromBe32 (a b c d : UInt8) : UInt32 :=
  UInt32.ofNat (a.toNat * 16777216 + b.toNat * 65536 + c.toNat * 256 + d.toNat)

/-- `u16::from_be_bytes(buf[i..i + 2])`. -/
def u16At (buf : Bytes) (i : Nat) (h : i + 2 ≤ buf.length) : UInt16 :=
  fromBe16 buf[i] buf[i + 1]

/-- `u32::from_be_bytes(buf[i..i + 4])`. -/
def u32At (buf : Bytes) (i : Nat) (h : i + 4 ≤ buf.length) : UInt32 :=
  fromBe32 buf[i] buf[i + 1] buf[i + 2] buf[i + 3]

/-- `&buf[i..j]`, which panics unless `i ≤ j ≤ buf.len()`. -/
def slice (buf : Bytes) (i j : Nat) (_h : i ≤ j ∧ j ≤ buf.length) : Bytes :=
  (buf.take j).drop i

/-- `&buf[i..]`, which panics unless `i ≤ buf.len()`. -/
def sliceFrom (buf : Bytes) (i : Nat) (_h : i ≤ buf.length) : Bytes :=
  buf.drop i

/-! ### Parsing -/

structure ParsedHeader where
  protocol : UInt32
  deriving DecidableEq, Repr

def parseHeader (pkt : Bytes) (version : UInt8) : Except IoError ParsedHeader :=
  if h : pkt.length < muxHeaderSize version then .error .muxHeaderTooShort
  else
    have hlen : 0 + 4 ≤ pkt.length := by
      have := v1HeaderSize_le version
      omega
    .ok { protocol := u32At pkt 0 hlen }

/-- A packet whose header parses is long enough to be sliced behind it. -/
theorem parseHeader_length {pkt : Bytes} {version : UInt8} {hdr : ParsedHeader}
    (h : parseHeader pkt version = .ok hdr) : muxHeaderSize version ≤ pkt.length := by
  unfold parseHeader at h
  split at h
  · cases h
  · omega

structure ParsedTcp where
  srcPort : UInt16
  dstPort : UInt16
  seq : UInt32
  ack : UInt32
  flags : UInt8
  window : UInt16
  deriving DecidableEq, Repr

def parseTcp (buf : Bytes) : Except IoError ParsedTcp :=
  if h : buf.length < tcpHeaderSize then .error .tcpHeaderTooShort
  else
    have hlen : 20 ≤ buf.length := Nat.le_of_not_lt h
    .ok
      { srcPort := u16At buf 0 (by omega)
        dstPort := u16At buf 2 (by omega)
        seq := u32At buf 4 (by omega)
        ack := u32At buf 8 (by omega)
        flags := buf[13]
        window := u16At buf 14 (by omega) }

/--
How `handle_incoming` takes a packet apart: an error when it is too short, `none`
for a protocol other than TCP, and otherwise the TCP header and the payload.
-/
def splitTcp (version : UInt8) (pkt : Bytes) : Except IoError (Option (ParsedTcp × Bytes)) :=
  match parseHeader pkt version with
  | .error e => .error e
  | .ok hdr =>
    let headerSize := muxHeaderSize version
    if hdr.protocol = Proto.tcp.toU32 then
      if h : pkt.length < headerSize + tcpHeaderSize then .error .tcpPacketTooShort
      else
        match parseTcp (slice pkt headerSize (headerSize + tcpHeaderSize)
            ⟨Nat.le_add_right _ _, Nat.le_of_not_lt h⟩) with
        | .error e => .error e
        | .ok th => .ok (some (th, sliceFrom pkt (headerSize + tcpHeaderSize) (Nat.le_of_not_lt h)))
    else .ok none

/-- The TCP header and payload of a v2 packet, if it is a well-formed TCP packet. -/
def tcpOf (pkt : Bytes) : Option (ParsedTcp × Bytes) :=
  match splitTcp 2 pkt with
  | .ok r => r
  | .error _ => none

end Netmuxd
