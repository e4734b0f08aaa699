/-
What a sent TCP frame reads back as.

`send_raw` and `send_tcp` lay a frame out field by field, and `handle_incoming`
cuts packets at the same offsets.  `tcpOf_packetOf` is the round trip: whatever the
link-level counters are, a packet laid out from a header and a payload reads back as
these.  A frame sent for a connection is such a packet, with the connection's ports,
counters and window, and every statement about frames is made through it.
-/
import Netmuxd.Usb.Tasks

namespace Netmuxd

/-! ### Fields -/

@[simp] theorem fromBe16_toBe16 (x : UInt16) :
    fromBe16 (UInt8.ofNat (x.toNat / 256)) x.toUInt8 = x := by
  apply UInt16.toNat_inj.mp
  have hx := x.toNat_lt
  simp only [fromBe16, UInt16.toNat_ofNat', UInt8.toNat_ofNat', UInt16.toNat_toUInt8]
  omega

@[simp] theorem fromBe32_toBe32 (x : UInt32) :
    fromBe32 (UInt8.ofNat (x.toNat / 16777216)) (UInt8.ofNat (x.toNat / 65536))
      (UInt8.ofNat (x.toNat / 256)) x.toUInt8 = x := by
  apply UInt32.toNat_inj.mp
  have hx := x.toNat_lt
  simp only [fromBe32, UInt32.toNat_ofNat', UInt8.toNat_ofNat', UInt32.toNat_toUInt8]
  omega

/-! ### Frames -/

/-- The header `send_tcp` builds, as fields. -/
def headerOf (conn : Connection) (flags : UInt8) : ParsedTcp :=
  { srcPort := conn.sport
    dstPort := conn.dport
    seq := conn.txSeq
    ack := conn.txAck
    flags
    window := (conn.free >>> 8).toUInt16 }

@[simp] theorem headerOf_seq (conn : Connection) (flags : UInt8) :
    (headerOf conn flags).seq = conn.txSeq := rfl

@[simp] theorem headerOf_flags (conn : Connection) (flags : UInt8) :
    (headerOf conn flags).flags = flags := rfl

@[simp] theorem headerOf_window (conn : Connection) (flags : UInt8) :
    (headerOf conn flags).window = (conn.free >>> 8).toUInt16 := rfl

@[simp] theorem toBe16_length (x : UInt16) : (toBe16 x).length = 2 := rfl

@[simp] theorem toBe32_length (x : UInt32) : (toBe32 x).length = 4 := rfl

/-- A TCP header laid out the way `send_tcp` does it. -/
def tcpBytes (th : ParsedTcp) : Bytes :=
  toBe16 th.srcPort ++ toBe16 th.dstPort ++ toBe32 th.seq ++ toBe32 th.ack ++
    [(UInt8.ofNat tcpHeaderSize / 4) <<< 4, th.flags] ++ toBe16 th.window ++ [0, 0, 0, 0]

@[simp] theorem tcpBytes_length (th : ParsedTcp) : (tcpBytes th).length = 20 := by
  simp [tcpBytes]

/-- A v2 packet with the given link-level counters, TCP header and payload. -/
def packetOf (state : MuxState) (th : ParsedTcp) (payload : Bytes) : Bytes :=
  toBe32 Proto.tcp.toU32 ++ toBe32 (UInt32.ofNat (v2HeaderSize + tcpHeaderSize + payload.length)) ++
    toBe32 muxMagic ++ toBe16 state.txSeq ++ toBe16 state.rxSeq ++ tcpBytes th ++ payload

theorem parseTcp_tcpBytes (th : ParsedTcp) : parseTcp (tcpBytes th) = .ok th := by
  rw [parseTcp, dif_neg (by simp [tcpHeaderSize])]
  simp [tcpBytes, toBe16, toBe32, u16At, u32At]

theorem packetOf_length (state : MuxState) (th : ParsedTcp) (payload : Bytes) :
    (packetOf state th payload).length = 36 + payload.length := by
  simp only [packetOf, List.length_append, toBe32_length, toBe16_length, tcpBytes_length]

theorem parseHeader_packetOf (state : MuxState) (th : ParsedTcp) (payload : Bytes) :
    parseHeader (packetOf state th payload) 2 = .ok ⟨Proto.tcp.toU32⟩ := by
  have hlen : ¬ (packetOf state th payload).length < muxHeaderSize 2 := by
    have hsize : muxHeaderSize 2 = 16 := rfl
    rw [packetOf_length, hsize]
    omega
  rw [parseHeader, dif_neg hlen]
  simp [packetOf, toBe32, u32At]

/-- **Every TCP header and payload can be received**, and reads back as it was laid out. -/
theorem tcpOf_packetOf (state : MuxState) (th : ParsedTcp) (payload : Bytes) :
    tcpOf (packetOf state th payload) = some (th, payload) := by
  have hsize : muxHeaderSize 2 = 16 := rfl
  have hhdr : ∀ h, slice (packetOf state th payload) (muxHeaderSize 2)
      (muxHeaderSize 2 + tcpHeaderSize) h = tcpBytes th := by
    intro h
    have hcut : ((packetOf state th payload).drop 16).take 20 = tcpBytes th := by
      simp [packetOf, toBe32, toBe16]
    rw [slice, hsize, List.drop_take]
    exact hcut
  have hpay : ∀ h, sliceFrom (packetOf state th payload)
      (muxHeaderSize 2 + tcpHeaderSize) h = payload := by
    intro h
    simp [sliceFrom, hsize, tcpHeaderSize, packetOf, toBe32, toBe16, tcpBytes]
  have hlong : ¬ (packetOf state th payload).length < muxHeaderSize 2 + tcpHeaderSize := by
    rw [packetOf_length, hsize, tcpHeaderSize]
    omega
  rw [tcpOf, splitTcp, parseHeader_packetOf]
  simp only [↓reduceIte, dif_neg hlong, hhdr, hpay, parseTcp_tcpBytes]

end Netmuxd
