/-
What a packet from the device runs through, with everything that could panic.

The rest of the model takes an index into a buffer together with a proof that it is
in range.  Here `read_frame`, the handshake and the packet branch are written out
once more over operations that fail the way Rust's do: `none` is a panic, or an
allocation for a frame beyond `USB_MTU`.  Integer subtraction and the left shift
count as failing where they would lose something.
-/
import Mathlib.Algebra.Group.Nat.Defs
import Netmuxd.Usb.Mux
import Netmuxd.Usb.Reader

namespace Netmuxd.Checked

open Lib Reader

/-! ### Operations that can panic -/

/-- `&buf[i..j]` -/
def slice (buf : Bytes) (i j : Nat) : Option Bytes :=
  if i ≤ j ∧ j ≤ buf.length then some ((buf.take j).drop i) else none

/-- `&buf[i..]` -/
def sliceFrom (buf : Bytes) (i : Nat) : Option Bytes :=
  if i ≤ buf.length then some (buf.drop i) else none

/-- `u16::from_be_bytes(buf[i..j].try_into().unwrap())` -/
def u16From (buf : Bytes) (i j : Nat) : Option UInt16 :=
  match slice buf i j with
  | some [a, b] => some (fromBe16 a b)
  | _ => none

/-- `u32::from_be_bytes(buf[i..j].try_into().unwrap())` -/
def u32From (buf : Bytes) (i j : Nat) : Option UInt32 :=
  match slice buf i j with
  | some [a, b, c, d] => some (fromBe32 a b c d)
  | _ => none

/-- `buf[i..j].copy_from_slice(src)` -/
def copyFromSlice (buf : Bytes) (i j : Nat) (src : Bytes) : Option Bytes :=
  if i ≤ j ∧ j ≤ buf.length ∧ src.length = j - i then some (buf.take i ++ src ++ buf.drop j)
  else none

/-- `buf[i] = x` -/
def setAt (buf : Bytes) (i : Nat) (x : UInt8) : Option Bytes :=
  if i < buf.length then some (buf.set i x) else none

/-- `a - b` -/
def sub (a b : UInt32) : Option UInt32 :=
  if b ≤ a then some (a - b) else none

/-- `a << n` -/
def shl (a : UInt32) (n : Nat) : Option UInt32 :=
  if n < 32 ∧ a.toNat * 2 ^ n < 2 ^ 32 then some (a <<< UInt32.ofNat n) else none

/-- `buf.drain(..n)`: the bytes taken and those left. -/
def drainTo (buf : Bytes) (n : Nat) : Option (Bytes × Bytes) :=
  if n ≤ buf.length then some (buf.take n, buf.drop n) else none

/-- `vec![0u8; n]` for a frame. -/
def frameBuf (n : Nat) : Option Bytes :=
  if n ≤ usbMtu then some (List.replicate n 0) else none

/-- `Vec::with_capacity(n)` for a frame. -/
def frameCapacity (n : Nat) : Option Bytes :=
  if n ≤ usbMtu then some [] else none

/-! ### Reading and parsing -/

/-- `read_frame` once it has its first 8 bytes and the two fields in them. -/
def readBody (tailRead : Nat) (head8 : Bytes) (protocol : UInt32) (length : Nat)
    (stream : Bytes) : Option (Except ReadError (Bytes × Bytes)) :=
  if ¬ Plausible length then do
    let next := stream.take (min tailRead 32)
    let tail := next ++ List.replicate (32 - next.length) 0
    let tail ← slice tail 0 next.length
    return .error (.implausibleLength length protocol head8 tail)
  else do
    let pkt ← frameBuf length
    let pkt ← copyFromSlice pkt 0 v1HeaderSize head8
    if v1HeaderSize < length then
      let unread ← sliceFrom pkt v1HeaderSize
      match readExact unread.length stream with
      | .error e => return .error e
      | .ok (body, stream) => return .ok (pkt.take v1HeaderSize ++ body, stream)
    else return .ok (pkt, stream)

def readFrame (tailRead : Nat) (stream : Bytes) : Option (Except ReadError (Bytes × Bytes)) :=
  match readExact v1HeaderSize stream with
  | .error e => some (.error e)
  | .ok (head8, stream) => do
    let protocol ← u32From head8 0 4
    let length ← u32From head8 4 8
    readBody tailRead head8 protocol length.toNat stream

def parseHeader (pkt : Bytes) (version : UInt8) : Option (Except IoError ParsedHeader) :=
  if pkt.length < muxHeaderSize version then some (.error .muxHeaderTooShort)
  else do
    let protocol ← u32From pkt 0 4
    return .ok { protocol }

def parseTcp (buf : Bytes) : Option (Except IoError ParsedTcp) :=
  if buf.length < tcpHeaderSize then some (.error .tcpHeaderTooShort)
  else do
    let srcPort ← u16From buf 0 2
    let dstPort ← u16From buf 2 4
    let seq ← u32From buf 4 8
    let ack ← u32From buf 8 12
    let flags ← buf[13]?
    let window ← u16From buf 14 16
    return .ok { srcPort, dstPort, seq, ack, flags, window }

/-! ### Sending -/

def sendRaw (l : Link) (id : Nat) (proto : Proto) (header payload : Bytes) (resetSeq : Bool) :
    Option (Except IoError Unit × Link) :=
  let headerSize := muxHeaderSize l.state.version
  let total := headerSize + header.length + payload.length
  if usbMtu < total then
    some (.error (.packetTooLarge total), l.emit id (.sendFailed (.packetTooLarge total)))
  else do
    let state :=
      if resetSeq && 2 ≤ l.state.version then { l.state with txSeq := 0, rxSeq := 0xFFFF }
      else l.state
    let buf ← frameCapacity total
    let buf := buf ++ toBe32 proto.toU32 ++ toBe32 (UInt32.ofNat total)
    if 2 ≤ l.state.version then
      let buf := buf ++ toBe32 muxMagic ++ toBe16 state.txSeq ++ toBe16 state.rxSeq
      return writeTx { l with state := { state with txSeq := state.txSeq + 1 } } id
        (buf ++ header ++ payload)
    else return writeTx { l with state } id (buf ++ header ++ payload)

def tcpHeader (conn : Connection) (flags : UInt8) : Option Bytes := do
  let hdr := List.replicate tcpHeaderSize 0
  let hdr ← copyFromSlice hdr 0 2 (toBe16 conn.sport)
  let hdr ← copyFromSlice hdr 2 4 (toBe16 conn.dport)
  let hdr ← copyFromSlice hdr 4 8 (toBe32 conn.txSeq)
  let hdr ← copyFromSlice hdr 8 12 (toBe32 conn.txAck)
  let hdr ← setAt hdr 12 ((UInt8.ofNat tcpHeaderSize / 4) <<< 4)
  let hdr ← setAt hdr 13 flags
  copyFromSlice hdr 14 16 (toBe16 (conn.free >>> 8).toUInt16)

def sendTcp (l : Link) (conn : Connection) (flags : UInt8) (payload : Bytes) :
    Option (Except IoError Unit × Link) := do
  let hdr ← tcpHeader conn flags
  sendRaw l conn.id .tcp hdr payload false

def sendVersion (l : Link) (major minor : UInt32) : Option (Except IoError Unit × Link) := do
  let payload := List.replicate 12 0
  let payload ← copyFromSlice payload 0 4 (toBe32 major)
  let payload ← copyFromSlice payload 4 8 (toBe32 minor)
  sendRaw l 0 .version payload [] false

/-! ### Flushing -/

/-- What a turn comes to when the rest of it may panic. -/
def turnOf {σ ρ : Type} : Option (Turn σ (Option ρ)) → Turn σ (Option ρ)
  | some turn => turn
  | none => .leave none

def flushTurn (s : Link × Connection) :
    Turn (Link × Connection) (Option (Except IoError Unit × Link × Connection)) :=
  let (l, conn) := s
  if conn.pendingTx.isEmpty then .leave (some (.ok (), l, conn))
  else
    let inflight := conn.txSeq - conn.rxAck
    if conn.rxWin ≤ inflight then .leave (some (.ok (), l, conn))
    else turnOf do
      let available ← sub conn.rxWin inflight
      let chunkLen := min (min conn.pendingTx.length maxPayload) available.toNat
      if chunkLen = 0 then return .leave (some (.ok (), l, conn))
      else
        let (chunk, pendingTx) ← drainTo conn.pendingTx chunkLen
        let conn := { conn with pendingTx }
        match ← sendTcp l conn TcpFlags.ack chunk with
        | (.error e, l) => return .leave (some (.error e, l, conn))
        | (.ok (), l) =>
          return .again (l, { conn with txSeq := conn.txSeq + UInt32.ofNat chunkLen })

/-- The `while` loop; each further turn takes bytes off `pendingTx`, so these turns suffice. -/
def flushLoop (l : Link) (conn : Connection) : Option (Except IoError Unit × Link × Connection) :=
  (iter flushTurn (conn.pendingTx.length + 1) (l, conn)).join

def flushPending (l : Link) (conn : Connection) :
    Option (Except IoError Unit × Link × Connection) := do
  match ← flushLoop l conn with
  | (.error e, l, conn) => return (.error e, l, conn)
  | (.ok (), l, conn) =>
    if conn.txPause && conn.pendingTx.length < txLowWater then
      return (.ok (), (l.emit conn.id (.storePause false)).emit conn.id .notifyOne,
        { conn with txPause := false })
    else return (.ok (), l, conn)

/-! ### Packets from the device -/

def handleConnecting (m : Mux) (conn : Connection) (th : ParsedTcp) (payload : Bytes) :
    Option (Except IoError Unit × Mux) :=
  let ourSport := th.dstPort
  if th.flags = TcpFlags.syn ||| TcpFlags.ack then do
    let conn := { conn with txSeq := conn.txSeq + 1, txAck := conn.txAck + 1 }
    match ← sendTcp m.link conn TcpFlags.ack [] with
    | (.error e, l) => return (.error e, m.put l ourSport conn)
    | (.ok (), l) =>
      let conn := { conn with state := .connected, rxTx := true }
      let l := l.emit conn.id (.spawn conn.sport)
      if conn.connectReply then
        return (.ok (), m.put (l.emit conn.id (.reply (.ok ()))) ourSport
          { conn with connectReply := false })
      else return (.ok (), m.put l ourSport conn)
  else if conn.connectReply then
    let l := m.link.emit conn.id (.reply (.error (.deviceRefused th.flags payload)))
    some (.ok (), teardown (m.put l ourSport { conn with connectReply := false }) ourSport)
  else some (.ok (), teardown (m.put m.link ourSport conn) ourSport)

def flushAndClose (m : Mux) (l : Link) (conn : Connection) (ourSport : UInt16) :
    Option (Except IoError Unit × Mux) := do
  match ← flushPending l conn with
  | (.error e, l, conn) => return (.error e, m.put l ourSport conn)
  | (.ok (), l, conn) =>
    if conn.clientClosed && txDrained conn then
      match ← sendTcp l conn TcpFlags.rst [] with
      | (.error e, l) => return (.error e, m.put l ourSport conn)
      | (.ok (), l) => return (.ok (), teardown (m.put l ourSport conn) ourSport)
    else return (.ok (), m.put l ourSport conn)

def handleConnected (m : Mux) (alive : Bool) (conn : Connection) (th : ParsedTcp)
    (payload : Bytes) : Option (Except IoError Unit × Mux) :=
  let ourSport := th.dstPort
  if th.flags &&& TcpFlags.rst ≠ 0 then
    some (.ok (), teardown (m.put m.link ourSport conn) ourSport)
  else if th.flags ≠ TcpFlags.ack then
    some (.ok (), teardown (m.put m.link ourSport conn) ourSport)
  else if payload.isEmpty then
    flushAndClose m m.link conn ourSport
  else
    let len := UInt32.ofNat payload.length
    let delivered := conn.rxTx && alive
    if delivered then do
      let l := m.link.emit conn.id (.chunk payload)
      let conn :=
        { conn with
          rxBuffered := saturatingAdd conn.rxBuffered len
          txAck := conn.txAck + len }
      match ← sendTcp l conn TcpFlags.ack [] with
      | (.error e, l) => return (.error e, m.put l ourSport conn)
      | (.ok (), l) => flushAndClose m l conn ourSport
    else do
      let (_, l) ← sendTcp m.link conn TcpFlags.rst []
      return (.ok (), teardown (m.put l ourSport conn) ourSport)

def handleTcp (m : Mux) (alive : Nat → Bool) (th : ParsedTcp) (payload : Bytes) :
    Option (Except IoError Unit × Mux) :=
  let ourSport := th.dstPort
  let ourDport := th.srcPort
  match m.connections ourSport with
  | none =>
    if th.flags &&& TcpFlags.rst = 0 then do
      let anon := Connection.anon ourSport ourDport th.seq
      let (_, l) ← sendTcp m.link anon TcpFlags.rst []
      return (.ok (), { m with link := l })
    else some (.ok (), m)
  | some conn => do
    let rxWin ← shl th.window.toUInt32 8
    let conn := { conn with rxSeq := th.seq, rxAck := th.ack, rxWin }
    match conn.state with
    | .connecting => handleConnecting m conn th payload
    | .connected => handleConnected m (alive conn.id) conn th payload
    | .dead => return (.ok (), m.put m.link ourSport conn)

def handleIncoming (m : Mux) (alive : Nat → Bool) (pkt : Bytes) :
    Option (Except IoError Unit × Mux) := do
  match ← parseHeader pkt m.link.state.version with
  | .error e => return (.error e, m)
  | .ok hdr =>
    let headerSize := muxHeaderSize m.link.state.version
    if hdr.protocol = Proto.tcp.toU32 then
      if pkt.length < headerSize + tcpHeaderSize then return (.error .tcpPacketTooShort, m)
      else
        let buf ← slice pkt headerSize (headerSize + tcpHeaderSize)
        match ← parseTcp buf with
        | .error e => return (.error e, m)
        | .ok th =>
          let payload ← sliceFrom pkt (headerSize + tcpHeaderSize)
          handleTcp m alive th payload
    else if hdr.protocol = Proto.control.toU32 then
      -- the payload is only logged
      let _payload ← sliceFrom pkt headerSize
      return (.ok (), m)
    else return (.ok (), m)

/-- The packet branch of the loop. -/
def onPacket (m : Mux) (alive : Nat → Bool) (pkt : Bytes) : Option Mux := do
  let mut m := m
  if 2 ≤ m.link.state.version ∧ v2HeaderSize ≤ pkt.length then
    let rxSeq ← u16From pkt 14 16
    m := { m with link := { m.link with state := { m.link.state with rxSeq } } }
  let (_, m') ← handleIncoming m alive pkt
  return m'

/-! ### The handshake -/

/-- `run` up to its loop, for a first frame `pkt` from the device. -/
def handshake (writeLeft : Option Nat) (pkt : Bytes) : Option (Except IoError Link) := do
  match ← sendVersion { writeLeft } 2 0 with
  | (.error e, _) => return .error e
  | (.ok (), l) =>
    match ← parseHeader pkt l.state.version with
    | .error e => return .error e
    | .ok parsed =>
      if parsed.protocol ≠ Proto.version.toU32 then
        return .error (.expectedVersion parsed.protocol)
      else
        let payload ← sliceFrom pkt (muxHeaderSize l.state.version)
        if payload.length < 12 then return .error .versionTooShort
        else
          let major ← u32From payload 0 4
          let minor ← u32From payload 4 8
          if major ≠ 2 then return .error (.unsupportedVersion major minor)
          else
            let l := { l with state := { l.state with version := 2 } }
            match ← sendRaw l 0 .setup [] [0x07] true with
            | (.error e, _) => return .error e
            | (.ok (), l) => return .ok l

end Netmuxd.Checked

namespace Netmuxd

open Reader

/-! ### The mux task behind its reader -/

/--
The loop and its reader task: the bytes the device has still to send, whether the
reader task is running, and what it has put on the channel between the two.
-/
structure Session where
  stream : Bytes
  reading : Bool := true
  pktRx : List (Except ReadError Bytes) := []
  mux : Mux

namespace Session

/-- The capacity of the channel. -/
def pktCap : Nat := 16

inductive Move
  /-- The reader task reads a frame. -/
  | read (tailRead : Nat)
  /-- The loop takes a frame. -/
  | packet (alive : Nat → Bool)
  /-- The loop takes the reader's error, or takes notice that the reader is gone. -/
  | readerGone (order : List UInt16)
  /-- The loop takes any other event. -/
  | loop (ev : Event)

/-- Whether the session is at a point where it can make this move. -/
def Ready (s : Session) : Move → Prop
  | .read _ => s.reading = true ∧ s.pktRx.length < pktCap
  | .packet _ => s.mux.phase = .running ∧ ∃ pkt, s.pktRx.head? = some (.ok pkt)
  | .readerGone order => (Event.stop order).ready s.mux = true ∧ (Event.stop order).Valid s.mux ∧
      ((∃ e, s.pktRx.head? = some (.error e)) ∨ s.reading = false ∧ s.pktRx = [])
  | .loop ev => ev.ready s.mux = true ∧ ev.Valid s.mux ∧ ∀ pkt alive, ev ≠ .packet pkt alive

/-- What a move comes to, `none` being a panic. -/
def checked (s : Session) : Move → Option Session
  | .read tailRead =>
    (Checked.readFrame tailRead s.stream).map fun
      | .ok (pkt, stream) => { s with stream, pktRx := s.pktRx ++ [.ok pkt] }
      | .error e => { s with reading := false, pktRx := s.pktRx ++ [.error e] }
  | .packet alive =>
    match s.pktRx with
    | .ok pkt :: pktRx => (Checked.onPacket s.mux alive pkt).map fun mux => { s with pktRx, mux }
    | _ => some s
  | .readerGone order => some { s with pktRx := s.pktRx.tail, mux := s.mux.handle (.stop order) }
  | .loop ev => some { s with mux := s.mux.handle ev }

def Step (s : Session) (mv : Move) (s' : Session) : Prop :=
  s.Ready mv ∧ s.checked mv = some s'

/--
`run` up to its loop on the bytes `stream`.  The inner results are those of the
source: an error of `read_frame`, an error of the handshake, or a session.
-/
def enter (writeLeft : Option Nat) (tailRead : Nat) (stream : Bytes) :
    Option (Except ReadError (Except IoError Session)) := do
  match ← Checked.readFrame tailRead stream with
  | .error e => return .error e
  | .ok (pkt, stream) =>
    let link ← Checked.handshake writeLeft pkt
    return .ok (link.map fun link => { stream, mux := Mux.start link })

end Session

end Netmuxd
