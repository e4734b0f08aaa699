/-
The per-device mux loop of `src/usb/mux.rs`.

The loop owns the connections and talks to everything else through channels and
shared cells: the writer task's queue, the callers waiting on their Connect, and
for each accepted connection a pump and a forwarder task.  Here each branch of the
loop is a function from the state of the loop to the next one, and what the branch
hands to others is appended to a log of effects, tagged with the connection it
concerns.  Nothing in a branch body waits, so a branch is one step.

The writer task can die at any moment, and stays dead.  All the loop ever sees of
that is how many of its sends still succeed, so this number is a parameter of the
state: `none` is a writer that lives on.

`tokio::select!` picks any branch that is ready, so a run is any sequence of
`Event`s.
-/
import Netmuxd.Usb.Wire
import Netmuxd.Lib.Loop

namespace Netmuxd

open Lib

/-! ### What the loop hands out -/

/-- One thing done for a connection that somebody else can see. -/
inductive Act
  /-- A frame queued to the writer task. -/
  | frame (buf : Bytes)
  /-- A send that failed. -/
  | sendFailed (e : IoError)
  /-- The pump and the forwarder are spawned, for this sport. -/
  | spawn (sport : UInt16)
  /-- The caller waiting on its Connect is answered; `ok` carries its stream. -/
  | reply (ans : Except IoError Unit)
  /-- The answer channel is dropped unanswered. -/
  | dropReply
  /-- A payload put on the forwarder's queue. -/
  | chunk (payload : Bytes)
  /-- The sending half of the forwarder's queue is dropped. -/
  | dropRxTx
  /-- `tx_pause.store(b)`. -/
  | storePause (b : Bool)
  /-- `tx_resume.notify_one()`. -/
  | notifyOne

/-- An act together with the connection it is for; 0 is no connection at all. -/
structure Effect where
  id : Nat
  act : Act

/-! ### Connections -/

inductive ConnState
  | connecting
  | connected
  | dead
  deriving DecidableEq, Repr

/--
State for a single virtual connection.

`id` numbers the Connect commands from 1 on.  It stands for the identity of what
the source shares by reference between the entry and its tasks: the answer
channel, the forwarder's queue, the pause flag and its `Notify`.  `connectReply`
and `rxTx` say whether the entry still holds its end, and `txPause` is the value
in the shared flag, which only the loop stores to.
-/
structure Connection where
  id : Nat
  sport : UInt16
  dport : UInt16
  state : ConnState
  txSeq : UInt32
  txAck : UInt32
  rxSeq : UInt32
  rxAck : UInt32
  rxWin : UInt32
  connectReply : Bool
  rxTx : Bool
  rxBuffered : UInt32
  pendingTx : Bytes
  clientClosed : Bool
  txPause : Bool

/-- The entry a Connect command makes. -/
def Connection.new (id : Nat) (sport dport : UInt16) : Connection :=
  { id, sport, dport, state := .connecting, txSeq := 0, txAck := 0, rxSeq := 0, rxAck := 0,
    rxWin := 0, connectReply := true, rxTx := false, rxBuffered := 0, pendingTx := [],
    clientClosed := false, txPause := false }

/-- The throwaway connection an anonymous RST is sent for. -/
def Connection.anon (sport dport : UInt16) (seq : UInt32) : Connection :=
  { id := 0, sport, dport, state := .dead, txSeq := 0, txAck := seq, rxSeq := 0, rxAck := 0,
    rxWin := 0, connectReply := false, rxTx := false, rxBuffered := 0, pendingTx := [],
    clientClosed := false, txPause := false }

/-- `tx_drained`. -/
def txDrained (conn : Connection) : Bool :=
  conn.pendingTx.isEmpty

/-- `u32::saturating_sub`. -/
def saturatingSub (a b : UInt32) : UInt32 :=
  if b ≤ a then a - b else 0

/-- `u32::saturating_add`. -/
def saturatingAdd (a b : UInt32) : UInt32 :=
  if a.toNat + b.toNat < 4294967296 then a + b else 0xffffffff

/-- The receive space still free on a connection. -/
def Connection.free (conn : Connection) : UInt32 :=
  saturatingSub rxWindow conn.rxBuffered

/-! ### Sending -/

/-- The link-level counters; `version` is 0 until the VERSION handshake is done. -/
structure MuxState where
  version : UInt8 := 0
  txSeq : UInt16 := 0
  rxSeq : UInt16 := 0
  deriving DecidableEq, Repr

/-- `MuxState`, what is left of the writer task's life, and the log of effects. -/
structure Link where
  state : MuxState := {}
  writeLeft : Option Nat
  out : List Effect := []

def Link.emit (l : Link) (id : Nat) (act : Act) : Link :=
  { l with out := l.out ++ [⟨id, act⟩] }

/-- `write_tx.send(buf)`. -/
def writeTx (l : Link) (id : Nat) (buf : Bytes) : Except IoError Unit × Link :=
  match l.writeLeft with
  | none => (.ok (), l.emit id (.frame buf))
  | some (left + 1) => (.ok (), { l.emit id (.frame buf) with writeLeft := some left })
  | some 0 => (.error .writerGone, l.emit id (.sendFailed .writerGone))

def sendRaw (l : Link) (id : Nat) (proto : Proto) (header payload : Bytes) (resetSeq : Bool) :
    Except IoError Unit × Link :=
  let headerSize := muxHeaderSize l.state.version
  let total := headerSize + header.length + payload.length
  if usbMtu < total then
    (.error (.packetTooLarge total), l.emit id (.sendFailed (.packetTooLarge total)))
  else
    let state :=
      if resetSeq && 2 ≤ l.state.version then { l.state with txSeq := 0, rxSeq := 0xFFFF }
      else l.state
    let buf := toBe32 proto.toU32 ++ toBe32 (UInt32.ofNat total)
    if 2 ≤ l.state.version then
      let buf := buf ++ toBe32 muxMagic ++ toBe16 state.txSeq ++ toBe16 state.rxSeq
      writeTx { l with state := { state with txSeq := state.txSeq + 1 } } id
        (buf ++ header ++ payload)
    else writeTx { l with state } id (buf ++ header ++ payload)

/-- The 20 bytes `send_tcp` puts in front of the payload. -/
def tcpHeader (conn : Connection) (flags : UInt8) : Bytes :=
  toBe16 conn.sport ++ toBe16 conn.dport ++ toBe32 conn.txSeq ++ toBe32 conn.txAck ++
    [(UInt8.ofNat tcpHeaderSize / 4) <<< 4, flags] ++
    -- the window is a 256-byte-granular u16
    toBe16 (conn.free >>> 8).toUInt16 ++
    -- checksum and urgent pointer
    [0, 0, 0, 0]

def sendTcp (l : Link) (conn : Connection) (flags : UInt8) (payload : Bytes) :
    Except IoError Unit × Link :=
  sendRaw l conn.id .tcp (tcpHeader conn flags) payload false

def sendVersion (l : Link) (major minor : UInt32) : Except IoError Unit × Link :=
  sendRaw l 0 .version (toBe32 major ++ toBe32 minor ++ toBe32 0) [] false

/-! ### Flushing -/

/-- One turn of the `while` loop in `flush_pending`. -/
def flushTurn (s : Link × Connection) :
    Turn (Link × Connection) (Except IoError Unit × Link × Connection) :=
  let (l, conn) := s
  if conn.pendingTx.isEmpty then .leave (.ok (), l, conn)
  else
    let inflight := conn.txSeq - conn.rxAck
    if conn.rxWin ≤ inflight then .leave (.ok (), l, conn)
    else
      let available := (conn.rxWin - inflight).toNat
      let chunkLen := min (min conn.pendingTx.length maxPayload) available
      if chunkLen = 0 then .leave (.ok (), l, conn)
      else
        let chunk := conn.pendingTx.take chunkLen
        let conn := { conn with pendingTx := conn.pendingTx.drop chunkLen }
        match sendTcp l conn TcpFlags.ack chunk with
        | (.error e, l) => .leave (.error e, l, conn)
        | (.ok (), l) => .again (l, { conn with txSeq := conn.txSeq + UInt32.ofNat chunkLen })

/-- Every turn that goes round again takes bytes off `pendingTx`. -/
theorem flushTurn_lowers : Lowers flushTurn (fun s => s.2.pendingTx.length) := by
  rintro ⟨l, conn⟩ ⟨l', conn'⟩ h
  simp only [flushTurn] at h
  split at h
  · cases h
  split at h
  · cases h
  split at h
  · cases h
  rename_i hne
  split at h
  · cases h
  · cases h
    simp only [List.length_drop]
    omega

/-- The `while` loop, which every turn shortens the queue for. -/
def flushLoop (l : Link) (conn : Connection) : Except IoError Unit × Link × Connection :=
  whileLoop flushTurn (fun s => s.2.pendingTx.length) flushTurn_lowers (l, conn)

def flushPending (l : Link) (conn : Connection) : Except IoError Unit × Link × Connection :=
  match flushLoop l conn with
  | (.error e, l, conn) => (.error e, l, conn)
  | (.ok (), l, conn) =>
    if conn.txPause && conn.pendingTx.length < txLowWater then
      (.ok (), (l.emit conn.id (.storePause false)).emit conn.id .notifyOne,
        { conn with txPause := false })
    else (.ok (), l, conn)

/-! ### The loop's own state -/

inductive Phase
  | running
  /-- The loop has been left and the RSTs to these sports are still to be sent; `[]` is a
  loop that has returned. -/
  | closing (rest : List UInt16)
  deriving DecidableEq, Repr

/-- The locals of `run` inside its loop. `ports` lists the sports handed out so far. -/
structure Mux where
  link : Link
  connections : UInt16 → Option Connection := fun _ => none
  nextSport : UInt16 := 1
  ports : List UInt16 := []
  phase : Phase := .running

/-- The entry at `sport` and the link, after a branch has worked on both. -/
def Mux.put (m : Mux) (link : Link) (sport : UInt16) (conn : Connection) : Mux :=
  { m with link, connections := Function.update m.connections sport (some conn) }

/-- What dropping an entry does to the other ends of its channels. -/
def Connection.dropped (conn : Connection) (l : Link) : Link :=
  let l := if conn.rxTx then l.emit conn.id .dropRxTx else l
  if conn.connectReply then l.emit conn.id .dropReply else l

/-- `connections.insert`, which drops the value it replaces. -/
def Mux.insert (m : Mux) (link : Link) (sport : UInt16) (conn : Connection) : Mux :=
  match m.connections sport with
  | some old => m.put (old.dropped link) sport conn
  | none => m.put link sport conn

/-- What `teardown` does with the entry it has taken out of the map. -/
def Connection.tornDown (conn : Connection) (l : Link) : Link :=
  let l := if conn.rxTx then l.emit conn.id .dropRxTx else l
  if conn.connectReply then l.emit conn.id (.reply (.error .refusedOrClosed)) else l

def teardown (m : Mux) (sport : UInt16) : Mux :=
  match m.connections sport with
  | none => m
  | some conn =>
    { m with
      link := conn.tornDown m.link
      connections := Function.update m.connections sport none }

/-! ### Packets from the device -/

/-- A packet for a connection still waiting for its SYN/ACK. -/
def handleConnecting (m : Mux) (conn : Connection) (th : ParsedTcp) (payload : Bytes) :
    Except IoError Unit × Mux :=
  let ourSport := th.dstPort
  if th.flags = TcpFlags.syn ||| TcpFlags.ack then
    let conn := { conn with txSeq := conn.txSeq + 1, txAck := conn.txAck + 1 }
    match sendTcp m.link conn TcpFlags.ack [] with
    | (.error e, l) => (.error e, m.put l ourSport conn)
    | (.ok (), l) =>
      let conn := { conn with state := .connected, rxTx := true }
      let l := l.emit conn.id (.spawn conn.sport)
      if conn.connectReply then
        (.ok (), m.put (l.emit conn.id (.reply (.ok ()))) ourSport
          { conn with connectReply := false })
      else (.ok (), m.put l ourSport conn)
  else if conn.connectReply then
    let l := m.link.emit conn.id (.reply (.error (.deviceRefused th.flags payload)))
    (.ok (), teardown (m.put l ourSport { conn with connectReply := false }) ourSport)
  else (.ok (), teardown (m.put m.link ourSport conn) ourSport)

/-- The end of the plain-ACK branch: flush, then finish writing before closing. -/
def flushAndClose (m : Mux) (l : Link) (conn : Connection) (ourSport : UInt16) :
    Except IoError Unit × Mux :=
  match flushPending l conn with
  | (.error e, l, conn) => (.error e, m.put l ourSport conn)
  | (.ok (), l, conn) =>
    if conn.clientClosed && txDrained conn then
      match sendTcp l conn TcpFlags.rst [] with
      | (.error e, l) => (.error e, m.put l ourSport conn)
      | (.ok (), l) => (.ok (), teardown (m.put l ourSport conn) ourSport)
    else (.ok (), m.put l ourSport conn)

/--
A packet for a connected entry.  `alive` says whether the forwarder still holds the
receiving half of its queue, which is what `tx.send(..).is_ok()` tells.
-/
def handleConnected (m : Mux) (alive : Bool) (conn : Connection) (th : ParsedTcp)
    (payload : Bytes) : Except IoError Unit × Mux :=
  let ourSport := th.dstPort
  if th.flags &&& TcpFlags.rst ≠ 0 then
    (.ok (), teardown (m.put m.link ourSport conn) ourSport)
  else if th.flags ≠ TcpFlags.ack then
    (.ok (), teardown (m.put m.link ourSport conn) ourSport)
  else if payload.isEmpty then
    flushAndClose m m.link conn ourSport
  else
    let len := UInt32.ofNat payload.length
    let delivered := conn.rxTx && alive
    if delivered then
      let l := m.link.emit conn.id (.chunk payload)
      let conn :=
        { conn with
          rxBuffered := saturatingAdd conn.rxBuffered len
          txAck := conn.txAck + len }
      match sendTcp l conn TcpFlags.ack [] with
      | (.error e, l) => (.error e, m.put l ourSport conn)
      | (.ok (), l) => flushAndClose m l conn ourSport
    else
      (.ok (), teardown (m.put (sendTcp m.link conn TcpFlags.rst []).2 ourSport conn) ourSport)

/-- The TCP branch of `handle_incoming`. -/
def handleTcp (m : Mux) (alive : Nat → Bool) (th : ParsedTcp) (payload : Bytes) :
    Except IoError Unit × Mux :=
  let ourSport := th.dstPort
  let ourDport := th.srcPort
  match m.connections ourSport with
  | none =>
    if th.flags &&& TcpFlags.rst = 0 then
      let anon := Connection.anon ourSport ourDport th.seq
      (.ok (), { m with link := (sendTcp m.link anon TcpFlags.rst []).2 })
    else (.ok (), m)
  | some conn =>
    let conn :=
      { conn with rxSeq := th.seq, rxAck := th.ack, rxWin := th.window.toUInt32 <<< 8 }
    match conn.state with
    | .connecting => handleConnecting m conn th payload
    | .connected => handleConnected m (alive conn.id) conn th payload
    | .dead => (.ok (), m.put m.link ourSport conn)

def handleIncoming (m : Mux) (alive : Nat → Bool) (pkt : Bytes) : Except IoError Unit × Mux :=
  match splitTcp m.link.state.version pkt with
  | .error e => (.error e, m)
  -- CONTROL, VERSION and unknown protocols are only logged
  | .ok none => (.ok (), m)
  | .ok (some (th, payload)) => handleTcp m alive th payload

/-! ### The branches of the loop -/

/-- `Command::Connect`. -/
def onConnect (m : Mux) (port : UInt16) : Mux :=
  let sport := m.nextSport
  let conn := Connection.new (m.ports.length + 1) sport port
  let m := { m with nextSport := max (sport + 1) 1, ports := m.ports ++ [sport] }
  match sendTcp m.link conn TcpFlags.syn [] with
  | (.error e, l) => { m with link := l.emit conn.id (.reply (.error e)) }
  | (.ok (), l) => m.insert l sport conn

/-- A message from a pump. -/
def onRxData (m : Mux) (sport : UInt16) (payload : Option Bytes) : Mux :=
  match m.connections sport with
  | none => m
  | some conn =>
    if conn.state ≠ .connected then m
    else
      match payload with
      | some bytes =>
        match flushPending m.link { conn with pendingTx := conn.pendingTx ++ bytes } with
        | (.error _, l, conn) => teardown (m.put l sport conn) sport
        | (.ok (), l, conn) =>
          if txHighWater < conn.pendingTx.length then
            m.put (l.emit conn.id (.storePause true)) sport { conn with txPause := true }
          else m.put l sport conn
      | none =>
        match flushPending m.link { conn with clientClosed := true } with
        | (.error _, l, conn) =>
          teardown (m.put (sendTcp l conn TcpFlags.rst []).2 sport conn) sport
        | (.ok (), l, conn) =>
          if txDrained conn then
            teardown (m.put (sendTcp l conn TcpFlags.rst []).2 sport conn) sport
          else m.put l sport conn

/-- A drain notice from a forwarder. -/
def onDrained (m : Mux) (sport : UInt16) (n : UInt32) : Mux :=
  match m.connections sport with
  | none => m
  | some conn =>
    let before := conn.free
    let conn := { conn with rxBuffered := saturatingSub conn.rxBuffered n }
    let after := conn.free
    if conn.state = .connected ∧ before < UInt32.ofNat maxPayload ∧
        UInt32.ofNat maxPayload ≤ after then
      m.put (sendTcp m.link conn TcpFlags.ack []).2 sport conn
    else m.put m.link sport conn

/-- A packet from the reader task. -/
def onPacket (m : Mux) (alive : Nat → Bool) (pkt : Bytes) : Mux :=
  let m :=
    if h : 2 ≤ m.link.state.version ∧ v2HeaderSize ≤ pkt.length then
      { m with
        link := { m.link with state := { m.link.state with rxSeq := u16At pkt 14 h.2 } } }
    else m
  (handleIncoming m alive pkt).2

/-- One turn of the best-effort RST loop behind the main loop. -/
def closeNext (m : Mux) : Mux :=
  match m.phase with
  | .closing (sport :: rest) =>
    let m := { m with phase := .closing rest }
    match m.connections sport with
    | some conn => teardown { m with link := (sendTcp m.link conn TcpFlags.rst []).2 } sport
    | none => teardown m sport
  | _ => m

inductive Event
  | connect (port : UInt16)
  | rxData (sport : UInt16) (payload : Option Bytes)
  | drained (sport : UInt16) (n : UInt32)
  | packet (pkt : Bytes) (alive : Nat → Bool)
  /-- Shutdown, every handle gone, a read failure or the end of the reader task; `order`
  is the order in which the map yields its keys. -/
  | stop (order : List UInt16)
  | closeNext

def Mux.handle (m : Mux) : Event → Mux
  | .connect port => onConnect m port
  | .rxData sport payload => onRxData m sport payload
  | .drained sport n => onDrained m sport n
  | .packet pkt alive => onPacket m alive pkt
  | .stop order => { m with phase := .closing order }
  | .closeNext => Netmuxd.closeNext m

/-- Whether the loop is at the point where it can take this event. -/
def Event.ready (m : Mux) : Event → Bool
  | .closeNext =>
    match m.phase with
    | .closing (_ :: _) => true
    | _ => false
  | _ => m.phase = .running

/-- What the map guarantees about the order it yields its keys in. -/
def Event.Valid (m : Mux) : Event → Prop
  | .stop order => order.Nodup ∧ ∀ p, p ∈ order ↔ (m.connections p).isSome = true
  | _ => True

def Mux.next (m : Mux) (ev : Event) : Option Mux :=
  if ev.ready m then some (m.handle ev) else none

def Mux.Step (m : Mux) (ev : Event) (m' : Mux) : Prop :=
  m.next ev = some m' ∧ ev.Valid m

/-! ### The handshake -/

/-- `run` up to its loop, for a first frame `pkt` from the device. -/
def handshake (writeLeft : Option Nat) (pkt : Bytes) : Except IoError Link :=
  match sendVersion { writeLeft } 2 0 with
  | (.error e, _) => .error e
  | (.ok (), l) =>
    match hp : parseHeader pkt l.state.version with
    | .error e => .error e
    | .ok parsed =>
      if parsed.protocol ≠ Proto.version.toU32 then .error (.expectedVersion parsed.protocol)
      else
        let payload := sliceFrom pkt (muxHeaderSize l.state.version) (parseHeader_length hp)
        if h : payload.length < 12 then .error .versionTooShort
        else
          let major := u32At payload 0 (by omega)
          let minor := u32At payload 4 (by omega)
          if major ≠ 2 then .error (.unsupportedVersion major minor)
          else
            let l := { l with state := { l.state with version := 2 } }
            match sendRaw l 0 .setup [] [0x07] true with
            | (.error e, _) => .error e
            | (.ok (), l) => .ok l

/-- The loop as it is entered after a handshake that left `link` behind. -/
def Mux.start (link : Link) : Mux :=
  { link }

end Netmuxd
