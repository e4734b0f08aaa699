/-
The mux loop together with the tasks around it.

An accepted connection has a pump (client to loop) and a forwarder (loop to
client), joined to the client by a `tokio::io::duplex` pipe.  A task is a small
state machine whose states are the places where its code waits.  The loop reaches
a task only through what it shares with it, and that is read off the loop's log of
effects: the value of the pause flag, how often the task was notified, the chunks
put on the forwarder's queue.  The tasks reach the loop through two channels.

Of tokio the model uses this: `DuplexStream` is a pair of bounded buffers, each of
which reports end of stream once it is empty and closed; it closes when its writer
shuts down or either end is dropped; the two halves of a split stream keep it alive
until both are gone; `notify_one` leaves one permit behind for `notified`; channels
are FIFO and a send into a closed channel fails.
-/
import Netmuxd.Usb.Mux

namespace Netmuxd

/-! ### What the log says about one connection -/

/-- The acts for connection `i`, oldest first. -/
def actsOf (i : Nat) (out : List Effect) : List Act :=
  out.filterMap fun e => if e.id = i then some e.act else none

def Act.spawn? : Act → Option UInt16
  | .spawn sport => some sport
  | _ => none

/-- The sport the tasks were spawned with, if they were. -/
def spawnedAs (h : List Act) : Option UInt16 :=
  h.findSome? Act.spawn?

def Act.pause? : Act → Option Bool
  | .storePause b => some b
  | _ => none

/-- The value in the pause flag: the last one stored, `false` before any store. -/
def pauseFlag (h : List Act) : Bool :=
  ((h.filterMap Act.pause?).getLast?).getD false

def Act.isNotify : Act → Bool
  | .notifyOne => true
  | _ => false

def notifyCount (h : List Act) : Nat :=
  h.countP Act.isNotify

def Act.chunk? : Act → Option Bytes
  | .chunk payload => some payload
  | _ => none

/-- Everything ever put on the forwarder's queue. -/
def chunks (h : List Act) : List Bytes :=
  h.filterMap Act.chunk?

def Act.isDropRxTx : Act → Bool
  | .dropRxTx => true
  | _ => false

def rxTxDropped (h : List Act) : Bool :=
  h.any Act.isDropRxTx

/-! ### Pipes -/

/-- `poll_read` on one direction of a duplex pipe: the bytes read and those left. -/
def pollRead (buf : Bytes) (closed : Bool) (max : Nat) : Option (Bytes × Bytes) :=
  if buf.isEmpty then
    if closed then some ([], []) else none
  else some (buf.take max, buf.drop max)

/-- `poll_write` on one direction: an error when it is closed, else how much fits. -/
def pollWrite (buf : Bytes) (closed : Bool) (data : Bytes) : Except Unit (Option Nat) :=
  if closed then .error ()
  else if duplexBuf ≤ buf.length then .ok none
  else .ok (some (min data.length (duplexBuf - buf.length)))

/-! ### Tasks -/

/-- Where a pump is. -/
inductive Pump
  /-- About to load `tx_pause`. -/
  | check
  /-- In `tx_resume.notified()`. -/
  | waiting
  /-- In `our_read.read(&mut buf)`. -/
  | reading
  /-- In `tx_data.send((sport, msg))`. -/
  | sending (msg : Option Bytes)
  | done
  deriving DecidableEq, Repr

/-- Where a forwarder is. -/
inductive Forwarder
  /-- In `rx_rx.recv()`. -/
  | receiving
  /-- In `our_write.write_all(&chunk)`, with `rest` of a chunk of `n` bytes to go. -/
  | writing (n : UInt32) (rest : Bytes)
  /-- About to report a chunk of `n` bytes on `drain_tx`. -/
  | reporting (n : UInt32)
  | done
  deriving DecidableEq, Repr

/--
The two tasks of a connection and its client's pipe.  `toMux` and `toClient` are
the two directions of the pipe.  `notified` is how many of the `notify_one` calls
the pump has used up, `received` how many chunks the forwarder has taken, and
`written` is the history of what the client has put into the pipe.
-/
structure Task where
  pump : Pump := .check
  forwarder : Forwarder := .receiving
  toMux : Bytes := []
  toClient : Bytes := []
  /-- The client has shut down its writing side, or dropped its end. -/
  clientShut : Bool := false
  clientDropped : Bool := false
  notified : Nat := 0
  received : Nat := 0
  written : Bytes := []

/-- Both halves of the split pipe are gone, so the mux's end is. -/
def Task.ourSideDropped (t : Task) : Prop :=
  t.pump = .done ∧ t.forwarder = .done

instance (t : Task) : Decidable t.ourSideDropped :=
  inferInstanceAs (Decidable (_ ∧ _))

/-- What the client's next read of at most `max` bytes returns, if it returns. -/
def Task.clientRead (t : Task) (max : Nat) : Option (Bytes × Bytes) :=
  pollRead t.toClient (t.clientDropped || decide t.ourSideDropped) max

/-! ### The system -/

/-- A message on `tx_data`, with the connection whose pump put it there. -/
structure Message where
  src : Nat
  sport : UInt16
  body : Option Bytes
  deriving DecidableEq, Repr

/-- A message on `drain_tx`, with the connection whose forwarder put it there. -/
structure Notice where
  src : Nat
  sport : UInt16
  n : UInt32
  deriving DecidableEq, Repr

/-- A TCP packet the loop has handled for connection `id`. -/
structure Received where
  id : Nat
  th : ParsedTcp
  payload : Bytes
  deriving DecidableEq, Repr

/--
The loop, its two internal channels and all tasks; `tasks i` means something only
once connection `i` has been spawned.  `taken`, `settled` and `inbox` are histories:
the messages, drain notices and packets for a listed connection that the loop has
taken so far.
-/
structure Sys where
  mux : Mux
  txData : List Message := []
  drains : List Notice := []
  tasks : Nat → Task := fun _ => {}
  taken : List Message := []
  settled : List Notice := []
  inbox : List Received := []

namespace Sys

def acts (s : Sys) (i : Nat) : List Act :=
  actsOf i s.mux.link.out

/-- Whether `run` has returned, which drops the receivers of both channels. -/
def returned (s : Sys) : Prop :=
  s.mux.phase = .closing []

instance (s : Sys) : Decidable s.returned :=
  inferInstanceAs (Decidable (_ = _))

def setTask (s : Sys) (i : Nat) (t : Task) : Sys :=
  { s with tasks := Function.update s.tasks i t }

/-- The capacity of the `tx_data` channel. -/
def txDataCap : Nat := 64

/-- One step of pump `i`, spawned for `sport`. -/
def pumpStep (s : Sys) (i : Nat) (sport : UInt16) : Option Sys :=
  let t := s.tasks i
  match t.pump with
  | .check =>
    some (s.setTask i { t with pump := if pauseFlag (s.acts i) then .waiting else .reading })
  | .waiting =>
    if t.notified < notifyCount (s.acts i) then
      some (s.setTask i { t with pump := .check, notified := notifyCount (s.acts i) })
    else none
  | .reading =>
    match pollRead t.toMux t.clientShut maxPayload with
    | none => none
    | some (buf, rest) =>
      some (s.setTask i
        { t with pump := .sending (if buf.isEmpty then none else some buf), toMux := rest })
  | .sending msg =>
    if s.returned then some (s.setTask i { t with pump := .done })
    else if s.txData.length < txDataCap then
      some { s.setTask i { t with pump := if msg.isNone then .done else .check } with
        txData := s.txData ++ [⟨i, sport, msg⟩] }
    else none
  | .done => none

/-- One step of forwarder `i`, spawned for `sport`. -/
def forwarderStep (s : Sys) (i : Nat) (sport : UInt16) : Option Sys :=
  let t := s.tasks i
  match t.forwarder with
  | .receiving =>
    match (chunks (s.acts i))[t.received]? with
    | some chunk =>
      some (s.setTask i
        { t with
          forwarder := .writing (UInt32.ofNat chunk.length) chunk
          received := t.received + 1 })
    | none =>
      if rxTxDropped (s.acts i) then some (s.setTask i { t with forwarder := .done }) else none
  | .writing n rest =>
    if rest.isEmpty then some (s.setTask i { t with forwarder := .reporting n })
    else
      match pollWrite t.toClient t.clientDropped rest with
      | .error () => some (s.setTask i { t with forwarder := .done })
      | .ok none => none
      | .ok (some k) =>
        some (s.setTask i
          { t with
            forwarder := .writing n (rest.drop k)
            toClient := t.toClient ++ rest.take k })
  | .reporting n =>
    if s.returned then some (s.setTask i { t with forwarder := .done })
    else
      some { s.setTask i { t with forwarder := .receiving } with
        drains := s.drains ++ [⟨i, sport, n⟩] }
  | .done => none

/-- The forwarders that still hold the receiving half of their queue. -/
def alive (s : Sys) (i : Nat) : Bool :=
  (s.tasks i).forwarder ≠ .done

/-- The listed connection a packet is handled for, with its header and payload. -/
def addressee (m : Mux) (pkt : Bytes) : Option (Connection × ParsedTcp × Bytes) :=
  match tcpOf pkt with
  | none => none
  | some (th, payload) => (m.connections th.dstPort).map fun conn => (conn, th, payload)

/-- What a packet adds to the history of handled packets. -/
def received (m : Mux) (pkt : Bytes) : List Received :=
  match addressee m pkt with
  | none => []
  | some (conn, th, payload) => [⟨conn.id, th, payload⟩]

end Sys

inductive Action
  | connect (port : UInt16)
  | takeData
  | takeDrained
  | packet (pkt : Bytes)
  | stop (order : List UInt16)
  | closeNext
  | pump (i : Nat)
  | forwarder (i : Nat)
  /-- The client of connection `i` writes, as much of `data` as fits. -/
  | clientWrite (i : Nat) (data : Bytes)
  | clientRead (i : Nat) (max : Nat)
  | clientShutdown (i : Nat)
  | clientDrop (i : Nat)
  deriving DecidableEq, Repr

namespace Sys

/-- The event the loop takes in this action, for the actions that are the loop's. -/
def event (s : Sys) : Action → Option Event
  | .connect port => some (.connect port)
  | .takeData => s.txData.head?.map fun msg => .rxData msg.sport msg.body
  | .takeDrained => s.drains.head?.map fun d => .drained d.sport d.n
  | .packet pkt => some (.packet pkt s.alive)
  | .stop order => some (.stop order)
  | .closeNext => some .closeNext
  | _ => none

/-- What an action of the loop does besides changing the loop's own state. -/
def consume (s : Sys) : Action → Sys
  | .takeData =>
    { s with txData := s.txData.tail, taken := s.taken ++ s.txData.head?.toList }
  | .takeDrained =>
    { s with drains := s.drains.tail, settled := s.settled ++ s.drains.head?.toList }
  | .packet pkt => { s with inbox := s.inbox ++ received s.mux pkt }
  | _ => s

/-- A step of a task or a client, for a connection that has been spawned. -/
def taskNext (s : Sys) : Action → Option Sys
  | .pump i => (spawnedAs (s.acts i)).bind (s.pumpStep i)
  | .forwarder i => (spawnedAs (s.acts i)).bind (s.forwarderStep i)
  | .clientWrite i data =>
    let t := s.tasks i
    if (spawnedAs (s.acts i)).isNone then none
    else
      match pollWrite t.toMux (t.clientShut || decide t.ourSideDropped) data with
      | .ok (some k) =>
        some (s.setTask i
          { t with toMux := t.toMux ++ data.take k, written := t.written ++ data.take k })
      | _ => none
  | .clientRead i max =>
    let t := s.tasks i
    if (spawnedAs (s.acts i)).isNone || t.clientDropped then none
    else (t.clientRead max).map fun r => s.setTask i { t with toClient := r.2 }
  | .clientShutdown i =>
    if (spawnedAs (s.acts i)).isNone then none
    else some (s.setTask i { s.tasks i with clientShut := true })
  | .clientDrop i =>
    if (spawnedAs (s.acts i)).isNone then none
    else some (s.setTask i { s.tasks i with clientShut := true, clientDropped := true })
  | _ => none

/-- One step of the system: the loop takes an event, or a task or a client moves. -/
def next (s : Sys) (a : Action) : Option Sys :=
  match s.event a with
  | some ev => (s.mux.next ev).map fun m => { s.consume a with mux := m }
  | none => s.taskNext a

def Step (s : Sys) (a : Action) (s' : Sys) : Prop :=
  s.next a = some s' ∧ ∀ ev, s.event a = some ev → ev.Valid s.mux

/-- The system once the handshake has left `link` behind. -/
def start (link : Link) : Sys :=
  { mux := Mux.start link }

end Sys

end Netmuxd
