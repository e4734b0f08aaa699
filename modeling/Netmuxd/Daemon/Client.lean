/-
Serving a client, `handle_stream` of `src/main.rs` and `src/upstream.rs`.

A connection's task reads one request after the other and serves it, until it returns and
with that drops the socket.  `handleStream` is one turn of its loop.  Requests to the
manager, upstream's answers and what becomes of the device's connection are answers to
calls, so a turn says what is done whatever they are.
-/
import Netmuxd.Daemon.PairingFile

namespace Netmuxd

open Lib Client

/-! ### The upstream muxer -/

/-- One usbmuxd frame, header and body. -/
def readFrame : Client (Option Bytes) := do
  let some header ← readUpstream packetHeaderSize | return none
  let size := (sizeField header.toList).toNat
  if size < packetHeaderSize then return none
  let some body ← readUpstream (size - packetHeaderSize) | return none
  return some (header.toList ++ body.toList)

/-- The single frame upstream answers a request with. -/
def forwardToUpstream (request : Bytes) : Client (Option Bytes) := do
  unless ← connectUpstream do return none
  unless ← writeUpstream request do return none
  readFrame

/-- The array under `DeviceList`, empty if there is none. -/
def Dictionary.deviceList (p : Dictionary) : List Value :=
  match p.get "DeviceList" with
  | some (.array a) => a
  | _ => []

section
variable {PairingFile : Type} (idevice : Idevice PairingFile)

/-- Upstream's device list, with the network devices appended to it. -/
def listDevicesMerged (request : Bytes) (networkDevices : List Value) (tag : UInt32) :
    Client (Option Bytes) := do
  unless ← connectUpstream do return none
  unless ← writeUpstream request do return none
  let some frame ← readFrame | return none
  let some parsed := idevice.parse frame | return none
  let list := parsed.plist.deviceList ++ networkDevices
  return some (idevice.bytes (idevice.intoPacket (.deviceList list) tag))

/-! ### Replies -/

/-- What has become of a connection. -/
inductive ClientEnding
  | closed
  | listening
  /-- It was a tunnel to a device. -/
  | tunnelled

/-- A client that cannot be answered is given up, else the next request is awaited. -/
def reply (frame : Bytes) : Client (Option ClientEnding) := do
  unless ← writeAll frame do return some .closed
  return none

def resultFrame (n : UInt32) (tag : UInt32) : Bytes :=
  idevice.bytes (idevice.intoPacket (.result n) tag)

/-- A Connect that cannot be served: the next request is awaited in any case. -/
def refuse (tag : UInt32) : Client (Option ClientEnding) := do
  let _ ← writeAll (resultFrame idevice 1 tag)
  return none

/-- A request is passed on to upstream if there is one, and is served by `fallback` if
there is none or it does not answer. -/
def forwardOr (upstream : Bool) (buffer : Bytes) (fallback : Client (Option ClientEnding)) :
    Client (Option ClientEnding) := do
  if upstream then
    match ← forwardToUpstream buffer with
    | some frame => reply frame
    | none => fallback
  else fallback

/-! ### netmuxd's own requests -/

/-- What the manager is to be asked, if the packet has all that it takes. -/
def addDeviceRequest (parsed : RawPacket) : Option ManagerRequestType := do
  let connectionType ← parsed.plist.getString "ConnectionType"
  let serviceName ← parsed.plist.getString "ServiceName"
  let ipAddress ← parsed.plist.getString "IPAddress"
  let ipAddress ← idevice.parseIp ipAddress
  let udid ← parsed.plist.getString "DeviceID"
  return .discoveredNetworkDevice udid ipAddress serviceName connectionType

/-- A network device that the client has discovered itself. -/
def handleAddDevice (parsed : RawPacket) : Client Unit := do
  let some requestType := addDeviceRequest idevice parsed | return ()
  let some res ← request requestType | return ()
  let _ ← writeAll (idevice.bytes { version := 1, message := 8, tag := parsed.tag, plist := res })

def handleRemoveDevice (parsed : RawPacket) : Client Unit := do
  let some udid := parsed.plist.getString "DeviceID" | return ()
  let _ ← Client.removeDevice udid

/-! ### usbmuxd's requests -/

variable (finder : PairingFileFinder) (upstream : Bool)

def serveListDevices (buffer : Bytes) (tag : UInt32) : Client (Option ClientEnding) := do
  let some res ← request .listDevices | return some .closed
  let own := idevice.bytes { version := 1, message := 8, tag, plist := res }
  if upstream then
    match ← listDevicesMerged idevice buffer res.deviceList tag with
    | some out => reply out
    | none => reply own
  else reply own

/-- `run_listen` up to its loop, which only tells of devices. -/
def runListen (listenTag : UInt32) : Client (Option ClientEnding) := do
  unless ← writeAll (resultFrame idevice 0 listenTag) do return some .closed
  unless ← Client.subscribe do return some .closed
  return some .listening

def readPairRecord (pairRecordId : String) (tag : UInt32) : Client (Option ClientEnding) := do
  let some pairFile ← finder.getPairingRecord idevice pairRecordId | return some .closed
  let some pairFile := idevice.serialize pairFile | return some .closed
  reply (idevice.bytes (idevice.intoPacket (.pairRecord pairFile) tag))

/-- The UDID a pairing record is saved under: without a PairRecordID the device's. -/
def saveUdid (pairRecordId : Option String) (deviceId : Option UInt64) :
    Client (Option String) := do
  match pairRecordId, deviceId with
  | some udid, _ => return some udid
  | none, none => return none
  | none, some deviceId =>
    let some (some c) ← Client.getDeviceConnection deviceId | return none
    return some c.serialNumber

def savePairRecord (pairRecordId : Option String) (deviceId : Option UInt64)
    (pairRecordData : Bytes) (tag : UInt32) : Client (Option ClientEnding) := do
  let some udid ← saveUdid pairRecordId deviceId | return some .closed
  let path := finder.join (udid ++ ".plist")
  createParent path
  let saved ← writeFile path pairRecordData
  reply (resultFrame idevice (if saved then 0 else 1) tag)

def readBuid (tag : UInt32) : Client (Option ClientEnding) := do
  let some buid ← finder.getBuid idevice | return some .closed
  reply (idevice.bytes (idevice.intoPacket (.buid buid) tag))

/-- Whether there is a connection to the device's port. -/
def dialDevice (lookup : DeviceConnection) (port : UInt16) : Client Bool := do
  if lookup.connectionType = "Network" then
    match lookup.networkAddress with
    | some addr => connectTcp addr port
    | none => return false
  else if lookup.connectionType = "USB" then
    match lookup.usb with
    | some handle => connectUsb handle port
    | none => return false
  else return false

def connect (deviceId : UInt64) (port : UInt16) (buffer : Bytes) (tag : UInt32) :
    Client (Option ClientEnding) := do
  -- upstream's devices: its Result and the tunnel flow back over the splice
  if upstream && deviceId < shimNetworkIdBase then
    unless ← connectUpstream do return ← refuse idevice tag
    unless ← writeUpstream buffer do return ← refuse idevice tag
    copyBidirectional
    return some .tunnelled
  let some lookup ← Client.getDeviceConnection deviceId | return some .closed
  let some lookup := lookup | refuse idevice tag
  unless ← dialDevice lookup port do return ← refuse idevice tag
  unless ← writeAll (resultFrame idevice 0 tag) do return some .closed
  -- a dead manager panics the task
  unless ← Client.openSocket deviceId do return some .closed
  copyBidirectional
  return some .tunnelled

def serve (buffer : Bytes) (tag : UInt32) : UsbmuxdServerRequest → Client (Option ClientEnding)
  | .listDevices => serveListDevices idevice upstream buffer tag
  | .listen => runListen idevice tag
  | .readPairRecord pairRecordId =>
    forwardOr upstream buffer (readPairRecord idevice finder pairRecordId tag)
  | .savePairRecord pairRecordId deviceId pairRecordData =>
    forwardOr upstream buffer
      (savePairRecord idevice finder pairRecordId deviceId pairRecordData tag)
  | .readBuid => forwardOr upstream buffer (readBuid idevice finder tag)
  | .connect deviceId port => connect idevice upstream deviceId port buffer tag

/-! ### The loop -/

/-- The largest packet taken from a client. -/
def maxPacketSize : Nat := 16 * 1024 * 1024

def readPacket : Client (Option Bytes) := do
  let some header ← readExact packetHeaderSize | return none
  let packetSize := (sizeField header.toList).toNat
  if packetSize < packetHeaderSize ∨ maxPacketSize < packetSize then return none
  if packetSize = packetHeaderSize then return some header.toList
  let some body ← readExact (packetSize - packetHeaderSize) | return none
  return some (header.toList ++ body.toList)

/-- One turn of the loop; `none` is to go on with the next request. -/
def handleStream : Client (Option ClientEnding) := do
  let some buffer ← readPacket | return some .closed
  let some parsed := idevice.parse buffer | return some .closed
  match idevice.decode parsed with
  | .ok request => serve idevice finder upstream buffer parsed.tag request
  | .error (.unknownMessageType messageType) =>
    if messageType = "AddDevice" then
      handleAddDevice idevice parsed
      return some .closed
    else if messageType = "RemoveDevice" then
      handleRemoveDevice parsed
      return some .closed
    -- there is no local equivalent of what is not known here
    else forwardOr upstream buffer (pure none)
  | .error .malformed => return some .closed

/-- A turn of a connection that is still being served. -/
def HandleStream.Step (s : Option ClientEnding) (turn : List (Exchange ClientCall.Answer))
    (s' : Option ClientEnding) : Prop :=
  s = none ∧ (handleStream idevice finder upstream).Runs turn s'

end

end Netmuxd
