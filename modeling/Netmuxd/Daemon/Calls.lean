/-
What serving a client takes from outside.

`handle_stream` awaits its client's socket, the manager, the upstream muxer, the device
and the file system.  Each such operation is a call here, and its answer is what comes of
it.  What an operation fails with only reaches the log, so a failure is `none` or `false`.

The crates idevice and plist are not part of the repository.  What is used of them is a
parameter, `Idevice`.
-/
import Netmuxd.Daemon.Manager
import Netmuxd.Lib.Path
import Netmuxd.Lib.Talk

namespace Netmuxd

open Lib

/-! ### Packets -/

/-- `u32::from_le_bytes` of the first four bytes. -/
def u32FromLe : Bytes → UInt32
  | a :: b :: c :: d :: _ =>
    UInt32.ofNat (a.toNat + b.toNat * 256 + c.toNat * 65536 + d.toNat * 16777216)
  | _ => 0

/-- A usbmuxd packet starts with its size, its version, its message and its tag. -/
def packetHeaderSize : Nat := 16

def sizeField (packet : Bytes) : UInt32 :=
  u32FromLe packet

def tagField (packet : Bytes) : UInt32 :=
  u32FromLe (packet.drop 12)

structure RawPacket where
  version : UInt32
  message : UInt32
  tag : UInt32
  plist : Dictionary

inductive UsbmuxdServerRequest
  | listDevices
  | listen
  | readPairRecord (pairRecordId : String)
  | savePairRecord (pairRecordId : Option String) (deviceId : Option UInt64)
      (pairRecordData : Bytes)
  | readBuid
  | connect (deviceId : UInt64) (port : UInt16)

inductive UsbmuxdServerResponse
  | result (n : UInt32)
  | deviceList (devices : List Value)
  | pairRecord (data : Bytes)
  | buid (buid : String)

inductive DecodeError
  | unknownMessageType (messageType : String)
  | malformed

/-- What is used of the crates idevice and plist, and of the parser of addresses. -/
structure Idevice (PairingFile : Type) where
  /-- `RawPacket::try_from`. -/
  parse : Bytes → Option RawPacket
  /-- `Vec<u8>::from`. -/
  bytes : RawPacket → Bytes
  /-- `UsbmuxdServerRequest::decode`. -/
  decode : RawPacket → Except DecodeError UsbmuxdServerRequest
  /-- `UsbmuxdServerResponse::into_packet`. -/
  intoPacket : UsbmuxdServerResponse → UInt32 → RawPacket
  /-- `PairingFile::from_bytes`. -/
  pairingFile : Bytes → Option PairingFile
  serialize : PairingFile → Option Bytes
  /-- `plist::from_bytes`. -/
  plist : Bytes → Option Dictionary
  /-- `plist::to_writer_xml`. -/
  xml : Dictionary → Option Bytes
  parseIp : String → Option IpAddr

/-! ### Calls -/

inductive ClientCall
  -- the client's socket
  | readExact (n : Nat)
  | writeAll (bytes : Bytes)
  /-- Bytes are copied both ways, until an end stops or the tunnel is killed. -/
  | copyBidirectional
  -- the manager
  /-- A request sent with a channel for its response. -/
  | request (requestType : ManagerRequestType)
  | getDeviceConnection (id : UInt64)
  | removeDevice (udid : String)
  | openSocket (deviceId : UInt64)
  | subscribe
  -- the upstream muxer
  | connectUpstream
  | writeUpstream (bytes : Bytes)
  | readUpstream (n : Nat)
  -- the device
  | connectTcp (addr : IpAddr) (port : UInt16)
  | connectUsb (handle : UsbMuxHandle) (port : UInt16)
  -- the file system
  | pathExists (path : Path)
  | openFile (path : Path)
  | readToEnd (path : Path)
  | createDirAll (dir : List Component)
  | writeFile (path : Path) (contents : Bytes)
  | removeFile (path : Path)
  /-- `Uuid::new_v4().to_string()`. -/
  | newUuid

inductive RemoveFile
  | removed
  | notFound
  | failed

@[reducible] def ClientCall.Answer : ClientCall → Type
  | .readExact n | .readUpstream n => Option (Vector UInt8 n)
  | .request _ => Option Dictionary
  | .getDeviceConnection _ => Option (Option DeviceConnection)
  | .readToEnd _ => Option Bytes
  | .removeFile _ => RemoveFile
  | .newUuid => String
  | .copyBidirectional => Unit
  | .createDirAll _ => Unit
  | .writeAll _ | .removeDevice _ | .openSocket _ | .subscribe | .connectUpstream
  | .writeUpstream _ | .connectTcp _ _ | .connectUsb _ _ | .pathExists _ | .openFile _
  | .writeFile _ _ => Bool

abbrev Client := Talk ClientCall.Answer

namespace Client

open Talk

abbrev readExact (n : Nat) : Client (Option (Vector UInt8 n)) := perform (ClientCall.readExact n)
abbrev writeAll (bytes : Bytes) : Client Bool := perform (ClientCall.writeAll bytes)
abbrev copyBidirectional : Client Unit := perform ClientCall.copyBidirectional
abbrev request (requestType : ManagerRequestType) : Client (Option Dictionary) :=
  perform (ClientCall.request requestType)
abbrev getDeviceConnection (id : UInt64) : Client (Option (Option DeviceConnection)) :=
  perform (ClientCall.getDeviceConnection id)
abbrev removeDevice (udid : String) : Client Bool := perform (ClientCall.removeDevice udid)
abbrev openSocket (deviceId : UInt64) : Client Bool := perform (ClientCall.openSocket deviceId)
abbrev subscribe : Client Bool := perform ClientCall.subscribe
abbrev connectUpstream : Client Bool := perform ClientCall.connectUpstream
abbrev writeUpstream (bytes : Bytes) : Client Bool := perform (ClientCall.writeUpstream bytes)
abbrev readUpstream (n : Nat) : Client (Option (Vector UInt8 n)) :=
  perform (ClientCall.readUpstream n)
abbrev connectTcp (addr : IpAddr) (port : UInt16) : Client Bool :=
  perform (ClientCall.connectTcp addr port)
abbrev connectUsb (handle : UsbMuxHandle) (port : UInt16) : Client Bool :=
  perform (ClientCall.connectUsb handle port)
abbrev pathExists (path : Path) : Client Bool := perform (ClientCall.pathExists path)
abbrev openFile (path : Path) : Client Bool := perform (ClientCall.openFile path)
abbrev readToEnd (path : Path) : Client (Option Bytes) := perform (ClientCall.readToEnd path)
abbrev createDirAll (dir : List Component) : Client Unit := perform (ClientCall.createDirAll dir)
abbrev writeFile (path : Path) (contents : Bytes) : Client Bool :=
  perform (ClientCall.writeFile path contents)
abbrev removeFile (path : Path) : Client RemoveFile := perform (ClientCall.removeFile path)
abbrev newUuid : Client String := perform ClientCall.newUuid

end Client

end Netmuxd
