/-
The libusbK backend's view of a device, `src/daemon/libusbk_backend.rs`.

A configuration comes as the blob of its descriptors, each with its length in its
first byte and its type in its second.  `scan_config_blob` walks them once and carries
what it has seen of the interface it is in.  The bytes are the device's, so every read
is written with an operation that fails where Rust's would panic: `none` is an index
out of range.
-/
import Netmuxd.Usb.Checked

namespace Netmuxd.Libusbk

open Lib

/-! ### Constants -/

def usbDescInterface : UInt8 := 0x04
def usbDescEndpoint : UInt8 := 0x05

def endpointDirIn : UInt8 := 0x80
def endpointTypeBulk : UInt8 := 0x02
def endpointTypeMask : UInt8 := 0x03

def interfaceClass : UInt8 := 0xff
def interfaceSubclass : UInt8 := 0xfe
def interfaceProtocol : UInt8 := 0x02

/-! ### The descriptor walk -/

structure MuxTarget where
  configValue : UInt8
  interfaceNumber : UInt8
  epIn : UInt8
  epOut : UInt8
  epOutMaxPacket : UInt16
  deriving DecidableEq, Repr

/-- `u16::from_le_bytes([lo, hi])` -/
def fromLe16 (lo hi : UInt8) : UInt16 :=
  UInt16.ofNat (lo.toNat + hi.toNat * 256)

/-- The locals of `scan_config_blob`; `matched` is its `matches`. -/
structure Scan where
  off : Nat := 0
  intfNum : Option UInt8 := none
  matched : Bool := false
  epIn : Option UInt8 := none
  epOut : Option (UInt8 × UInt16) := none

def finalize (cfgValue : UInt8) (s : Scan) : Option MuxTarget :=
  match s.intfNum, s.epIn, s.epOut with
  | some num, some i, some (o, mps) =>
    some
      { configValue := cfgValue
        interfaceNumber := num
        epIn := i
        epOut := o
        epOutMaxPacket := mps }
  | _, _, _ => none

/-- `if matches { finalize(..) }`, at the next interface and behind the loop. -/
def finalizeMatch (cfgValue : UInt8) (s : Scan) : Option MuxTarget :=
  if s.matched then finalize cfgValue s else none

/-- An INTERFACE descriptor that ends the interface before it. -/
def enterInterface (s : Scan) (desc : Bytes) (len : Nat) : Option Scan :=
  if 9 ≤ len then do
    let intfNum ← desc[2]?
    let cls ← desc[5]?
    let sub ← desc[6]?
    let proto ← desc[7]?
    return { s with
      epIn := none
      epOut := none
      intfNum := some intfNum
      matched := cls = interfaceClass && sub = interfaceSubclass && proto = interfaceProtocol }
  else return { s with epIn := none, epOut := none, intfNum := none, matched := false }

def seeEndpoint (s : Scan) (desc : Bytes) (len : Nat) : Option Scan :=
  if s.matched && 7 ≤ len then do
    let addr ← desc[2]?
    let attrs ← desc[3]?
    let lo ← desc[4]?
    let hi ← desc[5]?
    let mps := fromLe16 lo hi &&& 0x07FF
    if attrs &&& endpointTypeMask = endpointTypeBulk then
      if addr &&& endpointDirIn ≠ 0 then return { s with epIn := some addr }
      else return { s with epOut := some (addr, mps) }
    else return s
  else return s

/-- One turn of the `while` loop. -/
def scanTurn (cfgValue : UInt8) (blob : Bytes) (s : Scan) :
    Option (Turn Scan (Option (Option MuxTarget))) :=
  if s.off + 2 ≤ blob.length then do
    let len := (← blob[s.off]?).toNat
    let dtype ← blob[s.off + 1]?
    if len < 2 ∨ blob.length < s.off + len then
      return .leave (some (finalizeMatch cfgValue s))
    else
      let desc ← Checked.slice blob s.off (s.off + len)
      if dtype = usbDescInterface then
        match finalizeMatch cfgValue s with
        | some t => return .leave (some (some t))
        | none =>
          let s ← enterInterface s desc len
          return .again { s with off := s.off + len }
      else if dtype = usbDescEndpoint then
        let s ← seeEndpoint s desc len
        return .again { s with off := s.off + len }
      else return .again { s with off := s.off + len }
  else return .leave (some (finalizeMatch cfgValue s))

theorem enterInterface_off {s s' : Scan} {desc : Bytes} {len : Nat}
    (h : enterInterface s desc len = some s') : s'.off = s.off := by
  unfold enterInterface at h
  split at h
  · simp only [Option.bind_eq_bind, Option.bind_eq_some_iff] at h
    obtain ⟨_, -, _, -, _, -, _, -, h⟩ := h
    cases h
    rfl
  · cases h
    rfl

theorem seeEndpoint_off {s s' : Scan} {desc : Bytes} {len : Nat}
    (h : seeEndpoint s desc len = some s') : s'.off = s.off := by
  unfold seeEndpoint at h
  split at h
  · simp only [Option.bind_eq_bind, Option.bind_eq_some_iff] at h
    obtain ⟨_, -, _, -, _, -, _, -, h⟩ := h
    split at h
    · split at h <;> cases h <;> rfl
    · cases h
      rfl
  · cases h
    rfl

/-- A turn that goes round again has a descriptor behind it. -/
theorem scanTurn_again {cfgValue : UInt8} {blob : Bytes} {s s' : Scan}
    (h : scanTurn cfgValue blob s = some (.again s')) :
    s.off + 2 ≤ s'.off ∧ s'.off ≤ blob.length := by
  unfold scanTurn at h
  split at h
  · simp only [Option.bind_eq_bind, Option.bind_eq_some_iff] at h
    obtain ⟨len, -, dtype, -, h⟩ := h
    split at h
    · cases h
    · rename_i hlen
      simp only [Option.bind_eq_some_iff] at h
      obtain ⟨desc, -, h⟩ := h
      split at h
      · split at h
        · cases h
        · simp only [Option.bind_eq_some_iff] at h
          obtain ⟨u, hu, h⟩ := h
          cases h
          have := enterInterface_off hu
          dsimp only
          omega
      · split at h
        · simp only [Option.bind_eq_some_iff] at h
          obtain ⟨u, hu, h⟩ := h
          cases h
          have := seeEndpoint_off hu
          dsimp only
          omega
        · cases h
          dsimp only
          omega
  · cases h

theorem scanTurn_lowers (cfgValue : UInt8) (blob : Bytes) :
    Lowers (fun s => Checked.turnOf (scanTurn cfgValue blob s)) (fun s => blob.length - s.off) := by
  intro s s' h
  have h : Checked.turnOf (scanTurn cfgValue blob s) = .again s' := h
  cases hturn : scanTurn cfgValue blob s with
  | none =>
      rw [hturn] at h
      cases h
  | some turn =>
      rw [hturn] at h
      have hagain := scanTurn_again (hturn.trans (congrArg some h))
      dsimp only
      omega

/-- `scan_config_blob`; `none` is an index out of range. -/
def scanConfigBlob (blob : Bytes) (cfgValue : UInt8) : Option (Option MuxTarget) :=
  whileLoop (fun s => Checked.turnOf (scanTurn cfgValue blob s)) (fun s => blob.length - s.off)
    (scanTurn_lowers cfgValue blob) {}

/-! ### Where a device is -/

structure Candidate where
  busNumber : Int32
  deviceAddress : Int32
  deriving DecidableEq

/-- `x as u64` of an `i32`. -/
def asU64 (x : Int32) : UInt64 :=
  x.toInt64.toUInt64

def synthesizeLocationId (cand : Candidate) : UInt64 :=
  (asU64 cand.busNumber <<< 32) ||| (asU64 cand.deviceAddress &&& 0xffffffff)

end Netmuxd.Libusbk
