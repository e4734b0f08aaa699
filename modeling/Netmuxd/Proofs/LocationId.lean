/-
Which devices clients can tell apart by their LocationID.

What a backend makes up has 64 bits, and clients are shown the lower 32.  The nusb backend
packs the port chain and leaves the bus out; libusbK packs the bus into the upper half,
which clients do not get.  So two devices on different buses that are otherwise in the same
place have the same LocationID, and no others have.
-/
import Mathlib.Algebra.Group.Nat.Defs
import Mathlib.Data.List.Induction
import Netmuxd.Daemon.Devices
import Netmuxd.Daemon.LibusbkBackend
import Netmuxd.Usb.Apple

namespace Netmuxd

open Nusb Libusbk

/-! ### Statement -/

/-- The LocationID in the dictionary of a device. -/
def Dictionary.locationId (p : Dictionary) : Option UInt64 :=
  match p.get "Properties" with
  | some (.dictionary properties) =>
    match Dictionary.get properties "LocationID" with
    | some (.integer n) => some n
    | _ => none
  | _ => none

/-- What clients read as the location of a device. -/
def MuxerDevice.shownLocation (bsdSockaddr : Bool) (device : MuxerDevice) : Option UInt64 :=
  (attachedPlist bsdSockaddr device).bind Dictionary.locationId

/-- A device over USB that its backend has put at this location. -/
def MuxerDevice.Located (device : MuxerDevice) (location : UInt64) : Prop :=
  device.connectionType = "USB" ∧ device.locationId = some location

/-- A port chain as USB allows it. -/
def Nusb.DeviceInfo.Legal (info : DeviceInfo) : Prop :=
  info.portChain.length ≤ 7 ∧ ∀ p ∈ info.portChain, 1 ≤ p.toNat ∧ p.toNat ≤ 15

/-! ### What is shown -/

theorem MuxerDevice.Located.shown {device : MuxerDevice} {location : UInt64}
    (h : device.Located location) (bsdSockaddr : Bool) :
    device.shownLocation bsdSockaddr = some location.toUInt32.toUInt64 := by
  obtain ⟨husb, hloc⟩ := h
  unfold MuxerDevice.shownLocation attachedPlist MuxerDevice.toDictionary
  rw [husb, hloc]
  cases device.connectionSpeed <;> cases device.productId <;> rfl

/-! ### Port chains -/

/-- The chain as a number to base 16. -/
def chainValue (chain : List UInt8) : Nat :=
  chain.foldl (fun n p => n * 16 + p.toNat) 0

theorem chainValue_snoc (chain : List UInt8) (p : UInt8) :
    chainValue (chain ++ [p]) = chainValue chain * 16 + p.toNat := by
  unfold chainValue
  rw [List.foldl_append]
  rfl

/-- A chain of ports that are not zero is read off its value. -/
theorem chainValue_inj {chain chain' : List UInt8}
    (h : ∀ p ∈ chain, 1 ≤ p.toNat ∧ p.toNat ≤ 15) (h' : ∀ p ∈ chain', 1 ≤ p.toNat ∧ p.toNat ≤ 15)
    (heq : chainValue chain = chainValue chain') : chain = chain' := by
  induction chain using List.reverseRecOn generalizing chain' with
  | nil =>
      rcases List.eq_nil_or_concat chain' with rfl | ⟨init', p', rfl⟩
      · rfl
      · have hp' := h' p' (by simp)
        rw [List.concat_eq_append, chainValue_snoc] at heq
        have hzero : chainValue [] = 0 := rfl
        omega
  | append_singleton init p ih =>
      have hp := h p (by simp)
      rcases List.eq_nil_or_concat chain' with rfl | ⟨init', p', rfl⟩
      · rw [chainValue_snoc] at heq
        have hzero : chainValue [] = 0 := rfl
        omega
      · have hp' := h' p' (by simp)
        rw [List.concat_eq_append, chainValue_snoc, chainValue_snoc] at heq
        have hlast : p = p' := UInt8.toNat_inj.mp (by omega)
        have hinit : init = init' :=
          ih (fun r hr => h r (by simp [hr])) (fun r hr => h' r (by simp [hr])) (by omega)
        rw [List.concat_eq_append, hlast, hinit]

theorem pack_port {acc : UInt64} {p : UInt8} (hacc : acc.toNat < 2 ^ 60) (hp : p.toNat ≤ 15) :
    ((acc <<< 4) ||| (p.toUInt64 &&& 0xf)).toNat = acc.toNat * 16 + p.toNat := by
  have hport : (p.toUInt64 &&& 0xf).toNat = p.toNat := by
    rw [UInt64.toNat_and, UInt8.toNat_toUInt64]
    exact Nat.and_two_pow_sub_one_of_lt_two_pow (n := 4) (by omega)
  have hshift : (acc <<< 4).toNat = acc.toNat <<< 4 := by
    rw [UInt64.toNat_shiftLeft]
    have hsmall : acc.toNat <<< 4 < 2 ^ 64 := by
      rw [Nat.shiftLeft_eq]
      omega
    exact Nat.mod_eq_of_lt hsmall
  rw [UInt64.toNat_or, hport, hshift, ← Nat.shiftLeft_add_eq_or_of_lt (by omega), Nat.shiftLeft_eq]

/-- As long as it fits, a packed chain is its value. -/
theorem pack_chain (chain : List UInt8) (acc : UInt64) (k : Nat) (hacc : acc.toNat < 16 ^ k)
    (hlen : k + chain.length ≤ 15) (h : ∀ p ∈ chain, p.toNat ≤ 15) :
    (chain.foldl (fun (acc : UInt64) p => (acc <<< 4) ||| (p.toUInt64 &&& 0xf)) acc).toNat =
        chain.foldl (fun n p => n * 16 + p.toNat) acc.toNat ∧
      chain.foldl (fun n p => n * 16 + p.toNat) acc.toNat < 16 ^ (k + chain.length) := by
  induction chain generalizing acc k with
  | nil => exact ⟨rfl, hacc⟩
  | cons p chain ih =>
      have hp := h p (by simp)
      rw [List.length_cons] at hlen
      have hpow : 16 ^ k ≤ 16 ^ 15 := Nat.pow_le_pow_right (by decide) (by omega)
      have hpacked := pack_port (show acc.toNat < 2 ^ 60 by omega) hp
      have hnext : ((acc <<< 4) ||| (p.toUInt64 &&& 0xf)).toNat < 16 ^ (k + 1) := by
        rw [hpacked, Nat.pow_succ]
        omega
      have hrest := ih _ _ hnext (by omega) fun r hr => h r (List.mem_cons_of_mem _ hr)
      rw [List.foldl_cons, List.foldl_cons, ← hpacked, List.length_cons, ← Nat.add_assoc,
        Nat.add_right_comm]
      exact hrest

theorem Nusb.DeviceInfo.Legal.value {info : DeviceInfo} (h : info.Legal) :
    (deviceLocationId info).toNat = chainValue info.portChain ∧
      chainValue info.portChain < 2 ^ 32 := by
  obtain ⟨hlen, hports⟩ := h
  have hpack := pack_chain info.portChain 0 0 (by decide) (by omega) fun p hp => (hports p hp).2
  refine ⟨hpack.1, Nat.lt_of_lt_of_le hpack.2 ?_⟩
  have hpow : 16 ^ (0 + info.portChain.length) ≤ 16 ^ 7 :=
    Nat.pow_le_pow_right (by decide) (by omega)
  omega

theorem shown_chain_iff {i j : DeviceInfo} (hi : i.Legal) (hj : j.Legal) :
    (deviceLocationId i).toUInt32.toUInt64 = (deviceLocationId j).toUInt32.toUInt64 ↔
      i.portChain = j.portChain := by
  obtain ⟨hvalue, hsmall⟩ := hi.value
  obtain ⟨hvalue', hsmall'⟩ := hj.value
  constructor
  · intro h
    have htoNat := congrArg UInt64.toNat h
    rw [UInt32.toNat_toUInt64, UInt32.toNat_toUInt64, UInt64.toNat_toUInt32,
      UInt64.toNat_toUInt32, hvalue, hvalue', Nat.mod_eq_of_lt hsmall, Nat.mod_eq_of_lt hsmall']
      at htoNat
    exact chainValue_inj hi.2 hj.2 htoNat
  · intro h
    unfold deviceLocationId
    rw [h]

/-! ### Addresses -/

/-- The lower half of a location is the address. -/
theorem low_address (c : Candidate) :
    (synthesizeLocationId c).toUInt32 = c.deviceAddress.toUInt32 := by
  unfold synthesizeLocationId asU64
  apply UInt32.toBitVec_inj.mp
  ext i hi
  have hone : (4294967295#32)[i] = true := by
    rw [show (4294967295#32) = BitVec.allOnes 32 from rfl]
    exact BitVec.getElem_allOnes i hi
  have hlt : i < 64 := Nat.lt_trans hi (by decide)
  have hsign : (BitVec.signExtend 64 c.deviceAddress.toBitVec)[i] =
      c.deviceAddress.toBitVec[i] := by
    rw [BitVec.getElem_signExtend, dif_pos hi]
  simp [hone, hlt, hsign]

theorem shown_address_iff (c c' : Candidate) :
    (synthesizeLocationId c).toUInt32.toUInt64 = (synthesizeLocationId c').toUInt32.toUInt64 ↔
      c.deviceAddress = c'.deviceAddress := by
  rw [low_address, low_address]
  constructor
  · intro h
    have htoNat := congrArg UInt64.toNat h
    rw [UInt32.toNat_toUInt64, UInt32.toNat_toUInt64] at htoNat
    exact Int32.toBitVec_inj.mp (congrArg UInt32.toBitVec (UInt32.toNat_inj.mp htoNat))
  · intro h
    rw [h]

/-- **When the LocationIDs of two devices differ.**  On the nusb backend, for devices in two
places, exactly if their port chains do; on the libusbK backend exactly if their addresses do. -/
theorem location_ids_differ_iff (bsdSockaddr : Bool) (d e : MuxerDevice) :
    (∀ i j : DeviceInfo, i.Legal → j.Legal → (i.busId, i.portChain) ≠ (j.busId, j.portChain) →
      d.Located (deviceLocationId i) → e.Located (deviceLocationId j) →
        (d.shownLocation bsdSockaddr ≠ e.shownLocation bsdSockaddr ↔ i.portChain ≠ j.portChain)) ∧
    ∀ c c' : Candidate, (c.busNumber, c.deviceAddress) ≠ (c'.busNumber, c'.deviceAddress) →
      d.Located (synthesizeLocationId c) → e.Located (synthesizeLocationId c') →
        (d.shownLocation bsdSockaddr ≠ e.shownLocation bsdSockaddr ↔
          c.deviceAddress ≠ c'.deviceAddress) := by
  refine ⟨fun i j hi hj _ hd he => ?_, fun c c' _ hd he => ?_⟩
  · rw [hd.shown, he.shown, ne_eq, Option.some.injEq, shown_chain_iff hi hj]
  · rw [hd.shown, he.shown, ne_eq, Option.some.injEq, shown_address_iff]

/-! ### Two buses -/

/-- A device over USB at this location. -/
def deviceAt (id location : UInt64) : MuxerDevice :=
  { connectionType := "USB"
    deviceId := id
    interfaceIndex := id
    serialNumber := "00008030-001A2B3C4D5E6F70"
    networkAddress := none
    serviceName := none
    connectionSpeed := some 480000000
    locationId := some location
    productId := some 0x12a8 }

/-- **Two devices on two buses can share a LocationID**, on either backend. -/
theorem locations_collide :
    (deviceAt 1 (deviceLocationId ⟨"1", [2]⟩)).shownLocation false =
        (deviceAt 2 (deviceLocationId ⟨"2", [2]⟩)).shownLocation false ∧
      (deviceAt 1 (synthesizeLocationId ⟨1, 5⟩)).shownLocation false =
        (deviceAt 2 (synthesizeLocationId ⟨2, 5⟩)).shownLocation false := by
  constructor <;> rfl

/-- Two devices on two ports of one hub do not. -/
theorem ports_differ : (deviceAt 1 (deviceLocationId ⟨"1", [2, 1]⟩)).shownLocation false ≠
    (deviceAt 2 (deviceLocationId ⟨"1", [2, 3]⟩)).shownLocation false :=
  ((location_ids_differ_iff false _ _).1 ⟨"1", [2, 1]⟩ ⟨"1", [2, 3]⟩
    ⟨by decide, by simp⟩ ⟨by decide, by simp⟩ (by decide) ⟨rfl, rfl⟩ ⟨rfl, rfl⟩).mpr (by decide)

end Netmuxd
