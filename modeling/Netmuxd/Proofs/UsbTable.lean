/-
The USB devices the manager lists, as a table.

To the hotplug parties the manager is a table from UDIDs to mux handles, and a message
puts an entry in or takes one out.  `Manager.Shows` says which table its maps amount to;
serving a message does to the maps what the message's edit does to the table, as long as
ids do not wrap around.
-/
import Netmuxd.Daemon.Hotplug
import Netmuxd.Proofs.Daemon

namespace Netmuxd

open Lib

/-- What a message does to the table. -/
def UsbMessage.edit : UsbMessage → Edit String UsbMuxHandle
  | .discovered k udid _ => .put udid k
  | .removed _ udid => .drop udid

structure Manager.Shows (m : Manager) (table : String → Option UsbMuxHandle) : Prop where
  /-- Every device listed is in the table, with its handle. -/
  sound : ∀ id dev, m.devices id = some dev →
    dev.connectionType = "USB" ∧ ∃ h, m.usbHandles id = some h ∧ table dev.serialNumber = some h
  complete : ∀ udid h, table udid = some h → ∃ id dev, m.devices id = some dev ∧
    dev.serialNumber = udid
  once : ∀ i j dev dev', m.devices i = some dev → m.devices j = some dev' →
    dev'.serialNumber = dev.serialNumber → i = j
  below : ∀ id, (m.devices id).isSome = true → id < m.lastIndex

section
variable {cfg : Config} {env : Surroundings} {m m' : Manager} {table : String → Option UsbMuxHandle}

theorem shows_start (cfg : Config) : (Manager.start cfg).Shows fun _ => none where
  sound := by
    intro id dev h
    cases h
  complete := by
    intro udid h ht
    cases ht
  once := by
    intro i j dev dev' h
    cases h
  below := by
    intro id h
    cases h

/-- The handle of an entry is replaced. -/
theorem Manager.Shows.replace (h : m.Shows table) (handle : UsbMuxHandle) {id : UInt64}
    {d : MuxerDevice} (hd : m.devices id = some d) :
    Manager.Shows { m with usbHandles := Function.update m.usbHandles id (some handle) }
      (Function.update table d.serialNumber (some handle)) where
  sound := by
    intro i dev hi
    have hi : m.devices i = some dev := hi
    obtain ⟨husb, g, hg, htable⟩ := h.sound i dev hi
    refine ⟨husb, ?_⟩
    by_cases heq : i = id
    · subst heq
      rw [hd] at hi
      cases hi
      exact ⟨handle, Function.update_self .., Function.update_self ..⟩
    · have hne : dev.serialNumber ≠ d.serialNumber :=
        fun hserial => heq (h.once i id dev d hi hd hserial.symm)
      refine ⟨g, ?_, ?_⟩
      · dsimp only
        rw [Function.update_of_ne heq]
        exact hg
      · rw [Function.update_of_ne hne]
        exact htable
  complete := by
    intro udid g hg
    by_cases heq : udid = d.serialNumber
    · exact ⟨id, d, hd, heq.symm⟩
    · rw [Function.update_of_ne heq] at hg
      exact h.complete udid g hg
  once := h.once
  below := h.below

/-- A device is listed under the next id. -/
theorem Manager.Shows.list (h : m.Shows table) (device : MuxerDevice) (handle : UsbMuxHandle)
    (husb : device.connectionType = "USB") (hid : device.deviceId = m.lastIndex)
    (hnew : ¬ Lists m.devices device.serialNumber "USB")
    (hdevices : m'.devices = Function.update m.devices m.lastIndex (some device))
    (hhandles : m'.usbHandles = Function.update m.usbHandles m.lastIndex (some handle))
    (hlast : m.lastIndex < m'.lastIndex) :
    m'.Shows (Function.update table device.serialNumber (some handle)) := by
  have hother : ∀ i dev, m.devices i = some dev →
      dev.serialNumber ≠ device.serialNumber ∧ i ≠ m.lastIndex := by
    intro i dev hi
    refine ⟨fun hserial => hnew ⟨i, dev, hi, hserial, (h.sound i dev hi).1⟩, ?_⟩
    rintro rfl
    exact absurd (h.below m.lastIndex (by rw [hi]; rfl)) (UInt64.lt_irrefl _)
  refine ⟨?_, ?_, ?_, ?_⟩
  · intro i dev hi
    rw [hdevices] at hi
    rw [hhandles]
    rcases update_eq_some hi with hold | ⟨rfl, rfl⟩
    · obtain ⟨hct, g, hg, htable⟩ := h.sound i dev hold
      obtain ⟨hserial, hne⟩ := hother i dev hold
      rw [Function.update_of_ne hne, Function.update_of_ne hserial]
      exact ⟨hct, g, hg, htable⟩
    · exact ⟨husb, handle, Function.update_self .., Function.update_self ..⟩
  · intro udid g hg
    rw [hdevices]
    by_cases heq : udid = device.serialNumber
    · exact ⟨m.lastIndex, device, Function.update_self .., heq.symm⟩
    · rw [Function.update_of_ne heq] at hg
      obtain ⟨i, dev, hi, hserial⟩ := h.complete udid g hg
      refine ⟨i, dev, ?_, hserial⟩
      rw [Function.update_of_ne (hother i dev hi).2]
      exact hi
  · intro i j dev dev' hi hj hserial
    rw [hdevices] at hi hj
    rcases update_eq_some hi with hi | ⟨hi, hdev⟩
    · rcases update_eq_some hj with hj | ⟨hj, hdev'⟩
      · exact h.once i j dev dev' hi hj hserial
      · rw [hdev'] at hserial
        exact absurd hserial.symm (hother i dev hi).1
    · rcases update_eq_some hj with hj | ⟨hj, hdev'⟩
      · rw [hdev] at hserial
        exact absurd hserial (hother j dev' hj).1
      · rw [hi, hj]
  · intro i hi
    by_cases heq : i = m.lastIndex
    · rw [heq]
      exact hlast
    · rw [hdevices, Function.update_of_ne heq] at hi
      exact UInt64.lt_trans (h.below i hi) hlast

/-- The entry of a UDID is dropped, if there is one. -/
theorem Manager.Shows.remove (h : m.Shows table) {udid : String} {alive : Nat → Bool}
    {ids : List UInt64}
    (hall : ∀ id, id ∈ ids ↔ ∃ d, m.devices id = some d ∧ d.Removed udid (some "USB") = true) :
    (ids.foldl (removeEntry alive) m).Shows (Function.update table udid none) := by
  have hids : ∀ id dev, m.devices id = some dev → (id ∈ ids ↔ dev.serialNumber = udid) := by
    intro id dev hdev
    rw [hall]
    constructor
    · rintro ⟨d, hd, hrem⟩
      rw [hdev] at hd
      cases hd
      have hboth : dev.serialNumber = udid ∧ dev.connectionType = "USB" := by
        simpa [MuxerDevice.Removed] using hrem
      exact hboth.1
    · intro hserial
      refine ⟨dev, hdev, ?_⟩
      simp [MuxerDevice.Removed, hserial, (h.sound id dev hdev).1]
  have hstill : ∀ id dev, (ids.foldl (removeEntry alive) m).devices id = some dev →
      m.devices id = some dev ∧ id ∉ ids ∧ dev.serialNumber ≠ udid := by
    intro id dev hdev
    rw [foldl_removeEntry_devices] at hdev
    split at hdev
    · cases hdev
    · rename_i hnot
      exact ⟨hdev, hnot, fun hserial => hnot ((hids id dev hdev).mpr hserial)⟩
  refine ⟨?_, ?_, ?_, ?_⟩
  · intro id dev hdev
    obtain ⟨hdev, hnot, hserial⟩ := hstill id dev hdev
    rw [foldl_removeEntry_usbHandles, if_neg hnot, Function.update_of_ne hserial]
    exact h.sound id dev hdev
  · intro u g hg
    by_cases heq : u = udid
    · rw [heq, Function.update_self] at hg
      cases hg
    · rw [Function.update_of_ne heq] at hg
      obtain ⟨id, dev, hdev, hserial⟩ := h.complete u g hg
      refine ⟨id, dev, ?_, hserial⟩
      rw [foldl_removeEntry_devices, if_neg, hdev]
      rw [hids id dev hdev, hserial]
      exact heq
  · intro i j dev dev' hi hj hserial
    exact h.once i j dev dev' (hstill i dev hi).1 (hstill j dev' hj).1 hserial
  · intro id hid
    obtain ⟨dev, hdev⟩ := Option.isSome_iff_exists.mp hid
    rw [foldl_removeEntry_lastIndex]
    refine h.below id ?_
    rw [(hstill id dev hdev).1]
    rfl

/-- **Serving a message edits the table.** -/
theorem Manager.Shows.serve (h : m.Shows table) {message : UsbMessage}
    (hserved : Served cfg env m message.request m') (hwrap : m.lastIndex ≤ m'.lastIndex) :
    m'.Shows (message.edit.apply table) := by
  cases message with
  | discovered k udid info =>
      cases hserved with
      | answered outs hans => cases hans
      | handleReplaced hd hmatch =>
          have hshow := h.replace k hd
          rw [hmatch.1] at hshow
          exact hshow
      | listedUsb hnew hp =>
          exact h.list (m.usbDevice udid _ _ _) k rfl rfl hnew rfl rfl (lt_next hwrap)
  | removed k udid =>
      cases hserved with
      | answered outs hans => cases hans
      | removed ids hids hall => exact h.remove hall

end

end Netmuxd
