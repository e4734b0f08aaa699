/-
A heartbeat failure and the entry it is about.

The failure carries the UDID only, and the entry is looked up by that and the connection
type "Network".  A heartbeat task is not told when its device is removed, so the entry
that is found need not be the one the task had added.
-/
import Mathlib.Data.Set.Finite.Basic
import Mathlib.Data.Fintype.Card
import Netmuxd.Proofs.Daemon

namespace Netmuxd

open Lib

/-- The list of devices with this device's own entry gone, if it is there. -/
def without (devices : UInt64 → Option MuxerDevice) (device : MuxerDevice) (id : UInt64) :
    Option MuxerDevice :=
  if id = device.deviceId ∧ devices id = some device then none else devices id

/-- The entries that a failure for this device can be taken to be about. -/
structure OnlyOwn (devices : UInt64 → Option MuxerDevice) (device : MuxerDevice) : Prop where
  /-- Every network entry of this UDID is the device's own. -/
  sole : ∀ id dev, devices id = some dev → dev.Matches device.serialNumber "Network" →
    id = device.deviceId ∧ dev = device
  /-- Its own entry, if it is there, is a network entry. -/
  network : devices device.deviceId = some device → device.connectionType = "Network"

section
variable {devices : UInt64 → Option MuxerDevice}

theorem exists_order (devices : UInt64 → Option MuxerDevice) : ∃ order, OrderOf devices order := by
  have hfin : Finite UInt64 := Finite.of_injective UInt64.toFin fun a b h => UInt64.toFin_inj.mp h
  let s := (Set.toFinite {id | (devices id).isSome = true}).toFinset
  refine ⟨s.toList, s.nodup_toList, fun id => ?_⟩
  rw [Finset.mem_toList]
  simp [s]

/-- Whatever is listed may come first. -/
theorem exists_order_head {id : UInt64} (h : (devices id).isSome = true) :
    ∃ rest, OrderOf devices (id :: rest) := by
  obtain ⟨order, hnodup, hall⟩ := exists_order devices
  refine ⟨order.erase id, List.nodup_cons.mpr ⟨?_, hnodup.erase id⟩, fun i => ?_⟩
  · rw [hnodup.mem_erase_iff]
    exact fun hbad => hbad.1 rfl
  · rw [List.mem_cons, hnodup.mem_erase_iff]
    by_cases hi : i = id
    · rw [hi]
      simp [h]
    · simp [hi, hall]

end

/-! ### Which entry goes -/

section
variable {env : Surroundings} {m : Manager} {device : MuxerDevice}

theorem heartbeatFailed_devices_some {udid : String} {id : UInt64}
    (h : findDeviceId env.order m.devices udid "Network" = some id) :
    (heartbeatFailed env m udid).devices = Function.update m.devices id none := by
  unfold heartbeatFailed
  rw [h]
  rfl

theorem heartbeatFailed_devices_none {udid : String}
    (h : findDeviceId env.order m.devices udid "Network" = none) :
    (heartbeatFailed env m udid).devices = m.devices := by
  unfold heartbeatFailed
  rw [h]

theorem without_self (h : m.devices device.deviceId = some device) :
    without m.devices device = Function.update m.devices device.deviceId none := by
  funext i
  unfold without
  by_cases hi : i = device.deviceId
  · simp [hi, h]
  · simp [hi]

theorem without_absent (h : m.devices device.deviceId ≠ some device) :
    without m.devices device = m.devices := by
  funext i
  unfold without
  rw [if_neg]
  rintro ⟨rfl, hi⟩
  exact h hi

/-- Whichever order the map has, only the device's own entry goes. -/
theorem heartbeatFailed_own (horder : OrderOf m.devices env.order)
    (hown : OnlyOwn m.devices device) :
    (heartbeatFailed env m device.serialNumber).devices = without m.devices device := by
  cases hfind : findDeviceId env.order m.devices device.serialNumber "Network" with
  | some id =>
      obtain ⟨-, dev, hdev, hm⟩ := findDeviceId_some hfind
      obtain ⟨hid, heq⟩ := hown.sole id dev hdev hm
      rw [hid, heq] at hdev
      rw [heartbeatFailed_devices_some hfind, hid, without_self hdev]
  | none =>
      rw [heartbeatFailed_devices_none hfind, without_absent]
      intro hlisted
      refine findDeviceId_none horder.2 hfind ⟨_, device, hlisted, rfl, ?_⟩
      exact hown.network hlisted

/-- If only the device's own entry goes whichever order the map has, no other can be found. -/
theorem onlyOwn_of (alive : Nat → Bool) (paired : String → Bool)
    (h : ∀ order, OrderOf m.devices order →
      (heartbeatFailed ⟨order, alive, paired⟩ m device.serialNumber).devices =
        without m.devices device) : OnlyOwn m.devices device where
  sole := by
    intro id dev hdev hm
    have hsome : (m.devices id).isSome = true := by
      rw [hdev]
      rfl
    obtain ⟨rest, horder⟩ := exists_order_head hsome
    -- the entry comes first, so it is the one that is found
    have hfind : findDeviceId (id :: rest) m.devices device.serialNumber "Network" = some id := by
      unfold findDeviceId
      rw [List.find?_cons_of_pos]
      rw [hdev]
      exact decide_eq_true hm
    have hgone := congrFun (h _ horder) id
    rw [heartbeatFailed_devices_some hfind, Function.update_self, without] at hgone
    split at hgone
    · rename_i hid
      rw [hdev] at hid
      exact ⟨hid.1, Option.some.inj hid.2⟩
    · rw [hdev] at hgone
      cases hgone
  network := by
    intro hlisted
    obtain ⟨order, horder⟩ := exists_order m.devices
    have hgone := congrFun (h order horder) device.deviceId
    rw [without_self hlisted, Function.update_self] at hgone
    cases hfind : findDeviceId order m.devices device.serialNumber "Network" with
    | none =>
        rw [heartbeatFailed_devices_none hfind, hlisted] at hgone
        cases hgone
    | some id =>
        obtain ⟨-, dev, hdev, hm⟩ := findDeviceId_some hfind
        rw [heartbeatFailed_devices_some hfind] at hgone
        by_cases hid : device.deviceId = id
        · rw [hid, hdev] at hlisted
          cases hlisted
          exact hm.2
        · rw [Function.update_of_ne hid, hlisted] at hgone
          cases hgone

end

section
variable {cfg : Config} {d d' : Daemon}

/-- Serving a failure comes to `heartbeatFailed`. -/
theorem serve_failure {e : Envelope} {rest : List Envelope} {udid : String}
    (hqueue : d.queue = e :: rest) (hreq : e.request.requestType = .heartbeatFailed udid)
    (order : List UInt64) (paired : String → Bool) :
    d.next cfg (.serve order paired) =
      some { d with
        mgr := heartbeatFailed (d.surroundings order paired) d.mgr udid, queue := rest } := by
  simp only [Daemon.next, hqueue, Manager.handle, hreq, Option.map_some]

/-- **A heartbeat failure removes its own device's entry and only that** exactly if every
network entry of its UDID is its own and its own is a network entry. -/
theorem failure_removes_its_own {tr : List (Daemon × Happening × Daemon)}
    (hrun : Run (Daemon.Step cfg) (Daemon.start cfg) tr d) {e : Envelope} {rest : List Envelope}
    {udid : String} {k : Nat} {device : MuxerDevice} {response : Option Nat}
    (hqueue : d.queue = e :: rest) (hreq : e.request.requestType = .heartbeatFailed udid)
    (hsession : e.session = some k) (hk : d.session k = some (device, response)) :
    (∀ order paired d', Daemon.Step cfg d (.serve order paired) d' →
        d'.mgr.devices = without d.mgr.devices device) ↔
      OnlyOwn d.mgr.devices device := by
  have hudid : device.serialNumber = udid := by
    obtain ⟨j, dev, response', hj, hdev, hserial⟩ :=
      (Daemon.sound hrun).failures e (mem_queue hqueue) udid hreq
    rw [hsession] at hj
    cases hj
    rw [hk] at hdev
    cases hdev
    exact hserial
  subst hudid
  constructor
  · intro h
    refine onlyOwn_of (fun l => !d.dropped l) (fun _ => true) fun order horder => ?_
    exact h order (fun _ => true) _ ⟨serve_failure hqueue hreq order _, horder⟩
  · rintro hown order paired d' ⟨hnext, horder⟩
    rw [serve_failure hqueue hreq] at hnext
    cases hnext
    exact heartbeatFailed_own horder hown

end

/-! ### Two runs -/

/-- A device on the network. -/
def phone (id interfaceIndex : UInt64) : MuxerDevice :=
  { connectionType := "Network", deviceId := id, interfaceIndex, serialNumber := "u",
    networkAddress := some (.v4 #v[10, 0, 0, 2]), serviceName := some "name",
    connectionSpeed := none, locationId := none, productId := none }

/-- It is discovered. -/
def announcePhone : Happening :=
  .submit ⟨.discoveredNetworkDevice "u" (.v4 #v[10, 0, 0, 2]) "name" "Network", none⟩

/-- A device whose only heartbeat fails is taken off the list. -/
theorem lone_failure_removes_its_own :
    ∃ d tr, Run (Daemon.Step ⟨true, false, false⟩) (Daemon.start ⟨true, false, false⟩) tr d ∧
      d.mgr.devices 1 = some (phone 1 1) ∧
      ∀ order paired d', Daemon.Step ⟨true, false, false⟩ d (.serve order paired) d' →
        d'.mgr.devices = without d.mgr.devices (phone 1 1) := by
  have hplays : Daemon.Plays ⟨true, false, false⟩ (fun _ _ _ => True)
      [announcePhone, .serve [] fun _ => true, .beats 0, .serve [] fun _ => true, .fails 0] _ :=
    ⟨_, rfl, ⟨trivial, trivial⟩, _, rfl, ⟨orderOf_nil, trivial⟩, _, rfl, ⟨trivial, trivial⟩,
      _, rfl, ⟨orderOf_nil, trivial⟩, _, rfl, ⟨trivial, trivial⟩, rfl⟩
  obtain ⟨tr, hrun, -⟩ := hplays.run
  refine ⟨_, tr, hrun, rfl, (failure_removes_its_own (k := 0) hrun rfl rfl rfl rfl).mpr ?_⟩
  refine ⟨fun id dev hid _ => ?_, fun _ => rfl⟩
  have hid : Function.update (fun _ => none) 1 (some (phone 1 1)) id = some dev := hid
  rcases update_eq_some hid with hbad | hown
  · cases hbad
  · exact hown

/-- A device is removed and discovered again.  When the heartbeat of the entry that is gone
fails, it takes the new entry with it, whose own heartbeat is fine. -/
theorem late_failure_removes_another :
    ∃ d d' tr, Run (Daemon.Step ⟨true, false, false⟩) (Daemon.start ⟨true, false, false⟩) tr d ∧
      Daemon.Step ⟨true, false, false⟩ d (.serve [2] fun _ => true) d' ∧
      (d.queue.map Envelope.session = [some 0]) ∧ d.session 0 = some (phone 1 1, none) ∧
      d.session 1 = some (phone 2 2, none) ∧ d.stage 1 = .beating ∧
      d.mgr.devices 2 = some (phone 2 2) ∧ d'.mgr.devices 2 = none := by
  have one : ∀ dev, OrderOf (Function.update (fun _ => none) 1 (some dev)) [1] :=
    fun _ => orderOf_nil.insert (by simp)
  have empty : ∀ dev,
      OrderOf (Function.update (Function.update (fun _ => none) 1 (some dev)) 1 none) [] :=
    fun dev => (one dev).erase 1
  have hplays : Daemon.Plays ⟨true, false, false⟩ (fun _ _ _ => True)
      [announcePhone, .serve [] fun _ => true, .beats 0, .serve [] fun _ => true,
        .submit ⟨.removeDevice "u" none, none⟩, .serve [1] fun _ => true,
        announcePhone, .serve [] fun _ => true, .beats 1, .serve [] fun _ => true, .fails 0] _ :=
    ⟨_, rfl, ⟨trivial, trivial⟩, _, rfl, ⟨orderOf_nil, trivial⟩, _, rfl, ⟨trivial, trivial⟩,
      _, rfl, ⟨orderOf_nil, trivial⟩, _, rfl, ⟨trivial, trivial⟩, _, rfl, ⟨one _, trivial⟩,
      _, rfl, ⟨trivial, trivial⟩, _, rfl, ⟨empty _, trivial⟩, _, rfl, ⟨trivial, trivial⟩,
      _, rfl, ⟨empty _, trivial⟩, _, rfl, ⟨trivial, trivial⟩, rfl⟩
  obtain ⟨tr, hrun, -⟩ := hplays.run
  exact ⟨_, _, tr, hrun, ⟨rfl, (empty (phone 1 1)).insert (by simp)⟩, rfl, rfl, rfl, rfl, rfl, rfl⟩

end Netmuxd
