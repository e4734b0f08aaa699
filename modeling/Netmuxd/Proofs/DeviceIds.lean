/-
Device ids are never ambiguous.

The manager hands its ids out in order and never takes one back.  An id is handed out
when a device is discovered, and the device is listed there and then, or by a later
message of the heartbeat task that was given it.  So the ids fall into those that are
owed, those that are listed and those that are retired, and the next one is above all of
them as long as the counter does not wrap.

Whoever routes a Connect only compares its id with the base that the counter starts from.
-/
import Mathlib.Algebra.Group.Nat.Defs
import Mathlib.Data.List.Nodup
import Netmuxd.Proofs.Client
import Netmuxd.Proofs.Listeners

namespace Netmuxd

open Lib Lib.Talk

/-! ### What is listed -/

/-- The device that serving a request lists. -/
def Manager.lists? (cfg : Config) (env : Surroundings) (m : Manager) :
    ManagerRequestType → Option MuxerDevice
  | .discoveredNetworkDevice udid networkAddress serviceName connectionType =>
    if (findDeviceId env.order m.devices udid connectionType).isSome then none
    else if !env.paired udid then none
    else if cfg.useHeartbeat then none
    else some (m.networkDevice udid networkAddress serviceName connectionType)
  | .discoveredUsbDevice udid locationId productId speed _ =>
    if (findDeviceId env.order m.devices udid "USB").isSome then none
    else some (m.usbDevice udid locationId productId speed)
  | .deferredMuxerAdd device _ => some device
  | _ => none

/-- The device that a step lists. -/
def Daemon.lists? (cfg : Config) (d : Daemon) : Happening → Option MuxerDevice
  | .serve order paired =>
    d.queue.head?.bind fun e =>
      d.mgr.lists? cfg (d.surroundings order paired) e.request.requestType
  | _ => none

/-- All devices that were listed, in order. -/
def additions (cfg : Config) (tr : List (Daemon × Happening × Daemon)) : List MuxerDevice :=
  tr.filterMap fun t => t.1.lists? cfg t.2.1

theorem additions_snoc (cfg : Config) (tr : List (Daemon × Happening × Daemon)) (d d' : Daemon)
    (a : Happening) :
    additions cfg (tr ++ [(d, a, d')]) = additions cfg tr ++ (d.lists? cfg a).toList := by
  unfold additions
  rw [List.filterMap_append]
  cases h : d.lists? cfg a with
  | none => simp [h]
  | some device => simp [h]

section
variable {cfg : Config} {env : Surroundings} {m m' : Manager} {req : ManagerRequest}

/-- What becomes of the entries when `listed` is what is listed: nothing else comes in, and
what is listed has the next id or comes from a deferred add. -/
inductive Manager.Enters (m : Manager) (r : ManagerRequestType) (m' : Manager) :
    Option MuxerDevice → Prop
  | nothing (hdevices : ∀ id device, m'.devices id = some device → m.devices id = some device) :
      Enters m r m' none
  | next {device : MuxerDevice}
      (hdevices : m'.devices = Function.update m.devices device.deviceId (some device))
      (hid : device.deviceId = m.lastIndex) (hlast : m'.lastIndex = m.lastIndex + 1) :
      Enters m r m' (some device)
  | deferred {device : MuxerDevice} {response : Option Nat}
      (hdevices : m'.devices = Function.update m.devices device.deviceId (some device))
      (hreq : r = .deferredMuxerAdd device response) : Enters m r m' (some device)

theorem discoveredNetworkDevice_lists {udid : String} {networkAddress : IpAddr}
    {serviceName connectionType : String} {response : Option Nat} {r : ManagerRequestType}
    (h : discoveredNetworkDevice cfg env m udid networkAddress serviceName connectionType response
      = some m') :
    m.Enters r m' (m.lists? cfg env
      (.discoveredNetworkDevice udid networkAddress serviceName connectionType)) := by
  unfold discoveredNetworkDevice at h
  dsimp only [Manager.lists?]
  split at h
  · rename_i hfound
    cases h
    rw [if_pos hfound]
    exact .nothing fun _ _ hid => hid
  rename_i hnone
  rw [if_neg hnone]
  split at h
  · rename_i hunpaired
    cases h
    rw [if_pos hunpaired]
    exact .nothing fun _ _ hid => hid
  rename_i hpaired
  rw [if_neg hpaired]
  split at h
  · rename_i hcfg
    cases h
    rw [if_pos hcfg]
    exact .nothing fun _ _ hid => hid
  · rename_i hcfg
    obtain ⟨p, -, rfl⟩ := addNetworkDevice_some h
    rw [if_neg hcfg]
    exact .next rfl rfl rfl

theorem discoveredUsbDevice_lists {udid : String} {locationId productId speed : UInt64}
    {handle : UsbMuxHandle} {r : ManagerRequestType}
    (h : discoveredUsbDevice cfg env m udid locationId productId speed handle = some m') :
    m.Enters r m' (m.lists? cfg env
      (.discoveredUsbDevice udid locationId productId speed handle)) := by
  unfold discoveredUsbDevice at h
  dsimp only [Manager.lists?]
  split at h
  · rename_i id hid
    cases h
    rw [hid, Option.isSome_some, if_pos rfl]
    exact .nothing fun _ _ hid => hid
  · rename_i hid
    dsimp only at h
    split at h
    · cases h
    · cases h
      rw [hid, Option.isSome_none, if_neg Bool.false_ne_true]
      exact .next rfl rfl rfl

/-- **What a request lists is what it puts in**; otherwise it only takes entries away. -/
theorem Manager.handle_lists (horder : OrderOf m.devices env.order)
    (h : m.handle cfg env req = some m') :
    m.Enters req.requestType m' (m.lists? cfg env req.requestType) := by
  have hserved := Manager.handle_served horder h
  have hplain : req.requestType.discovers? = none →
      (∀ device response, req.requestType ≠ .deferredMuxerAdd device response) →
      ∀ id device, m'.devices id = some device → m.devices id = some device := by
    intro hdisc hadd
    rcases hserved.devices with hless | ⟨device, -, ⟨hreq, -⟩ | ⟨response, hreq⟩⟩
    · exact hless
    · rw [hdisc] at hreq
      cases hreq
    · exact absurd hreq (hadd device response)
  obtain ⟨requestType, response⟩ := req
  cases requestType with
  | discoveredNetworkDevice => exact discoveredNetworkDevice_lists h
  | discoveredUsbDevice =>
      rw [Manager.handle] at h
      exact discoveredUsbDevice_lists h
  | deferredMuxerAdd device response => exact .deferred (hserved.adds rfl) rfl
  | _ => exact .nothing (hplain rfl fun _ _ hreq => by cases hreq)

/-! ### The counter -/

/-- Only a discovery takes an id, and it takes one. -/
theorem Served.lastIndex (h : Served cfg env m req m') :
    m'.lastIndex = m.lastIndex ∨
      (req.requestType.discovers?.isSome = true ∧ m'.lastIndex = m.lastIndex + 1) := by
  cases h with
  | deferred => exact Or.inr ⟨rfl, rfl⟩
  | listedNetwork => exact Or.inr ⟨rfl, rfl⟩
  | listedUsb => exact Or.inr ⟨rfl, rfl⟩
  | removed ids => exact Or.inl (foldl_removeEntry_lastIndex _ _)
  | _ => exact Or.inl rfl

end

/-! ### The ids that are told -/

/-- What a client goes by in an entry of a device list. -/
def Value.deviceId : Value → Option UInt64
  | .dictionary p => Dictionary.deviceId p
  | _ => none

/-- The device ids that a client or a listener is told in this output. -/
def Output.names : Output → List UInt64
  | .tell _ (.attached p) => p.deviceId.toList
  | .tell _ (.detached id) => [id]
  | .respond _ p => p.deviceList.filterMap Value.deviceId
  | _ => []

/-- The device that a Connect would reach through this entry. -/
def Manager.lookup (m : Manager) (id : UInt64) (device : MuxerDevice) : DeviceConnection :=
  { connectionType := device.connectionType
    serialNumber := device.serialNumber
    networkAddress := device.networkAddress
    usb := m.usbHandles id }

/-- What is told is about entries there are, before the request or after it. -/
def Output.Grounded (m m' : Manager) (req : ManagerRequest) (o : Output) : Prop :=
  (∀ id ∈ o.names, (m.devices id).isSome = true ∨ (m'.devices id).isSome = true) ∧
    ∀ client lookup, o = .connection client (some lookup) →
      ∃ id device, req.requestType = .getDeviceConnection id client ∧
        m.devices id = some device ∧ lookup = m.lookup id device

section
variable {cfg : Config} {env : Surroundings} {m m' : Manager} {req : ManagerRequest}

theorem grounded_of_mute {o : Output} (hnames : o.names = [])
    (hlookup : ∀ client lookup, o ≠ .connection client lookup) : o.Grounded m m' req := by
  refine ⟨fun id hid => ?_, fun client lookup ho => absurd ho (hlookup client _)⟩
  rw [hnames] at hid
  cases hid

theorem grounded_responses {response : Option Nat} {n : UInt64} {o : Output}
    (ho : o ∈ responses response (resultPlist n)) : o.Grounded m m' req := by
  cases response with
  | none => cases ho
  | some caller =>
      rw [List.mem_singleton.mp ho]
      exact grounded_of_mute rfl fun _ _ h => by cases h

theorem grounded_kills {id : UInt64} {o : Output} {k : Manager} (ho : o ∈ kills k id) :
    o.Grounded m m' req := by
  obtain ⟨kill, -, rfl⟩ := List.mem_map.mp ho
  exact grounded_of_mute rfl fun _ _ h => by cases h

theorem grounded_shutdowns {id : UInt64} {o : Output} {k : Manager} (ho : o ∈ shutdowns k id) :
    o.Grounded m m' req := by
  unfold shutdowns at ho
  split at ho
  · rw [List.mem_singleton.mp ho]
    exact grounded_of_mute rfl fun _ _ h => by cases h
  · cases ho

/-- Listeners are told of an entry. -/
theorem grounded_tells {listeners : List Nat} {event : ListenerEvent} {o : Output}
    (ho : o ∈ tells listeners event)
    (hnames : ∀ l, ∀ id ∈ (Output.tell l event).names,
      (m.devices id).isSome = true ∨ (m'.devices id).isSome = true) : o.Grounded m m' req := by
  obtain ⟨l, -, rfl⟩ := List.mem_map.mp ho
  exact ⟨hnames l, fun _ _ h => by cases h⟩

/-- A device is listed and told about. -/
theorem grounded_list {alive : Nat → Bool} {device : MuxerDevice} {p : Dictionary} {o : Output}
    {k : Manager} (hp : attachedPlist cfg.bsdSockaddr device = some p)
    (hdevices : (m'.devices device.deviceId).isSome = true)
    (ho : o ∈ (k.list alive device p).out) : o ∈ k.out ∨ o.Grounded m m' req := by
  rcases List.mem_append.mp ho with hold | hnew
  · exact Or.inl hold
  refine Or.inr (grounded_tells hnew fun l id hid => Or.inr ?_)
  simp only [Output.names, attachedPlist_deviceId hp, Option.toList_some,
    List.mem_singleton] at hid
  rw [hid]
  exact hdevices

theorem grounded_removeEntry {alive : Nat → Bool} {id : UInt64} {o : Output} {k : Manager}
    (hid : (m.devices id).isSome = true) (ho : o ∈ (removeEntry alive k id).out) :
    o ∈ k.out ∨ o.Grounded m m' req := by
  rw [removeEntry_eq, broadcast_out, emit_out, dropEntry_out] at ho
  rcases List.mem_append.mp ho with hold | htold
  · rcases List.mem_append.mp hold with hold | hshutdown
    · rcases List.mem_append.mp hold with hold | hkill
      · exact Or.inl hold
      · exact Or.inr (grounded_kills hkill)
    · exact Or.inr (grounded_shutdowns hshutdown)
  · refine Or.inr (grounded_tells htold fun l i hi => Or.inl ?_)
    rw [List.mem_singleton.mp hi]
    exact hid

/-- An entry of the device list has the id it is listed under. -/
theorem deviceList_deviceId (hm : m.Proper) (horder : OrderOf m.devices env.order)
    {ps : List Dictionary} (hps : deviceList cfg env m = some ps) {p : Dictionary} (hp : p ∈ ps)
    {id : UInt64} (hid : p.deviceId = some id) : (m.devices id).isSome = true := by
  have hps : ps = env.order.filterMap (shown cfg m.devices) := mapM_eq_some hps
  rw [hps] at hp
  obtain ⟨i, hi, hshown⟩ := List.mem_filterMap.mp hp
  rw [hm.shown_deviceId hshown] at hid
  cases hid
  exact (horder.2 _).mp hi

theorem discoveredNetworkDevice_grounded {udid : String} {networkAddress : IpAddr}
    {serviceName connectionType : String} {response : Option Nat}
    (h : discoveredNetworkDevice cfg env m udid networkAddress serviceName connectionType response
      = some m') {o : Output} (ho : o ∈ m'.out) : o ∈ m.out ∨ o.Grounded m m' req := by
  unfold discoveredNetworkDevice at h
  split at h
  · cases h
    exact Or.inl ho
  split at h
  · cases h
    exact Or.inl ho
  split at h
  · cases h
    rcases List.mem_append.mp ho with hold | hnew
    · exact Or.inl hold
    · right
      rw [List.mem_singleton.mp hnew]
      exact grounded_of_mute rfl fun _ _ h => by cases h
  · obtain ⟨p, hp, rfl⟩ := addNetworkDevice_some h
    rcases List.mem_append.mp ho with hold | hnew
    · exact grounded_list hp (by simp [Manager.list]) hold
    · exact Or.inr (grounded_responses hnew)

theorem listDevices_grounded (hm : m.Proper) (horder : OrderOf m.devices env.order)
    {response : Option Nat} (h : listDevices cfg env m response = some m') {o : Output}
    (ho : o ∈ m'.out) : o ∈ m.out ∨ o.Grounded m m' req := by
  unfold listDevices at h
  split at h
  · cases h
    exact Or.inl ho
  · obtain ⟨ps, hps, rfl⟩ := Option.map_eq_some_iff.mp h
    rcases List.mem_append.mp ho with hold | hnew
    · exact Or.inl hold
    right
    rw [List.mem_singleton.mp hnew]
    refine ⟨fun id hid => Or.inl ?_, fun _ _ h => by cases h⟩
    obtain ⟨v, hv, hid⟩ := List.mem_filterMap.mp hid
    obtain ⟨p, hp, rfl⟩ := List.mem_map.mp hv
    exact deviceList_deviceId hm horder hps hp hid

theorem getDeviceConnection_grounded {id : UInt64} {client : Nat} {response : Option Nat}
    {o : Output} (ho : o ∈ (getDeviceConnection m id client).out) :
    o ∈ m.out ∨ o.Grounded m m' ⟨.getDeviceConnection id client, response⟩ := by
  rcases List.mem_append.mp ho with hold | hnew
  · exact Or.inl hold
  right
  rw [List.mem_singleton.mp hnew]
  refine ⟨fun i hi => (List.not_mem_nil hi).elim, fun caller lookup hlookup => ?_⟩
  injection hlookup with hcaller hlookup
  obtain ⟨device, hdevice, rfl⟩ := Option.map_eq_some_iff.mp hlookup
  exact ⟨id, device, by rw [hcaller], hdevice, rfl⟩

/-- **Whatever a request has told is about entries there are.** -/
theorem Manager.handle_grounded (hm : m.Proper) (horder : OrderOf m.devices env.order)
    (h : m.handle cfg env req = some m') {o : Output} (ho : o ∈ m'.out) :
    o ∈ m.out ∨ o.Grounded m m' req := by
  cases Manager.handle_served horder h with
  | answered outs hreq houts =>
      obtain ⟨requestType, response⟩ := req
      cases requestType with
      | discoveredNetworkDevice => exact discoveredNetworkDevice_grounded h ho
      | listDevices => exact listDevices_grounded hm horder h ho
      | getDeviceConnection id client =>
          have hm' := Option.some.inj h
          rw [← hm'] at ho
          exact getDeviceConnection_grounded ho
      | _ => cases hreq
  | handleReplaced => exact Or.inl ho
  | deferred => exact discoveredNetworkDevice_grounded h ho
  | listedNetwork => exact discoveredNetworkDevice_grounded h ho
  | listedUsb hnew hp => exact grounded_list hp (by simp [Manager.list]) ho
  | added hp =>
      rcases List.mem_append.mp ho with hold | hnew
      · exact grounded_list hp (by simp [Manager.list]) hold
      · exact Or.inr (grounded_responses hnew)
  | removed ids hids hall =>
      have hlisted : ∀ id ∈ ids, (m.devices id).isSome = true := by
        intro id hid
        obtain ⟨device, hdevice, -⟩ := (hall id).mp hid
        rw [hdevice]
        rfl
      refine List.foldlRecOn (motive := fun k : Manager => o ∈ k.out → o ∈ m.out ∨
        o.Grounded m (ids.foldl (removeEntry env.alive) m) _) ids _ Or.inl ?_ ho
      intro k ih id hid ho
      exact (grounded_removeEntry (hlisted id hid) ho).elim ih Or.inr
  | failed hfind hd =>
      rw [broadcast_out, dropEntry_out] at ho
      rcases List.mem_append.mp ho with hold | htold
      · exact (List.mem_append.mp hold).imp_right grounded_kills
      · refine Or.inr (grounded_tells htold fun l i hi => Or.inl ?_)
        rw [List.mem_singleton.mp hi, hd]
        rfl
  | failedNobody => exact Or.inl ho
  | opened => exact Or.inl ho
  | subscribed halive hps =>
      rcases List.mem_append.mp ho with hold | hnew
      · exact Or.inl hold
      · right
        obtain ⟨p, hp, rfl⟩ := List.mem_map.mp hnew
        refine ⟨fun id hid => Or.inl ?_, fun _ _ h => by cases h⟩
        exact deviceList_deviceId hm horder hps hp (Option.mem_toList.mp hid)
  | subscribedGone => exact Or.inl ho

/-! ### The handles -/

/-- A handle was there before and its entry stays, or it is the one that a discovery has
just put on an entry of its UDID. -/
theorem Served.handle_from (h : Served cfg env m req m') {id : UInt64} {handle : UsbMuxHandle}
    (hid : m'.usbHandles id = some handle) :
    (m.usbHandles id = some handle ∧
        ((m.devices id).isSome = true → (m'.devices id).isSome = true)) ∨
      ∃ locationId productId speed device, m'.devices id = some device ∧
        req.requestType =
          .discoveredUsbDevice device.serialNumber locationId productId speed handle := by
  cases h with
  | handleReplaced hd hmatch =>
      rename_i i device
      dsimp only at hid
      by_cases heq : id = i
      · right
        rw [heq, Function.update_self] at hid
        cases hid
        exact ⟨_, _, _, device, by rw [heq]; exact hd, by rw [hmatch.1]⟩
      · rw [Function.update_of_ne heq] at hid
        exact Or.inl ⟨hid, fun hsome => hsome⟩
  | listedNetwork => exact Or.inl ⟨hid, update_isSome⟩
  | listedUsb =>
      rename_i udid locationId productId speed _ _ _ _ _
      have hid : Function.update m.usbHandles m.lastIndex (some _) id = some handle := hid
      by_cases heq : id = m.lastIndex
      · right
        rw [heq, Function.update_self] at hid
        cases hid
        refine ⟨_, _, _, m.usbDevice udid locationId productId speed, ?_, rfl⟩
        rw [heq]
        exact Function.update_self ..
      · rw [Function.update_of_ne heq] at hid
        exact Or.inl ⟨hid, update_isSome⟩
  | added => exact Or.inl ⟨hid, update_isSome⟩
  | removed ids =>
      left
      rw [foldl_removeEntry_usbHandles] at hid
      split at hid
      · cases hid
      · rename_i hkept
        rw [foldl_removeEntry_devices, if_neg hkept]
        exact ⟨hid, fun hsome => hsome⟩
  | failed hfind =>
      left
      rename_i i _ _ _
      have hid : Function.update m.usbHandles i none id = some handle := hid
      by_cases heq : id = i
      · rw [heq, Function.update_self] at hid
        cases hid
      · rw [Function.update_of_ne heq] at hid
        rw [broadcast_devices, dropEntry_devices, Function.update_of_ne heq]
        exact ⟨hid, fun hsome => hsome⟩
  | _ => exact Or.inl ⟨hid, fun hsome => hsome⟩

end

/-! ### The counter over a run -/

/-- A discovery is submitted. -/
def Happening.discovers : Happening → Bool
  | .submit request => request.requestType.discovers?.isSome
  | _ => false

/-- How many discoveries there have been. -/
def discoveries (tr : List (Daemon × Happening × Daemon)) : Nat :=
  tr.countP fun t => t.2.1.discovers

/-- How many of them have yet to be served. -/
def pendingDiscoveries (queue : List Envelope) : Nat :=
  queue.countP fun e => e.request.requestType.discovers?.isSome

theorem discoveries_snoc (tr : List (Daemon × Happening × Daemon)) (d d' : Daemon)
    (a : Happening) :
    discoveries (tr ++ [(d, a, d')]) = discoveries tr + if a.discovers then 1 else 0 := by
  simp [discoveries, List.countP_append, List.countP_cons]

section
variable {cfg : Config} {d d' : Daemon} {a : Happening}

/-- A step takes no more ids than there are discoveries that it serves. -/
theorem Daemon.Stepped.counts (h : d.Stepped cfg a d')
    (hroom : d.mgr.lastIndex.toNat + 1 < 2 ^ 64) :
    d.mgr.lastIndex.toNat ≤ d'.mgr.lastIndex.toNat ∧
      d'.mgr.lastIndex.toNat + pendingDiscoveries d'.queue ≤
        d.mgr.lastIndex.toNat + pendingDiscoveries d.queue + if a.discovers then 1 else 0 := by
  have hsend : ∀ e : Envelope, pendingDiscoveries (d.queue ++ [e]) =
      pendingDiscoveries d.queue + if e.request.requestType.discovers?.isSome then 1 else 0 := by
    intro e
    simp [pendingDiscoveries, List.countP_append, List.countP_cons]
  cases h with
  | submit =>
      rename_i request _
      refine ⟨Nat.le_refl _, ?_⟩
      dsimp only [Daemon.send, Happening.discovers]
      rw [hsend, Nat.add_assoc]
      exact Nat.le_refl _
  | serve hqueue horder hserved =>
      rename_i order paired e rest m
      have hcount : pendingDiscoveries d.queue = pendingDiscoveries rest +
          if e.request.requestType.discovers?.isSome then 1 else 0 := by
        rw [hqueue]
        exact List.countP_cons
      dsimp only [Happening.discovers]
      rcases hserved.lastIndex with hsame | ⟨hreq, hnext⟩
      · rw [hsame]
        omega
      · have htoNat : m.lastIndex.toNat = d.mgr.lastIndex.toNat + 1 := by
          rw [hnext, UInt64.toNat_add]
          exact Nat.mod_eq_of_lt hroom
        rw [if_pos hreq] at hcount
        omega
  | leave => exact ⟨Nat.le_refl _, Nat.le_refl _⟩
  | givesUp => exact ⟨Nat.le_refl _, Nat.le_refl _⟩
  | _ =>
      refine ⟨Nat.le_refl _, ?_⟩
      dsimp only [Daemon.send]
      rw [hsend]
      exact Nat.le_refl _

/-- The ids that have been handed out, or still may be for what has been discovered. -/
structure Daemon.Counted (cfg : Config) (tr : List (Daemon × Happening × Daemon)) (d : Daemon) :
    Prop where
  above : (Manager.start cfg).lastIndex.toNat ≤ d.mgr.lastIndex.toNat
  below : d.mgr.lastIndex.toNat + pendingDiscoveries d.queue ≤
    (Manager.start cfg).lastIndex.toNat + discoveries tr

theorem start_lastIndex_le (cfg : Config) :
    (Manager.start cfg).lastIndex.toNat ≤ shimNetworkIdBase.toNat := by
  unfold Manager.start
  dsimp only
  split
  · exact Nat.le_refl _
  · decide

theorem Daemon.counted {tr : List (Daemon × Happening × Daemon)}
    (hrun : Run (Daemon.Step cfg) (Daemon.start cfg) tr d) (hfew : discoveries tr < 2 ^ 63) :
    d.Counted cfg tr ∧ EveryStep NoWrap tr := by
  induction hrun with
  | nil => exact ⟨⟨Nat.le_refl _, Nat.le_refl _⟩, everyStep_nil _⟩
  | snoc hrun hstep ih =>
      rename_i tr d d' a
      rw [discoveries_snoc] at hfew
      obtain ⟨⟨habove, hbelow⟩, hwrap⟩ := ih (by omega)
      have hbase : shimNetworkIdBase.toNat = 0x10000000 := rfl
      have hstart := start_lastIndex_le cfg
      obtain ⟨hmono, hcount⟩ := hstep.stepped.counts (by omega)
      refine ⟨⟨Nat.le_trans habove hmono, ?_⟩, ?_⟩
      · rw [discoveries_snoc]
        omega
      · exact everyStep_snoc.mpr ⟨hwrap, UInt64.le_iff_toNat_le.mpr hmono⟩

/-! ### The ids over a run -/

/-- What becomes of the entries in a step.  A deferred add is about a device that is owed. -/
inductive Daemon.Enters (d d' : Daemon) : Option MuxerDevice → Prop
  | nothing
      (hdevices : ∀ id device, d'.mgr.devices id = some device → d.mgr.devices id = some device) :
      Enters d d' none
  | next {device : MuxerDevice}
      (hdevices : d'.mgr.devices = Function.update d.mgr.devices device.deviceId (some device))
      (hid : device.deviceId = d.mgr.lastIndex) (hlast : d'.mgr.lastIndex = d.mgr.lastIndex + 1) :
      Enters d d' (some device)
  | owed {device : MuxerDevice} {k : Nat}
      (hdevices : d'.mgr.devices = Function.update d.mgr.devices device.deviceId (some device))
      (howes : d.Owes k device) : Enters d d' (some device)

theorem Daemon.Step.lists (h : Daemon.Step cfg d a d') (hd : d.Sound) :
    d.Enters d' (d.lists? cfg a) := by
  by_cases hserve : ∃ order paired, a = .serve order paired
  · obtain ⟨order, paired, rfl⟩ := hserve
    obtain ⟨e, rest, m, hqueue, horder, hm, rfl⟩ := h.served
    have hlists := Manager.handle_lists horder hm
    dsimp only [Daemon.lists?]
    rw [hqueue, List.head?_cons, Option.bind_some]
    generalize d.mgr.lists? cfg (d.surroundings order paired) e.request.requestType = listed
      at hlists ⊢
    cases hlists with
    | nothing hdevices => exact .nothing hdevices
    | next hdevices hid hlast => exact .next hdevices hid hlast
    | deferred hdevices hreq =>
        obtain ⟨k, howes, -, -⟩ := h.stepped.pays hd rfl hqueue hreq
        exact .owed hdevices howes
  · have hplain : ∀ order paired, a ≠ .serve order paired :=
      fun order paired ha => hserve ⟨order, paired, ha⟩
    obtain ⟨outs, -, hmgr⟩ := h.stepped.mgr_eq hplain
    have hnone : d.lists? cfg a = none := by
      cases a with
      | serve order paired => exact absurd rfl (hplain order paired)
      | _ => rfl
    rw [hnone]
    refine .nothing fun id device hid => ?_
    rwa [hmgr] at hid

/-- No id has been given to two devices.  Those of the devices listed so far are below the
next one, and none of them is owed to a heartbeat task. -/
structure Daemon.Ids (cfg : Config) (tr : List (Daemon × Happening × Daemon)) (d : Daemon) :
    Prop where
  once : ((additions cfg tr).map (·.deviceId)).Nodup
  given : ∀ device ∈ additions cfg tr,
    (Manager.start cfg).lastIndex ≤ device.deviceId ∧ device.deviceId < d.mgr.lastIndex
  tasks : ∀ k device response, d.session k = some (device, response) →
    (Manager.start cfg).lastIndex ≤ device.deviceId
  owed : ∀ k device, d.Owes k device → ∀ dev ∈ additions cfg tr, dev.deviceId ≠ device.deviceId
  listed : ∀ id device, d.mgr.devices id = some device → device ∈ additions cfg tr

theorem Daemon.ids_start (cfg : Config) : (Daemon.start cfg).Ids cfg [] where
  once := List.nodup_nil
  given := by
    intro device h
    cases h
  tasks := by
    intro k device response h
    cases h
  owed := by
    intro k device h dev hdev
    cases hdev
  listed := by
    intro id device h
    cases h

theorem Daemon.Step.ids (h : Daemon.Step cfg d a d') {tr : List (Daemon × Happening × Daemon)}
    (hd : d.Sound) (hf' : d'.Fresh) (hwrap : NoWrap d a d')
    (habove : (Manager.start cfg).lastIndex ≤ d.mgr.lastIndex) (hids : d.Ids cfg tr) :
    d'.Ids cfg (tr ++ [(d, a, d')]) := by
  have hold : ∀ device ∈ additions cfg tr,
      (Manager.start cfg).lastIndex ≤ device.deviceId ∧ device.deviceId < d'.mgr.lastIndex :=
    fun device hdev => (hids.given device hdev).imp_right fun hlt => UInt64.lt_of_lt_of_le hlt hwrap
  have htasks : ∀ k device response, d'.session k = some (device, response) →
      (Manager.start cfg).lastIndex ≤ device.deviceId := by
    intro k device response hk
    rcases h.stepped.session with hsame | ⟨_, _, _, _, _, _, _, _, -, -, -, -, -, -, hsession⟩
    · rw [hsame] at hk
      exact hids.tasks k device response hk
    · rw [hsession] at hk
      split at hk
      · cases hk
        exact habove
      · exact hids.tasks k device response hk
  have howed : ∀ k device, d'.Owes k device → ∀ dev ∈ additions cfg tr,
      dev.deviceId ≠ device.deviceId := by
    intro k device howes dev hdev
    rcases h.stepped.owes howes with hbefore | ⟨_, _, _, _, _, _, _, _, -, -, -, -, -, hdevice, -⟩
    · exact hids.owed k device hbefore dev hdev
    · rw [hdevice]
      exact UInt64.ne_of_lt (hids.given dev hdev).2
  have hadditions := additions_snoc cfg tr d d' a
  have hlists := h.lists hd
  cases hlisted : d.lists? cfg a with
  | none =>
      rw [hlisted] at hadditions hlists
      rw [Option.toList_none, List.append_nil] at hadditions
      cases hlists with
      | nothing hdevices =>
          refine ⟨?_, ?_, htasks, ?_, ?_⟩
          · rw [hadditions]
            exact hids.once
          · rw [hadditions]
            exact hold
          · rw [hadditions]
            exact howed
          · intro id device hid
            rw [hadditions]
            exact hids.listed id device (hdevices id device hid)
  | some device =>
      rw [hlisted] at hadditions hlists
      rw [Option.toList_some] at hadditions
      have hnew : d'.mgr.devices = Function.update d.mgr.devices device.deviceId (some device) ∧
          (∀ dev ∈ additions cfg tr, dev.deviceId ≠ device.deviceId) ∧
          (Manager.start cfg).lastIndex ≤ device.deviceId := by
        cases hlists with
        | next hdevices hid hlast =>
            refine ⟨hdevices, fun dev hdev => ?_, hid ▸ habove⟩
            rw [hid]
            exact UInt64.ne_of_lt (hids.given dev hdev).2
        | owed hdevices howes =>
            obtain ⟨response, hsession⟩ := howes.1
            exact ⟨hdevices, hids.owed _ device howes, hids.tasks _ device response hsession⟩
      obtain ⟨hdevices, hapart, hbase⟩ := hnew
      have hpresent : d'.mgr.devices device.deviceId = some device := by
        rw [hdevices, Function.update_self]
      refine ⟨?_, ?_, htasks, ?_, ?_⟩
      · rw [hadditions, List.map_append]
        refine List.nodup_append.mpr ⟨hids.once, by simp, ?_⟩
        intro id hid id' hid'
        obtain ⟨dev, hdev, rfl⟩ := List.mem_map.mp hid
        rw [List.mem_singleton.mp hid']
        exact hapart dev hdev
      · intro dev hdev
        rw [hadditions] at hdev
        rcases List.mem_append.mp hdev with hdev | hdev
        · exact hold dev hdev
        · rw [List.mem_singleton.mp hdev]
          exact ⟨hbase, hf'.listed _ (by rw [hpresent]; rfl)⟩
      · intro k dev howes dev' hdev'
        rw [hadditions] at hdev'
        rcases List.mem_append.mp hdev' with hdev' | hdev'
        · exact howed k dev howes dev' hdev'
        · rw [List.mem_singleton.mp hdev']
          intro heq
          have hnone := (hf'.owed k dev howes).1
          rw [← heq, hpresent] at hnone
          cases hnone
      · intro id dev hid
        rw [hdevices] at hid
        rw [hadditions]
        rcases update_eq_some hid with hid | ⟨-, rfl⟩
        · exact List.mem_append_left _ (hids.listed id dev hid)
        · exact List.mem_append_right _ (List.mem_singleton_self _)

/-! ### What clients learn and reach -/

/-- The handle was reported by a discovery of this UDID. -/
def Reported (tr : List (Daemon × Happening × Daemon)) (udid : String) (handle : UsbMuxHandle) :
    Prop :=
  ∃ t ∈ tr, ∃ order paired e rest locationId productId speed, t.2.1 = .serve order paired ∧
    t.1.queue = e :: rest ∧
    e.request.requestType = .discoveredUsbDevice udid locationId productId speed handle

/-- A connection to what the lookup says is one to this device. -/
structure DeviceConnection.Reaches (tr : List (Daemon × Happening × Daemon))
    (lookup : DeviceConnection) (device : MuxerDevice) : Prop where
  connectionType : lookup.connectionType = device.connectionType
  serialNumber : lookup.serialNumber = device.serialNumber
  networkAddress : lookup.networkAddress = device.networkAddress
  usb : ∀ handle, lookup.usb = some handle → Reported tr device.serialNumber handle

theorem Reported.mono {tr tr' : List (Daemon × Happening × Daemon)} {udid : String}
    {handle : UsbMuxHandle} (h : Reported tr udid handle) : Reported (tr ++ tr') udid handle := by
  obtain ⟨t, ht, hreported⟩ := h
  exact ⟨t, List.mem_append_left _ ht, hreported⟩

theorem DeviceConnection.Reaches.mono {tr tr' : List (Daemon × Happening × Daemon)}
    {lookup : DeviceConnection} {device : MuxerDevice} (h : lookup.Reaches tr device) :
    lookup.Reaches (tr ++ tr') device :=
  { h with usb := fun handle hhandle => (h.usb handle hhandle).mono }

/-- What clients have been told names devices that were listed, and what they have been told
of a device leads to that device. -/
structure Daemon.Told (cfg : Config) (tr : List (Daemon × Happening × Daemon)) (d : Daemon) :
    Prop where
  named : ∀ o ∈ d.mgr.out, ∀ id ∈ o.names, ∃ device ∈ additions cfg tr, device.deviceId = id
  handles : ∀ id handle, d.mgr.usbHandles id = some handle →
    ∃ device, d.mgr.devices id = some device ∧ Reported tr device.serialNumber handle
  asked : ∀ e ∈ d.queue, ∀ id client, e.request.requestType = .getDeviceConnection id client →
    d.dials[client]? = some id
  answered : ∀ client lookup, .connection client (some lookup) ∈ d.mgr.out →
    ∃ id device, d.dials[client]? = some id ∧ device ∈ additions cfg tr ∧ device.deviceId = id ∧
      lookup.Reaches tr device

theorem Daemon.told_start (cfg : Config) : (Daemon.start cfg).Told cfg [] where
  named := by
    intro o h
    cases h
  handles := by
    intro id handle h
    cases h
  asked := by
    intro e h
    cases h
  answered := by
    intro client lookup h
    cases h

/-- Who has dialled has done so for good. -/
theorem Daemon.Stepped.dials (h : d.Stepped cfg a d') {client : Nat} {id : UInt64}
    (hid : d.dials[client]? = some id) : d'.dials[client]? = some id := by
  cases h with
  | dial =>
      have hlt := (List.getElem?_eq_some_iff.mp hid).1
      dsimp only
      rwa [List.getElem?_append_left hlt]
  | _ => exact hid

theorem Daemon.Stepped.asked (h : d.Stepped cfg a d')
    (hd : ∀ e ∈ d.queue, ∀ id client, e.request.requestType = .getDeviceConnection id client →
      d.dials[client]? = some id) :
    ∀ e ∈ d'.queue, ∀ id client, e.request.requestType = .getDeviceConnection id client →
      d'.dials[client]? = some id := by
  have hsend : ∀ e' : Envelope, d'.queue = d.queue ++ [e'] →
      (∀ id client, e'.request.requestType = .getDeviceConnection id client →
        d'.dials[client]? = some id) →
      ∀ e ∈ d'.queue, ∀ id client, e.request.requestType = .getDeviceConnection id client →
        d'.dials[client]? = some id := by
    intro e' hqueue hnew e he id client hreq
    rw [hqueue] at he
    rcases List.mem_append.mp he with he | he
    · exact h.dials (hd e he id client hreq)
    · rw [List.mem_singleton.mp he] at hreq
      exact hnew id client hreq
  cases h with
  | dial =>
      refine hsend _ rfl fun id client hreq => ?_
      cases hreq
      exact List.getElem?_concat_length
  | submit hreq =>
      refine hsend _ rfl fun id client hget => ?_
      have hget : _ = ManagerRequestType.getDeviceConnection id client := hget
      rw [hget] at hreq
      cases hreq
  | leave => exact hd
  | givesUp => exact hd
  | serve hqueue =>
      intro e he id client hreq
      exact hd e (by rw [hqueue]; exact List.mem_cons_of_mem _ he) id client hreq
  | _ => exact hsend _ rfl fun id client hreq => by cases hreq

/-- A step other than serving a request tells nobody about a device. -/
theorem Daemon.Stepped.quiet (h : d.Stepped cfg a d')
    (ha : ∀ order paired, a ≠ .serve order paired) :
    ∃ response, d'.mgr = d.mgr.emit (responses response (resultPlist 0)) := by
  cases h with
  | serve => exact absurd rfl (ha _ _)
  | givesUp => exact ⟨_, rfl⟩
  | _ => exact ⟨none, (emit_nil _).symm⟩

theorem Daemon.Step.told (h : Daemon.Step cfg d a d') {tr : List (Daemon × Happening × Daemon)}
    (hd : d.Sound) (hids : d.Ids cfg tr)
    (hids' : d'.Ids cfg (tr ++ [(d, a, d')])) (ht : d.Told cfg tr) :
    d'.Told cfg (tr ++ [(d, a, d')]) := by
  have hmore : ∀ device ∈ additions cfg tr, device ∈ additions cfg (tr ++ [(d, a, d')]) := by
    intro device hdev
    rw [additions_snoc]
    exact List.mem_append_left _ hdev
  have hlisted : ∀ id, (d.mgr.devices id).isSome = true ∨ (d'.mgr.devices id).isSome = true →
      ∃ device ∈ additions cfg (tr ++ [(d, a, d')]), device.deviceId = id := by
    intro id hid
    rcases hid with hid | hid
    · obtain ⟨device, hdevice⟩ := Option.isSome_iff_exists.mp hid
      exact ⟨device, hmore device (hids.listed id device hdevice), (hd.listed id device hdevice).1⟩
    · obtain ⟨device, hdevice⟩ := Option.isSome_iff_exists.mp hid
      exact ⟨device, hids'.listed id device hdevice,
        ((h.stepped.sound hd).listed id device hdevice).1⟩
  have hnamed : ∀ {req : ManagerRequest},
      (∀ o ∈ d'.mgr.out, o ∈ d.mgr.out ∨ o.Grounded d.mgr d'.mgr req) →
      ∀ o ∈ d'.mgr.out, ∀ id ∈ o.names,
        ∃ device ∈ additions cfg (tr ++ [(d, a, d')]), device.deviceId = id := by
    intro req hout o ho id hid
    rcases hout o ho with hold | hnew
    · obtain ⟨device, hdevice, hid⟩ := ht.named o hold id hid
      exact ⟨device, hmore device hdevice, hid⟩
    · exact hlisted id (hnew.1 id hid)
  have hasked := h.stepped.asked ht.asked
  have hanswered : ∀ client lookup, .connection client (some lookup) ∈ d.mgr.out →
      ∃ id device, d'.dials[client]? = some id ∧
        device ∈ additions cfg (tr ++ [(d, a, d')]) ∧ device.deviceId = id ∧
        lookup.Reaches (tr ++ [(d, a, d')]) device := by
    intro client lookup ho
    obtain ⟨id, device, hdial, hdevice, hid, hreaches⟩ := ht.answered client lookup ho
    exact ⟨id, device, h.stepped.dials hdial, hmore device hdevice, hid, hreaches.mono⟩
  by_cases hserve : ∃ order paired, a = .serve order paired
  · obtain ⟨order, paired, rfl⟩ := hserve
    obtain ⟨e, rest, m, hqueue, horder, hm, rfl⟩ := h.served
    have hout : ∀ o ∈ m.out, o ∈ d.mgr.out ∨ o.Grounded d.mgr m e.request :=
      fun o ho => Manager.handle_grounded hd.listed horder hm ho
    refine ⟨hnamed hout, ?_, hasked, ?_⟩
    · intro id handle hid
      rcases (Manager.handle_served horder hm).handle_from hid with
        ⟨hbefore, hstays⟩ | ⟨locationId, productId, speed, device, hdevice, hreq⟩
      · obtain ⟨device, hdevice, hreported⟩ := ht.handles id handle hbefore
        obtain ⟨device', hdevice'⟩ :=
          Option.isSome_iff_exists.mp (hstays (by rw [hdevice]; rfl))
        refine ⟨device', hdevice', ?_⟩
        -- an entry that is still there is still the same device
        have hsame : device' = device := by
          refine List.inj_on_of_nodup_map hids'.once (hids'.listed id device' hdevice')
            (hmore device (hids.listed id device hdevice)) ?_
          rw [((h.stepped.sound hd).listed id device' hdevice').1, (hd.listed id device hdevice).1]
        rw [hsame]
        exact hreported.mono
      · exact ⟨device, hdevice, _, List.mem_append_right _ (List.mem_singleton_self _),
          order, paired, e, rest, locationId, productId, speed, rfl, hqueue, hreq⟩
    · intro client lookup ho
      rcases hout _ ho with hold | hnew
      · exact hanswered client lookup hold
      · obtain ⟨id, device, hreq, hdevice, rfl⟩ := hnew.2 client lookup rfl
        have hdial := ht.asked e (mem_queue hqueue) id client hreq
        refine ⟨id, device, h.stepped.dials hdial, hmore device (hids.listed id device hdevice),
          (hd.listed id device hdevice).1, rfl, rfl, rfl, fun handle hhandle => ?_⟩
        obtain ⟨device', hdevice', hreported⟩ := ht.handles id handle hhandle
        rw [hdevice] at hdevice'
        cases hdevice'
        exact hreported.mono
  · obtain ⟨response, hmgr⟩ :=
      h.stepped.quiet fun order paired ha => hserve ⟨order, paired, ha⟩
    have hout : ∀ o ∈ d'.mgr.out, o ∈ d.mgr.out ∨ o.Grounded d.mgr d'.mgr ⟨.listDevices, none⟩ := by
      intro o ho
      rw [hmgr] at ho
      exact (List.mem_append.mp ho).imp_right grounded_responses
    refine ⟨hnamed hout, ?_, hasked, ?_⟩
    · intro id handle hid
      rw [hmgr] at hid ⊢
      obtain ⟨device, hdevice, hreported⟩ := ht.handles id handle hid
      exact ⟨device, hdevice, hreported.mono⟩
    · intro client lookup ho
      rcases hout _ ho with hold | hnew
      · exact hanswered client lookup hold
      · obtain ⟨id, device, hreq, -⟩ := hnew.2 client lookup rfl
        cases hreq

theorem Daemon.ids_told {tr : List (Daemon × Happening × Daemon)}
    (hrun : Run (Daemon.Step cfg) (Daemon.start cfg) tr d) (hfew : discoveries tr < 2 ^ 63) :
    d.Ids cfg tr ∧ d.Told cfg tr := by
  induction hrun with
  | nil => exact ⟨ids_start cfg, told_start cfg⟩
  | snoc hrun hstep ih =>
      rename_i tr d d' a
      have hless : discoveries tr < 2 ^ 63 := by
        rw [discoveries_snoc] at hfew
        omega
      obtain ⟨hids, htold⟩ := ih hless
      obtain ⟨hcounted, hwrap⟩ := Daemon.counted hrun hless
      obtain ⟨-, hwrap'⟩ := Daemon.counted (hrun.snoc hstep) hfew
      obtain ⟨hd, -, -⟩ := Daemon.mirrored hrun hwrap
      obtain ⟨-, hf', -⟩ := Daemon.mirrored (hrun.snoc hstep) hwrap'
      have hids' := hstep.ids hd hf' (everyStep_snoc.mp hwrap').2
        (UInt64.le_iff_toNat_le.mpr hcounted.above) hids
      exact ⟨hids', hstep.told hd hids hids' htold⟩

end

/-! ### Who makes a connection -/

/-- A call that goes to the upstream muxer. -/
def ClientCall.ToUpstream : ClientCall → Prop
  | .connectUpstream | .writeUpstream _ | .readUpstream _ => True
  | _ => False

/-- A call that goes to the manager, or to one of its devices. -/
def ClientCall.ToOwn : ClientCall → Prop
  | .request _ | .getDeviceConnection _ | .removeDevice _ | .openSocket _ | .subscribe
  | .connectTcp _ _ | .connectUsb _ _ => True
  | _ => False

/-- The call is not to a device, or to the one that the lookup is about. -/
def ClientCall.Follows (answer : Option (Option DeviceConnection)) : ClientCall → Prop
  | .connectTcp addr _ => ∃ lookup, answer = some (some lookup) ∧ lookup.networkAddress = some addr
  | .connectUsb handle _ => ∃ lookup, answer = some (some lookup) ∧ lookup.usb = some handle
  | _ => True

/-- The Connect is passed on to the upstream muxer. -/
structure ByUpstream (t : List (Exchange ClientCall.Answer)) : Prop where
  first : ∃ reached rest, t = ⟨.connectUpstream, reached⟩ :: rest
  only : ∀ e ∈ t, ¬ e.1.ToOwn

/-- The Connect is served with what the manager says of its id. -/
structure ByManager (id : UInt64) (t : List (Exchange ClientCall.Answer)) : Prop where
  first : ∃ answer rest, t = ⟨.getDeviceConnection id, answer⟩ :: rest ∧
    ∀ e ∈ rest, e.1.Follows answer
  only : ∀ e ∈ t, ¬ e.1.ToUpstream

/-- What the upstream muxer has sent. -/
def heardUpstream (t : List (Exchange ClientCall.Answer)) : Bytes :=
  t.flatMap fun
    | ⟨.readUpstream _, some bytes⟩ => bytes.toList
    | _ => []

section
variable {PairingFile : Type} (idevice : Idevice PairingFile)

theorem refuse_only {P : ClientCall → Prop} (h : ∀ frame, P (.writeAll frame)) (tag : UInt32) :
    (refuse idevice tag).Only P := by
  unfold refuse
  exact Only.bind (only_perform (h _)) fun _ => only_pure _

/-- **Ids below the base are upstream's.** -/
theorem connect_byUpstream {id : UInt64} (hid : id < shimNetworkIdBase) (port : UInt16)
    (buffer : Bytes) (tag : UInt32) :
    (connect idevice true id port buffer tag).Meets fun t _ => ByUpstream t := by
  have hrefuse : (refuse idevice tag).Only fun c => ¬ c.ToOwn :=
    refuse_only idevice (fun _ h => h) tag
  unfold connect
  rw [if_pos (by simp [hid]), meets_bind, meets_perform]
  intro reached
  have honly : ∀ {m : Client (Option ClientEnding)}, (m.Only fun c => ¬ c.ToOwn) →
      m.Meets fun t _ => ByUpstream ([⟨.connectUpstream, reached⟩] ++ t) := by
    intro m hm
    refine Meets.imp hm fun t _ ht => ⟨⟨reached, t, rfl⟩, fun e he => ?_⟩
    rcases List.mem_cons.mp he with rfl | he
    · exact fun h => h
    · exact ht e he
  apply honly
  cases reached with
  | false => exact hrefuse
  | true =>
      refine Only.bind (only_perform fun h => h) fun wrote => ?_
      cases wrote with
      | false => exact hrefuse
      | true => exact Only.bind (only_perform fun h => h) fun _ => only_pure _

theorem dialDevice_only (lookup : DeviceConnection) (port : UInt16) :
    (dialDevice lookup port).Only fun c =>
      c.Follows (some (some lookup)) ∧ ¬ c.ToUpstream := by
  unfold dialDevice
  split
  · split
    · rename_i addr haddr
      exact only_perform ⟨⟨lookup, rfl, haddr⟩, fun h => h⟩
    · exact only_pure _
  · split
    · split
      · rename_i handle hhandle
        exact only_perform ⟨⟨lookup, rfl, hhandle⟩, fun h => h⟩
      · exact only_pure _
    · exact only_pure _

/-- **All other ids are the manager's.** -/
theorem connect_byManager {upstream : Bool} {id : UInt64}
    (hid : ¬ (upstream = true ∧ id < shimNetworkIdBase)) (port : UInt16) (buffer : Bytes)
    (tag : UInt32) :
    (connect idevice upstream id port buffer tag).Meets fun t _ => ByManager id t := by
  have hrefuse : ∀ answer, (refuse idevice tag).Only fun c => c.Follows answer ∧ ¬ c.ToUpstream :=
    fun answer => refuse_only idevice (fun _ => ⟨trivial, fun h => h⟩) tag
  unfold connect
  rw [if_neg (by simpa using hid), meets_bind, meets_perform]
  intro answer
  have honly : ∀ {m : Client (Option ClientEnding)},
      (m.Only fun c => c.Follows answer ∧ ¬ c.ToUpstream) →
      m.Meets fun t _ => ByManager id ([⟨.getDeviceConnection id, answer⟩] ++ t) := by
    intro m hm
    refine Meets.imp hm fun t _ ht => ⟨⟨answer, t, rfl, fun e he => (ht e he).1⟩, fun e he => ?_⟩
    rcases List.mem_cons.mp he with rfl | he
    · exact fun h => h
    · exact (ht e he).2
  apply honly
  cases answer with
  | none => exact only_pure _
  | some lookup =>
      cases lookup with
      | none => exact hrefuse _
      | some lookup =>
          refine Only.bind (dialDevice_only lookup port) fun dialled => ?_
          cases dialled with
          | false => exact hrefuse _
          | true =>
              refine Only.bind (only_perform ⟨trivial, fun h => h⟩) fun answered => ?_
              cases answered with
              | false => exact only_pure _
              | true =>
                  refine Only.bind (only_perform ⟨trivial, fun h => h⟩) fun opened => ?_
                  cases opened with
                  | false => exact only_pure _
                  | true =>
                      exact Only.bind (only_perform ⟨trivial, fun h => h⟩) fun _ => only_pure _

/-! ### The merged list -/

theorem readFrame_heard : readFrame.Meets fun t frame => ∀ bytes, frame = some bytes →
    heardUpstream t = bytes := by
  unfold readFrame
  rw [meets_bind, meets_perform]
  intro header
  cases header with
  | none => simp
  | some header =>
      dsimp only
      split
      · simp
      · rw [meets_bind, meets_perform]
        intro body
        cases body with
        | none => simp
        | some body =>
            rw [meets_pure]
            intro bytes hbytes
            cases hbytes
            simp [heardUpstream]

/-- The merged list is upstream's, followed by the manager's. -/
theorem listDevicesMerged_lists (request : Bytes) (networkDevices : List Value) (tag : UInt32) :
    (listDevicesMerged idevice request networkDevices tag).Meets fun t out =>
      ∀ bytes, out = some bytes → ∃ parsed, idevice.parse (heardUpstream t) = some parsed ∧
        bytes = idevice.bytes (idevice.intoPacket
          (.deviceList (parsed.plist.deviceList ++ networkDevices)) tag) := by
  unfold listDevicesMerged
  rw [meets_bind, meets_perform]
  intro connected
  cases connected with
  | false => simp
  | true =>
      rw [if_pos rfl, meets_bind, meets_perform]
      intro wrote
      cases wrote with
      | false => simp
      | true =>
          rw [if_pos rfl, meets_bind]
          refine readFrame_heard.imp fun t frame hframe => ?_
          cases frame with
          | none => simp
          | some frame =>
              dsimp only
              split
              · rename_i parsed hparsed
                rw [meets_pure]
                intro bytes hbytes
                cases hbytes
                refine ⟨parsed, ?_, rfl⟩
                have hheard : heardUpstream ([⟨.connectUpstream, true⟩] ++
                    ([⟨.writeUpstream request, true⟩] ++ (t ++ []))) = frame := by
                  rw [List.append_nil, ← hframe frame rfl]
                  rfl
                rw [hheard]
                exact hparsed
              · simp

/-! ### All of it -/

/-- An id stands for one device, whoever goes by it and whenever. -/
structure Daemon.Unambiguous (cfg : Config) (tr : List (Daemon × Happening × Daemon))
    (d : Daemon) : Prop where
  /-- No id is given to two additions. -/
  once : ((additions cfg tr).map (·.deviceId)).Nodup
  /-- Every id that is told is that of an addition. -/
  named : ∀ o ∈ d.mgr.out, ∀ id ∈ o.names, ∃ device ∈ additions cfg tr, device.deviceId = id
  /-- In shim mode no id that is listed or told is below the base. -/
  above : cfg.upstream = true → ∀ id,
    ((d.mgr.devices id).isSome = true ∨ ∃ o ∈ d.mgr.out, id ∈ o.names) → shimNetworkIdBase ≤ id
  /-- A Connect that names an entry of the merged list is made by the muxer that listed it. -/
  routed : cfg.upstream = true → ∀ caller res, .respond caller res ∈ d.mgr.out →
    ∀ request tag t bytes,
      (listDevicesMerged idevice request res.deviceList tag).Runs t (some bytes) →
      ∃ parsed, idevice.parse (heardUpstream t) = some parsed ∧
        bytes = idevice.bytes (idevice.intoPacket
          (.deviceList (parsed.plist.deviceList ++ res.deviceList)) tag) ∧
        ((∀ v ∈ parsed.plist.deviceList, ∀ id, v.deviceId = some id → id < shimNetworkIdBase) →
          ∀ id port buffer tag',
            ((∃ v ∈ parsed.plist.deviceList, v.deviceId = some id) →
              (connect idevice true id port buffer tag').Meets fun t _ => ByUpstream t) ∧
            ((∃ v ∈ res.deviceList, v.deviceId = some id) →
              (connect idevice true id port buffer tag').Meets fun t _ => ByManager id t))
  /-- A Connect that is not upstream's goes by what the manager says of its id, -/
  served : ∀ id port buffer tag, ¬ (cfg.upstream = true ∧ id < shimNetworkIdBase) →
    (connect idevice cfg.upstream id port buffer tag).Meets fun t _ => ByManager id t
  /-- which is the one device that ever had the id. -/
  reached : ∀ client id lookup, d.dials[client]? = some id →
    .connection client (some lookup) ∈ d.mgr.out →
    ∃ device ∈ additions cfg tr, device.deviceId = id ∧ lookup.Reaches tr device ∧
      ∀ dev ∈ additions cfg tr, dev.deviceId = id → dev = device

/-- **Device ids are never ambiguous**, as long as there are not too many discoveries. -/
theorem device_ids_are_unambiguous {cfg : Config} {d : Daemon}
    {tr : List (Daemon × Happening × Daemon)}
    (hrun : Run (Daemon.Step cfg) (Daemon.start cfg) tr d) (hfew : discoveries tr < 2 ^ 63) :
    d.Unambiguous idevice cfg tr := by
  obtain ⟨hids, htold⟩ := Daemon.ids_told hrun hfew
  have hbase : cfg.upstream = true → ∀ device ∈ additions cfg tr,
      shimNetworkIdBase ≤ device.deviceId := by
    intro hshim device hdevice
    have hge := (hids.given device hdevice).1
    rwa [Manager.start, if_pos hshim] at hge
  have htoldBase : cfg.upstream = true → ∀ o ∈ d.mgr.out, ∀ id ∈ o.names,
      shimNetworkIdBase ≤ id := by
    intro hshim o ho id hid
    obtain ⟨device, hdevice, rfl⟩ := htold.named o ho id hid
    exact hbase hshim device hdevice
  refine ⟨hids.once, htold.named, ?_, ?_, ?_, ?_⟩
  · rintro hshim id (hid | ⟨o, ho, hid⟩)
    · obtain ⟨device, hdevice⟩ := Option.isSome_iff_exists.mp hid
      have hge := hbase hshim device (hids.listed id device hdevice)
      rwa [((Daemon.sound hrun).listed id device hdevice).1] at hge
    · exact htoldBase hshim o ho id hid
  · intro hshim caller res hres request tag t bytes hruns
    obtain ⟨parsed, hparsed, hbytes⟩ :=
      listDevicesMerged_lists idevice request res.deviceList tag t (some bytes) hruns bytes rfl
    refine ⟨parsed, hparsed, hbytes, fun htheirs id port buffer tag' => ⟨?_, ?_⟩⟩
    · rintro ⟨v, hv, hid⟩
      exact connect_byUpstream idevice (htheirs v hv id hid) port buffer tag'
    · rintro ⟨v, hv, hid⟩
      refine connect_byManager idevice ?_ port buffer tag'
      rintro ⟨-, hlt⟩
      have hge := htoldBase hshim _ hres id (List.mem_filterMap.mpr ⟨v, hv, hid⟩)
      exact absurd hlt (UInt64.not_lt.mpr hge)
  · intro id port buffer tag hid
    exact connect_byManager idevice hid port buffer tag
  · intro client id lookup hdial ho
    obtain ⟨id', device, hdial', hdevice, hid, hreaches⟩ := htold.answered client lookup ho
    rw [hdial] at hdial'
    cases hdial'
    exact ⟨device, hdevice, hid, hreaches, fun dev hdev heq =>
      List.inj_on_of_nodup_map hids.once hdev hdevice (heq.trans hid.symm)⟩

end

/-- In shim mode two devices are discovered over the network, and the first is removed and
discovered again.  It has another id then; who dials the one it had first finds nothing. -/
theorem shim_devices_are_unambiguous : ∃ d tr,
    Run (Daemon.Step ⟨false, true, false⟩) (Daemon.start ⟨false, true, false⟩) tr d ∧
      d.mgr.devices shimNetworkIdBase = none ∧
      (d.mgr.devices (shimNetworkIdBase + 1)).isSome = true ∧
      (d.mgr.devices (shimNetworkIdBase + 2)).isSome = true ∧
      d.dials = [shimNetworkIdBase, shimNetworkIdBase + 2] ∧
      found 0 d.mgr.out = none ∧ (found 1 d.mgr.out).isSome = true ∧
      d.Unambiguous plainIdevice ⟨false, true, false⟩ tr := by
  have one : ∀ u, OrderOf (Function.update (fun _ => none) shimNetworkIdBase (some u))
      [shimNetworkIdBase] := fun _ => orderOf_nil.insert (by simp)
  have two : ∀ u v, OrderOf (Function.update (Function.update (fun _ => none) shimNetworkIdBase
      (some u)) (shimNetworkIdBase + 1) (some v)) [shimNetworkIdBase + 1, shimNetworkIdBase] :=
    fun u _ => (one u).insert (by decide)
  have removed : ∀ u v, OrderOf (Function.update (Function.update (Function.update (fun _ => none)
      shimNetworkIdBase (some u)) (shimNetworkIdBase + 1) (some v)) shimNetworkIdBase none)
        [shimNetworkIdBase + 1] :=
    fun u v => (two u v).erase shimNetworkIdBase
  have back : ∀ u v w, OrderOf (Function.update (Function.update (Function.update (Function.update
      (fun _ => none) shimNetworkIdBase (some u)) (shimNetworkIdBase + 1) (some v))
        shimNetworkIdBase none) (shimNetworkIdBase + 2) (some w))
          [shimNetworkIdBase + 2, shimNetworkIdBase + 1] :=
    fun u v _ => (removed u v).insert (by decide)
  have hplays : Lib.Plays (Daemon.next ⟨false, true, false⟩) (fun d a _ => a.Valid d)
      (Daemon.start ⟨false, true, false⟩)
      [resolution "u", .serve [] fun _ => true,
        resolution "v", .serve [shimNetworkIdBase] fun _ => true,
        .submit ⟨.removeDevice "u" none, none⟩,
        .serve [shimNetworkIdBase + 1, shimNetworkIdBase] fun _ => true,
        resolution "u", .serve [shimNetworkIdBase + 1] fun _ => true,
        .dial shimNetworkIdBase, .dial (shimNetworkIdBase + 2),
        .serve [shimNetworkIdBase + 2, shimNetworkIdBase + 1] fun _ => true,
        .serve [shimNetworkIdBase + 2, shimNetworkIdBase + 1] fun _ => true] _ :=
    ⟨_, rfl, trivial, _, rfl, orderOf_nil, _, rfl, trivial, _, rfl, one _, _, rfl, trivial,
      _, rfl, two _ _, _, rfl, trivial, _, rfl, removed _ _, _, rfl, trivial, _, rfl, trivial,
      _, rfl, back _ _ _, _, rfl, back _ _ _, rfl⟩
  obtain ⟨tr, hrun, -, hactions⟩ := Run.of_plays
    (fun s a s' hnext hvalid => show Daemon.Step _ s a s' from ⟨hnext, hvalid⟩) hplays
  have hcount : discoveries tr = (tr.map fun t => t.2.1).countP Happening.discovers := by
    rw [List.countP_map]
    rfl
  refine ⟨_, tr, hrun, rfl, rfl, rfl, rfl, rfl, rfl,
    device_ids_are_unambiguous plainIdevice hrun ?_⟩
  rw [hcount, hactions]
  decide

end Netmuxd
