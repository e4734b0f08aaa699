/-
An entry's kind matches how it is reached.

A USB device is reached through the handle of its mux task and a network device
through its address, and which of the two a client gets is decided by the connection
type.  For a discovery over the network that string comes from whoever reports the
device, and `AddDevice` takes it from a client as it is.  `Manager.Kinds` is what the
rest of the daemon expects of the two maps; it survives a network device being listed
exactly if the device does not call itself USB and takes nobody's handle over.
-/
import Netmuxd.Proofs.Listeners
import Netmuxd.Proofs.UsbTable

namespace Netmuxd

open Lib

structure Manager.Kinds (m : Manager) : Prop where
  /-- The USB devices are those with a handle. -/
  usb : ∀ id device, m.devices id = some device →
    (device.connectionType = "USB" ↔ (m.usbHandles id).isSome = true)
  unaddressed : ∀ id device, m.devices id = some device → device.connectionType = "USB" →
    device.networkAddress = none
  inside : ∀ id, (m.usbHandles id).isSome = true → (m.devices id).isSome = true
  network : ∀ id device, m.devices id = some device → device.connectionType = "Network" →
    device.networkAddress.isSome = true ∧ device.serviceName.isSome = true

theorem kinds_start (cfg : Config) : (Manager.start cfg).Kinds where
  usb := by
    intro id device h
    cases h
  unaddressed := by
    intro id device h
    cases h
  inside := by
    intro id h
    cases h
  network := by
    intro id device h
    cases h

/-- A device with all that a network device needs. -/
def MuxerDevice.Addressed (device : MuxerDevice) : Prop :=
  device.networkAddress.isSome = true ∧ device.serviceName.isSome = true

/-- What listing the device does not spoil. -/
def Manager.Suits (m : Manager) (device : MuxerDevice) : Prop :=
  device.connectionType ≠ "USB" ∧ m.usbHandles device.deviceId = none

section
variable {cfg : Config} {env : Surroundings} {m m' : Manager} {req : ManagerRequest}

theorem Manager.Kinds.congr (h : m.Kinds) (hdevices : m'.devices = m.devices)
    (hhandles : m'.usbHandles = m.usbHandles) : m'.Kinds where
  usb := by
    rw [hdevices, hhandles]
    exact h.usb
  unaddressed := by
    rw [hdevices]
    exact h.unaddressed
  inside := by
    rw [hdevices, hhandles]
    exact h.inside
  network := by
    rw [hdevices]
    exact h.network

/-- An entry goes, and its handle with it. -/
theorem Manager.Kinds.drop (h : m.Kinds) (id : UInt64)
    (hdevices : m'.devices = Function.update m.devices id none)
    (hhandles : m'.usbHandles = Function.update m.usbHandles id none) : m'.Kinds := by
  have hstill : ∀ i device, m'.devices i = some device →
      m.devices i = some device ∧ m'.usbHandles i = m.usbHandles i := by
    intro i device hi
    rw [hdevices] at hi
    by_cases heq : i = id
    · rw [heq, Function.update_self] at hi
      cases hi
    · rw [Function.update_of_ne heq] at hi
      exact ⟨hi, by rw [hhandles, Function.update_of_ne heq]⟩
  refine ⟨?_, ?_, ?_, ?_⟩
  · intro i device hi
    obtain ⟨hold, hhandle⟩ := hstill i device hi
    rw [hhandle]
    exact h.usb i device hold
  · intro i device hi
    exact h.unaddressed i device (hstill i device hi).1
  · intro i hi
    by_cases heq : i = id
    · rw [hhandles, heq, Function.update_self] at hi
      cases hi
    · rw [hhandles, Function.update_of_ne heq] at hi
      rw [hdevices, Function.update_of_ne heq]
      exact h.inside i hi
  · intro i device hi
    exact h.network i device (hstill i device hi).1

theorem Manager.Kinds.removeEntries (h : m.Kinds) (alive : Nat → Bool) (ids : List UInt64) :
    (ids.foldl (removeEntry alive) m).Kinds := by
  refine List.foldlRecOn (motive := Manager.Kinds) ids _ h ?_
  intro m' ih id _
  rw [removeEntry_eq]
  exact ih.drop id rfl rfl

/-- A handle is put on an entry that has one. -/
theorem Manager.Kinds.replace (h : m.Kinds) (handle : UsbMuxHandle) {id : UInt64}
    {d : MuxerDevice} (hd : m.devices id = some d) (husb : d.connectionType = "USB") :
    Manager.Kinds { m with usbHandles := Function.update m.usbHandles id (some handle) } := by
  have hsame : ∀ i, ((Function.update m.usbHandles id (some handle)) i).isSome =
      (m.usbHandles i).isSome := by
    intro i
    by_cases heq : i = id
    · rw [heq, Function.update_self, (h.usb id d hd).mp husb]
      rfl
    · rw [Function.update_of_ne heq]
  refine ⟨?_, h.unaddressed, ?_, h.network⟩
  · intro i device hi
    dsimp only
    rw [hsame]
    exact h.usb i device hi
  · intro i hi
    dsimp only at hi
    rw [hsame] at hi
    exact h.inside i hi

/-- A USB device is listed together with its handle. -/
theorem Manager.Kinds.listUsb (h : m.Kinds) {id : UInt64} {device : MuxerDevice}
    {handle : UsbMuxHandle} (husb : device.connectionType = "USB")
    (haddr : device.networkAddress = none)
    (hdevices : m'.devices = Function.update m.devices id (some device))
    (hhandles : m'.usbHandles = Function.update m.usbHandles id (some handle)) : m'.Kinds := by
  have hnet : "USB" ≠ "Network" := by decide
  refine ⟨?_, ?_, ?_, ?_⟩
  · intro i dev hi
    rw [hdevices] at hi
    rw [hhandles]
    by_cases heq : i = id
    · rw [heq, Function.update_self] at hi ⊢
      cases hi
      exact ⟨fun _ => rfl, fun _ => husb⟩
    · rw [Function.update_of_ne heq] at hi ⊢
      exact h.usb i dev hi
  · intro i dev hi hct
    rw [hdevices] at hi
    rcases update_eq_some hi with hold | ⟨-, rfl⟩
    · exact h.unaddressed i dev hold hct
    · exact haddr
  · intro i hi
    rw [hhandles] at hi
    rw [hdevices]
    by_cases heq : i = id
    · rw [heq, Function.update_self]
      rfl
    · rw [Function.update_of_ne heq] at hi ⊢
      exact h.inside i hi
  · intro i dev hi hct
    rw [hdevices] at hi
    rcases update_eq_some hi with hold | ⟨-, rfl⟩
    · exact h.network i dev hold hct
    · exact absurd (husb.symm.trans hct) hnet

/-- **Listing a network device** keeps the kinds apart exactly if the device suits. -/
theorem Manager.Kinds.listNetwork_iff (h : m.Kinds) {device : MuxerDevice}
    (haddr : device.Addressed)
    (hdevices : m'.devices = Function.update m.devices device.deviceId (some device))
    (hhandles : m'.usbHandles = m.usbHandles) : m'.Kinds ↔ m.Suits device := by
  have hself : m'.devices device.deviceId = some device := by
    rw [hdevices, Function.update_self]
  constructor
  · intro h'
    have hct : device.connectionType ≠ "USB" := by
      intro husb
      have haddr' := haddr.1
      rw [h'.unaddressed _ device hself husb] at haddr'
      cases haddr'
    refine ⟨hct, ?_⟩
    cases hhandle : m.usbHandles device.deviceId with
    | none => rfl
    | some handle =>
        refine absurd ((h'.usb _ device hself).mpr ?_) hct
        rw [hhandles, hhandle]
        rfl
  · rintro ⟨hct, hnone⟩
    refine ⟨?_, ?_, ?_, ?_⟩
    · intro i dev hi
      rw [hdevices] at hi
      rw [hhandles]
      rcases update_eq_some hi with hold | ⟨rfl, rfl⟩
      · exact h.usb i dev hold
      · rw [hnone]
        exact ⟨fun husb => absurd husb hct, fun hc => by cases hc⟩
    · intro i dev hi husb
      rw [hdevices] at hi
      rcases update_eq_some hi with hold | ⟨-, rfl⟩
      · exact h.unaddressed i dev hold husb
      · exact absurd husb hct
    · intro i hi
      rw [hhandles] at hi
      rw [hdevices]
      by_cases heq : i = device.deviceId
      · rw [heq, Function.update_self]
        rfl
      · rw [Function.update_of_ne heq]
        exact h.inside i hi
    · intro i dev hi hnet
      rw [hdevices] at hi
      rcases update_eq_some hi with hold | ⟨-, rfl⟩
      · exact h.network i dev hold hnet
      · exact haddr

/-! ### Serving a request -/

/-- Serving this request lists this network device. -/
inductive Manager.ListsNetwork (cfg : Config) (env : Surroundings) (m : Manager) :
    ManagerRequestType → MuxerDevice → Prop
  | discovered {udid : String} {networkAddress : IpAddr} {serviceName connectionType : String}
      (hcfg : cfg.useHeartbeat = false) (hpaired : env.paired udid = true)
      (hnew : ¬ Lists m.devices udid connectionType) :
      ListsNetwork cfg env m
        (.discoveredNetworkDevice udid networkAddress serviceName connectionType)
        (m.networkDevice udid networkAddress serviceName connectionType)
  | deferred {device : MuxerDevice} {response : Option Nat} :
      ListsNetwork cfg env m (.deferredMuxerAdd device response) device

/-- Whatever network device the request lists suits. -/
def Manager.ListsByKind (cfg : Config) (env : Surroundings) (m : Manager)
    (r : ManagerRequestType) : Prop :=
  ∀ device, m.ListsNetwork cfg env r device → m.Suits device

/-- A request that lists no network device. -/
theorem listsByKind_of_none {r : ManagerRequestType}
    (h : ∀ device, ¬ m.ListsNetwork cfg env r device) : m.ListsByKind cfg env r :=
  fun device hlists => absurd hlists (h device)

/-- The devices that a discovery over the network leaves, by whether it lists its own. -/
theorem discoveredNetworkDevice_kinds_iff (hm : m.Kinds) (horder : OrderOf m.devices env.order)
    {udid : String} {networkAddress : IpAddr} {serviceName connectionType : String}
    {response : Option Nat}
    (h : discoveredNetworkDevice cfg env m udid networkAddress serviceName connectionType response
      = some m') :
    m'.Kinds ↔ m.ListsByKind cfg env
      (.discoveredNetworkDevice udid networkAddress serviceName connectionType) := by
  have hquiet : m'.devices = m.devices → m'.usbHandles = m.usbHandles →
      (∀ device, ¬ m.ListsNetwork cfg env
        (.discoveredNetworkDevice udid networkAddress serviceName connectionType) device) →
      (m'.Kinds ↔ m.ListsByKind cfg env
        (.discoveredNetworkDevice udid networkAddress serviceName connectionType)) := by
    intro hdevices hhandles hnone
    exact ⟨fun _ => listsByKind_of_none hnone, fun _ => hm.congr hdevices hhandles⟩
  unfold discoveredNetworkDevice at h
  split at h
  · rename_i hfound
    cases h
    refine hquiet rfl rfl fun device hlists => ?_
    cases hlists with
    | discovered hcfg hpaired hnew => exact hnew ((findDeviceId_isSome horder.2).mp hfound)
  rename_i hnone
  rw [findDeviceId_isSome horder.2] at hnone
  split at h
  · rename_i hunpaired
    cases h
    refine hquiet rfl rfl fun device hlists => ?_
    cases hlists with
    | discovered hcfg hpaired hnew => simp [hpaired] at hunpaired
  rename_i hpaired
  have hpaired : env.paired udid = true := by simpa using hpaired
  split at h
  · rename_i hheartbeat
    cases h
    refine hquiet rfl rfl fun device hlists => ?_
    cases hlists with
    | discovered hcfg hpaired hnew =>
        rw [hcfg] at hheartbeat
        cases hheartbeat
  · rename_i hcfg
    have hcfg : cfg.useHeartbeat = false := by simpa using hcfg
    obtain ⟨p, -, rfl⟩ := addNetworkDevice_some h
    have haddr : (m.networkDevice udid networkAddress serviceName connectionType).Addressed :=
      ⟨rfl, rfl⟩
    refine Iff.trans (hm.listNetwork_iff haddr rfl rfl) ⟨fun hsuits device hlists => ?_, ?_⟩
    · cases hlists with
      | discovered => exact hsuits
    · intro hall
      exact hall _ (.discovered hcfg hpaired hnone)

/-- **Serving a request** keeps the kinds apart exactly if the network device it lists, if any,
suits. -/
theorem Manager.Kinds.handle_iff (hm : m.Kinds) (horder : OrderOf m.devices env.order)
    (hgiven : ∀ device response, req.requestType = .deferredMuxerAdd device response →
      device.Addressed) (h : m.handle cfg env req = some m') :
    m'.Kinds ↔ m.ListsByKind cfg env req.requestType := by
  have hserved := Manager.handle_served horder h
  have hkeeps : m'.Kinds → (∀ device, ¬ m.ListsNetwork cfg env req.requestType device) →
      (m'.Kinds ↔ m.ListsByKind cfg env req.requestType) := by
    intro hkinds hnone
    exact ⟨fun _ => listsByKind_of_none hnone, fun _ => hkinds⟩
  cases hserved with
  | answered outs hreq houts =>
      obtain ⟨requestType, response⟩ := req
      cases requestType with
      | discoveredNetworkDevice => exact discoveredNetworkDevice_kinds_iff hm horder h
      | listDevices => exact hkeeps (hm.congr rfl rfl) fun _ hlists => by cases hlists
      | getDeviceConnection => exact hkeeps (hm.congr rfl rfl) fun _ hlists => by cases hlists
      | _ => cases hreq
  | deferred => exact discoveredNetworkDevice_kinds_iff hm horder h
  | listedNetwork => exact discoveredNetworkDevice_kinds_iff hm horder h
  | added hp =>
      refine Iff.trans (hm.listNetwork_iff (hgiven _ _ rfl) rfl rfl)
        ⟨fun hsuits device hlists => ?_, fun hall => hall _ .deferred⟩
      cases hlists with
      | deferred => exact hsuits
  | handleReplaced hd hmatch =>
      exact hkeeps (hm.replace _ hd hmatch.2) fun _ hlists => by cases hlists
  | listedUsb hnew hp =>
      exact hkeeps (hm.listUsb rfl rfl rfl rfl) fun _ hlists => by cases hlists
  | removed ids => exact hkeeps (hm.removeEntries _ ids) fun _ hlists => by cases hlists
  | failed => exact hkeeps (hm.drop _ rfl rfl) fun _ hlists => by cases hlists
  | failedNobody => exact hkeeps hm fun _ hlists => by cases hlists
  | opened => exact hkeeps (hm.congr rfl rfl) fun _ hlists => by cases hlists
  | subscribed => exact hkeeps (hm.congr rfl rfl) fun _ hlists => by cases hlists
  | subscribedGone => exact hkeeps (hm.congr rfl rfl) fun _ hlists => by cases hlists

end

/-! ### Whole runs -/

/-- What the heartbeat tasks are given is a network device. -/
def Daemon.Given (d : Daemon) : Prop :=
  ∀ k device response, d.session k = some (device, response) → device.Addressed

/-- Whatever network device this step lists suits the two maps. -/
def Daemon.ListsByKind (cfg : Config) (d : Daemon) (a : Happening) : Prop :=
  ∀ order paired e rest, a = .serve order paired → d.queue = e :: rest →
    d.mgr.ListsByKind cfg (d.surroundings order paired) e.request.requestType

section
variable {cfg : Config} {d d' : Daemon} {a : Happening}

theorem Daemon.Stepped.given (h : d.Stepped cfg a d') (hd : d.Given) : d'.Given := by
  intro k device response hk
  rcases h.session with hsame | ⟨_, _, _, _, _, _, _, _, -, -, -, -, -, -, hsession⟩
  · rw [hsame] at hk
    exact hd k device response hk
  · rw [hsession] at hk
    split at hk
    · cases hk
      exact ⟨rfl, rfl⟩
    · exact hd k device response hk

/-- A request on the queue is served without a panic. -/
theorem Daemon.Sound.serves (hd : d.Sound) {env : Surroundings} {e : Envelope} (he : e ∈ d.queue)
    (horder : OrderOf d.mgr.devices env.order) : ∃ m, d.mgr.handle cfg env e.request = some m := by
  have hproper : d.mgr.Proper := hd.listed
  have hadd : ∀ (m : Manager) (device : MuxerDevice) (response : Option Nat), device.Showable →
      ∃ m', addNetworkDevice cfg env m device response = some m' := by
    intro m device response hshow
    obtain ⟨p, hp⟩ := attachedPlist_isSome cfg.bsdSockaddr hshow
    rw [addNetworkDevice, hp]
    exact ⟨_, rfl⟩
  cases hreq : e.request.requestType with
  | discoveredNetworkDevice udid addr name ct =>
      simp only [Manager.handle, hreq, discoveredNetworkDevice]
      split
      · exact ⟨_, rfl⟩
      split
      · exact ⟨_, rfl⟩
      split
      · exact ⟨_, rfl⟩
      · exact hadd _ _ _ fun _ => ⟨rfl, rfl⟩
  | discoveredUsbDevice udid loc pid speed handle =>
      obtain ⟨p, hp⟩ := attachedPlist_isSome cfg.bsdSockaddr
        (usbDevice_showable (m := d.mgr) udid loc pid speed)
      simp only [Manager.handle, hreq, discoveredUsbDevice]
      split
      · exact ⟨_, rfl⟩
      · split
        · rename_i hnone
          cases hp.symm.trans hnone
        · exact ⟨_, rfl⟩
  | deferredMuxerAdd device response =>
      obtain ⟨k, -, hsession, -⟩ := hd.adds e he device response hreq
      simp only [Manager.handle, hreq]
      exact hadd _ _ _ (hd.given k device response hsession)
  | listDevices =>
      simp only [Manager.handle, hreq, listDevices, hproper.deviceList horder]
      split
      · exact ⟨_, rfl⟩
      · exact ⟨_, rfl⟩
  | subscribe listener =>
      simp only [Manager.handle, hreq, subscribe, hproper.deviceList horder]
      split
      · exact ⟨_, rfl⟩
      split
      · exact ⟨_, rfl⟩
      · rename_i id rest hids
        have hid : (d.mgr.devices id).isSome = true :=
          (horder.2 id).mp (by rw [hids]; exact List.mem_cons_self ..)
        obtain ⟨p, hp⟩ : ∃ p, shown cfg d.mgr.devices id = some p :=
          Option.isSome_iff_exists.mp (hproper.shown_isSome hid)
        rw [show (d.mgr.devices id).bind (attachedPlist cfg.bsdSockaddr) = some p from hp]
        exact ⟨_, rfl⟩
  | _ =>
      simp only [Manager.handle, hreq]
      exact ⟨_, rfl⟩

theorem Daemon.Step.kinds_iff (h : Daemon.Step cfg d a d') (hd : d.Sound) (hgiven : d.Given)
    (hkinds : d.mgr.Kinds) : d'.mgr.Kinds ↔ d.ListsByKind cfg a := by
  by_cases hserve : ∃ order paired, a = .serve order paired
  · obtain ⟨order, paired, rfl⟩ := hserve
    obtain ⟨e, rest, m, hqueue, horder, hm, rfl⟩ := h.served
    have hadd : ∀ device response,
        e.request.requestType = .deferredMuxerAdd device response → device.Addressed := by
      intro device response hreq
      obtain ⟨k, -, hsession, -⟩ :=
        hd.adds e (mem_queue hqueue) device response hreq
      exact hgiven k device response hsession
    refine Iff.trans (hkinds.handle_iff horder hadd hm) ⟨fun hlists => ?_, fun hall => ?_⟩
    · intro order' paired' e' rest' ha hqueue'
      rw [hqueue] at hqueue'
      cases ha
      cases hqueue'
      exact hlists
    · exact hall order paired e rest rfl hqueue
  · have hplain : ∀ order paired, a ≠ .serve order paired :=
      fun order paired ha => hserve ⟨order, paired, ha⟩
    obtain ⟨outs, -, hmgr⟩ := h.stepped.mgr_eq hplain
    refine ⟨fun _ order paired e rest ha => absurd ha (hplain order paired), fun _ => ?_⟩
    rw [hmgr]
    exact hkinds.congr rfl rfl

/--
**Kinds.**  In every run, an entry's kind matches how it is reached in every state exactly
if every network device that is listed calls itself something other than USB and finds no
handle under its id.  Whatever is listed, serving a request never panics.
-/
theorem kinds_match_iff {tr : List (Daemon × Happening × Daemon)}
    (hrun : Run (Daemon.Step cfg) (Daemon.start cfg) tr d) :
    (EveryStep (fun _ _ d' => d'.mgr.Kinds) tr ↔
        EveryStep (fun d a _ => d.ListsByKind cfg a) tr) ∧
      ∀ env e, e ∈ d.queue → OrderOf d.mgr.devices env.order →
        ∃ m, d.mgr.handle cfg env e.request = some m := by
  refine ⟨?_, fun env e he horder => (Daemon.sound hrun).serves he horder⟩
  have hgiven : (Daemon.start cfg).Given := by
    intro k device response hk
    cases hk
  refine Run.everyState_iff (I := fun d => d.Sound ∧ d.Given) ⟨Daemon.sound_start cfg, hgiven⟩
    ?_ (kinds_start cfg) ?_ hrun
  · rintro d a d' ⟨hd, hg⟩ hstep
    exact ⟨hstep.stepped.sound hd, hstep.stepped.given hg⟩
  · rintro d a d' ⟨hd, hg⟩ hkinds hstep
    exact hstep.kinds_iff hd hg hkinds

end

/-- A USB device and a network device are both listed by their kind. -/
theorem two_kinds_match : ∃ d tr,
    Run (Daemon.Step ⟨false, false, false⟩) (Daemon.start ⟨false, false, false⟩) tr d ∧
      (d.mgr.devices 2).isSome = true ∧ EveryStep (fun _ _ d' => d'.mgr.Kinds) tr := by
  have hsubmit : ∀ (d : Daemon) request,
      d.ListsByKind ⟨false, false, false⟩ (.submit request) := by
    intro d request order paired e rest ha
    cases ha
  have hplays : Daemon.Plays ⟨false, false, false⟩
      (fun d a _ => d.ListsByKind ⟨false, false, false⟩ a)
      [.submit ⟨.discoveredUsbDevice "u" 1 2 3 7, none⟩, .serve [] fun _ => true,
        .submit ⟨.discoveredNetworkDevice "v" (.v4 #v[10, 0, 0, 2]) "name" "Network", none⟩,
        .serve [1] fun _ => true] _ :=
    ⟨_, rfl, ⟨trivial, hsubmit _ _⟩,
      _, rfl, ⟨orderOf_nil, fun order paired e rest ha hqueue device hlists => by
        cases hqueue; cases hlists⟩,
      _, rfl, ⟨trivial, hsubmit _ _⟩,
      _, rfl, ⟨orderOf_nil.insert (by simp), fun order paired e rest ha hqueue device hlists => by
        cases hqueue
        cases hlists
        exact ⟨show "Network" ≠ "USB" by decide, rfl⟩⟩, rfl⟩
  obtain ⟨tr, hrun, hall⟩ := hplays.run
  exact ⟨_, tr, hrun, rfl, (kinds_match_iff hrun).1.mpr hall⟩

/-- A client adds a network device that calls itself USB. -/
theorem network_device_called_usb : ∃ d tr,
    Run (Daemon.Step ⟨false, false, false⟩) (Daemon.start ⟨false, false, false⟩) tr d ∧
      ¬ d.mgr.Kinds := by
  have hplays : Daemon.Plays ⟨false, false, false⟩ (fun _ _ _ => True)
      [.submit ⟨.discoveredNetworkDevice "u" (.v4 #v[10, 0, 0, 2]) "name" "USB", some 0⟩,
        .serve [] fun _ => true] _ :=
    ⟨_, rfl, ⟨trivial, trivial⟩, _, rfl, ⟨orderOf_nil, trivial⟩, rfl⟩
  obtain ⟨tr, hrun, -⟩ := hplays.run
  refine ⟨_, tr, hrun, fun hkinds => ?_⟩
  have haddr := hkinds.unaddressed 1 _ rfl rfl
  cases haddr

end Netmuxd
