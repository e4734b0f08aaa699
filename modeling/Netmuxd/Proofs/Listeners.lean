/-
A listener sees the devices there are.

What a listener is told is a log of what goes into the list of devices and what comes
out (`told`).  The manager keeps every listener's log orderly and leading to the list as
it is (`Manager.Mirrored`), as long as no device is listed under an id that the listener
has heard of before.  That ids are new is `Daemon.Fresh`: every id ever used is below the
next one, and the device of a heartbeat task is nowhere to be seen until it is added.
-/
import Netmuxd.Lib.Mirror
import Netmuxd.Proofs.Daemon

namespace Netmuxd

open Lib

/-! ### What a listener is told -/

def Output.edit? (l : Nat) : Output → Option (Edit UInt64 Dictionary)
  | .tell listener (.attached p) =>
    if listener = l then p.deviceId.map fun id => .put id p else none
  | .tell listener (.detached id) => if listener = l then some (.drop id) else none
  | _ => none

/-- The events put on a listener's channel, by the device id they are about. -/
def told (l : Nat) (out : List Output) : List (Edit UInt64 Dictionary) :=
  out.filterMap (Output.edit? l)

/-- The entry of each device in the device list. -/
def shown (cfg : Config) (devices : UInt64 → Option MuxerDevice) (id : UInt64) :
    Option Dictionary :=
  (devices id).bind (attachedPlist cfg.bsdSockaddr)

theorem told_append (l : Nat) (out outs : List Output) :
    told l (out ++ outs) = told l out ++ told l outs :=
  List.filterMap_append ..

/-- Outputs no listener hears of. -/
def Silent (outs : List Output) : Prop :=
  ∀ l, told l outs = []

theorem silent_of {outs : List Output} (h : ∀ o ∈ outs, ∀ l, o.edit? l = none) : Silent outs :=
  fun l => List.filterMap_eq_nil_iff.mpr fun o ho => h o ho l

theorem silent_answers {outs : List Output} (h : ∀ o ∈ outs, o.isAnswer = true) :
    Silent outs := by
  refine silent_of fun o ho l => ?_
  have := h o ho
  cases o with
  | tell => cases this
  | _ => rfl

theorem silent_kills (m : Manager) (id : UInt64) : Silent (kills m id) := by
  refine silent_of fun o ho l => ?_
  obtain ⟨k, -, rfl⟩ := List.mem_map.mp ho
  rfl

theorem silent_shutdowns (m : Manager) (id : UInt64) : Silent (shutdowns m id) := by
  unfold shutdowns
  split
  · exact fun l => rfl
  · exact fun l => rfl

section
variable {listeners : List Nat} {l : Nat} {event : ListenerEvent}

theorem told_tells_of_not_mem (h : l ∉ listeners) : told l (tells listeners event) = [] := by
  refine List.filterMap_eq_nil_iff.mpr fun o ho => ?_
  obtain ⟨l', hl', rfl⟩ := List.mem_map.mp ho
  have hne : l' ≠ l := fun heq => h (heq ▸ hl')
  cases event with
  | attached p => simp [Output.edit?, hne]
  | detached id => simp [Output.edit?, hne]

/-- A listener is told once. -/
theorem told_tells (hnodup : listeners.Nodup) (h : l ∈ listeners) :
    told l (tells listeners event) = ((Output.tell l event).edit? l).toList := by
  obtain ⟨before, after, rfl⟩ := List.append_of_mem h
  obtain ⟨-, hafter, hdisj⟩ := List.nodup_append.mp hnodup
  have hb : l ∉ before := fun hb => hdisj l hb l (List.mem_cons_self ..) rfl
  have ha : l ∉ after := (List.nodup_cons.mp hafter).1
  have hsplit : tells (before ++ l :: after) event =
      tells before event ++ ([.tell l event] ++ tells after event) := by
    simp [tells]
  rw [hsplit, told_append, told_append, told_tells_of_not_mem hb, told_tells_of_not_mem ha,
    List.nil_append, List.append_nil]
  unfold told
  cases he : (Output.tell l event).edit? l with
  | none => simp [he]
  | some e => simp [he]

end

/-- A new listener's snapshot is for nobody else. -/
theorem told_attached_other {l listener : Nat} (h : listener ≠ l) (ps : List Dictionary) :
    told l (ps.map fun p => .tell listener (.attached p)) = [] := by
  refine List.filterMap_eq_nil_iff.mpr fun o ho => ?_
  obtain ⟨p, -, rfl⟩ := List.mem_map.mp ho
  simp [Output.edit?, h]

/-! ### The mirror, one operation at a time -/

/-- Every listener that is there has a copy of the device list. -/
structure Manager.Mirrored (cfg : Config) (alive : Nat → Bool) (m : Manager) : Prop where
  nodup : m.listeners.Nodup
  view : ∀ l ∈ m.listeners, alive l = true → replay (told l m.out) = shown cfg m.devices
  orderly : ∀ l ∈ m.listeners, alive l = true → Orderly (told l m.out)

section
variable {cfg : Config} {alive : Nat → Bool} {m : Manager}

theorem Manager.Mirrored.emit (h : m.Mirrored cfg alive) {outs : List Output}
    (houts : Silent outs) : (m.emit outs).Mirrored cfg alive := by
  have hsame : ∀ l, told l (m.emit outs).out = told l m.out := by
    intro l
    rw [emit_out, told_append, houts l, List.append_nil]
  refine ⟨h.nodup, fun l hl ha => ?_, fun l hl ha => ?_⟩
  · rw [hsame]
    exact h.view l hl ha
  · rw [hsame]
    exact h.orderly l hl ha

/-- The same listeners, devices and log. -/
theorem Manager.Mirrored.congr {m' : Manager} (h : m.Mirrored cfg alive)
    (hlisteners : m'.listeners = m.listeners) (hdevices : m'.devices = m.devices)
    (hout : m'.out = m.out) : m'.Mirrored cfg alive where
  nodup := by
    rw [hlisteners]
    exact h.nodup
  view := by
    rw [hlisteners, hdevices, hout]
    exact h.view
  orderly := by
    rw [hlisteners, hout]
    exact h.orderly

theorem told_list {device : MuxerDevice} {p : Dictionary} {l : Nat}
    (hp : attachedPlist cfg.bsdSockaddr device = some p) (hnodup : m.listeners.Nodup)
    (hl : l ∈ m.listeners) (ha : alive l = true) :
    told l (m.list alive device p).out = told l m.out ++ [.put device.deviceId p] := by
  unfold Manager.list
  rw [broadcast_out, told_append,
    told_tells (hnodup.filter _) (List.mem_filter.mpr ⟨hl, ha⟩)]
  simp [Output.edit?, attachedPlist_deviceId hp]

theorem Manager.Mirrored.list (h : m.Mirrored cfg alive) {device : MuxerDevice} {p : Dictionary}
    (hp : attachedPlist cfg.bsdSockaddr device = some p)
    (hnew : ∀ l, device.deviceId ∉ puts (told l m.out)) :
    (m.list alive device p).Mirrored cfg alive where
  nodup := h.nodup.filter _
  view := by
    intro l hl ha
    have hl : l ∈ m.listeners := (List.mem_filter.mp hl).1
    rw [told_list hp h.nodup hl ha, replay_put, h.view l hl ha]
    funext id
    by_cases hid : id = device.deviceId
    · rw [hid, Function.update_self]
      simp [shown, Manager.list, hp]
    · simp [shown, Manager.list, Function.update_of_ne hid]
  orderly := by
    intro l hl ha
    have hl : l ∈ m.listeners := (List.mem_filter.mp hl).1
    rw [told_list hp h.nodup hl ha]
    exact (h.orderly l hl ha).put (hnew l)

/-- An entry goes, and the listeners hear of it. -/
theorem Manager.Mirrored.drop (h : m.Mirrored cfg alive) {id : UInt64} {outs : List Output}
    (hid : (shown cfg m.devices id).isSome = true) (houts : Silent outs) :
    (broadcast alive ((dropEntry m id).emit outs) (.detached id)).Mirrored cfg alive := by
  have htold : ∀ l ∈ m.listeners, alive l = true →
      told l (broadcast alive ((dropEntry m id).emit outs) (.detached id)).out =
        told l m.out ++ [.drop id] := by
    intro l hl ha
    simp only [broadcast_out, emit_out, emit_listeners, dropEntry_out, dropEntry_listeners,
      told_append]
    rw [silent_kills, houts, told_tells (h.nodup.filter _) (List.mem_filter.mpr ⟨hl, ha⟩)]
    simp [Output.edit?]
  refine ⟨h.nodup.filter _, fun l hl ha => ?_, fun l hl ha => ?_⟩
  · have hl : l ∈ m.listeners := (List.mem_filter.mp hl).1
    rw [htold l hl ha, replay_drop, h.view l hl ha]
    funext i
    by_cases hi : i = id
    · rw [hi, Function.update_self]
      simp [shown]
    · simp [shown, Function.update_of_ne hi]
  · have hl : l ∈ m.listeners := (List.mem_filter.mp hl).1
    rw [htold l hl ha]
    refine (h.orderly l hl ha).drop ?_
    rw [h.view l hl ha]
    exact hid

theorem Manager.Mirrored.removeEntries (h : m.Mirrored cfg alive) {ids : List UInt64}
    (hnodup : ids.Nodup) (hids : ∀ id ∈ ids, (shown cfg m.devices id).isSome = true) :
    (ids.foldl (removeEntry alive) m).Mirrored cfg alive := by
  induction ids generalizing m with
  | nil => exact h
  | cons id ids ih =>
      obtain ⟨hnot, hrest⟩ := List.nodup_cons.mp hnodup
      rw [List.foldl_cons]
      refine ih ?_ hrest fun i hi => ?_
      · rw [removeEntry_eq]
        exact h.drop (hids id (List.mem_cons_self ..)) (silent_shutdowns m id)
      · have hne : i ≠ id := fun heq => hnot (heq ▸ hi)
        have hold := hids i (List.mem_cons_of_mem _ hi)
        unfold shown at hold ⊢
        rwa [removeEntry_devices, Function.update_of_ne hne]

end

/-! ### The device list and the snapshot -/

theorem mapM_eq_some {α β : Type} {f : α → Option β} {l : List α} {ys : List β}
    (h : l.mapM f = some ys) : ys = l.filterMap f := by
  induction l generalizing ys with
  | nil =>
      cases h
      rfl
  | cons a l ih =>
      rw [List.mapM_cons] at h
      obtain ⟨y, hy, h⟩ := Option.bind_eq_some_iff.mp h
      obtain ⟨rest, hrest, h⟩ := Option.bind_eq_some_iff.mp h
      cases h
      rw [List.filterMap_cons, hy, ← ih hrest]

theorem mapM_isSome {α β : Type} {f : α → Option β} {l : List α}
    (h : ∀ a ∈ l, (f a).isSome = true) : l.mapM f = some (l.filterMap f) := by
  induction l with
  | nil => rfl
  | cons a l ih =>
      obtain ⟨y, hy⟩ := Option.isSome_iff_exists.mp (h a (List.mem_cons_self ..))
      rw [List.mapM_cons, hy, ih fun b hb => h b (List.mem_cons_of_mem _ hb), List.filterMap_cons,
        hy]
      rfl

section
variable {cfg : Config} {env : Surroundings} {m : Manager}

/-- The devices are listed under their own ids and can be shown. -/
def Manager.Proper (m : Manager) : Prop :=
  ∀ id device, m.devices id = some device → device.deviceId = id ∧ device.Showable

theorem Manager.Proper.shown_isSome (hm : m.Proper) {id : UInt64}
    (h : (m.devices id).isSome = true) : (shown cfg m.devices id).isSome = true := by
  obtain ⟨device, hdevice⟩ := Option.isSome_iff_exists.mp h
  obtain ⟨p, hp⟩ := attachedPlist_isSome cfg.bsdSockaddr (hm id device hdevice).2
  rw [shown, hdevice, Option.bind_some, hp]
  rfl

theorem Manager.Proper.shown_deviceId (hm : m.Proper) {id : UInt64} {p : Dictionary}
    (h : shown cfg m.devices id = some p) : p.deviceId = some id := by
  obtain ⟨device, hdevice, hp⟩ := Option.bind_eq_some_iff.mp h
  rw [attachedPlist_deviceId hp, (hm id device hdevice).1]

theorem Manager.Proper.deviceList (hm : m.Proper) (horder : OrderOf m.devices env.order) :
    deviceList cfg env m = some (env.order.filterMap (shown cfg m.devices)) :=
  mapM_isSome fun id hid => hm.shown_isSome ((horder.2 id).mp hid)

/-- What a new listener is told first. -/
theorem Manager.Proper.told_snapshot (hm : m.Proper) (l : Nat) (order : List UInt64) :
    told l ((order.filterMap (shown cfg m.devices)).map fun p => .tell l (.attached p)) =
      snapshot (shown cfg m.devices) order := by
  unfold told snapshot
  rw [List.filterMap_map, List.filterMap_filterMap]
  congr 1
  funext id
  cases h : shown cfg m.devices id with
  | none => rfl
  | some p => simp [Output.edit?, hm.shown_deviceId h]

theorem Manager.Mirrored.subscribe {alive : Nat → Bool} (h : m.Mirrored cfg alive)
    (hm : m.Proper) (horder : OrderOf m.devices env.order) {l : Nat} {ps : List Dictionary}
    (hps : deviceList cfg env m = some ps) (hnew : l ∉ m.listeners)
    (huntold : told l m.out = []) :
    Manager.Mirrored cfg alive
      { m with
        listeners := m.listeners ++ [l]
        out := m.out ++ ps.map fun p => .tell l (.attached p) } := by
  have hps : ps = env.order.filterMap (shown cfg m.devices) := mapM_eq_some hps
  have hself : told l (m.out ++ ps.map fun p => .tell l (.attached p)) =
      snapshot (shown cfg m.devices) env.order := by
    rw [told_append, huntold, hps, hm.told_snapshot l, List.nil_append]
  have hother : ∀ l' ∈ m.listeners,
      told l' (m.out ++ ps.map fun p => .tell l (.attached p)) = told l' m.out := by
    intro l' hl'
    have hne : l ≠ l' := fun heq => hnew (heq ▸ hl')
    rw [told_append, told_attached_other hne, List.append_nil]
  refine ⟨?_, fun l' hl' ha => ?_, fun l' hl' ha => ?_⟩
  · refine List.nodup_append.mpr ⟨h.nodup, by simp, ?_⟩
    intro a ha b hb
    rw [List.mem_singleton.mp hb]
    exact fun heq => hnew (heq ▸ ha)
  · rcases List.mem_append.mp hl' with hold | hl
    · dsimp only
      rw [hother l' hold]
      exact h.view l' hold ha
    · rw [List.mem_singleton.mp hl]
      dsimp only
      rw [hself]
      refine replay_snapshot horder.1 fun id hid => (horder.2 id).mpr ?_
      obtain ⟨p, hp⟩ := Option.isSome_iff_exists.mp hid
      obtain ⟨device, hdevice, -⟩ := Option.bind_eq_some_iff.mp hp
      rw [hdevice]
      rfl
  · rcases List.mem_append.mp hl' with hold | hl
    · dsimp only
      rw [hother l' hold]
      exact h.orderly l' hold ha
    · rw [List.mem_singleton.mp hl]
      dsimp only
      rw [hself]
      exact (snapshot_spec horder.1).1

end

/-! ### New ids, new listeners -/

/-- The listener a request subscribes, if it does. -/
def ManagerRequest.subscribing? (req : ManagerRequest) : Option Nat :=
  match req.requestType with
  | .subscribe l => some l
  | _ => none

section
variable {cfg : Config} {env : Surroundings} {m m' : Manager} {req : ManagerRequest}

/-- What is listed after a request was listed before, has been given the next id, or is the
device of a deferred add. -/
theorem Served.new_id (h : Served cfg env m req m') {id : UInt64}
    (hid : (m'.devices id).isSome = true) :
    (m.devices id).isSome = true ∨ (id = m.lastIndex ∧ m'.lastIndex = m.lastIndex + 1) ∨
      ∃ device response,
        req.requestType = .deferredMuxerAdd device response ∧ id = device.deviceId := by
  obtain ⟨dev, hdev⟩ := Option.isSome_iff_exists.mp hid
  rcases h.devices with hless | ⟨device, hdevices, horigin⟩
  · left
    rw [hless id dev hdev]
    rfl
  rw [hdevices] at hdev
  rcases update_eq_some hdev with hold | ⟨hi, -⟩
  · left
    rw [hold]
    rfl
  right
  rcases horigin with ⟨-, -, -, hnext, hlast⟩ | ⟨response, hreq⟩
  · exact Or.inl ⟨hi.trans hnext, hlast⟩
  · exact Or.inr ⟨device, response, hreq, hi⟩

theorem puts_tells_detached (l : Nat) (listeners : List Nat) (id : UInt64) :
    puts (told l (tells listeners (.detached id))) = [] := by
  refine List.filterMap_eq_nil_iff.mpr fun e he => ?_
  obtain ⟨o, ho, hedit⟩ := List.mem_filterMap.mp he
  obtain ⟨l', -, rfl⟩ := List.mem_map.mp ho
  simp only [Output.edit?] at hedit
  split at hedit
  · cases hedit
    rfl
  · cases hedit

theorem mem_puts_tells_attached {l : Nat} {listeners : List Nat} {p : Dictionary} {id : UInt64}
    (h : id ∈ puts (told l (tells listeners (.attached p)))) : p.deviceId = some id := by
  obtain ⟨e, he, hput⟩ := List.mem_filterMap.mp h
  obtain ⟨o, ho, hedit⟩ := List.mem_filterMap.mp he
  obtain ⟨l', -, rfl⟩ := List.mem_map.mp ho
  simp only [Output.edit?] at hedit
  split at hedit
  · obtain ⟨i, hi, rfl⟩ := Option.map_eq_some_iff.mp hedit
    cases hput
    exact hi
  · cases hedit

theorem puts_told_append {l : Nat} {out outs : List Output} {id : UInt64} :
    id ∈ puts (told l (out ++ outs)) ↔ id ∈ puts (told l out) ∨ id ∈ puts (told l outs) := by
  rw [told_append, puts_append, List.mem_append]

theorem puts_told_silent {l : Nat} {out outs : List Output} (h : Silent outs) :
    puts (told l (out ++ outs)) = puts (told l out) := by
  rw [told_append, h, List.append_nil]

theorem puts_removeEntry (alive : Nat → Bool) (id : UInt64) (l : Nat) :
    puts (told l (removeEntry alive m id).out) = puts (told l m.out) := by
  rw [removeEntry_eq, broadcast_out, told_append, puts_append, puts_tells_detached,
    List.append_nil, emit_out, puts_told_silent (silent_shutdowns m id), dropEntry_out,
    puts_told_silent (silent_kills m id)]

theorem puts_list {alive : Nat → Bool} {device : MuxerDevice} {p : Dictionary} {l : Nat}
    {id : UInt64} (hp : attachedPlist cfg.bsdSockaddr device = some p)
    (h : id ∈ puts (told l (m.list alive device p).out)) :
    id ∈ puts (told l m.out) ∨ id = device.deviceId := by
  unfold Manager.list at h
  rw [broadcast_out, puts_told_append] at h
  refine h.imp_right fun h => ?_
  have hid := mem_puts_tells_attached h
  rw [attachedPlist_deviceId hp] at hid
  cases hid
  rfl

/-- Whatever a listener hears is listed has been heard of before or is listed. -/
theorem Served.puts_from (h : Served cfg env m req m') (hm : m.Proper)
    (horder : OrderOf m.devices env.order) {l : Nat} {id : UInt64}
    (hid : id ∈ puts (told l m'.out)) :
    id ∈ puts (told l m.out) ∨ (m'.devices id).isSome = true := by
  cases h with
  | answered outs _ houts =>
      left
      rwa [emit_out, puts_told_silent (silent_answers houts)] at hid
  | handleReplaced => exact Or.inl hid
  | deferred =>
      left
      rwa [emit_out, puts_told_silent (silent_of (by simp [Output.edit?]))] at hid
  | listedNetwork hnew hpaired hcfg hp =>
      rw [emit_out, puts_told_silent (silent_answers (responses_isAnswer _ _))] at hid
      refine (puts_list hp hid).imp_right fun h => ?_
      rw [h]
      simp [Manager.list]
  | listedUsb hnew hp =>
      refine (puts_list hp hid).imp_right fun h => ?_
      rw [h]
      simp [Manager.list]
  | added hp =>
      rw [emit_out, puts_told_silent (silent_answers (responses_isAnswer _ _))] at hid
      refine (puts_list hp hid).imp_right fun h => ?_
      rw [h]
      simp [Manager.list]
  | removed ids =>
      left
      have hsame : puts (told l (ids.foldl (removeEntry env.alive) m).out) =
          puts (told l m.out) := by
        refine List.foldlRecOn (motive := fun m' : Manager =>
          puts (told l m'.out) = puts (told l m.out)) ids _ rfl ?_
        intro m' ih i _
        rw [puts_removeEntry, ih]
      rwa [hsame] at hid
  | failed =>
      left
      rwa [broadcast_out, told_append, puts_append, puts_tells_detached, List.append_nil,
        dropEntry_out, puts_told_silent (silent_kills m _)] at hid
  | failedNobody => exact Or.inl hid
  | opened => exact Or.inl hid
  | subscribed halive hps =>
      rename_i listener _ ps
      refine (puts_told_append.mp hid).imp_right fun hid => ?_
      have hps : ps = env.order.filterMap (shown cfg m.devices) := mapM_eq_some hps
      by_cases hl : listener = l
      · rw [hl, hps, hm.told_snapshot] at hid
        exact (horder.2 id).mp (mem_puts_snapshot hid)
      · rw [told_attached_other hl] at hid
        cases hid
  | subscribedGone => exact Or.inl hid

end

/-! ### Ids are new -/

/-- The next id is above every id there ever was, and what a heartbeat task has yet to add
has an id of its own. -/
structure Daemon.Fresh (d : Daemon) : Prop where
  listed : ∀ id, (d.mgr.devices id).isSome = true → id < d.mgr.lastIndex
  heard : ∀ l id, id ∈ puts (told l d.mgr.out) → id < d.mgr.lastIndex
  given : ∀ k device response, d.session k = some (device, response) →
    device.deviceId < d.mgr.lastIndex
  apart : ∀ j k dev dev', d.Owes j dev → d.Owes k dev' → dev.deviceId = dev'.deviceId → j = k
  owed : ∀ k dev, d.Owes k dev →
    d.mgr.devices dev.deviceId = none ∧ ∀ l, dev.deviceId ∉ puts (told l d.mgr.out)

theorem Daemon.fresh_start (cfg : Config) : (Daemon.start cfg).Fresh where
  listed := by
    intro id h
    cases h
  heard := by
    intro l id h
    cases h
  given := by
    intro k device response h
    cases h
  apart := by
    intro j k dev dev' ho
    obtain ⟨⟨response, h⟩, -⟩ := ho
    cases h
  owed := by
    intro k dev ho
    obtain ⟨⟨response, h⟩, -⟩ := ho
    cases h

section
variable {cfg : Config} {d d' : Daemon} {a : Happening}

theorem Daemon.Fresh.owes_lt (hf : d.Fresh) {k : Nat} {dev : MuxerDevice} (ho : d.Owes k dev) :
    dev.deviceId < d.mgr.lastIndex := by
  obtain ⟨⟨response, hk⟩, -⟩ := ho
  exact hf.given k dev response hk

/-- What is listed after a step was listed before, has been given the next id, or is the
device a task owed and owes no longer. -/
theorem Daemon.Stepped.new_id (h : d.Stepped cfg a d') (hd : d.Sound) {id : UInt64}
    (hid : (d'.mgr.devices id).isSome = true) :
    (d.mgr.devices id).isSome = true ∨
      (id = d.mgr.lastIndex ∧ d'.mgr.lastIndex = d.mgr.lastIndex + 1) ∨
      ∃ k device, d.Owes k device ∧ id = device.deviceId ∧ ∀ device', ¬ d'.Owes k device' := by
  rcases h.shape with ⟨order, paired, e, ha, hqueue, -, -, hserved⟩ | ⟨⟨outs, -, hmgr⟩, -⟩
  · rcases hserved.new_id hid with hold | hnext | ⟨device, response, hreq, hi⟩
    · exact Or.inl hold
    · exact Or.inr (Or.inl hnext)
    · obtain ⟨k, hk, -, hpaid⟩ := h.pays hd ha hqueue hreq
      exact Or.inr (Or.inr ⟨k, device, hk, hi, hpaid⟩)
  · rw [hmgr] at hid
    exact Or.inl hid

theorem Daemon.Stepped.puts_from (h : d.Stepped cfg a d') (hd : d.Sound) {l : Nat} {id : UInt64}
    (hid : id ∈ puts (told l d'.mgr.out)) :
    id ∈ puts (told l d.mgr.out) ∨ (d'.mgr.devices id).isSome = true := by
  rcases h.shape with ⟨order, paired, e, -, -, -, horder, hserved⟩ | ⟨⟨outs, houts, hmgr⟩, -⟩
  · exact hserved.puts_from hd.listed horder hid
  · rw [hmgr, emit_out, puts_told_silent (silent_answers houts)] at hid
    exact Or.inl hid

theorem Daemon.Stepped.fresh (h : d.Stepped cfg a d') (hd : d.Sound) (hf : d.Fresh)
    (hwrap : d.mgr.lastIndex ≤ d'.mgr.lastIndex) : d'.Fresh := by
  have hlisted : ∀ id, (d'.mgr.devices id).isSome = true → id < d'.mgr.lastIndex := by
    intro id hid
    rcases h.new_id hd hid with hold | ⟨hi, hnext⟩ | ⟨k, device, ho, hi, -⟩
    · exact UInt64.lt_of_lt_of_le (hf.listed id hold) hwrap
    · rw [hi, hnext]
      exact lt_next (hnext ▸ hwrap)
    · rw [hi]
      exact UInt64.lt_of_lt_of_le (hf.owes_lt ho) hwrap
  -- a task that has just been spawned has the next id, which nothing else has
  have howes : ∀ k dev, d'.Owes k dev →
      d.Owes k dev ∨ (dev.deviceId = d.mgr.lastIndex ∧ k = (heartbeats d.mgr.out).length ∧
        d'.mgr.lastIndex = d.mgr.lastIndex + 1 ∧ d'.mgr.devices = d.mgr.devices) := by
    intro k dev ho
    rcases h.owes ho with hold |
      ⟨_, _, _, _, _, _, _, _, -, -, -, -, -, hdev, hk, hd'⟩
    · exact Or.inl hold
    · right
      rw [hd', hdev]
      exact ⟨rfl, hk, rfl, rfl⟩
  refine ⟨hlisted, ?_, ?_, ?_, ?_⟩
  · intro l id hid
    rcases h.puts_from hd hid with hold | hnew
    · exact UInt64.lt_of_lt_of_le (hf.heard l id hold) hwrap
    · exact hlisted id hnew
  · intro k device response hk
    rcases h.session with hsame | ⟨_, _, _, _, _, _, _, _, -, -, -, -, -, hd', hsession⟩
    · rw [hsame] at hk
      exact UInt64.lt_of_lt_of_le (hf.given k device response hk) hwrap
    · rw [hsession] at hk
      split at hk
      · cases hk
        rw [hd'] at hwrap ⊢
        exact lt_next hwrap
      · exact UInt64.lt_of_lt_of_le (hf.given k device response hk) hwrap
  · intro j k dev dev' hj hk hid
    rcases howes j dev hj with hj | ⟨hjid, hj, -, -⟩
    · rcases howes k dev' hk with hk | ⟨hkid, -, -, -⟩
      · exact hf.apart j k dev dev' hj hk hid
      · have hlt := hf.owes_lt hj
        rw [hid, hkid] at hlt
        exact absurd hlt (UInt64.lt_irrefl _)
    · rcases howes k dev' hk with hk | ⟨-, hk, -, -⟩
      · have hlt := hf.owes_lt hk
        rw [← hid, hjid] at hlt
        exact absurd hlt (UInt64.lt_irrefl _)
      · rw [hj, hk]
  · intro k dev ho
    have hunlisted : (d'.mgr.devices dev.deviceId).isSome ≠ true := by
      intro hid
      rcases howes k dev ho with hold | ⟨hnext, -, -, hsame⟩
      · rcases h.new_id hd hid with hbad | ⟨hi, -⟩ | ⟨k', device, ho', hi, hpaid⟩
        · rw [(hf.owed k dev hold).1] at hbad
          cases hbad
        · have hlt := hf.owes_lt hold
          rw [hi] at hlt
          exact absurd hlt (UInt64.lt_irrefl _)
        · have hk := hf.apart k k' dev device hold ho' hi
          exact hpaid dev (hk ▸ ho)
      · rw [hsame] at hid
        have hlt := hf.listed _ hid
        rw [hnext] at hlt
        exact absurd hlt (UInt64.lt_irrefl _)
    refine ⟨Option.not_isSome_iff_eq_none.mp hunlisted, fun l hl => ?_⟩
    rcases h.puts_from hd hl with hold | hnew
    · rcases howes k dev ho with hold' | ⟨hnext, -, -, -⟩
      · exact (hf.owed k dev hold').2 l hold
      · have hlt := hf.heard l _ hold
        rw [hnext] at hlt
        exact absurd hlt (UInt64.lt_irrefl _)
    · exact hunlisted hnew

end

/-! ### One request and the listeners -/

section
variable {cfg : Config} {env : Surroundings} {m m' : Manager} {req : ManagerRequest} {l : Nat}

/-- Only a subscription brings a new listener. -/
theorem Served.listeners_from (h : Served cfg env m req m') :
    m'.listeners.Sublist (m.listeners ++ req.subscribing?.toList) := by
  have hfilter : ∀ r : ManagerRequest, (m.listeners.filter env.alive).Sublist
      (m.listeners ++ r.subscribing?.toList) :=
    fun r => List.filter_sublist.trans (List.sublist_append_left ..)
  cases h with
  | listedNetwork => exact hfilter _
  | listedUsb => exact hfilter _
  | added => exact hfilter _
  | failed => exact hfilter _
  | removed ids =>
      refine List.Sublist.trans ?_ (List.sublist_append_left ..)
      refine List.foldlRecOn (motive := fun m' : Manager => m'.listeners.Sublist m.listeners)
        ids _ (List.Sublist.refl _) ?_
      intro m' ih id _
      rw [removeEntry_eq]
      exact List.filter_sublist.trans ih
  | subscribed => exact List.Sublist.refl _
  | subscribedGone kept hgone hkept =>
      rcases hkept with rfl | rfl
      · rw [List.append_nil]
        exact List.sublist_append_left ..
      · exact List.Sublist.refl _
  | _ => exact List.sublist_append_left ..

/-- And none that is there is lost. -/
theorem Served.listeners_keep (h : Served cfg env m req m') (ha : env.alive l = true)
    (hl : l ∈ m.listeners ∨ req.subscribing? = some l) : l ∈ m'.listeners := by
  have hfilter : l ∈ m.listeners → l ∈ m.listeners.filter env.alive :=
    fun hl => List.mem_filter.mpr ⟨hl, ha⟩
  have hold : req.subscribing? = none → l ∈ m.listeners := by
    intro hnone
    rcases hl with hl | hl
    · exact hl
    · rw [hnone] at hl
      cases hl
  cases h with
  | answered outs hreq =>
      refine hold ?_
      unfold ManagerRequest.subscribing?
      split
      · rename_i hsub
        rw [hsub] at hreq
        cases hreq
      · rfl
  | listedNetwork => exact hfilter (hold rfl)
  | listedUsb => exact hfilter (hold rfl)
  | added => exact hfilter (hold rfl)
  | failed => exact hfilter (hold rfl)
  | removed ids =>
      refine List.foldlRecOn (motive := fun m' : Manager => l ∈ m'.listeners) ids _ (hold rfl) ?_
      intro m' ih id _
      rw [removeEntry_eq]
      exact List.mem_filter.mpr ⟨ih, ha⟩
  | subscribed =>
      rcases hl with hl | hl
      · exact List.mem_append_left _ hl
      · cases hl
        exact List.mem_append_right _ (List.mem_singleton_self l)
  | subscribedGone kept hgone hkept =>
      rcases hl with hl | hl
      · exact List.mem_append_left _ hl
      · cases hl
        rw [hgone] at ha
        cases ha
  | _ => exact hold rfl

theorem told_removeEntry {alive : Nat → Bool} {id : UInt64} (hl : l ∉ m.listeners) :
    told l (removeEntry alive m id).out = told l m.out := by
  rw [removeEntry_eq, broadcast_out, told_append, told_tells_of_not_mem, List.append_nil,
    emit_out, told_append, silent_shutdowns, List.append_nil, dropEntry_out, told_append,
    silent_kills, List.append_nil]
  intro hmem
  exact hl (List.mem_filter.mp hmem).1

theorem told_list_other {alive : Nat → Bool} {device : MuxerDevice} {p : Dictionary}
    (hl : l ∉ m.listeners) : told l (m.list alive device p).out = told l m.out := by
  unfold Manager.list
  rw [broadcast_out, told_append, told_tells_of_not_mem, List.append_nil]
  exact fun hmem => hl (List.mem_filter.mp hmem).1

/-- Who does not listen is told nothing. -/
theorem Served.told_other (h : Served cfg env m req m') (hl : l ∉ m.listeners)
    (hreq : req.subscribing? ≠ some l) : told l m'.out = told l m.out := by
  have htells : ∀ event, told l (tells (m.listeners.filter env.alive) event) = [] :=
    fun event => told_tells_of_not_mem fun hmem => hl (List.mem_filter.mp hmem).1
  have hresponses : ∀ response p, told l (responses response p) = [] :=
    fun response p => silent_answers (responses_isAnswer response p) l
  cases h with
  | answered outs _ houts => rw [emit_out, told_append, silent_answers houts, List.append_nil]
  | deferred =>
      rw [emit_out, told_append]
      exact List.append_nil _
  | listedNetwork =>
      rw [emit_out, told_append, hresponses, List.append_nil]
      exact told_list_other hl
  | listedUsb => exact told_list_other hl
  | added => rw [emit_out, told_append, hresponses, List.append_nil, told_list_other hl]
  | failed =>
      rw [broadcast_out, told_append, dropEntry_listeners, htells, dropEntry_out, told_append,
        silent_kills, List.append_nil, List.append_nil]
  | removed ids =>
      have hboth : l ∉ (ids.foldl (removeEntry env.alive) m).listeners ∧
          told l (ids.foldl (removeEntry env.alive) m).out = told l m.out := by
        refine List.foldlRecOn (motive := fun m' : Manager =>
          l ∉ m'.listeners ∧ told l m'.out = told l m.out) ids _ ⟨hl, rfl⟩ ?_
        rintro m' ⟨hnot, ih⟩ id _
        refine ⟨?_, by rw [told_removeEntry hnot, ih]⟩
        rw [removeEntry_eq]
        exact fun hmem => hnot (List.mem_filter.mp hmem).1
      exact hboth.2
  | subscribed =>
      rename_i listener _ ps _ _
      have hne : listener ≠ l := fun heq => hreq (by rw [heq]; rfl)
      rw [told_append, told_attached_other hne, List.append_nil]
  | _ => rfl

/-- A request keeps the listeners' copies, if what it lists is new to them. -/
theorem Served.mirrored (h : Served cfg env m req m') (hm : m.Proper)
    (hmir : m.Mirrored cfg env.alive) (horder : OrderOf m.devices env.order)
    (hnext : ∀ l, m.lastIndex ∉ puts (told l m.out))
    (hadd : ∀ device response, req.requestType = .deferredMuxerAdd device response →
      ∀ l, device.deviceId ∉ puts (told l m.out))
    (hsub : ∀ l, req.subscribing? = some l → l ∉ m.listeners ∧ told l m.out = []) :
    m'.Mirrored cfg env.alive := by
  have hissue : m.issue.Mirrored cfg env.alive := hmir.congr rfl rfl rfl
  cases h with
  | answered outs _ houts => exact hmir.emit (silent_answers houts)
  | handleReplaced => exact hmir.congr rfl rfl rfl
  | deferred =>
      refine hissue.emit (silent_of ?_)
      simp [Output.edit?]
  | listedNetwork _ _ _ hp =>
      exact (hissue.list hp hnext).emit (silent_answers (responses_isAnswer _ _))
  | listedUsb _ hp =>
      refine Manager.Mirrored.list (m := { m.issue with usbHandles := _ }) ?_ hp hnext
      exact hissue.congr rfl rfl rfl
  | added hp =>
      exact (hmir.list hp (hadd _ _ rfl)).emit (silent_answers (responses_isAnswer _ _))
  | removed ids hids hall =>
      refine hmir.removeEntries hids fun id hid => hm.shown_isSome ?_
      obtain ⟨device, hdevice, -⟩ := (hall id).mp hid
      rw [hdevice]
      rfl
  | failed hfind hd =>
      have hnone : Silent [] := fun l => rfl
      have hdrop := hmir.drop (hm.shown_isSome (by rw [hd]; rfl)) hnone
      rwa [emit_nil] at hdrop
  | failedNobody => exact hmir
  | opened => exact hmir.congr rfl rfl rfl
  | subscribed halive hps =>
      obtain ⟨hnew, huntold⟩ := hsub _ rfl
      exact hmir.subscribe hm horder hps hnew huntold
  | subscribedGone kept hgone hkept =>
      -- nobody alive has been added
      have hold : ∀ l ∈ m.listeners ++ kept, env.alive l = true → l ∈ m.listeners := by
        intro l hl ha
        rcases List.mem_append.mp hl with hl | hl
        · exact hl
        rcases hkept with rfl | rfl
        · cases hl
        · rw [List.mem_singleton.mp hl, hgone] at ha
          cases ha
      refine ⟨?_, fun l hl ha => hmir.view l (hold l hl ha) ha,
        fun l hl ha => hmir.orderly l (hold l hl ha) ha⟩
      refine List.nodup_append.mpr ⟨hmir.nodup, ?_, ?_⟩
      · rcases hkept with rfl | rfl
        · exact List.nodup_nil
        · exact by simp
      · intro i hi j hj
        rcases hkept with rfl | rfl
        · cases hj
        · rw [List.mem_singleton.mp hj]
          exact fun heq => (hsub _ rfl).1 (heq ▸ hi)

end

/-! ### The listeners over a run -/

/-- The listeners whose subscription is on the queue. -/
def pendingSubscribes (queue : List Envelope) : List Nat :=
  queue.filterMap fun e => e.request.subscribing?

/-- Every listener is on its way to the manager or known to it, and the known ones have a
copy of the device list. -/
structure Daemon.Mirrored (cfg : Config) (d : Daemon) : Prop where
  mirror : d.mgr.Mirrored cfg fun l => !d.dropped l
  queued : (d.mgr.listeners ++ pendingSubscribes d.queue).Nodup
  known : ∀ l ∈ d.mgr.listeners ++ pendingSubscribes d.queue, l < d.subscribers
  kept : ∀ l < d.subscribers, d.dropped l = false →
    l ∈ d.mgr.listeners ++ pendingSubscribes d.queue
  untold : ∀ l, l ∈ pendingSubscribes d.queue ∨ d.subscribers ≤ l → told l d.mgr.out = []

theorem Daemon.mirrored_start (cfg : Config) : (Daemon.start cfg).Mirrored cfg where
  mirror := by
    refine ⟨List.nodup_nil, ?_, ?_⟩
    · intro l hl
      cases hl
    · intro l hl
      cases hl
  queued := List.nodup_nil
  known := by
    intro l hl
    cases hl
  kept := by
    intro l hl
    cases hl
  untold := fun l _ => rfl

section
variable {cfg : Config} {d d' : Daemon} {a : Happening}

/-- A step the listeners do not notice. -/
theorem Daemon.Mirrored.frame (h : d.Mirrored cfg) {outs : List Output}
    (houts : ∀ o ∈ outs, o.isAnswer = true) (hmgr : d'.mgr = d.mgr.emit outs)
    (hqueue : pendingSubscribes d'.queue = pendingSubscribes d.queue)
    (hsubs : d'.subscribers = d.subscribers) (hdropped : d'.dropped = d.dropped) :
    d'.Mirrored cfg := by
  refine ⟨?_, ?_, ?_, ?_, ?_⟩
  · rw [hmgr, hdropped]
    exact h.mirror.emit (silent_answers houts)
  · rw [hmgr, hqueue]
    exact h.queued
  · rw [hmgr, hqueue, hsubs]
    exact h.known
  · rw [hmgr, hqueue, hsubs, hdropped]
    exact h.kept
  · rw [hmgr, hqueue, hsubs]
    intro l hl
    rw [emit_out, told_append, silent_answers houts, List.append_nil]
    exact h.untold l hl

theorem pendingSubscribes_append (queue queue' : List Envelope) :
    pendingSubscribes (queue ++ queue') = pendingSubscribes queue ++ pendingSubscribes queue' :=
  List.filterMap_append ..

theorem pendingSubscribes_plain {queue : List Envelope} {e : Envelope}
    (he : e.request.subscribing? = none) :
    pendingSubscribes (queue ++ [e]) = pendingSubscribes queue := by
  rw [pendingSubscribes_append]
  simp [pendingSubscribes, he]

theorem Daemon.Mirrored.serve (h : d.Mirrored cfg) (hd : d.Sound) (hf : d.Fresh)
    {order : List UInt64} {paired : String → Bool} {e : Envelope} {rest : List Envelope}
    {m : Manager} (hqueue : d.queue = e :: rest) (horder : OrderOf d.mgr.devices order)
    (hserved : Served cfg (d.surroundings order paired) d.mgr e.request m) :
    Daemon.Mirrored cfg { d with mgr := m, queue := rest } := by
  have hpending : pendingSubscribes d.queue =
      e.request.subscribing?.toList ++ pendingSubscribes rest := by
    unfold pendingSubscribes
    rw [hqueue, List.filterMap_cons]
    cases hs : e.request.subscribing? with
    | none => simp
    | some l => simp
  have hqueued := h.queued
  rw [hpending, ← List.append_assoc] at hqueued
  have hsublist : (m.listeners ++ pendingSubscribes rest).Sublist
      (d.mgr.listeners ++ e.request.subscribing?.toList ++ pendingSubscribes rest) :=
    hserved.listeners_from.append (List.Sublist.refl _)
  have hsub : ∀ l, e.request.subscribing? = some l →
      l ∉ d.mgr.listeners ∧ told l d.mgr.out = [] := by
    intro l hl
    rw [hl] at hpending hqueued
    refine ⟨fun hmem => ?_, h.untold l (Or.inl ?_)⟩
    · have hleft := (List.nodup_append.mp hqueued).1
      exact (List.nodup_append.mp hleft).2.2 l hmem l (List.mem_singleton_self l) rfl
    · rw [hpending]
      exact List.mem_cons_self ..
  refine ⟨?_, hqueued.sublist hsublist, ?_, ?_, ?_⟩
  · refine hserved.mirrored hd.listed h.mirror horder ?_ ?_ hsub
    · intro l hmem
      exact absurd (hf.heard l _ hmem) (UInt64.lt_irrefl _)
    · intro device response hreq l
      have he : e ∈ d.queue := mem_queue hqueue
      obtain ⟨k, hk, hsession, -⟩ := hd.adds e he device response hreq
      have howes : d.Owes k device :=
        ⟨⟨response, hsession⟩, Or.inr (mem_pendingAdds.mpr ⟨e, he, hk, device, response, hreq⟩)⟩
      exact (hf.owed k device howes).2 l
  · intro l hl
    refine h.known l ?_
    rw [hpending, ← List.append_assoc]
    exact hsublist.subset hl
  · intro l hl ha
    have hmem := h.kept l hl ha
    rw [hpending, List.mem_append, List.mem_append] at hmem
    rw [List.mem_append]
    rcases hmem with hold | hhead | hrest
    · exact Or.inl (hserved.listeners_keep (by simpa [Daemon.surroundings] using ha) (Or.inl hold))
    · refine Or.inl (hserved.listeners_keep (by simpa [Daemon.surroundings] using ha) (Or.inr ?_))
      simpa using hhead
    · exact Or.inr hrest
  · intro l hl
    dsimp only at hl ⊢
    have hl' : l ∈ pendingSubscribes d.queue ∨ d.subscribers ≤ l := by
      rw [hpending]
      exact hl.imp_left fun hmem => List.mem_append_right _ hmem
    rw [hserved.told_other, h.untold l hl']
    · intro hmem
      rcases hl with hl | hl
      · exact (List.nodup_append.mp hqueued).2.2 l (List.mem_append_left _ hmem) l hl rfl
      · exact absurd (h.known l (List.mem_append_left _ hmem)) (Nat.not_lt.mpr hl)
    · intro hs
      rcases hl with hl | hl
      · refine (List.nodup_append.mp hqueued).2.2 l (List.mem_append_right _ ?_) l hl rfl
        rw [hs]
        exact List.mem_singleton_self l
      · refine absurd (h.known l (List.mem_append_right _ ?_)) (Nat.not_lt.mpr hl)
        rw [hpending, hs]
        exact List.mem_cons_self ..

theorem Daemon.Mirrored.listen (h : d.Mirrored cfg) :
    Daemon.Mirrored cfg
      { d.send { request := { requestType := .subscribe d.subscribers } } with
        subscribers := d.subscribers + 1 } := by
  have hqueue : d.mgr.listeners ++ pendingSubscribes
      (d.send { request := { requestType := .subscribe d.subscribers } }).queue =
        (d.mgr.listeners ++ pendingSubscribes d.queue) ++ [d.subscribers] := by
    rw [Daemon.send, pendingSubscribes_append, List.append_assoc]
    rfl
  refine ⟨h.mirror, ?_, ?_, ?_, ?_⟩
  · dsimp only [Daemon.send] at hqueue ⊢
    rw [hqueue]
    refine List.nodup_append.mpr ⟨h.queued, by simp, ?_⟩
    intro i hi j hj
    rw [List.mem_singleton.mp hj]
    exact Nat.ne_of_lt (h.known i hi)
  · intro l hl
    dsimp only [Daemon.send] at hqueue hl ⊢
    rw [hqueue] at hl
    rcases List.mem_append.mp hl with hold | hnew
    · exact Nat.lt_succ_of_lt (h.known l hold)
    · rw [List.mem_singleton.mp hnew]
      exact Nat.lt_succ_self _
  · intro l hl ha
    dsimp only [Daemon.send] at hqueue hl ha ⊢
    rw [hqueue, List.mem_append]
    by_cases hlast : l = d.subscribers
    · exact Or.inr (List.mem_singleton.mpr hlast)
    · exact Or.inl (h.kept l (by omega) ha)
  · intro l hl
    refine h.untold l ?_
    dsimp only [Daemon.send] at hl
    rw [pendingSubscribes_append, List.mem_append] at hl
    rcases hl with (hold | hnew) | hlater
    · exact Or.inl hold
    · right
      have hl : l = d.subscribers := by
        simpa [pendingSubscribes, ManagerRequest.subscribing?] using hnew
      exact Nat.le_of_eq hl.symm
    · exact Or.inr (by omega)

theorem Daemon.Mirrored.leave (h : d.Mirrored cfg) (listener : Nat) :
    Daemon.Mirrored cfg { d with dropped := Function.update d.dropped listener true } := by
  have hstill : ∀ l, Function.update d.dropped listener true l = false → d.dropped l = false := by
    intro l hl
    by_cases heq : l = listener
    · rw [heq, Function.update_self] at hl
      cases hl
    · rwa [Function.update_of_ne heq] at hl
  refine ⟨⟨h.mirror.nodup, fun l hl ha => ?_, fun l hl ha => ?_⟩, h.queued, h.known,
    fun l hl ha => h.kept l hl (hstill l ha), h.untold⟩
  · exact h.mirror.view l hl (by simpa using hstill l (by simpa using ha))
  · exact h.mirror.orderly l hl (by simpa using hstill l (by simpa using ha))

theorem unconditional_subscribing {req : ManagerRequest}
    (h : req.requestType.unconditional = true) : req.subscribing? = none := by
  unfold ManagerRequest.subscribing?
  split
  · rename_i hsub
    rw [hsub] at h
    cases h
  · rfl

theorem Daemon.Stepped.mirrored (h : d.Stepped cfg a d') (hd : d.Sound) (hf : d.Fresh)
    (hm : d.Mirrored cfg) : d'.Mirrored cfg := by
  have hnone : ∀ o ∈ ([] : List Output), o.isAnswer = true := by simp
  have hsame : d.mgr = d.mgr.emit [] := (emit_nil _).symm
  cases h with
  | submit hreq =>
      exact hm.frame hnone hsame (pendingSubscribes_plain (unconditional_subscribing hreq)) rfl rfl
  | listen => exact hm.listen
  | leave => exact hm.leave _
  | dial => exact hm.frame hnone hsame (pendingSubscribes_plain rfl) rfl rfl
  | tunnel => exact hm.frame hnone hsame (pendingSubscribes_plain rfl) rfl rfl
  | beats => exact hm.frame hnone hsame (pendingSubscribes_plain rfl) rfl rfl
  | fails => exact hm.frame hnone hsame (pendingSubscribes_plain rfl) rfl rfl
  | givesUp => exact hm.frame (responses_isAnswer _ _) rfl rfl rfl rfl
  | serve hqueue horder hserved => exact hm.serve hd hf hqueue horder hserved

/-- The ids do not wrap around in this step. -/
def NoWrap (d : Daemon) (_ : Happening) (d' : Daemon) : Prop :=
  d.mgr.lastIndex ≤ d'.mgr.lastIndex

instance (d d' : Daemon) (a : Happening) : Decidable (NoWrap d a d') :=
  inferInstanceAs (Decidable (_ ≤ _))

theorem Daemon.mirrored {tr : List (Daemon × Happening × Daemon)}
    (hrun : Run (Daemon.Step cfg) (Daemon.start cfg) tr d) (hwrap : EveryStep NoWrap tr) :
    d.Sound ∧ d.Fresh ∧ d.Mirrored cfg :=
  Run.invariant_of (P := fun d => d.Sound ∧ d.Fresh ∧ d.Mirrored cfg)
    ⟨sound_start cfg, fresh_start cfg, mirrored_start cfg⟩
    (fun _ _ _ ⟨hd, hf, hm⟩ hstep hwrap =>
      ⟨hstep.stepped.sound hd, hstep.stepped.fresh hd hf hwrap, hstep.stepped.mirrored hd hf hm⟩)
    hrun hwrap

/-- The entries of a device list, each found by its id. -/
theorem find?_shown {m : Manager} (hm : m.Proper) {order : List UInt64}
    (horder : OrderOf m.devices order) (id : UInt64) :
    (order.filterMap (shown cfg m.devices)).find? (fun p => decide (p.deviceId = some id)) =
      shown cfg m.devices id := by
  have hkey : ∀ p ∈ order.filterMap (shown cfg m.devices), p.deviceId = some id →
      shown cfg m.devices id = some p := by
    intro p hp hid
    obtain ⟨i, -, hi⟩ := List.mem_filterMap.mp hp
    rw [hm.shown_deviceId hi] at hid
    cases hid
    exact hi
  cases hfind : (order.filterMap (shown cfg m.devices)).find?
      fun p => decide (p.deviceId = some id) with
  | some q =>
      have hq := List.find?_some hfind
      rw [decide_eq_true_iff] at hq
      exact (hkey q (List.mem_of_find?_eq_some hfind) hq).symm
  | none =>
      cases hs : shown cfg m.devices id with
      | none => rfl
      | some p =>
          obtain ⟨device, hdevice, -⟩ := Option.bind_eq_some_iff.mp hs
          have hmem : p ∈ order.filterMap (shown cfg m.devices) :=
            List.mem_filterMap.mpr ⟨id, (horder.2 id).mpr (by rw [hdevice]; rfl), hs⟩
          have hnot := List.find?_eq_none.mp hfind p hmem
          rw [decide_eq_true_iff] at hnot
          exact absurd (hm.shown_deviceId hs) hnot

/-- **A listener's view is the manager's state.**  While ids do not wrap around, whoever
listens and has been served its subscription is told of what enters and leaves the device
list in an orderly way, and what it has been told amounts to the list as it is. -/
theorem listeners_see_the_devices {tr : List (Daemon × Happening × Daemon)}
    (hrun : Run (Daemon.Step cfg) (Daemon.start cfg) tr d) (hwrap : EveryStep NoWrap tr) {l : Nat}
    (hl : l < d.subscribers) (halive : d.dropped l = false)
    (hserved : ∀ e ∈ d.queue, e.request.requestType ≠ .subscribe l) :
    (∀ id, (replay (told l d.mgr.out) id).isSome = true ↔ (d.mgr.devices id).isSome = true) ∧
      Orderly (told l d.mgr.out) ∧
      ∀ order paired, OrderOf d.mgr.devices order →
        ∃ ps, deviceList cfg (d.surroundings order paired) d.mgr = some ps ∧
          ∀ id, replay (told l d.mgr.out) id =
            ps.find? fun p => decide (p.deviceId = some id) := by
  obtain ⟨hd, -, hm⟩ := Daemon.mirrored hrun hwrap
  have hproper : d.mgr.Proper := hd.listed
  have hmem : l ∈ d.mgr.listeners := by
    rcases List.mem_append.mp (hm.kept l hl halive) with hmem | hpending
    · exact hmem
    · obtain ⟨e, he, hsub⟩ := List.mem_filterMap.mp hpending
      unfold ManagerRequest.subscribing? at hsub
      split at hsub
      · rename_i hreq
        cases hsub
        exact absurd hreq (hserved e he)
      · cases hsub
  have hview := hm.mirror.view l hmem (by simpa using halive)
  refine ⟨fun id => ?_, hm.mirror.orderly l hmem (by simpa using halive), ?_⟩
  · rw [hview]
    constructor
    · intro h
      obtain ⟨p, hp⟩ := Option.isSome_iff_exists.mp h
      obtain ⟨device, hdevice, -⟩ := Option.bind_eq_some_iff.mp hp
      rw [hdevice]
      rfl
    · exact hproper.shown_isSome
  · intro order paired horder
    refine ⟨_, hproper.deviceList horder, fun id => ?_⟩
    rw [hview]
    exact (find?_shown hproper horder id).symm

end

/-- A client that listens before a device is plugged in. -/
theorem first_listener_sees_the_device :
    ∃ d tr, Run (Daemon.Step ⟨false, false, false⟩) (Daemon.start ⟨false, false, false⟩) tr d ∧
      EveryStep NoWrap tr ∧ (d.mgr.devices 1).isSome = true ∧
        ((replay (told 0 d.mgr.out) 1).isSome = true) := by
  have hplays : Daemon.Plays ⟨false, false, false⟩ NoWrap
      [.listen, .submit ⟨.discoveredUsbDevice "u" 1 2 3 0, none⟩, .serve [] fun _ => false,
        .serve [] fun _ => false] _ :=
    ⟨_, rfl, ⟨trivial, by decide⟩, _, rfl, ⟨trivial, by decide⟩, _, rfl, ⟨orderOf_nil, by decide⟩,
      _, rfl, ⟨orderOf_nil, by decide⟩, rfl⟩
  obtain ⟨tr, hrun, hwrap⟩ := hplays.run
  exact ⟨_, tr, hrun, hwrap, rfl,
    ((listeners_see_the_devices hrun hwrap Nat.one_pos rfl (by intro e he; cases he)).1 1).mpr rfl⟩

end Netmuxd
