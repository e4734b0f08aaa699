/-
One entry for a device and a transport.

Whether a device is listed already is looked up when it is discovered.  With heartbeats
it is listed later, when its deferred add is served, and nothing is looked up then.  So
the list stays free of duplicates exactly as long as no deferred add is served while
another entry has its device's serial number and connection type.
-/
import Netmuxd.Proofs.Daemon

namespace Netmuxd

open Lib

/-- No two entries have the same serial number and connection type. -/
def Unique (devices : UInt64 → Option MuxerDevice) : Prop :=
  ∀ i j dev dev', devices i = some dev → devices j = some dev' →
    dev'.Matches dev.serialNumber dev.connectionType → i = j

theorem MuxerDevice.Matches.symm {dev dev' : MuxerDevice}
    (h : dev'.Matches dev.serialNumber dev.connectionType) :
    dev.Matches dev'.serialNumber dev'.connectionType :=
  ⟨h.1.symm, h.2.symm⟩

theorem unique_of_sub {devices devices' : UInt64 → Option MuxerDevice} (h : Unique devices)
    (hsub : ∀ id device, devices' id = some device → devices id = some device) :
    Unique devices' :=
  fun i j dev dev' hi hj hm => h i j dev dev' (hsub i dev hi) (hsub j dev' hj) hm

/-- An entry put in makes no duplicate if no other entry is like it. -/
theorem unique_update {devices : UInt64 → Option MuxerDevice} (h : Unique devices)
    {device : MuxerDevice} {id : UInt64} :
    Unique (Function.update devices id (some device)) ↔
      ∀ i dev, devices i = some dev → dev.Matches device.serialNumber device.connectionType →
        i = id := by
  constructor
  · intro hnew i dev hi hm
    by_contra hne
    refine hne (hnew i id dev device ?_ (Function.update_self ..) hm.symm)
    rw [Function.update_of_ne hne]
    exact hi
  · intro hnew i j dev dev' hi hj hm
    rcases update_eq_some hi with hi | ⟨hi, hdev⟩
    · rcases update_eq_some hj with hj | ⟨hj, hdev'⟩
      · exact h i j dev dev' hi hj hm
      · rw [hj]
        rw [hdev'] at hm
        exact hnew i dev hi hm.symm
    · rcases update_eq_some hj with hj | ⟨hj, hdev'⟩
      · rw [hi]
        rw [hdev] at hm
        exact (hnew j dev' hj hm).symm
      · rw [hi, hj]

/-- Should a deferred add be served, no other entry is like its device. -/
def AddsNew (d : Daemon) : Happening → Daemon → Prop
  | .serve _ _, _ => ∀ e rest device response, d.queue = e :: rest →
      e.request.requestType = .deferredMuxerAdd device response →
      ∀ i dev, d.mgr.devices i = some dev →
        dev.Matches device.serialNumber device.connectionType → i = device.deviceId
  | _, _ => True

/-- Should a discovery of an unlisted device be served, no heartbeat task has yet to add a
device like it. -/
def DiscoversAlone (d : Daemon) : Happening → Daemon → Prop
  | .serve _ _, _ => ∀ e rest udid connectionType, d.queue = e :: rest →
      e.request.requestType.discovers? = some (udid, connectionType) →
      ¬ Lists d.mgr.devices udid connectionType →
      ∀ k device, d.Owes k device → ¬ device.Matches udid connectionType
  | _, _ => True

section
variable {cfg : Config} {d d' : Daemon} {a : Happening}

theorem Daemon.Stepped.unique_iff (h : d.Stepped cfg a d') (hu : Unique d.mgr.devices) :
    Unique d'.mgr.devices ↔ AddsNew d a d' := by
  cases a with
  | serve order paired =>
      cases h with
      | serve hqueue horder hserved =>
          rename_i e rest m
          by_cases hadd : ∃ device response,
              e.request.requestType = .deferredMuxerAdd device response
          · obtain ⟨device, response, hreq⟩ := hadd
            dsimp only
            rw [hserved.adds hreq, unique_update hu]
            constructor
            · intro hno e' rest' device' response' hqueue' hreq'
              rw [hqueue] at hqueue'
              cases hqueue'
              rw [hreq] at hreq'
              cases hreq'
              exact hno
            · intro hno
              exact hno e rest device response hqueue hreq
          · constructor
            · intro _ e' rest' device response hqueue' hreq
              rw [hqueue] at hqueue'
              cases hqueue'
              exact absurd ⟨device, response, hreq⟩ hadd
            · intro _
              dsimp only
              rcases hserved.devices with hless | ⟨device, hdevices, ⟨-, hnew, -⟩ | hbad⟩
              · exact unique_of_sub hu hless
              · rw [hdevices, unique_update hu]
                intro i dev hi hm
                exact absurd ⟨i, dev, hi, hm⟩ hnew
              · exact absurd ⟨device, hbad⟩ hadd
  | _ =>
      refine ⟨fun _ => trivial, fun _ => ?_⟩
      obtain ⟨outs, -, hmgr⟩ := h.mgr_eq fun order paired heq => by cases heq
      rw [hmgr]
      exact hu

/-! ### When discoveries are alone -/

/-- What a heartbeat task has yet to add is not listed, and no other task has yet to add a
device like it. -/
structure Daemon.Alone (d : Daemon) : Prop where
  unlisted : ∀ k dev, d.Owes k dev →
    ¬ Lists d.mgr.devices dev.serialNumber dev.connectionType
  apart : ∀ j k dev dev', d.Owes j dev → d.Owes k dev' →
    dev'.Matches dev.serialNumber dev.connectionType → j = k

theorem lists_update {devices : UInt64 → Option MuxerDevice} {device : MuxerDevice} {id : UInt64}
    {udid connectionType : String}
    (h : Lists (Function.update devices id (some device)) udid connectionType) :
    Lists devices udid connectionType ∨ device.Matches udid connectionType := by
  obtain ⟨i, dev, hi, hm⟩ := h
  rcases update_eq_some hi with hi | ⟨-, rfl⟩
  · exact Or.inl ⟨i, dev, hi, hm⟩
  · exact Or.inr hm

theorem lists_of_sub {devices devices' : UInt64 → Option MuxerDevice} {udid connectionType : String}
    (hsub : ∀ id device, devices' id = some device → devices id = some device)
    (h : Lists devices' udid connectionType) : Lists devices udid connectionType := by
  obtain ⟨i, dev, hi, hm⟩ := h
  exact ⟨i, dev, hsub i dev hi, hm⟩

theorem Daemon.Stepped.alone (h : d.Stepped cfg a d') (hd : d.Sound) (hal : d.Alone)
    (hC : DiscoversAlone d a d') : d'.Alone := by
  -- a device that has just been discovered is like none that is yet to be added
  have howes : ∀ k dev, d'.Owes k dev →
      d.Owes k dev ∨ (k = (heartbeats d.mgr.out).length ∧ d'.mgr.devices = d.mgr.devices ∧
        ¬ Lists d.mgr.devices dev.serialNumber dev.connectionType ∧
        ∀ j dev', d.Owes j dev' → ¬ dev'.Matches dev.serialNumber dev.connectionType) := by
    intro k dev ho
    rcases h.owes ho with hold |
      ⟨_, _, e, rest, udid, addr, name, ct, ha, hqueue, hreq, hnew, -, hdev, hk, hd'⟩
    · exact Or.inl hold
    · subst ha
      refine Or.inr ⟨hk, by rw [hd']; rfl, by rw [hdev]; exact hnew, ?_⟩
      rw [hdev]
      exact hC e rest udid ct hqueue (by rw [hreq]; rfl) hnew
  refine ⟨?_, ?_⟩
  · intro k dev ho hlists
    rcases howes k dev ho with hold | ⟨-, hsame, hnew, -⟩
    · rcases h.shape with ⟨order, paired, e, rfl, hqueue, -, -, hserved⟩ | ⟨⟨outs, -, hmgr⟩, -⟩
      · rcases hserved.devices with hless | ⟨device, hdevices, horigin⟩
        · exact hal.unlisted k dev hold (lists_of_sub hless hlists)
        rw [hdevices] at hlists
        rcases lists_update hlists with hlists | hm
        · exact hal.unlisted k dev hold hlists
        rcases horigin with ⟨hreq, hnew, -⟩ | ⟨response, hreq⟩
        · exact hC e _ _ _ hqueue hreq hnew k dev hold hm.symm
        · obtain ⟨j, hj, -, hpaid⟩ := h.pays hd rfl hqueue hreq
          have hjk := hal.apart k j dev device hold hj hm
          exact hpaid dev (hjk ▸ ho)
      · rw [hmgr] at hlists
        exact hal.unlisted k dev hold hlists
    · rw [hsame] at hlists
      exact hnew hlists
  · intro j k dev dev' hj hk hm
    rcases howes j dev hj with hj | ⟨hjlen, -, -, hjnew⟩
    · rcases howes k dev' hk with hk | ⟨-, -, -, hknew⟩
      · exact hal.apart j k dev dev' hj hk hm
      · exact absurd hm.symm (hknew j dev hj)
    · rcases howes k dev' hk with hk | ⟨hklen, -, -, -⟩
      · exact absurd hm (hjnew k dev' hk)
      · rw [hjlen, hklen]

theorem Daemon.Stepped.addsNew (h : d.Stepped cfg a d') (hd : d.Sound) (hal : d.Alone) :
    AddsNew d a d' := by
  cases a with
  | serve order paired =>
      intro e rest device response hqueue hreq i dev hi hm
      obtain ⟨k, hk, -, -⟩ := h.pays hd rfl hqueue hreq
      exact absurd ⟨i, dev, hi, hm⟩ (hal.unlisted k device hk)
  | _ => trivial

theorem Daemon.alone_start (cfg : Config) : (Daemon.start cfg).Alone where
  unlisted := by
    intro k dev ho
    obtain ⟨⟨response, h⟩, -⟩ := ho
    cases h
  apart := by
    intro j k dev dev' ho
    obtain ⟨⟨response, h⟩, -⟩ := ho
    cases h

/-- **One entry per device and transport.**  In every run the list is free of duplicates in
every state exactly if every deferred add that is served is of a device like no other
entry.  So it is where every device is discovered alone. -/
theorem entries_are_unique {tr : List (Daemon × Happening × Daemon)}
    (hrun : Run (Daemon.Step cfg) (Daemon.start cfg) tr d) :
    (EveryStep (fun _ _ d' => Unique d'.mgr.devices) tr ↔ EveryStep AddsNew tr) ∧
      (EveryStep DiscoversAlone tr → EveryStep AddsNew tr) := by
  constructor
  · refine Run.everyState_iff (Daemon.sound_start cfg)
      (fun _ _ _ hd hstep => hstep.stepped.sound hd) ?_
      (fun _ _ _ _ hu hstep => hstep.stepped.unique_iff hu) hrun
    intro i j dev dev' hi
    cases hi
  · intro hC
    refine Run.everyStep_of (P := fun d : Daemon => d.Sound ∧ d.Alone)
      ⟨Daemon.sound_start cfg, Daemon.alone_start cfg⟩ ?_ ?_ hrun hC
    · rintro d a d' ⟨hd, hal⟩ hstep hC
      exact ⟨hstep.stepped.sound hd, hstep.stepped.alone hd hal hC⟩
    · rintro d a d' ⟨hd, hal⟩ hstep -
      exact hstep.stepped.addsNew hd hal

end

/-- A device that is announced once. -/
theorem lone_device_is_unique :
    ∃ d tr, Run (Daemon.Step ⟨true, false, false⟩) (Daemon.start ⟨true, false, false⟩) tr d ∧
      (d.mgr.devices 1).isSome = true ∧ EveryStep (fun _ _ d' => Unique d'.mgr.devices) tr := by
  have hplays : Daemon.Plays ⟨true, false, false⟩ AddsNew
      [resolution "u", .serve [] fun _ => true, .beats 0, .serve [] fun _ => true] _ :=
    ⟨_, rfl, ⟨trivial, trivial⟩,
      _, rfl, ⟨orderOf_nil, fun e rest device response hqueue hreq => by cases hqueue; cases hreq⟩,
      _, rfl, ⟨trivial, trivial⟩,
      _, rfl, ⟨orderOf_nil, fun e rest device response hqueue hreq i dev hi => by cases hi⟩, rfl⟩
  obtain ⟨tr, hrun, hnew⟩ := hplays.run
  exact ⟨_, tr, hrun, rfl, (entries_are_unique hrun).1.mpr hnew⟩

/-- Two announcements of one device, both served before either heartbeat is up: the device
is listed twice. -/
theorem device_is_listed_twice :
    ∃ d tr, Run (Daemon.Step ⟨true, false, false⟩) (Daemon.start ⟨true, false, false⟩) tr d ∧
      ¬ Unique d.mgr.devices := by
  have hplays : Daemon.Plays ⟨true, false, false⟩ (fun _ _ _ => True)
      [resolution "u", resolution "u", .serve [] fun _ => true, .serve [] fun _ => true, .beats 0,
        .beats 1, .serve [] fun _ => true, .serve [1] fun _ => true] _ :=
    ⟨_, rfl, ⟨trivial, trivial⟩, _, rfl, ⟨trivial, trivial⟩, _, rfl, ⟨orderOf_nil, trivial⟩,
      _, rfl, ⟨orderOf_nil, trivial⟩, _, rfl, ⟨trivial, trivial⟩, _, rfl, ⟨trivial, trivial⟩,
      _, rfl, ⟨orderOf_nil, trivial⟩, _, rfl, ⟨orderOf_nil.insert (by simp), trivial⟩, rfl⟩
  obtain ⟨tr, hrun, -⟩ := hplays.run
  refine ⟨_, tr, hrun, fun hu => ?_⟩
  exact absurd (hu 1 2 _ _ rfl rfl ⟨rfl, rfl⟩) (by decide)

end Netmuxd
