/-
When the two searches for the mux interface choose the same target.

Both try the active configuration first.  After that the daemon goes by the number of a
configuration and the library by its place in the descriptors, so they agree exactly if
the active configuration has a mux interface or the first configuration that has one is
also the highest-numbered.
-/
import Netmuxd.Usb.Apple
import Mathlib.Data.List.Nodup

namespace Netmuxd.Nusb

/-! ### Statement -/

/-- The configuration has a mux interface. -/
def ConfigurationDescriptor.HasMux (cfg : ConfigurationDescriptor) : Prop :=
  (findMuxInConfig cfg).isSome = true

instance (cfg : ConfigurationDescriptor) : Decidable cfg.HasMux :=
  inferInstanceAs (Decidable (_ = true))

/-- The device is in a configuration with a mux interface. -/
def Device.ActiveHasMux (device : Device) : Prop :=
  ∃ cfg, device.activeConfiguration = some cfg ∧ cfg.HasMux

/-- The first configuration with a mux interface has a higher number than all others with
one. -/
def Device.FirstIsHighest (device : Device) : Prop :=
  ∀ before cfg after, device.configurations = before ++ cfg :: after → cfg.HasMux →
    (∀ c ∈ before, ¬ c.HasMux) →
      ∀ c ∈ after, c.HasMux → c.configurationValue < cfg.configurationValue

/-! ### One configuration -/

theorem targetsOf_head? (cfg : ConfigurationDescriptor) :
    (targetsOf cfg).head? = findMuxInConfig cfg := by
  unfold targetsOf findMuxInConfig
  rw [List.head?_flatMap]
  congr 1
  funext intf
  exact List.head?_filterMap

theorem altTarget_config {v : UInt8} {alt : InterfaceDescriptor} {t : MuxTarget}
    (h : altTarget v alt = some t) : t.configValue = v := by
  unfold altTarget at h
  split at h
  · cases h
  · split at h
    · cases h
      rfl
    · cases h

theorem mem_targetsOf {cfg : ConfigurationDescriptor} {t : MuxTarget} (h : t ∈ targetsOf cfg) :
    t.configValue = cfg.configurationValue := by
  obtain ⟨intf, -, ht⟩ := List.mem_flatMap.mp h
  obtain ⟨alt, -, ht⟩ := List.mem_filterMap.mp ht
  exact altTarget_config ht

theorem findMuxInConfig_config {cfg : ConfigurationDescriptor} {t : MuxTarget}
    (h : findMuxInConfig cfg = some t) : t.configValue = cfg.configurationValue := by
  rw [← targetsOf_head?] at h
  exact mem_targetsOf (List.mem_of_head? h)

/-- The targets of a configuration, sifted by the number of a configuration. -/
theorem targetsOf_filter (cfg : ConfigurationDescriptor) (v : UInt8) :
    (targetsOf cfg).filter (fun t => some t.configValue = some v) =
      if cfg.configurationValue = v then targetsOf cfg else [] := by
  split
  · rename_i hv
    refine List.filter_eq_self.mpr fun t ht => ?_
    rw [mem_targetsOf ht, hv]
    exact decide_eq_true rfl
  · rename_i hv
    refine List.filter_eq_nil_iff.mpr fun t ht => ?_
    rw [mem_targetsOf ht]
    simpa using hv

/-! ### The library's first target -/

section
variable {device : Device} {cfg : ConfigurationDescriptor}

theorem Device.activeConfiguration_mem (h : device.activeConfiguration = some cfg) :
    cfg ∈ device.configurations := by
  obtain ⟨v, -, hfind⟩ := Option.bind_eq_some_iff.mp h
  exact List.mem_of_find?_eq_some hfind

theorem flatMap_head? (configs : List ConfigurationDescriptor) :
    (configs.flatMap targetsOf).head? = configs.findSome? findMuxInConfig := by
  rw [List.head?_flatMap]
  congr 1
  funext c
  exact targetsOf_head? c

/-- The first candidate in the active configuration is its first target. -/
theorem candidates_active (hdistinct : (device.configurations.map (·.configurationValue)).Nodup)
    (hcfg : cfg ∈ device.configurations) :
    ((device.configurations.flatMap targetsOf).filter
      fun t => some t.configValue = some cfg.configurationValue).head? = findMuxInConfig cfg := by
  obtain ⟨before, after, hsplit⟩ := List.append_of_mem hcfg
  rw [hsplit, List.map_append, List.map_cons, List.nodup_middle, ← List.map_append] at hdistinct
  have hothers : ∀ l : List ConfigurationDescriptor, (∀ c ∈ l, c ∈ before ++ after) →
      (l.findSome? fun c => ((targetsOf c).filter
        fun t => some t.configValue = some cfg.configurationValue).head?) = none := by
    intro l hl
    rw [List.findSome?_eq_none_iff]
    intro c hc
    have hne : c.configurationValue ≠ cfg.configurationValue := by
      intro hv
      refine (List.nodup_cons.mp hdistinct).1 ?_
      rw [← hv]
      exact List.mem_map_of_mem (hl c hc)
    rw [targetsOf_filter, if_neg hne]
    rfl
  rw [List.filter_flatMap, List.head?_flatMap, hsplit, List.findSome?_append, List.findSome?_cons,
    hothers before fun c hc => List.mem_append_left _ hc,
    hothers after fun c hc => List.mem_append_right _ hc, targetsOf_filter, if_pos rfl,
    targetsOf_head?, Option.none_or]
  cases findMuxInConfig cfg <;> rfl

theorem collect_head? (hdistinct : (device.configurations.map (·.configurationValue)).Nodup) :
    (collectMuxCandidates device).head? = (device.activeConfiguration.bind findMuxInConfig).or
      (device.configurations.findSome? findMuxInConfig) := by
  unfold collectMuxCandidates
  rw [List.head?_append]
  cases hactive : device.activeConfiguration with
  | none =>
      simp only [Option.map_none, reduceCtorEq, decide_false, ne_eq, not_false_eq_true, decide_true,
        List.filter_false, List.filter_true, List.head?_nil, Option.none_or, Option.bind_none]
      exact flatMap_head? _
  | some cfg =>
      have hfirst := candidates_active hdistinct (Device.activeConfiguration_mem hactive)
      dsimp only [Option.map_some, Option.bind_some]
      rw [hfirst]
      cases hfound : findMuxInConfig cfg with
      | some t => rfl
      | none =>
          rw [Option.none_or, Option.none_or]
          rw [hfound, List.head?_eq_none_iff, List.filter_eq_nil_iff] at hfirst
          rw [List.filter_eq_self.mpr, flatMap_head?]
          intro t ht
          simpa using hfirst t ht

/-! ### The highest-numbered configuration -/

theorem hasMux_of_findSome? {configs : List ConfigurationDescriptor} {t : MuxTarget}
    (h : configs.findSome? findMuxInConfig = some t) : ∃ before cfg after,
      configs = before ++ cfg :: after ∧ findMuxInConfig cfg = some t ∧ cfg.HasMux ∧
        ∀ c ∈ before, ¬ c.HasMux := by
  obtain ⟨before, cfg, after, hsplit, hcfg, hbefore⟩ := List.findSome?_eq_some_iff.mp h
  refine ⟨before, cfg, after, hsplit, hcfg, ?_, fun c hc => ?_⟩
  · rw [ConfigurationDescriptor.HasMux, hcfg]
    rfl
  · rw [ConfigurationDescriptor.HasMux, hbefore c hc]
    exact Bool.false_ne_true

theorem findSome?_split {before after : List ConfigurationDescriptor} (hcfg : cfg.HasMux)
    (hbefore : ∀ c ∈ before, ¬ c.HasMux) :
    (before ++ cfg :: after).findSome? findMuxInConfig = findMuxInConfig cfg := by
  have hnone : before.findSome? findMuxInConfig = none := by
    rw [List.findSome?_eq_none_iff]
    intro c hc
    exact Option.not_isSome_iff_eq_none.mp (hbefore c hc)
  obtain ⟨t, ht⟩ := Option.isSome_iff_exists.mp hcfg
  rw [List.findSome?_append, hnone, Option.none_or, List.findSome?_cons, ht]

/-- The daemon's choice among all configurations is the highest-numbered with a mux
interface. -/
theorem sorted_findSome? {configs : List ConfigurationDescriptor} {t : MuxTarget}
    (h : (sortConfigs configs).findSome? findMuxInConfig = some t) :
    ∃ cfg ∈ configs, findMuxInConfig cfg = some t ∧
      ∀ c ∈ configs, c.HasMux → c.configurationValue ≤ cfg.configurationValue := by
  obtain ⟨before, cfg, after, hsplit, hcfg, -, hbefore⟩ := hasMux_of_findSome? h
  have hmem : ∀ c, c ∈ configs ↔ c ∈ before ++ cfg :: after := by
    intro c
    rw [← hsplit, sortConfigs, List.mem_mergeSort]
  have hsorted : (sortConfigs configs).Pairwise
      fun a b => b.configurationValue ≤ a.configurationValue := by
    have hpairs : (sortConfigs configs).Pairwise
        fun a b => decide (b.configurationValue ≤ a.configurationValue) = true := by
      refine List.pairwise_mergeSort (fun a b c hab hbc => ?_) (fun a b => ?_) configs
      · exact decide_eq_true (UInt8.le_trans (of_decide_eq_true hbc) (of_decide_eq_true hab))
      · rw [Bool.or_eq_true, decide_eq_true_eq, decide_eq_true_eq]
        exact UInt8.le_total _ _
    exact hpairs.imp of_decide_eq_true
  refine ⟨cfg, (hmem cfg).mpr (by simp), hcfg, fun c hc hmux => ?_⟩
  rcases List.mem_append.mp ((hmem c).mp hc) with hc | hc
  · exact absurd hmux (hbefore c hc)
  · rw [hsplit, List.pairwise_append] at hsorted
    rcases List.mem_cons.mp hc with rfl | hc
    · exact UInt8.le_refl _
    · exact (List.pairwise_cons.mp hsorted.2.1).1 c hc

/-- Going by place and going by number come to the same exactly if the first is the highest. -/
theorem firstIsHighest_iff (hdistinct : (device.configurations.map (·.configurationValue)).Nodup) :
    device.configurations.findSome? findMuxInConfig =
        (sortConfigs device.configurations).findSome? findMuxInConfig ↔ device.FirstIsHighest := by
  constructor
  · intro hsame before cfg after hsplit hcfg hbefore c hc hmux
    obtain ⟨t, ht⟩ := Option.isSome_iff_exists.mp hcfg
    rw [hsplit, findSome?_split hcfg hbefore, ← hsplit, ht] at hsame
    obtain ⟨cfg', hcfg', ht', hhighest⟩ := sorted_findSome? hsame.symm
    have hvalue : cfg'.configurationValue = cfg.configurationValue :=
      (findMuxInConfig_config ht').symm.trans (findMuxInConfig_config ht)
    have hcin : c ∈ device.configurations := by
      rw [hsplit]
      exact List.mem_append_right _ (List.mem_cons_of_mem _ hc)
    have hle := hhighest c hcin hmux
    rw [hvalue] at hle
    refine UInt8.lt_of_le_of_ne hle fun hv => ?_
    rw [hsplit, List.map_append, List.map_cons] at hdistinct
    have htail := (List.nodup_cons.mp (List.nodup_append.mp hdistinct).2.1).1
    rw [← hv] at htail
    exact htail (List.mem_map_of_mem hc)
  · intro hfirst
    cases hsorted : (sortConfigs device.configurations).findSome? findMuxInConfig with
    | none =>
        rw [List.findSome?_eq_none_iff] at hsorted ⊢
        intro c hc
        exact hsorted c (List.mem_mergeSort.mpr hc)
    | some t =>
        obtain ⟨cfg', hcfg', ht', hhighest⟩ := sorted_findSome? hsorted
        have hmux' : cfg'.HasMux := by
          rw [ConfigurationDescriptor.HasMux, ht']
          rfl
        obtain ⟨u, hu⟩ : ∃ u, device.configurations.findSome? findMuxInConfig = some u := by
          rw [← Option.isSome_iff_exists, List.findSome?_isSome_iff]
          exact ⟨cfg', hcfg', hmux'⟩
        obtain ⟨before, cfg, after, hsplit, hcfg, hmux, hbefore⟩ := hasMux_of_findSome? hu
        have hsame : cfg' = cfg := by
          rw [hsplit] at hcfg'
          rcases List.mem_append.mp hcfg' with hin | hin
          · exact absurd hmux' (hbefore cfg' hin)
          · rcases List.mem_cons.mp hin with heq | hin
            · exact heq
            · have hlt := hfirst before cfg after hsplit hmux hbefore cfg' hin hmux'
              have hle := hhighest cfg (by rw [hsplit]; simp) hmux
              exact absurd hlt (UInt8.not_lt.mpr hle)
        rw [hu, ← hcfg, ← hsame, ht']

end

/-- **When the two searches agree.**  The library's first target is the daemon's if and only if
the active configuration has a mux interface, or the first configuration in the descriptors
that has one is the highest-numbered that has one. -/
theorem searches_agree_iff (device : Device)
    (hdistinct : (device.configurations.map (·.configurationValue)).Nodup) :
    (collectMuxCandidates device).head? = findMuxTarget device ↔
      device.ActiveHasMux ∨ device.FirstIsHighest := by
  rw [collect_head? hdistinct, ← firstIsHighest_iff hdistinct]
  unfold findMuxTarget Device.ActiveHasMux
  cases hactive : device.activeConfiguration.bind findMuxInConfig with
  | some t =>
      obtain ⟨cfg, hcfg, ht⟩ := Option.bind_eq_some_iff.mp hactive
      simp only [Option.some_or, true_iff]
      refine .inl ⟨cfg, hcfg, ?_⟩
      rw [ConfigurationDescriptor.HasMux, ht]
      rfl
  | none =>
      simp only [Option.none_or]
      constructor
      · exact .inr
      · rintro (⟨cfg, hcfg, hmux⟩ | hsame)
        · obtain ⟨t, ht⟩ := Option.isSome_iff_exists.mp hmux
          rw [hcfg, Option.bind_some, ht] at hactive
          cases hactive
        · exact hsame

/-! ### A device with two mux configurations -/

/-- An interface of the mux, with its two bulk endpoints. -/
def muxInterface (number : UInt8) : InterfaceDescriptor :=
  { interfaceNumber := number
    class_ := muxInterfaceClass
    subclass := muxInterfaceSubclass
    protocol := muxInterfaceProtocol
    endpoints := [⟨0x85, .in, .bulk⟩, ⟨0x04, .out, .bulk⟩] }

/-- The mux alone in configuration 3, the mux and the network in configuration 4. -/
def twoMuxConfigs (active : Option UInt8) : Device :=
  { configurations := [⟨3, [[muxInterface 1]]⟩, ⟨4, [[muxInterface 2]]⟩], active }

/-- **The searches can disagree**: on a device in no configuration the library takes
configuration 3 and the daemon configuration 4. -/
theorem searches_disagree :
    (collectMuxCandidates (twoMuxConfigs none)).head? = some ⟨3, 1, 0x85, 0x04⟩ ∧
      findMuxTarget (twoMuxConfigs none) = some ⟨4, 2, 0x85, 0x04⟩ := by
  have hsorted : sortConfigs (twoMuxConfigs none).configurations =
      [⟨4, [[muxInterface 2]]⟩, ⟨3, [[muxInterface 1]]⟩] := by
    simp [sortConfigs, twoMuxConfigs, List.mergeSort]
  refine ⟨by decide, ?_⟩
  rw [findMuxTarget, hsorted]
  rfl

/-- In one of the two they agree. -/
theorem searches_agree_active : (collectMuxCandidates (twoMuxConfigs (some 3))).head? =
    findMuxTarget (twoMuxConfigs (some 3)) :=
  (searches_agree_iff (twoMuxConfigs (some 3)) (by decide)).mpr (.inl ⟨_, rfl, rfl⟩)

end Netmuxd.Nusb
