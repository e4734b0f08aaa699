/-
What the polling loop makes of its scans.

Only the loop enters keys into `known`, and it enters what the scan has found and the copy of
`known` did not have; the tasks only take entries out.  So at the end of a scan everything in
`known` is something the scan has found, whatever the tasks do meanwhile.  If a scan names
nothing twice, a key that is entered is not there at that moment, and then no entry is
ever overwritten: each one is taken out again by one party, which sends one removal.
-/
import Netmuxd.Daemon.Polling
import Netmuxd.Proofs.Hotplug

namespace Netmuxd

open Lib

/-! ### The inversion -/

inductive Polling.Stepped (cfg : Config) (s : Polling) : PollingStep → Polling → Prop
  | scanned {paths : List String} (hloop : s.loop = .between) :
      Stepped cfg s (.scanned paths) { s with loop := .found paths }
  | scanFails (hloop : s.loop = .between) : Stepped cfg s .scanFails s
  | compare {paths : List String} (hloop : s.loop = .found paths) :
      Stepped cfg s .compare
        { s with
          loop := .visiting { current := paths, active := fun key => (s.known key).isSome } paths }
  | pass {scan : Rescan} {key : String} {rest : List String}
      (hloop : s.loop = .visiting scan (key :: rest)) (hactive : scan.active key = true) :
      Stepped cfg s .pass { s with loop := .visiting scan rest }
  | openFails {scan : Rescan} {key : String} {rest : List String}
      (hloop : s.loop = .visiting scan (key :: rest)) (hactive : scan.active key = false) :
      Stepped cfg s .openFails { s with loop := .visiting scan rest }
  | opened {scan : Rescan} {key : String} {rest : List String} {raw : String} {info : DeviceMeta}
      (hloop : s.loop = .visiting scan (key :: rest)) (hactive : scan.active key = false) :
      Stepped cfg s (.opened raw info)
        { s.set s.count { key, raw, info } with
          count := s.count + 1
          loop := .connecting scan rest s.count }
  | paired {scan : Rescan} {rest : List String} {j : Nat} {udid : String}
      (hloop : s.loop = .connecting scan rest j)
      (hudid : udid ∈ pairedCandidates (s.session j).raw) :
      Stepped cfg s (.paired udid)
        { s.send ((s.session j).register j udid) with loop := .recording scan rest j udid }
  | unpaired {scan : Rescan} {rest : List String} {j : Nat}
      (hloop : s.loop = .connecting scan rest j) :
      Stepped cfg s .unpaired
        { s.set j { s.session j with pairing := .asking } with
          loop := .recording scan rest j (s.session j).raw }
  | record {scan : Rescan} {rest : List String} {j : Nat} {udid : String}
      (hloop : s.loop = .recording scan rest j udid) :
      Stepped cfg s .record
        { (s.learn (s.session j).key (some udid)).set j
            { s.session j with watcher := .waiting } with
          loop := .visiting scan rest }
  | sweep {scan : Rescan} {stale : List String} (hloop : s.loop = .visiting scan [])
      (hstale : ∀ key, key ∈ stale ↔ scan.active key = true ∧ key ∉ scan.current) :
      Stepped cfg s (.sweep stale) { s with loop := .sweeping scan stale }
  | take {scan : Rescan} {key : String} {stale : List String}
      (hloop : s.loop = .sweeping scan (key :: stale)) :
      Stepped cfg s .take
        { s.learn key none with
          loop := match s.known key with
            | some udid => .removing scan stale udid
            | none => .sweeping scan stale }
  | sendRemove {scan : Rescan} {stale : List String} {udid : String}
      (hloop : s.loop = .removing scan stale udid) :
      Stepped cfg s .sendRemove
        { s.send (removeRequest udid) with loop := .sweeping scan stale }
  | rest {scan : Rescan} (hloop : s.loop = .sweeping scan []) :
      Stepped cfg s .rest { s with loop := .between }
  | exits {j : Nat} (hmux : (s.session j).mux = true) :
      Stepped cfg s (.exits j) (s.set j { s.session j with mux := false })
  | watch {j : Nat} (hwaiting : (s.session j).watcher = .waiting)
      (hmux : (s.session j).mux = false) :
      Stepped cfg s (.watch j)
        ((s.learn (s.session j).key none).set j
          { s.session j with
            watcher := match s.known (s.session j).key with
              | some udid => .removing udid
              | none => .over })
  | watchSend {j : Nat} {udid : String} (hremoving : (s.session j).watcher = .removing udid) :
      Stepped cfg s (.watchSend j)
        ((s.send (removeRequest udid)).set j { s.session j with watcher := .over })
  | pairs {j : Nat} {udid : String} (hasking : (s.session j).pairing = .asking) :
      Stepped cfg s (.pairs j udid)
        ((s.learn (s.session j).key ((s.known (s.session j).key).map fun _ => udid)).set j
          { s.session j with pairing := .registering udid })
  | pairSend {j : Nat} {udid : String} (hregistering : (s.session j).pairing = .registering udid) :
      Stepped cfg s (.pairSend j)
        ((s.send ((s.session j).register j udid)).set j
          { s.session j with pairing := .registered })
  | pairFails {j : Nat} (hasking : (s.session j).pairing = .asking) :
      Stepped cfg s (.pairFails j) (s.set j { s.session j with pairing := .failed })
  | serve {order : List UInt64} {request : ManagerRequest} {rest : List ManagerRequest}
      {m : Manager} (hqueue : s.queue = request :: rest) (horder : OrderOf s.mgr.devices order)
      (hm : s.mgr.handle cfg (Hotplug.surroundings order) request = some m) :
      Stepped cfg s (.serve order)
        { s with mgr := m, served := s.served ++ [request], queue := rest }

section
variable {cfg : Config} {s s' : Polling} {a : PollingStep}

theorem Polling.Step.stepped (h : Polling.Step cfg s a s') : s.Stepped cfg a s' := by
  obtain ⟨hnext, hvalid⟩ := h
  cases a with
  | scanned paths =>
      simp only [Polling.next] at hnext
      split at hnext
      · rename_i hloop
        cases hnext
        exact .scanned hloop
      · cases hnext
  | scanFails =>
      simp only [Polling.next] at hnext
      split at hnext
      · rename_i hloop
        cases hnext
        exact .scanFails hloop
      · cases hnext
  | compare =>
      simp only [Polling.next] at hnext
      split at hnext
      · rename_i paths hloop
        cases hnext
        exact .compare hloop
      · cases hnext
  | pass =>
      simp only [Polling.next] at hnext
      split at hnext
      · rename_i scan key rest hloop
        split at hnext
        · rename_i hactive
          cases hnext
          exact .pass hloop hactive
        · cases hnext
      · cases hnext
  | openFails =>
      simp only [Polling.next] at hnext
      split at hnext
      · rename_i scan key rest hloop
        split at hnext
        · cases hnext
        · rename_i hactive
          cases hnext
          exact .openFails hloop (Bool.not_eq_true _ ▸ hactive)
      · cases hnext
  | opened raw info =>
      simp only [Polling.next] at hnext
      split at hnext
      · rename_i scan key rest hloop
        split at hnext
        · cases hnext
        · rename_i hactive
          cases hnext
          exact .opened hloop (Bool.not_eq_true _ ▸ hactive)
      · cases hnext
  | paired udid =>
      simp only [Polling.next] at hnext
      split at hnext
      · rename_i scan rest j hloop
        split at hnext
        · rename_i hudid
          cases hnext
          exact .paired hloop hudid
        · cases hnext
      · cases hnext
  | unpaired =>
      simp only [Polling.next] at hnext
      split at hnext
      · rename_i scan rest j hloop
        cases hnext
        exact .unpaired hloop
      · cases hnext
  | record =>
      simp only [Polling.next] at hnext
      split at hnext
      · rename_i scan rest j udid hloop
        cases hnext
        exact .record hloop
      · cases hnext
  | sweep stale =>
      simp only [Polling.next] at hnext
      split at hnext
      · rename_i scan hloop
        cases hnext
        exact .sweep hloop (hvalid.2 scan hloop)
      · cases hnext
  | take =>
      simp only [Polling.next] at hnext
      split at hnext
      · rename_i scan key stale hloop
        cases hnext
        exact .take hloop
      · cases hnext
  | sendRemove =>
      simp only [Polling.next] at hnext
      split at hnext
      · rename_i scan stale udid hloop
        cases hnext
        exact .sendRemove hloop
      · cases hnext
  | rest =>
      simp only [Polling.next] at hnext
      split at hnext
      · rename_i scan hloop
        cases hnext
        exact .rest hloop
      · cases hnext
  | exits j =>
      simp only [Polling.next] at hnext
      split at hnext
      · rename_i hmux
        cases hnext
        exact .exits hmux
      · cases hnext
  | watch j =>
      simp only [Polling.next] at hnext
      split at hnext
      · rename_i hwaiting hmux
        cases hnext
        exact .watch hwaiting hmux
      · cases hnext
  | watchSend j =>
      simp only [Polling.next] at hnext
      split at hnext
      · rename_i udid hremoving
        cases hnext
        exact .watchSend hremoving
      · cases hnext
  | pairs j udid =>
      simp only [Polling.next] at hnext
      split at hnext
      · rename_i hasking
        cases hnext
        exact .pairs hasking
      · cases hnext
  | pairSend j =>
      simp only [Polling.next] at hnext
      split at hnext
      · rename_i udid hregistering
        cases hnext
        exact .pairSend hregistering
      · cases hnext
  | pairFails j =>
      simp only [Polling.next] at hnext
      split at hnext
      · rename_i hasking
        cases hnext
        exact .pairFails hasking
      · cases hnext
  | serve order =>
      simp only [Polling.next] at hnext
      split at hnext
      · cases hnext
      · rename_i request rest hqueue
        obtain ⟨m, hm, rfl⟩ := Option.map_eq_some_iff.mp hnext
        exact .serve hqueue hvalid hm

end

/-! ### What a scan leaves -/

/-- All keys of `known` are of the scan, or meet `P`. -/
def Polling.Within (s : Polling) (scan : Rescan) (P : String → Prop) : Prop :=
  ∀ key, (s.known key).isSome = true → key ∈ scan.current ∨ P key

/-- What is in `known`, by where the loop is. -/
def Polling.Covered (s : Polling) : Prop :=
  match s.loop with
  | .between | .found _ => True
  | .visiting scan rest => rest ⊆ scan.current ∧ s.Within scan fun key => scan.active key = true
  | .connecting scan rest j | .recording scan rest j _ =>
    rest ⊆ scan.current ∧ (s.session j).key ∈ scan.current ∧
      s.Within scan fun key => scan.active key = true
  | .sweeping scan stale | .removing scan stale _ => s.Within scan (· ∈ stale)

theorem Polling.Within.imp {s s' : Polling} {scan : Rescan} {P Q : String → Prop}
    (h : s.Within scan P)
    (hknown : ∀ key, (s'.known key).isSome = true → (s.known key).isSome = true)
    (hPQ : ∀ key, P key → Q key) : s'.Within scan Q := by
  intro key hkey
  exact (h key (hknown key hkey)).imp_right (hPQ key)

section
variable {cfg : Config} {s s' : Polling} {a : PollingStep}

/-- A task that leaves the loop where it is and enters no key. -/
theorem Polling.Covered.frame (h : s.Covered) (hloop : s'.loop = s.loop)
    (hkey : ∀ j, (s'.session j).key = (s.session j).key)
    (hknown : ∀ key, (s'.known key).isSome = true → (s.known key).isSome = true) :
    s'.Covered := by
  unfold Polling.Covered at h ⊢
  rw [hloop]
  cases hl : s.loop with
  | between => trivial
  | found paths => trivial
  | visiting scan rest =>
      rw [hl] at h
      exact ⟨h.1, h.2.imp hknown fun _ => id⟩
  | connecting scan rest j =>
      rw [hl] at h
      dsimp only
      rw [hkey]
      exact ⟨h.1, h.2.1, h.2.2.imp hknown fun _ => id⟩
  | recording scan rest j udid =>
      rw [hl] at h
      dsimp only
      rw [hkey]
      exact ⟨h.1, h.2.1, h.2.2.imp hknown fun _ => id⟩
  | sweeping scan stale =>
      rw [hl] at h
      exact h.imp hknown fun _ => id
  | removing scan stale udid =>
      rw [hl] at h
      exact h.imp hknown fun _ => id

theorem Polling.set_key {j : Nat} {p : MuxSession} (h : p.key = (s.session j).key) (i : Nat) :
    (Function.update s.session j p i).key = (s.session i).key := by
  by_cases hij : i = j
  · rw [hij, Function.update_self, h]
  · rw [Function.update_of_ne hij]

theorem Polling.learn_none {key key' : String}
    (h : (Function.update s.known key none key').isSome = true) :
    (s.known key').isSome = true ∧ key' ≠ key := by
  by_cases hkey : key' = key
  · rw [hkey, Function.update_self] at h
    cases h
  · rw [Function.update_of_ne hkey] at h
    exact ⟨h, hkey⟩

theorem Polling.learn_map {key key' udid : String}
    (h : (Function.update s.known key ((s.known key).map fun _ => udid) key').isSome = true) :
    (s.known key').isSome = true := by
  by_cases hkey : key' = key
  · rw [hkey, Function.update_self, Option.isSome_map] at h
    rw [hkey]
    exact h
  · rwa [Function.update_of_ne hkey] at h

theorem Polling.Stepped.covered (h : s.Stepped cfg a s') (hs : s.Covered) : s'.Covered := by
  cases h with
  | scanned hloop => trivial
  | scanFails hloop => exact hs
  | compare hloop => exact ⟨fun _ => id, fun key hkey => .inr hkey⟩
  | pass hloop hactive =>
      rw [Polling.Covered, hloop] at hs
      exact ⟨fun key hkey => hs.1 (List.mem_cons_of_mem _ hkey), hs.2⟩
  | openFails hloop hactive =>
      rw [Polling.Covered, hloop] at hs
      exact ⟨fun key hkey => hs.1 (List.mem_cons_of_mem _ hkey), hs.2⟩
  | @opened scan key rest raw info hloop hactive =>
      rw [Polling.Covered, hloop] at hs
      refine ⟨fun key hkey => hs.1 (List.mem_cons_of_mem _ hkey), ?_, hs.2⟩
      show (Function.update s.session s.count _ s.count).key ∈ _
      rw [Function.update_self]
      exact hs.1 (List.mem_cons_self ..)
  | paired hloop hudid =>
      rw [Polling.Covered, hloop] at hs
      exact hs
  | @unpaired scan rest j hloop =>
      rw [Polling.Covered, hloop] at hs
      refine ⟨hs.1, ?_, hs.2.2⟩
      show (Function.update s.session j _ j).key ∈ _
      rw [Function.update_self]
      exact hs.2.1
  | @record scan rest j udid hloop =>
      rw [Polling.Covered, hloop] at hs
      refine ⟨hs.1, fun key hkey => ?_⟩
      by_cases heq : key = (s.session j).key
      · exact .inl (heq ▸ hs.2.1)
      · refine hs.2.2 key ?_
        rwa [show ((s.learn (s.session j).key (some udid)).set j _).known key = s.known key from
          Function.update_of_ne heq ..] at hkey
  | @sweep scan stale hloop hstale =>
      rw [Polling.Covered, hloop] at hs
      intro key hkey
      by_cases hcurrent : key ∈ scan.current
      · exact .inl hcurrent
      · have hactive := (hs.2 key hkey).resolve_left hcurrent
        exact .inr ((hstale key).mpr ⟨hactive, hcurrent⟩)
  | @take scan key stale hloop =>
      rw [Polling.Covered, hloop] at hs
      have hwithin : (s.learn key none).Within scan (· ∈ stale) := by
        intro key' hkey'
        obtain ⟨hknown, hne⟩ := Polling.learn_none hkey'
        exact (hs key' hknown).imp_right fun hmem => (List.mem_cons.mp hmem).resolve_left hne
      cases hk : s.known key with
      | none => exact hwithin
      | some udid => exact hwithin
  | sendRemove hloop =>
      rw [Polling.Covered, hloop] at hs
      exact hs
  | rest hloop => trivial
  | exits hmux => exact hs.frame rfl (Polling.set_key rfl) fun _ => id
  | watch hwaiting hmux =>
      exact hs.frame rfl (Polling.set_key rfl) fun _ hkey => (Polling.learn_none hkey).1
  | watchSend hremoving => exact hs.frame rfl (Polling.set_key rfl) fun _ => id
  | pairs hasking => exact hs.frame rfl (Polling.set_key rfl) fun _ => Polling.learn_map
  | pairSend hregistering => exact hs.frame rfl (Polling.set_key rfl) fun _ => id
  | pairFails hasking => exact hs.frame rfl (Polling.set_key rfl) fun _ => id
  | serve hqueue horder hm => exact hs.frame rfl (fun _ => rfl) fun _ => id

end

/-! ### Keys that are entered -/

/-- The session that has been opened and has yet to be entered. -/
def PollingAt.entering : PollingAt → Option Nat
  | .connecting _ _ j | .recording _ _ j _ => some j
  | _ => none

/-- How sessions are numbered, and where keys come from. -/
structure Polling.Numbered (s : Polling) : Prop where
  entering : ∀ j, s.loop.entering = some j → j + 1 = s.count ∧ (s.session j).watcher = .unborn
  later : ∀ j, s.count ≤ j →
    (s.session j).mux = false ∧ (s.session j).pairing = .idle ∧ (s.session j).watcher = .unborn
  owned : ∀ key, (s.known key).isSome = true → ∃ j, j < s.count ∧ (s.session j).key = key

/-- A scan that names nothing twice. -/
def NamesOnce (_ : Polling) : PollingStep → Polling → Prop
  | .scanned paths, _ => paths.Nodup
  | _, _ => True

/-- Of these keys only those are in `known` that were there before the scan. -/
def Polling.Untouched (s : Polling) (scan : Rescan) (rest : List String) : Prop :=
  ∀ key ∈ rest, (s.known key).isSome = true → scan.active key = true

/-- What is yet to be gone through, by where the loop is. -/
def Polling.Unentered (s : Polling) : Prop :=
  match s.loop with
  | .found paths => paths.Nodup
  | .visiting scan rest => rest.Nodup ∧ s.Untouched scan rest
  | .connecting scan rest j | .recording scan rest j _ =>
    (s.session j).key ∉ rest ∧ rest.Nodup ∧ s.known (s.session j).key = none ∧
      s.Untouched scan rest
  | _ => True

theorem Polling.numbered_start (cfg : Config) : (Polling.start cfg).Numbered := by
  constructor <;> simp [Polling.start, PollingAt.entering]

section
variable {cfg : Config} {s s' : Polling} {a : PollingStep}

/-- A step that leaves the sessions alone, enters no key and has the loop enter none but the
session that it was entering. -/
theorem Polling.Numbered.frame (hs : s.Numbered) (hsession : s'.session = s.session)
    (hcount : s'.count = s.count)
    (hentering : ∀ j, s'.loop.entering = some j → s.loop.entering = some j)
    (hknown : ∀ key, (s'.known key).isSome = true → (s.known key).isSome = true) :
    s'.Numbered := by
  constructor
  · rw [hsession, hcount]
    intro j hj
    exact hs.entering j (hentering j hj)
  · rw [hsession, hcount]
    exact hs.later
  · rw [hsession, hcount]
    intro key hkey
    exact hs.owned key (hknown key hkey)

/-- What has run has been numbered. -/
theorem Polling.Numbered.lt_count (hs : s.Numbered) {j : Nat}
    (h : ¬ ((s.session j).mux = false ∧ (s.session j).pairing = .idle ∧
      (s.session j).watcher = .unborn)) : j < s.count := by
  by_contra hj
  exact h (hs.later j (Nat.le_of_not_lt hj))

/-- A step that a session takes, which enters no key. -/
theorem Polling.Numbered.set (hs : s.Numbered) {j : Nat} {p : MuxSession} (hj : j < s.count)
    (hsession : s'.session = Function.update s.session j p) (hcount : s'.count = s.count)
    (hkey : p.key = (s.session j).key)
    (hentering : ∀ i, s'.loop.entering = some i → s.loop.entering = some i)
    (hwatcher : p.watcher = (s.session j).watcher ∨ (s.session j).watcher ≠ .unborn)
    (hknown : ∀ key, (s'.known key).isSome = true → (s.known key).isSome = true) :
    s'.Numbered := by
  constructor
  · rw [hsession, hcount]
    intro i hi
    obtain ⟨hlast, hunborn⟩ := hs.entering i (hentering i hi)
    refine ⟨hlast, ?_⟩
    by_cases hij : i = j
    · subst hij
      rw [Function.update_self]
      rcases hwatcher with hsame | hborn
      · rw [hsame, hunborn]
      · exact absurd hunborn hborn
    · rw [Function.update_of_ne hij]
      exact hunborn
  · rw [hsession, hcount]
    intro i hi
    have hij : i ≠ j := by omega
    rw [Function.update_of_ne hij]
    exact hs.later i hi
  · rw [hsession, hcount]
    intro key hsome
    obtain ⟨i, hi, howns⟩ := hs.owned key (hknown key hsome)
    refine ⟨i, hi, ?_⟩
    rw [Polling.set_key hkey]
    exact howns

theorem Polling.Stepped.numbered (h : s.Stepped cfg a s') (hs : s.Numbered) : s'.Numbered := by
  cases h with
  | scanned hloop => exact hs.frame rfl rfl (by simp [PollingAt.entering]) fun _ => id
  | scanFails hloop => exact hs
  | compare hloop => exact hs.frame rfl rfl (by simp [PollingAt.entering]) fun _ => id
  | pass hloop hactive => exact hs.frame rfl rfl (by simp [PollingAt.entering]) fun _ => id
  | openFails hloop hactive => exact hs.frame rfl rfl (by simp [PollingAt.entering]) fun _ => id
  | @opened scan key rest raw info hloop hactive =>
      have hold : ∀ i, i < s.count →
          Function.update s.session s.count { key, raw, info } i = s.session i := by
        intro i hi
        exact Function.update_of_ne (Nat.ne_of_lt hi) _ _
      constructor
      · intro j hj
        obtain rfl := Option.some.inj hj
        simp [Polling.set]
      · intro j hj
        have hne : j ≠ s.count := Nat.ne_of_gt hj
        have hlater := hs.later j (Nat.le_of_succ_le hj)
        simpa [Polling.set, Function.update_of_ne hne] using hlater
      · intro key' hsome
        obtain ⟨i, hi, howns⟩ := hs.owned key' hsome
        refine ⟨i, Nat.lt_succ_of_lt hi, ?_⟩
        rw [← howns]
        exact congrArg MuxSession.key (hold i hi)
  | paired hloop hudid =>
      refine hs.frame rfl rfl ?_ fun _ => id
      rw [hloop]
      intro j hj
      exact hj
  | @unpaired scan rest j hloop =>
      have hlast := (hs.entering j (by rw [hloop]; rfl)).1
      refine hs.set (j := j) (by omega) rfl rfl rfl ?_ (Or.inl rfl) fun _ => id
      rw [hloop]
      intro i hi
      exact hi
  | @record scan rest j udid hloop =>
      have hlast := (hs.entering j (by rw [hloop]; rfl)).1
      constructor
      · simp [PollingAt.entering]
      · intro i hi
        have hne : i ≠ j := by
          rintro rfl
          exact absurd hlast (Nat.ne_of_gt (Nat.lt_succ_of_le hi))
        have hlater := hs.later i hi
        simpa [Polling.set, Polling.learn, Function.update_of_ne hne] using hlater
      · intro key hsome
        have howner : ∀ i, (Function.update s.session j
            { s.session j with watcher := .waiting } i).key = (s.session i).key :=
          Polling.set_key rfl
        by_cases hkey : key = (s.session j).key
        · rw [hkey]
          exact ⟨j, hlast ▸ Nat.lt_succ_self j, howner j⟩
        · have hold : (s.known key).isSome = true := by
            simpa [Polling.set, Polling.learn, Function.update_of_ne hkey] using hsome
          obtain ⟨i, hi, howns⟩ := hs.owned key hold
          exact ⟨i, hi, (howner i).trans howns⟩
  | sweep hloop hstale => exact hs.frame rfl rfl (by simp [PollingAt.entering]) fun _ => id
  | @take scan key stale hloop =>
      refine hs.frame rfl rfl ?_ fun _ hsome => (Polling.learn_none hsome).1
      cases hk : s.known key with
      | none => simp [PollingAt.entering]
      | some udid => simp [PollingAt.entering]
  | sendRemove hloop => exact hs.frame rfl rfl (by simp [PollingAt.entering]) fun _ => id
  | rest hloop => exact hs.frame rfl rfl (by simp [PollingAt.entering]) fun _ => id
  | @exits j hmux =>
      exact hs.set (j := j) (hs.lt_count (by simp [hmux])) rfl rfl rfl (fun _ => id) (Or.inl rfl)
        fun _ => id
  | @watch j hwaiting hmux =>
      exact hs.set (j := j) (hs.lt_count (by simp [hwaiting])) rfl rfl rfl (fun _ => id)
        (Or.inr (by simp [hwaiting])) fun _ hsome => (Polling.learn_none hsome).1
  | @watchSend j udid hremoving =>
      exact hs.set (j := j) (hs.lt_count (by simp [hremoving])) rfl rfl rfl (fun _ => id)
        (Or.inr (by simp [hremoving])) fun _ => id
  | @pairs j udid hasking =>
      exact hs.set (j := j) (hs.lt_count (by simp [hasking])) rfl rfl rfl (fun _ => id) (Or.inl rfl)
        fun _ => Polling.learn_map
  | @pairSend j udid hregistering =>
      exact hs.set (j := j) (hs.lt_count (by simp [hregistering])) rfl rfl rfl (fun _ => id)
        (Or.inl rfl) fun _ => id
  | @pairFails j hasking =>
      exact hs.set (j := j) (hs.lt_count (by simp [hasking])) rfl rfl rfl (fun _ => id) (Or.inl rfl)
        fun _ => id
  | serve hqueue horder hm => exact hs.frame rfl rfl (fun _ => id) fun _ => id

theorem Polling.Untouched.imp {scan : Rescan} {rest : List String} (h : s.Untouched scan rest)
    (hknown : ∀ key, (s'.known key).isSome = true → (s.known key).isSome = true) :
    s'.Untouched scan rest :=
  fun key hkey hsome => h key hkey (hknown key hsome)

theorem Polling.Unentered.frame (h : s.Unentered) (hloop : s'.loop = s.loop)
    (hkey : ∀ j, (s'.session j).key = (s.session j).key)
    (hknown : ∀ key, (s'.known key).isSome = true → (s.known key).isSome = true) :
    s'.Unentered := by
  have hnone : ∀ key, s.known key = none → s'.known key = none := by
    intro key hs
    rw [← Option.not_isSome_iff_eq_none] at hs ⊢
    exact fun hs' => hs (hknown key hs')
  unfold Polling.Unentered at h ⊢
  rw [hloop]
  cases hl : s.loop with
  | found paths =>
      rw [hl] at h
      exact h
  | visiting scan rest =>
      rw [hl] at h
      exact ⟨h.1, h.2.imp hknown⟩
  | connecting scan rest j =>
      rw [hl] at h
      dsimp only
      rw [hkey]
      exact ⟨h.1, h.2.1, hnone _ h.2.2.1, h.2.2.2.imp hknown⟩
  | recording scan rest j udid =>
      rw [hl] at h
      dsimp only
      rw [hkey]
      exact ⟨h.1, h.2.1, hnone _ h.2.2.1, h.2.2.2.imp hknown⟩
  | between => trivial
  | sweeping scan stale => trivial
  | removing scan stale udid => trivial

theorem Polling.Stepped.unentered (h : s.Stepped cfg a s') (hs : s.Unentered)
    (honce : NamesOnce s a s') : s'.Unentered := by
  cases h with
  | scanned hloop => exact honce
  | scanFails hloop => exact hs
  | compare hloop =>
      rw [Polling.Unentered, hloop] at hs
      exact ⟨hs, fun key _ hkey => hkey⟩
  | pass hloop hactive =>
      rw [Polling.Unentered, hloop] at hs
      exact ⟨hs.1.of_cons, fun key hkey => hs.2 key (List.mem_cons_of_mem _ hkey)⟩
  | openFails hloop hactive =>
      rw [Polling.Unentered, hloop] at hs
      exact ⟨hs.1.of_cons, fun key hkey => hs.2 key (List.mem_cons_of_mem _ hkey)⟩
  | @opened scan key rest raw info hloop hactive =>
      rw [Polling.Unentered, hloop] at hs
      obtain ⟨honce', huntouched⟩ := hs
      have hnone : s.known key = none := by
        rw [← Option.not_isSome_iff_eq_none]
        intro hsome
        rw [huntouched key (List.mem_cons_self ..) hsome] at hactive
        cases hactive
      refine ⟨?_, honce'.of_cons, ?_, fun key hkey => huntouched key (List.mem_cons_of_mem _ hkey)⟩
      · show (Function.update s.session s.count _ s.count).key ∉ rest
        rw [Function.update_self]
        exact (List.nodup_cons.mp honce').1
      · show s.known (Function.update s.session s.count _ s.count).key = none
        rw [Function.update_self]
        exact hnone
  | paired hloop hudid =>
      rw [Polling.Unentered, hloop] at hs
      exact hs
  | @unpaired scan rest j hloop =>
      rw [Polling.Unentered, hloop] at hs
      refine ⟨?_, hs.2.1, ?_, hs.2.2.2⟩
      · show (Function.update s.session j _ j).key ∉ rest
        rw [Function.update_self]
        exact hs.1
      · show s.known (Function.update s.session j _ j).key = none
        rw [Function.update_self]
        exact hs.2.2.1
  | @record scan rest j udid hloop =>
      rw [Polling.Unentered, hloop] at hs
      refine ⟨hs.2.1, fun key hkey hsome => ?_⟩
      have hne : key ≠ (s.session j).key := fun heq => hs.1 (heq ▸ hkey)
      refine hs.2.2.2 key hkey ?_
      rwa [show ((s.learn (s.session j).key (some udid)).set j _).known key = s.known key from
        Function.update_of_ne hne ..] at hsome
  | sweep hloop hstale => trivial
  | @take scan key stale hloop =>
      cases hk : s.known key with
      | none => trivial
      | some udid => trivial
  | sendRemove hloop => trivial
  | rest hloop => trivial
  | exits hmux => exact hs.frame rfl (Polling.set_key rfl) fun _ => id
  | watch hwaiting hmux =>
      exact hs.frame rfl (Polling.set_key rfl) fun _ hkey => (Polling.learn_none hkey).1
  | watchSend hremoving => exact hs.frame rfl (Polling.set_key rfl) fun _ => id
  | pairs hasking => exact hs.frame rfl (Polling.set_key rfl) fun _ => Polling.learn_map
  | pairSend hregistering => exact hs.frame rfl (Polling.set_key rfl) fun _ => id
  | pairFails hasking => exact hs.frame rfl (Polling.set_key rfl) fun _ => id
  | serve hqueue horder hm => exact hs.frame rfl (fun _ => rfl) fun _ => id

end

/-- At the end of a scan everything in `known` is something the scan has found. -/
def KnowsWhatItSaw (s : Polling) (_ : PollingStep) (_ : Polling) : Prop :=
  ∀ scan, s.loop = .sweeping scan [] → ∀ key, (s.known key).isSome = true → key ∈ scan.current

/-- A key that is entered into `known` is not there. -/
def EntersNewKeys (s : Polling) : PollingStep → Polling → Prop
  | .record, _ => ∀ j, s.loop.entering = some j → s.known (s.session j).key = none
  | _, _ => True

section
variable {cfg : Config} {s : Polling} {tr : List (Polling × PollingStep × Polling)}

theorem Polling.Covered.knows {a : PollingStep} {s' : Polling} (h : s.Covered) :
    KnowsWhatItSaw s a s' := by
  intro scan hloop key hkey
  rw [Polling.Covered, hloop] at h
  exact (h key hkey).resolve_right List.not_mem_nil

theorem Polling.Unentered.enters {a : PollingStep} {s' : Polling} (h : s.Unentered) :
    EntersNewKeys s a s' := by
  cases a with
  | record =>
      intro j hj
      rw [Polling.Unentered] at h
      cases hloop : s.loop with
      | connecting scan rest i =>
          rw [hloop] at h hj
          cases hj
          exact h.2.2.1
      | recording scan rest i udid =>
          rw [hloop] at h hj
          cases hj
          exact h.2.2.1
      | _ =>
          rw [hloop] at hj
          cases hj
  | _ => trivial

/-- **What scans leave.**  Whatever the tasks do meanwhile, a scan ends with nothing in
`known` that it has not found; and if scans name nothing twice, no entry is overwritten. -/
theorem scans_keep_known (hrun : Run (Polling.Step cfg) (Polling.start cfg) tr s) :
    EveryStep KnowsWhatItSaw tr ∧ (EveryStep NamesOnce tr → EveryStep EntersNewKeys tr) := by
  have hcovered : (Polling.start cfg).Covered := trivial
  have hunentered : (Polling.start cfg).Unentered := trivial
  constructor
  · refine Run.everyStep_of (C := fun _ _ _ => True) hcovered ?_ ?_ hrun fun _ _ => trivial
    · intro s a s' hs hstep _
      exact hstep.stepped.covered hs
    · intro s a s' hs _ _
      exact hs.knows
  · refine Run.everyStep_of hunentered ?_ ?_ hrun
    · intro s a s' hs hstep honce
      exact hstep.stepped.unentered hs honce
    · intro s a s' hs _ _
      exact hs.enters

end

/-! ### Entries and removals -/

def Watcher.isRemoving : Watcher → Bool
  | .removing _ => true
  | _ => false

def PollingAt.isRemoving : PollingAt → Bool
  | .removing .. => true
  | _ => false

def ManagerRequest.isRemoval (request : ManagerRequest) : Bool :=
  match request.requestType with
  | .removeDevice .. => true
  | _ => false

/-- The removals that have been sent, and those whose UDID has been taken out of `known` to
be sent. -/
def Polling.removals (s : Polling) : Nat :=
  (s.served ++ s.queue).countP ManagerRequest.isRemoval + s.loop.isRemoving.toNat +
    (List.range s.count).countP fun j => (s.session j).watcher.isRemoving

/-- How many keys have been entered. -/
def entered (tr : List (Polling × PollingStep × Polling)) : Nat :=
  tr.countP fun t =>
    match t.2.1 with
    | .record => true
    | _ => false

theorem countP_range_update {f : Nat → Bool} {j n : Nat} (b : Bool) (hj : j < n) :
    (List.range n).countP (Function.update f j b) + (f j).toNat =
      (List.range n).countP f + b.toNat := by
  induction n with
  | zero => omega
  | succ n ih =>
      rw [List.range_succ, List.countP_append, List.countP_append, List.countP_singleton,
        List.countP_singleton]
      by_cases heq : j = n
      · subst heq
        have hrest : (List.range j).countP (Function.update f j b) = (List.range j).countP f := by
          refine List.countP_congr fun i hi => ?_
          rw [Function.update_of_ne (Nat.ne_of_lt (List.mem_range.mp hi))]
        rw [hrest, Function.update_self]
        cases f j <;> cases b <;> simp
      · have hlt := ih (by omega)
        rw [Function.update_of_ne (Ne.symm heq)]
        omega

/-- The keys of `known`, in some order. -/
structure Polling.Enumerates (s : Polling) (keys : List String) : Prop where
  nodup : keys.Nodup
  mem_iff : ∀ key, key ∈ keys ↔ (s.known key).isSome = true

section
variable {cfg : Config} {s s' : Polling} {a : PollingStep} {keys : List String}

theorem Polling.Enumerates.congr (h : s.Enumerates keys)
    (hknown : ∀ key, (s'.known key).isSome = (s.known key).isSome) : s'.Enumerates keys :=
  ⟨h.nodup, fun key => by rw [h.mem_iff, hknown]⟩

/-- A key that is entered. -/
theorem Polling.Enumerates.cons (h : s.Enumerates keys) {key udid : String}
    (hnone : s.known key = none) (hknown : s'.known = Function.update s.known key (some udid)) :
    s'.Enumerates (key :: keys) := by
  have hnotMem : key ∉ keys := by
    rw [h.mem_iff, hnone]
    exact Bool.false_ne_true
  refine ⟨List.nodup_cons.mpr ⟨hnotMem, h.nodup⟩, fun key' => ?_⟩
  rw [hknown, List.mem_cons, h.mem_iff]
  by_cases hkey : key' = key
  · simp [hkey]
  · simp [hkey]

/-- A key that is taken out. -/
theorem Polling.Enumerates.erase (h : s.Enumerates keys) {key : String}
    (hknown : s'.known = Function.update s.known key none) :
    s'.Enumerates (keys.erase key) := by
  refine ⟨h.nodup.erase key, fun key' => ?_⟩
  rw [hknown, h.nodup.mem_erase_iff, h.mem_iff]
  by_cases hkey : key' = key
  · simp [hkey]
  · simp [hkey]

theorem Polling.Enumerates.length_erase (h : s.Enumerates keys) {key udid : String}
    (hsome : s.known key = some udid) : (keys.erase key).length + 1 = keys.length := by
  have hmem : key ∈ keys := (h.mem_iff key).mpr (by rw [hsome]; rfl)
  have hpos := List.length_pos_of_mem hmem
  rw [List.length_erase_of_mem hmem]
  omega

theorem Polling.countP_set {j : Nat} {p : MuxSession}
    (h : p.watcher.isRemoving = (s.session j).watcher.isRemoving) :
    ((List.range s.count).countP fun i => (Function.update s.session j p i).watcher.isRemoving) =
      (List.range s.count).countP fun i => (s.session i).watcher.isRemoving := by
  refine List.countP_congr fun i _ => ?_
  by_cases hij : i = j
  · rw [hij, Function.update_self, h]
  · rw [Function.update_of_ne hij]

theorem Polling.countP_set_lt {j : Nat} {p : MuxSession} (hj : j < s.count) :
    ((List.range s.count).countP fun i => (Function.update s.session j p i).watcher.isRemoving) +
        (s.session j).watcher.isRemoving.toNat =
      ((List.range s.count).countP fun i => (s.session i).watcher.isRemoving) +
        p.watcher.isRemoving.toNat := by
  rw [← countP_range_update (f := fun i => (s.session i).watcher.isRemoving) _ hj]
  congr 1
  refine List.countP_congr fun i _ => ?_
  by_cases hij : i = j
  · rw [hij, Function.update_self, Function.update_self]
  · rw [Function.update_of_ne hij, Function.update_of_ne hij]

/-- What a step does to the balance of entries and removals. -/
theorem Polling.Stepped.balance (h : s.Stepped cfg a s') (hs : s.Numbered)
    (hnew : EntersNewKeys s a s') (hkeys : s.Enumerates keys) :
    ∃ keys', s'.Enumerates keys' ∧
      entered [(s, a, s')] + s.removals + keys.length = s'.removals + keys'.length := by
  have hlt : ∀ j, (s.session j).watcher ≠ .unborn → j < s.count := by
    intro j hj
    by_contra hge
    exact hj (hs.later j (Nat.not_lt.mp hge)).2.2
  cases h with
  | scanned hloop =>
      refine ⟨keys, hkeys.congr fun _ => rfl, ?_⟩
      simp [entered, Polling.removals, hloop, PollingAt.isRemoving]
  | scanFails hloop => exact ⟨keys, hkeys, by simp [entered]⟩
  | compare hloop =>
      refine ⟨keys, hkeys.congr fun _ => rfl, ?_⟩
      simp [entered, Polling.removals, hloop, PollingAt.isRemoving]
  | pass hloop hactive =>
      refine ⟨keys, hkeys.congr fun _ => rfl, ?_⟩
      simp [entered, Polling.removals, hloop, PollingAt.isRemoving]
  | openFails hloop hactive =>
      refine ⟨keys, hkeys.congr fun _ => rfl, ?_⟩
      simp [entered, Polling.removals, hloop, PollingAt.isRemoving]
  | @opened scan key rest raw info hloop hactive =>
      refine ⟨keys, hkeys.congr fun _ => rfl, ?_⟩
      have hrest : ((List.range s.count).countP fun i =>
          (Function.update s.session s.count { key, raw, info } i).watcher.isRemoving) =
          (List.range s.count).countP fun i => (s.session i).watcher.isRemoving := by
        refine List.countP_congr fun i hi => ?_
        rw [Function.update_of_ne (Nat.ne_of_lt (List.mem_range.mp hi))]
      have hunborn : Watcher.unborn.isRemoving = false := rfl
      simp [entered, Polling.removals, hloop, PollingAt.isRemoving, Polling.set, List.range_succ,
        List.countP_append, hrest, hunborn]
  | @paired scan rest j udid hloop hudid =>
      refine ⟨keys, hkeys.congr fun _ => rfl, ?_⟩
      simp [entered, Polling.removals, hloop, PollingAt.isRemoving, Polling.send,
        ManagerRequest.isRemoval, MuxSession.register, List.countP_append]
  | @unpaired scan rest j hloop =>
      refine ⟨keys, hkeys.congr fun _ => rfl, ?_⟩
      have hsame := s.countP_set (j := j) (p := { s.session j with pairing := .asking }) rfl
      simp [entered, Polling.removals, hloop, PollingAt.isRemoving, Polling.set, hsame]
  | @record scan rest j udid hloop =>
      have hnone : s.known (s.session j).key = none := hnew j (by rw [hloop]; rfl)
      refine ⟨(s.session j).key :: keys, hkeys.cons hnone rfl, ?_⟩
      have hunborn := (hs.entering j (by rw [hloop]; rfl)).2
      have hsame := s.countP_set (j := j) (p := { s.session j with watcher := .waiting })
        (by rw [hunborn]; rfl)
      simp [entered, Polling.removals, hloop, PollingAt.isRemoving, Polling.set, Polling.learn,
        hsame]
      omega
  | sweep hloop hstale =>
      refine ⟨keys, hkeys.congr fun _ => rfl, ?_⟩
      simp [entered, Polling.removals, hloop, PollingAt.isRemoving]
  | @take scan key stale hloop =>
      cases hk : s.known key with
      | none =>
          refine ⟨keys, hkeys.congr fun key' => ?_, ?_⟩
          · by_cases hkey : key' = key
            · simp [Polling.learn, hkey, hk]
            · simp [Polling.learn, hkey]
          · simp [entered, Polling.removals, Polling.learn, hloop, PollingAt.isRemoving]
      | some udid =>
          refine ⟨keys.erase key, hkeys.erase rfl, ?_⟩
          have hlength := hkeys.length_erase hk
          simp [entered, Polling.removals, Polling.learn, hloop, PollingAt.isRemoving]
          omega
  | @sendRemove scan stale udid hloop =>
      refine ⟨keys, hkeys.congr fun _ => rfl, ?_⟩
      simp [entered, Polling.removals, hloop, PollingAt.isRemoving, Polling.send,
        ManagerRequest.isRemoval, removeRequest, List.countP_append]
      omega
  | rest hloop =>
      refine ⟨keys, hkeys.congr fun _ => rfl, ?_⟩
      simp [entered, Polling.removals, hloop, PollingAt.isRemoving]
  | @exits j hmux =>
      refine ⟨keys, hkeys.congr fun _ => rfl, ?_⟩
      have hsame := s.countP_set (j := j) (p := { s.session j with mux := false }) rfl
      simp [entered, Polling.removals, Polling.set, hsame]
  | @watch j hwaiting hmux =>
      have hj := hlt j (by rw [hwaiting]; nofun)
      cases hk : s.known (s.session j).key with
      | none =>
          refine ⟨keys, hkeys.congr fun key' => ?_, ?_⟩
          · by_cases hkey : key' = (s.session j).key
            · simp [Polling.learn, Polling.set, hkey, hk]
            · simp [Polling.learn, Polling.set, hkey]
          · have hcount := s.countP_set_lt (p := { s.session j with watcher := .over }) hj
            simp [Watcher.isRemoving, hwaiting] at hcount
            simp [entered, Polling.removals, Polling.learn, Polling.set, hcount,
              Watcher.isRemoving]
      | some udid =>
          refine ⟨keys.erase (s.session j).key, hkeys.erase rfl, ?_⟩
          have hlength := hkeys.length_erase hk
          have hcount := s.countP_set_lt (p := { s.session j with watcher := .removing udid }) hj
          simp [Watcher.isRemoving, hwaiting] at hcount
          simp [entered, Polling.removals, Polling.learn, Polling.set, Watcher.isRemoving, hcount]
          omega
  | @watchSend j udid hremoving =>
      have hj := hlt j (by rw [hremoving]; nofun)
      refine ⟨keys, hkeys.congr fun _ => rfl, ?_⟩
      have hcount := s.countP_set_lt (p := { s.session j with watcher := .over }) hj
      simp [Watcher.isRemoving, hremoving] at hcount
      simp [entered, Polling.removals, Polling.send, Polling.set, Watcher.isRemoving,
        ManagerRequest.isRemoval, removeRequest, List.countP_append]
      omega
  | @pairs j udid hasking =>
      refine ⟨keys, hkeys.congr fun key' => ?_, ?_⟩
      · by_cases hkey : key' = (s.session j).key
        · simp [Polling.learn, Polling.set, hkey]
        · simp [Polling.learn, Polling.set, hkey]
      · have hsame := s.countP_set (j := j)
          (p := { s.session j with pairing := .registering udid }) rfl
        simp [entered, Polling.removals, Polling.learn, Polling.set, hsame]
  | @pairSend j udid hregistering =>
      refine ⟨keys, hkeys.congr fun _ => rfl, ?_⟩
      have hsame := s.countP_set (j := j) (p := { s.session j with pairing := .registered }) rfl
      simp [entered, Polling.removals, Polling.send, Polling.set, hsame,
        ManagerRequest.isRemoval, MuxSession.register, List.countP_append]
  | @pairFails j hasking =>
      refine ⟨keys, hkeys.congr fun _ => rfl, ?_⟩
      have hsame := s.countP_set (j := j) (p := { s.session j with pairing := .failed }) rfl
      simp [entered, Polling.removals, Polling.set, hsame]
  | serve hqueue horder hm =>
      refine ⟨keys, hkeys.congr fun _ => rfl, ?_⟩
      simp [entered, Polling.removals, hqueue]

/-- **Entries and removals.**  Where scans name nothing twice, every key that was entered is
still in `known`, or has been taken out by exactly one party, which sends one removal. -/
theorem entries_are_removed_once {tr : List (Polling × PollingStep × Polling)}
    (hrun : Run (Polling.Step cfg) (Polling.start cfg) tr s) (honce : EveryStep NamesOnce tr) :
    ∃ keys, s.Enumerates keys ∧ entered tr = s.removals + keys.length := by
  induction hrun with
  | nil => exact ⟨[], ⟨List.nodup_nil, by simp [Polling.start]⟩, rfl⟩
  | @snoc tr s s' a hrun hstep ih =>
      obtain ⟨honce, -⟩ := everyStep_snoc.mp honce
      obtain ⟨keys, hkeys, hcount⟩ := ih honce
      have hstart : (Polling.start cfg).Unentered := trivial
      have hunentered := hrun.invariant_of hstart
        (fun _ _ _ hs hstep honce => hstep.stepped.unentered hs honce) honce
      have hnumbered := hrun.invariant (Polling.numbered_start cfg)
        fun _ _ _ hs hstep => hstep.stepped.numbered hs
      obtain ⟨keys', hkeys', hbalance⟩ :=
        hstep.stepped.balance hnumbered hunentered.enters hkeys
      refine ⟨keys', hkeys', ?_⟩
      rw [entered, List.countP_append, ← entered, ← entered]
      omega

end

/-! ### A device that comes and goes -/

/-- A device that has a pairing record is found by one scan and not by the next. -/
def comesAndGoes : List PollingStep :=
  [.scanned ["k"], .compare, .opened "u" ⟨1, 2, 3⟩, .paired "u", .record, .sweep [], .rest,
    .scanned [], .compare, .sweep ["k"], .take, .sendRemove]

theorem comesAndGoes_run :
    ∃ s tr, Run (Polling.Step ⟨false, false, false⟩) (Polling.start ⟨false, false, false⟩) tr s ∧
      EveryStep NamesOnce tr ∧ (tr.map fun t => t.2.1) = comesAndGoes ∧ s.removals = 1 := by
  have hkeys : ["k"].Nodup := by simp
  have hplays : Plays (Polling.next ⟨false, false, false⟩)
      (fun s a s' => a.Valid s ∧ NamesOnce s a s') (Polling.start ⟨false, false, false⟩)
      comesAndGoes _ :=
    ⟨_, rfl, ⟨trivial, hkeys⟩, _, rfl, ⟨trivial, trivial⟩, _, rfl, ⟨trivial, trivial⟩,
      _, rfl, ⟨trivial, trivial⟩, _, rfl, ⟨trivial, trivial⟩,
      _, rfl, ⟨⟨List.nodup_nil, fun scan hloop key => by
        cases hloop
        simp [Polling.start]⟩, trivial⟩,
      _, rfl, ⟨trivial, trivial⟩, _, rfl, ⟨trivial, List.nodup_nil⟩,
      _, rfl, ⟨trivial, trivial⟩,
      _, rfl, ⟨⟨hkeys, fun scan hloop key => by
        cases hloop
        by_cases hkey : key = "k"
        · simp [hkey, Polling.start, Polling.set, Polling.learn, Polling.send]
        · simp [hkey, Polling.start, Polling.set, Polling.learn, Polling.send]⟩, trivial⟩,
      _, rfl, ⟨trivial, trivial⟩, _, rfl, ⟨trivial, trivial⟩, rfl⟩
  obtain ⟨tr, hrun, hfair, hactions⟩ := Run.of_plays
    (fun s a s' hnext hC => show Polling.Step _ s a s' from ⟨hnext, hC.1⟩) hplays
  exact ⟨_, tr, hrun, hfair.imp fun _ _ _ h => h.2, hactions, rfl⟩

theorem comesAndGoes_known :
    ∃ s tr, Run (Polling.Step ⟨false, false, false⟩) (Polling.start ⟨false, false, false⟩) tr s ∧
      EveryStep KnowsWhatItSaw tr ∧ EveryStep EntersNewKeys tr := by
  obtain ⟨s, tr, hrun, honce, -⟩ := comesAndGoes_run
  exact ⟨s, tr, hrun, (scans_keep_known hrun).1, (scans_keep_known hrun).2 honce⟩

theorem comesAndGoes_removed :
    ∃ s tr, Run (Polling.Step ⟨false, false, false⟩) (Polling.start ⟨false, false, false⟩) tr s ∧
      entered tr = 1 ∧ s.removals = 1 ∧ s.Enumerates [] := by
  obtain ⟨s, tr, hrun, honce, hactions, hremovals⟩ := comesAndGoes_run
  have hentered : entered tr = 1 := by
    have hmap : entered tr = ((tr.map fun t => t.2.1).countP fun a =>
        match a with
        | .record => true
        | _ => false) := by
      rw [List.countP_map]
      rfl
    rw [hmap, hactions]
    rfl
  obtain ⟨keys, hkeys, hcount⟩ := entries_are_removed_once hrun honce
  have hnil : keys = [] := List.length_eq_zero_iff.mp (by omega)
  exact ⟨s, tr, hrun, hentered, hremovals, hnil ▸ hkeys⟩

end Netmuxd
