/-
How the daemon takes a device in.

Everything is done for the one target that the search has found.  The device is put into its
configuration unless it is there, the interface is claimed as long as nusb says that it is busy,
a second apart and six times at most, and only with both endpoints open does a mux task start.
-/
import Netmuxd.Daemon.NusbBackend
import Netmuxd.Proofs.MuxSearch
import Netmuxd.Lib.Served

namespace Netmuxd.Nusb

open Lib Talk

/-- What a run for a target has done so far and been told. -/
structure Standing where
  /-- The configuration the device is in, as far as that is known. -/
  config : Option UInt8 := none
  claims : Nat := 0
  /-- The last claim was answered so. -/
  busy : Bool := false
  claimed : Bool := false
  /-- A claim may be made without another pause. -/
  rested : Bool := true

def Standing.next (s : Standing) : Exchange OpenCall.Answer → Standing
  | ⟨.activeConfiguration, config⟩ => { s with config }
  | ⟨.setConfiguration v, .ok ()⟩ => { s with config := some v }
  | ⟨.setConfiguration _, .error _⟩ => { s with config := none }
  | ⟨.detachAndClaimInterface _, .ok ()⟩ =>
    { s with claims := s.claims + 1, busy := false, claimed := true, rested := false }
  | ⟨.detachAndClaimInterface _, .error e⟩ =>
    { s with claims := s.claims + 1, busy := e.busy, claimed := false, rested := false }
  | ⟨.sleep, _⟩ => { s with busy := false, rested := true }
  | _ => s

def standing (t : List (Exchange OpenCall.Answer)) : Standing :=
  t.foldl Standing.next {}

/-- Calls that suit what is known. -/
def Fits (target : MuxTarget) (s : Standing) (e : Exchange OpenCall.Answer) : Prop :=
  match e.1 with
  | .activeConfiguration => s.claims = 0
  | .setConfiguration v =>
      v = target.configValue ∧ s.config ≠ some target.configValue ∧ s.claims = 0
  | .detachAndClaimInterface n => n = target.interfaceNumber ∧
      s.config = some target.configValue ∧ s.claims ≤ claimInterfaceRetries ∧
      s.claimed = false ∧ s.rested = true
  | .sleep => s.busy = true
  | .endpointIn addr => s.claimed = true ∧ addr = target.epIn
  | .endpointOut addr => s.claimed = true ∧ addr = target.epOut
  | .openDevice | .setMode _ | .onAttempt _ _ | .reset => False

section
variable {target : MuxTarget} {info : UsbInfo} {s : Standing}

theorem configure_safe (hclaims : s.claims = 0) (hclaimed : s.claimed = false)
    (hrested : s.rested = true) :
    (configure target).Safe Standing.next (Fits target) s fun _ r s' =>
      s'.claims = 0 ∧ s'.claimed = false ∧ s'.rested = true ∧
        (r = true → s'.config = some target.configValue) := by
  unfold configure
  refine Safe.bind (safe_perform (fun _ => hclaims) fun active => ?_)
  split
  · next hactive => exact safe_pure ⟨hclaims, hclaimed, hrested, fun _ => hactive⟩
  · next hactive =>
      refine Safe.bind (safe_perform (fun _ => ⟨rfl, hactive, hclaims⟩) fun switched => ?_)
      cases switched with
      | error e => exact safe_pure ⟨hclaims, hclaimed, hrested, fun h => by cases h⟩
      | ok => exact safe_pure ⟨hclaims, hclaimed, hrested, fun _ => rfl⟩

/-- With `left` retries left, so many claims have been made. -/
theorem claimWithRetries_safe {left : Nat} (hclaims : s.claims + left = claimInterfaceRetries)
    (hconfig : s.config = some target.configValue) (hclaimed : s.claimed = false)
    (hrested : s.rested = true) :
    (claimWithRetries target.interfaceNumber left).Safe Standing.next (Fits target) s
      fun _ r s' => s'.claims ≤ claimInterfaceRetries + 1 ∧
        (∀ u, r = .ok u → s'.claimed = true) := by
  induction left generalizing s with
  | zero =>
      refine safe_perform (fun _ => ⟨rfl, hconfig, by omega, hclaimed, hrested⟩) fun answer => ?_
      cases answer with
      | error e =>
          refine ⟨?_, fun u h => by cases h⟩
          show s.claims + 1 ≤ _
          omega
      | ok =>
          refine ⟨?_, fun _ _ => rfl⟩
          show s.claims + 1 ≤ _
          omega
  | succ left ih =>
      unfold claimWithRetries
      refine Safe.bind (safe_perform (fun _ => ⟨rfl, hconfig, by omega, hclaimed, hrested⟩)
        fun answer => ?_)
      have hmade : s.claims + 1 ≤ claimInterfaceRetries + 1 := by omega
      cases answer with
      | ok => exact safe_pure ⟨hmade, fun _ _ => rfl⟩
      | error e =>
          dsimp only
          split
          · next hbusy =>
              refine Safe.bind (safe_perform (fun _ => hbusy) fun _ => ?_)
              refine ih ?_ hconfig rfl rfl
              show s.claims + 1 + left = _
              omega
          · exact safe_pure ⟨hmade, fun u h => by cases h⟩

theorem openEndpoints_safe (hclaimed : s.claimed = true) :
    (openEndpoints target).Safe Standing.next (Fits target) s fun _ _ s' => s' = s := by
  unfold openEndpoints
  refine Safe.bind (safe_perform (fun _ => ⟨hclaimed, rfl⟩) fun epIn => ?_)
  cases epIn with
  | error e => exact safe_pure rfl
  | ok =>
      refine Safe.bind (safe_perform (fun _ => ⟨hclaimed, rfl⟩) fun epOut => ?_)
      cases epOut <;> exact safe_pure rfl

/-- What is started has a serial, and the interface has been claimed for it. -/
def Started (info : UsbInfo) (target : MuxTarget) (r : Option Taken) (s : Standing) : Prop :=
  ∀ taken, r = some taken → s.claimed = true ∧ ∃ serial, info.serialNumber = some serial ∧
    taken = { raw := trimSerial serial, info := info.meta, target }

theorem started_none : Started info target none s := by
  intro taken h
  cases h

theorem takeTarget_safe : (takeTarget info target).Safe Standing.next (Fits target) {}
    fun _ r s' => s'.claims ≤ claimInterfaceRetries + 1 ∧ Started info target r s' := by
  unfold takeTarget
  refine Safe.bind (Safe.imp (configure_safe rfl rfl rfl) ?_)
  intro t configured s ⟨hclaims, hclaimed, hrested, hconfig⟩
  split
  · next hconfigured =>
      unfold claimTarget claimInterfaceWithRetry
      have hnone : s.claims + claimInterfaceRetries = claimInterfaceRetries := by omega
      refine Safe.bind (Safe.imp (claimWithRetries_safe hnone (hconfig hconfigured) hclaimed
        hrested) ?_)
      intro t' r s' ⟨hmade, hgot⟩
      cases r with
      | error e => exact safe_pure ⟨hmade, started_none⟩
      | ok u =>
          refine Safe.bind (Safe.imp (openEndpoints_safe (hgot u rfl)) ?_)
          intro t'' opened s'' hsame
          rw [hsame]
          split
          · refine safe_pure ⟨hmade, fun taken htaken => ?_⟩
            obtain ⟨serial, hserial, hmade'⟩ := Option.map_eq_some_iff.mp htaken
            exact ⟨hgot u rfl, serial, hserial, hmade'.symm⟩
          · exact safe_pure ⟨hmade, started_none⟩
  · exact safe_pure ⟨by omega, started_none⟩

/-! ### Devices that are in the right configuration -/

def OpenCall.switches : OpenCall → Bool
  | .setConfiguration _ => true
  | _ => false

/-- The device is put into the target's configuration unless it has said that it is in it.  One
that has not said which it is in is put into it, too. -/
theorem configure_switches : (configure target).Meets fun t _ =>
    (∃ e ∈ t, e.1.switches = true) → ∃ active, ⟨.activeConfiguration, active⟩ ∈ t ∧
      active ≠ some target.configValue := by
  unfold configure
  refine meets_bind.mpr (meets_perform.mpr fun active => ?_)
  split
  · refine meets_pure.mpr fun hswitch => ?_
    obtain ⟨e, he, hswitches⟩ := hswitch
    cases List.mem_singleton.mp he
    cases hswitches
  · next hactive =>
      intro t r _ _
      exact ⟨active, List.mem_cons_self, hactive⟩

theorem claimWithRetries_only (n : UInt8) (left : Nat) :
    (claimWithRetries n left).Only fun c => c.switches = false := by
  induction left with
  | zero => exact only_perform rfl
  | succ left ih =>
      unfold claimWithRetries
      refine Only.bind (only_perform rfl) fun answer => ?_
      cases answer with
      | ok => exact only_pure _
      | error e =>
          dsimp only
          split
          · exact Only.bind (only_perform rfl) fun _ => ih
          · exact only_pure _

theorem openEndpoints_only : (openEndpoints target).Only fun c => c.switches = false := by
  unfold openEndpoints
  refine Only.bind (only_perform rfl) fun epIn => ?_
  cases epIn with
  | error e => exact only_pure _
  | ok =>
      refine Only.bind (only_perform rfl) fun epOut => ?_
      cases epOut <;> exact only_pure _

theorem claimTarget_only : (claimTarget info target).Only fun c => c.switches = false := by
  unfold claimTarget claimInterfaceWithRetry
  refine Only.bind (claimWithRetries_only _ _) fun claimed => ?_
  cases claimed with
  | error e => exact only_pure _
  | ok =>
      refine Only.bind openEndpoints_only fun opened => ?_
      split <;> exact only_pure _

theorem takeTarget_switches : (takeTarget info target).Meets fun t _ =>
    (∃ e ∈ t, e.1.switches = true) → ∃ active, ⟨.activeConfiguration, active⟩ ∈ t ∧
      active ≠ some target.configValue := by
  unfold takeTarget
  refine meets_bind.mpr (Meets.imp configure_switches fun t configured hswitches => ?_)
  have hrest : (if configured then claimTarget info target else return none).Only fun c =>
      c.switches = false := by
    split
    · exact claimTarget_only
    · exact only_pure _
  refine Meets.imp hrest fun t' r hnever hswitch => ?_
  obtain ⟨e, he, hswitches'⟩ := hswitch
  rcases List.mem_append.mp he with he | he
  · obtain ⟨active, hmem, hne⟩ := hswitches ⟨e, he, hswitches'⟩
    exact ⟨active, List.mem_append_left _ hmem, hne⟩
  · rw [hnever e he] at hswitches'
    cases hswitches'

end

/-- What a run for a target does. -/
structure TakesIn (info : UsbInfo) (target : MuxTarget) (t : List (Exchange OpenCall.Answer))
    (r : Option Taken) : Prop where
  fits : ∀ before e after, t = before ++ e :: after → Fits target (standing before) e
  claims : (standing t).claims ≤ claimInterfaceRetries + 1
  started : Started info target r (standing t)
  switches : (∃ e ∈ t, e.1.switches = true) → ∃ active, ⟨.activeConfiguration, active⟩ ∈ t ∧
    active ≠ some target.configValue

/-- A target is in the active configuration if that has one. -/
theorem findMuxTarget_active {device : Device} {cfg : ConfigurationDescriptor} {target : MuxTarget}
    (hactive : device.activeConfiguration = some cfg) (hmux : (findMuxInConfig cfg).isSome)
    (hfound : findMuxTarget device = some target) :
    target.configValue = cfg.configurationValue := by
  obtain ⟨first, hfirst⟩ := Option.isSome_iff_exists.mp hmux
  unfold findMuxTarget at hfound
  rw [hactive, Option.bind_some, hfirst] at hfound
  cases hfound
  exact findMuxInConfig_config hfirst

/-- **The daemon takes a device in** for one target, the one its search finds; without one it
only switches the device's mode.  It does not switch the configuration of a device that says it
is in one with a mux interface. -/
theorem daemon_takes_device (info : UsbInfo) : (handleConnected info).Meets fun t r =>
    (∃ e, t = [⟨.openDevice, .error e⟩] ∧ r = none) ∨
    (∃ device answer, findMuxTarget device = none ∧
      t = [⟨.openDevice, .ok device⟩, ⟨.setMode targetMode, answer⟩] ∧ r = none) ∨
    ∃ device target t', findMuxTarget device = some target ∧
      t = ⟨.openDevice, .ok device⟩ :: t' ∧ TakesIn info target t' r ∧
      ∀ cfg, device.activeConfiguration = some cfg → (findMuxInConfig cfg).isSome →
        (∀ active, ⟨.activeConfiguration, active⟩ ∈ t' → active = some cfg.configurationValue) →
        ∀ e ∈ t', e.1.switches = false := by
  unfold handleConnected
  refine meets_bind.mpr (meets_perform.mpr fun opened => ?_)
  cases opened with
  | error e => exact meets_pure.mpr (Or.inl ⟨e, rfl, rfl⟩)
  | ok device =>
      dsimp only
      split
      · next target hfound =>
          intro t r hrun
          obtain ⟨halong, hclaims, hstarted⟩ := takeTarget_safe t r hrun
          have hswitches := takeTarget_switches t r hrun
          refine Or.inr (Or.inr ⟨device, target, t, hfound, rfl, ⟨?_, hclaims, hstarted,
            hswitches⟩, ?_⟩)
          · intro before e after hsplit
            rw [hsplit] at halong
            exact halong.at
          · intro cfg hactive hmux htells e he
            by_contra hswitch
            rw [Bool.not_eq_false] at hswitch
            obtain ⟨active, hmem, hne⟩ := hswitches ⟨e, he, hswitch⟩
            rw [findMuxTarget_active hactive hmux hfound] at hne
            exact hne (htells active hmem)
      · next hnone =>
          refine meets_bind.mpr (meets_perform.mpr fun answer => meets_pure.mpr ?_)
          exact Or.inr (Or.inl ⟨device, answer, hnone, rfl, rfl⟩)

end Netmuxd.Nusb
