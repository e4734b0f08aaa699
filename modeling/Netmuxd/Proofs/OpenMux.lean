/-
How the mux interface of a device is opened.

A run is judged as it goes along by how many attempts have been reported and by which
configuration the device is known to be in (`Seen`): each call has to suit these.  When attempts
are reported, slept before and begun with a reset follows from their numbers alone.
-/
import Netmuxd.Lib.Served
import Netmuxd.Usb.OpenMux

namespace Netmuxd.Nusb

open Lib Talk

/-! ### What is known along a run -/

/-- What a run has done so far and been told. -/
structure Seen where
  /-- How many attempts have been reported. -/
  attempts : Nat := 0
  /-- The configuration the device is in, as far as that is known. -/
  config : Option UInt8 := none

def Seen.next (s : Seen) : Exchange OpenCall.Answer → Seen
  | ⟨.onAttempt _ _, _⟩ => { s with attempts := s.attempts + 1 }
  | ⟨.activeConfiguration, config⟩ => { s with config }
  | ⟨.setConfiguration v, .ok ()⟩ => { s with config := some v }
  | ⟨.setConfiguration _, .error _⟩ => { s with config := none }
  | ⟨.reset, _⟩ => { s with config := none }
  | _ => s

/-- What becomes of the device's configuration is known from these answers. -/
def seen (t : List (Exchange OpenCall.Answer)) : Seen :=
  t.foldl Seen.next {}

/-- Calls that suit what is known.  The attempt that is going on is the last one reported. -/
def Suits (candidates : Candidates) (total : Nat) (s : Seen) (e : Exchange OpenCall.Answer) :
    Prop :=
  let target := candidates.target (s.attempts - 1)
  match e.1 with
  | .onAttempt n total' => n = s.attempts + 1 ∧ total' = total ∧ n ≤ total
  | .sleep => 1 < s.attempts ∧ (s.attempts - 1) % claimBurstSize = 0
  | .reset => resetThreshold total ≤ s.attempts - 1
  | .activeConfiguration => True
  | .setConfiguration v => s.config ≠ some target.configValue ∧
      (v = target.configValue ∨ 1 < s.attempts ∧ candidates.noMuxConfig = some v)
  | .detachAndClaimInterface n =>
      s.config = some target.configValue ∧ n = target.interfaceNumber
  | .endpointIn addr => s.config = some target.configValue ∧ addr = target.epIn
  | .endpointOut addr => s.config = some target.configValue ∧ addr = target.epOut
  | .openDevice | .setMode _ => False

/-- The calls that decide an attempt that has this number and goes for this target, with what
they were answered. -/
inductive Decided (target : MuxTarget) (total attempt : Nat) :
    List (Exchange OpenCall.Answer) → Attempt → Prop
  | opened : Decided target total attempt
      [⟨.detachAndClaimInterface target.interfaceNumber, .ok ()⟩,
        ⟨.endpointIn target.epIn, .ok ()⟩, ⟨.endpointOut target.epOut, .ok ()⟩] (.opened target)
  | noEndpointIn (e : String) : Decided target total attempt
      [⟨.detachAndClaimInterface target.interfaceNumber, .ok ()⟩,
        ⟨.endpointIn target.epIn, .error e⟩] (.failed (.claimBulkIn target.epIn e))
  | noEndpointOut (e : String) : Decided target total attempt
      [⟨.detachAndClaimInterface target.interfaceNumber, .ok ()⟩,
        ⟨.endpointIn target.epIn, .ok ()⟩, ⟨.endpointOut target.epOut, .error e⟩]
      (.failed (.claimBulkOut target.epOut e))
  | notReset (e : String) : Decided target total attempt [⟨.reset, .error e⟩]
      (.again (.reset (numbered e attempt total)))
  | notSwitched (e : String) : Decided target total attempt
      [⟨.setConfiguration target.configValue, .error e⟩]
      (.again (.setConfiguration target.configValue (numbered e attempt total)))
  | notClaimed (e : NusbError) : Decided target total attempt
      [⟨.detachAndClaimInterface target.interfaceNumber, .error e⟩]
      (.again (.claimInterface target.interfaceNumber (numbered e.text attempt total)))

/-- How an attempt ends that has this number: its last calls decide it. -/
def Outcome (candidates : Candidates) (total attempt : Nat) (t : List (Exchange OpenCall.Answer))
    (r : Attempt) : Prop :=
  ∃ calls, calls <:+ t ∧ Decided (candidates.target attempt) total attempt calls r

/-- What an attempt leaves. -/
def Ends (candidates : Candidates) (total attempt : Nat) (t : List (Exchange OpenCall.Answer))
    (r : Attempt) (s : Seen) : Prop :=
  Outcome candidates total attempt t r ∧ s.attempts = attempt + 1

section
variable {candidates : Candidates} {total attempt : Nat} {s : Seen}
  {t t' : List (Exchange OpenCall.Answer)} {r : Attempt}

theorem Decided.outcome (h : Decided (candidates.target attempt) total attempt t r) :
    Outcome candidates total attempt t r :=
  ⟨t, List.suffix_rfl, h⟩

/-- What comes before does not matter. -/
theorem Outcome.prepend (h : Outcome candidates total attempt t r) :
    Outcome candidates total attempt (t' ++ t) r := by
  obtain ⟨calls, hsuffix, hdecided⟩ := h
  exact ⟨calls, hsuffix.trans (List.suffix_append t' t), hdecided⟩

theorem Ends.prepend (h : Ends candidates total attempt t r s) :
    Ends candidates total attempt (t' ++ t) r s :=
  ⟨h.1.prepend, h.2⟩

/-! ### One attempt -/

theorem target_of_attempts (candidates : Candidates) (hattempts : s.attempts = attempt + 1) :
    candidates.target (s.attempts - 1) = candidates.target attempt := by
  rw [hattempts, Nat.add_sub_cancel]

theorem claim_safe (hattempts : s.attempts = attempt + 1)
    (hconfig : s.config = some (candidates.target attempt).configValue) :
    (claim (candidates.target attempt) attempt total).Safe Seen.next (Suits candidates total) s
      (Ends candidates total attempt) := by
  have htarget := target_of_attempts candidates hattempts
  unfold claim
  refine Safe.bind (safe_perform (fun _ => ?_) fun claimed => ?_)
  · exact ⟨htarget ▸ hconfig, htarget ▸ rfl⟩
  cases claimed with
  | error e => exact safe_pure ⟨(Decided.notClaimed e).outcome, hattempts⟩
  | ok =>
      refine Safe.bind (safe_perform (fun _ => ?_) fun epIn => ?_)
      · exact ⟨htarget ▸ hconfig, htarget ▸ rfl⟩
      cases epIn with
      | error e => exact safe_pure ⟨(Decided.noEndpointIn e).outcome, hattempts⟩
      | ok =>
          refine Safe.bind (safe_perform (fun _ => ?_) fun epOut => ?_)
          · exact ⟨htarget ▸ hconfig, htarget ▸ rfl⟩
          cases epOut with
          | error e => exact safe_pure ⟨(Decided.noEndpointOut e).outcome, hattempts⟩
          | ok => exact safe_pure ⟨Decided.opened.outcome, hattempts⟩

theorem bounce_safe (hattempts : s.attempts = attempt + 1)
    (hconfig : s.config ≠ some (candidates.target attempt).configValue) :
    (bounce candidates.noMuxConfig attempt).Safe Seen.next (Suits candidates total) s
      fun _ _ s' => s'.attempts = attempt + 1 ∧
        s'.config ≠ some (candidates.target attempt).configValue := by
  have htarget := target_of_attempts candidates hattempts
  unfold bounce
  split
  · next hpos =>
      cases hnoMux : candidates.noMuxConfig with
      | none => exact safe_pure ⟨hattempts, hconfig⟩
      | some v =>
          refine Safe.bind (safe_perform (fun _ => ?_) fun bounced => ?_)
          · exact ⟨htarget ▸ hconfig, Or.inr ⟨by omega, hnoMux⟩⟩
          refine safe_pure ?_
          have hne := candidates.noMux v hnoMux (candidates.target attempt) (List.get_mem _ _)
          cases bounced with
          | error e => exact ⟨hattempts, fun h => by cases h⟩
          | ok => exact ⟨hattempts, fun h => hne (Option.some.inj h).symm⟩
  · exact safe_pure ⟨hattempts, hconfig⟩

theorem switchAndClaim_safe (hattempts : s.attempts = attempt + 1) :
    (switchAndClaim candidates attempt total).Safe Seen.next (Suits candidates total) s
      (Ends candidates total attempt) := by
  unfold switchAndClaim
  refine Safe.bind (safe_perform (fun _ => trivial) fun active => ?_)
  split
  · next hactive => exact Safe.imp (claim_safe hattempts hactive) fun _ _ _ h => h.prepend
  · next hactive =>
      refine Safe.bind (Safe.imp (bounce_safe hattempts hactive) fun t _ s' hbounced => ?_)
      obtain ⟨hattempts', hconfig'⟩ := hbounced
      have htarget := target_of_attempts candidates hattempts'
      refine Safe.bind (safe_perform (fun _ => ?_) fun switched => ?_)
      · exact ⟨htarget ▸ hconfig', Or.inl (htarget ▸ rfl)⟩
      cases switched with
      | error e => exact safe_pure ⟨(Decided.notSwitched e).outcome.prepend.prepend, hattempts'⟩
      | ok =>
          refine Safe.imp (claim_safe hattempts' rfl) fun _ _ _ h => ?_
          exact Ends.prepend (Ends.prepend h.prepend)

theorem resetAndClaim_safe (hattempts : s.attempts = attempt + 1) :
    (resetAndClaim candidates total attempt).Safe Seen.next (Suits candidates total) s
      (Ends candidates total attempt) := by
  unfold resetAndClaim
  split
  · next hreset =>
      refine Safe.bind (safe_perform (fun _ => ?_) fun done => ?_)
      · show resetThreshold total ≤ s.attempts - 1
        omega
      cases done with
      | error e => exact safe_pure ⟨(Decided.notReset e).outcome, hattempts⟩
      | ok => exact Safe.imp (switchAndClaim_safe hattempts) fun _ _ _ h => h.prepend
  · exact switchAndClaim_safe hattempts

theorem tryOnce_safe (hattempts : s.attempts = attempt) (hlt : attempt < total) :
    (tryOnce candidates total attempt).Safe Seen.next (Suits candidates total) s
      (Ends candidates total attempt) := by
  unfold tryOnce pause
  refine Safe.bind (safe_perform (fun _ => ⟨by omega, rfl, hlt⟩) fun _ => ?_)
  have hattempts' : s.attempts + 1 = attempt + 1 := by rw [hattempts]
  split
  · next hburst =>
      refine Safe.bind (safe_perform (fun _ => ?_) fun _ => ?_)
      · show 1 < s.attempts + 1 ∧ (s.attempts + 1 - 1) % claimBurstSize = 0
        rw [hattempts, Nat.add_sub_cancel]
        exact ⟨by omega, hburst.2⟩
      · exact Safe.imp (resetAndClaim_safe hattempts') fun _ _ _ h => Ends.prepend h.prepend
  · refine Safe.bind (safe_pure ?_)
    exact Safe.imp (resetAndClaim_safe hattempts') fun _ _ _ h => Ends.prepend h.prepend

/-! ### When attempts are slept before and begun with a reset -/

/-- Calls that the number of the attempt decides. -/
def OpenCall.paced : OpenCall → Bool
  | .onAttempt _ _ | .sleep | .reset => true
  | _ => false

def pace (t : List (Exchange OpenCall.Answer)) : List OpenCall :=
  (t.map fun e => e.1).filter OpenCall.paced

def paceOf (total attempt : Nat) : List OpenCall :=
  .onAttempt (attempt + 1) total ::
    ((if 0 < attempt ∧ attempt % claimBurstSize = 0 then [.sleep] else []) ++
      if resetThreshold total ≤ attempt then [.reset] else [])

theorem pace_append (t t' : List (Exchange OpenCall.Answer)) :
    pace (t ++ t') = pace t ++ pace t' := by
  simp [pace]

theorem pace_eq_nil {t : List (Exchange OpenCall.Answer)} (h : ∀ e ∈ t, e.1.paced = false) :
    pace t = [] := by
  apply List.filter_eq_nil_iff.mpr
  intro c hc
  obtain ⟨e, he, rfl⟩ := List.mem_map.mp hc
  simp [h e he]

theorem switchAndClaim_unpaced (candidates : Candidates) (attempt total : Nat) :
    (switchAndClaim candidates attempt total).Only fun c => c.paced = false := by
  have hclaim : (claim (candidates.target attempt) attempt total).Only fun c =>
      c.paced = false := by
    unfold claim
    refine Only.bind (only_perform rfl) fun claimed => ?_
    cases claimed with
    | error e => exact only_pure _
    | ok =>
        refine Only.bind (only_perform rfl) fun epIn => ?_
        cases epIn with
        | error e => exact only_pure _
        | ok =>
            refine Only.bind (only_perform rfl) fun epOut => ?_
            cases epOut <;> exact only_pure _
  have hbounce : (bounce candidates.noMuxConfig attempt).Only fun c => c.paced = false := by
    unfold bounce
    split
    · cases candidates.noMuxConfig with
      | none => exact only_pure _
      | some v => exact Only.bind (only_perform rfl) fun _ => only_pure _
    · exact only_pure _
  unfold switchAndClaim
  refine Only.bind (only_perform rfl) fun active => ?_
  split
  · exact hclaim
  · refine Only.bind hbounce fun _ => Only.bind (only_perform rfl) fun switched => ?_
    cases switched with
    | error e => exact only_pure _
    | ok => exact hclaim

theorem tryOnce_paced (candidates : Candidates) (total attempt : Nat) :
    (tryOnce candidates total attempt).Meets fun t _ => pace t = paceOf total attempt := by
  have hrest : (resetAndClaim candidates total attempt).Meets fun t _ =>
      pace t = if resetThreshold total ≤ attempt then [.reset] else [] := by
    unfold resetAndClaim
    split
    · refine meets_bind.mpr (meets_perform.mpr fun done => ?_)
      cases done with
      | error e => exact meets_pure.mpr rfl
      | ok =>
          refine Meets.imp (switchAndClaim_unpaced candidates attempt total) fun t _ ht => ?_
          rw [pace_append, pace_eq_nil ht]
          rfl
    · exact Meets.imp (switchAndClaim_unpaced candidates attempt total) fun t _ ht =>
        pace_eq_nil ht
  unfold tryOnce pause paceOf
  refine meets_bind.mpr (meets_perform.mpr fun _ => ?_)
  split
  · refine meets_bind.mpr (meets_perform.mpr fun _ => Meets.imp hrest fun t _ ht => ?_)
    rw [pace_append, pace_append, ht]
    rfl
  · refine meets_bind.mpr (meets_pure.mpr (Meets.imp hrest fun t _ ht => ?_))
    rw [pace_append, List.nil_append, ht]
    rfl

/-! ### The loop -/

/-- How the loop ends with the attempt of this number, whose calls come last in `t`: with the
mux that it has opened, with an error that ends it early, or with the error of the last
attempt. -/
inductive LoopEnds (candidates : Candidates) (total attempt : Nat)
    (t : List (Exchange OpenCall.Answer)) : Except OpenMuxError MuxTarget → Prop
  | opened {target} (claimed : Outcome candidates total attempt t (.opened target)) :
      LoopEnds candidates total attempt t (.ok target)
  | failed {e} (early : Outcome candidates total attempt t (.failed e)) :
      LoopEnds candidates total attempt t (.error e)
  | exhausted {e} (error : Outcome candidates total attempt t (.again e))
      (last : attempt + 1 = total) : LoopEnds candidates total attempt t (.error e)

theorem range'_head {last : Nat} (h : attempt ≤ last) :
    List.range' attempt (last + 1 - attempt) =
      attempt :: List.range' (attempt + 1) (last + 1 - (attempt + 1)) := by
  rw [← List.range'_succ]
  congr 1
  omega

/-- `before` is what the attempts that have failed so far have been answered. -/
theorem tryFrom_safe {left : Nat} {lastErr : Option OpenMuxError}
    {before : List (Exchange OpenCall.Answer)} (hattempts : s.attempts = attempt)
    (hleft : attempt + left = total)
    (hlast : left = 0 → ∃ e last, lastErr = some e ∧ last + 1 = attempt ∧
      Outcome candidates total last before (.again e)) :
    (tryFrom candidates total left attempt lastErr).Safe Seen.next (Suits candidates total) s
      fun t r _ => ∃ last < total, attempt ≤ last + 1 ∧
        LoopEnds candidates total last (before ++ t) r ∧
        pace t = (List.range' attempt (last + 1 - attempt)).flatMap (paceOf total) := by
  induction left generalizing attempt s lastErr before with
  | zero =>
      obtain ⟨e, last, rfl, rfl, hagain⟩ := hlast rfl
      refine safe_pure ⟨last, by omega, Nat.le_refl _, .exhausted ?_ hleft, ?_⟩
      · rw [List.append_nil]
        exact hagain
      · rw [Nat.sub_self]
        rfl
  | succ left ih =>
      have honce : (tryOnce candidates total attempt).Safe Seen.next (Suits candidates total) s
          (Ends candidates total attempt) := tryOnce_safe hattempts (by omega)
      have hsafe := honce.and_meets (tryOnce_paced candidates total attempt)
      unfold tryFrom
      refine Safe.bind (Safe.imp hsafe fun t r s' ⟨hpace, hends, hattempts'⟩ => ?_)
      have hone : pace (t ++ []) =
          (List.range' attempt (attempt + 1 - attempt)).flatMap (paceOf total) := by
        rw [Nat.add_sub_cancel_left, List.append_nil, hpace]
        simp
      have hends' : Outcome candidates total attempt (before ++ (t ++ [])) r := by
        rw [List.append_nil]
        exact hends.prepend
      cases r with
      | opened target => exact safe_pure ⟨attempt, by omega, Nat.le_succ _, .opened hends', hone⟩
      | failed e => exact safe_pure ⟨attempt, by omega, Nat.le_succ _, .failed hends', hone⟩
      | again e =>
          have hagain : Outcome candidates total attempt (before ++ t) (.again e) := hends.prepend
          refine Safe.imp (ih hattempts' (by omega) fun _ => ⟨e, attempt, rfl, rfl, hagain⟩) ?_
          intro t' r s'' ⟨last, hlast', hle, hloop, hpace'⟩
          refine ⟨last, hlast', Nat.le_of_succ_le hle, ?_, ?_⟩
          · rw [← List.append_assoc]
            exact hloop
          · have hhead := range'_head (Nat.le_of_succ_le_succ hle)
            rw [hhead, List.flatMap_cons, pace_append, hpace, hpace']

end

/-- What a run on a device that has a mux interface does. -/
structure Careful (candidates : Candidates) (total : Nat) (t : List (Exchange OpenCall.Answer))
    (r : Except OpenMuxError MuxTarget) : Prop where
  /-- Attempts are reported one by one, the first half of them is made without a reset, and the
  last one made decides the result, by what its last calls were answered. -/
  paced : ∃ last < total, LoopEnds candidates total last t r ∧
    pace t = (List.range (last + 1)).flatMap (paceOf total)
  /-- What is known of the device suits each call. -/
  suits : ∀ before e after, t = before ++ e :: after → Suits candidates total (seen before) e

/-- **Opening the mux interface.**  A device without one is not touched.  Else every run makes
its attempts in turn, claims an interface only in the configuration that has it, sets no
configuration that the device is in already, and fails with the error of its last attempt. -/
theorem open_mux_is_careful (vid pid : UInt16) (maxAttempts : Nat) :
    (openMuxWithProgress vid pid maxAttempts).Meets fun t r =>
      (isAppleMux vid pid = false ∧ t = [] ∧ r = .error (.notAppleMux vid pid)) ∨
      (∃ e, t = [⟨.openDevice, .error e⟩] ∧ r = .error (.openDevice e)) ∨
      (∃ device, device.candidates = none ∧ t = [⟨.openDevice, .ok device⟩] ∧
        r = .error .noMuxInterface) ∨
      ∃ device candidates t', device.candidates = some candidates ∧
        t = ⟨.openDevice, .ok device⟩ :: t' ∧ Careful candidates (max maxAttempts 1) t' r := by
  unfold openMuxWithProgress
  split
  · refine meets_bind.mpr (meets_perform.mpr fun opened => ?_)
    cases opened with
    | error e => exact meets_pure.mpr (Or.inr (Or.inl ⟨e, rfl, rfl⟩))
    | ok device =>
        dsimp only
        split
        · next hnone =>
            exact meets_pure.mpr (Or.inr (Or.inr (Or.inl ⟨device, hnone, rfl, rfl⟩)))
        · next candidates hsome =>
            have hsafe : (tryFrom candidates (max maxAttempts 1) (max maxAttempts 1) 0 none).Safe
                Seen.next (Suits candidates (max maxAttempts 1)) {} fun t r _ =>
                  ∃ last < max maxAttempts 1, 0 ≤ last + 1 ∧
                    LoopEnds candidates (max maxAttempts 1) last ([] ++ t) r ∧
                    pace t = (List.range' 0 (last + 1 - 0)).flatMap
                      (paceOf (max maxAttempts 1)) :=
              tryFrom_safe rfl (Nat.zero_add _) fun hzero => by omega
            refine Meets.imp hsafe fun t r ⟨halong, last, hlt, _, hends, hpace⟩ => ?_
            refine Or.inr (Or.inr (Or.inr ⟨device, candidates, t, hsome, rfl, ?_, ?_⟩))
            · refine ⟨last, hlt, hends, ?_⟩
              rw [List.range_eq_range']
              exact hpace
            · intro before e after hsplit
              rw [hsplit] at halong
              exact halong.at
  · next happle => exact meets_pure.mpr (Or.inl ⟨by simpa using happle, rfl, rfl⟩)

end Netmuxd.Nusb
