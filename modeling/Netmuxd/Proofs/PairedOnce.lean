/-
A device that has been paired is not paired again.

One file is followed, the record of a UDID: what is read of it is what was last written, by
whichever path it is named.  Of all other files, and of what the device says, nothing is assumed.
Pairing leaves in it what the crate makes of the new record, and connecting leaves it alone
unless the device refuses a record, so connecting finds one under a form of the serial.
-/
import Netmuxd.Proofs.Pairing

namespace Netmuxd

open Lib Talk

variable {PairingFile : Type}

/-- What surroundings do that keep the file at the paths `own`, and what it holds then.  A write
that fails may have left anything. -/
def KeepsFile (own : Path → Prop) (file : Option Bytes)
    (e : Exchange (@PairCall.Answer PairingFile)) (file' : Option Bytes) : Prop :=
  match e with
  | ⟨.client (.pathExists path), answer⟩ => (own path → answer = file.isSome) ∧ file' = file
  | ⟨.client (.openFile path), answer⟩ => (own path → answer = file.isSome) ∧ file' = file
  | ⟨.client (.readToEnd path), answer⟩ => (own path → answer = file) ∧ file' = file
  | ⟨.client (.writeFile path contents), answer⟩ =>
    (own path → answer = true → file' = some contents) ∧ (¬ own path → file' = file)
  | ⟨.client (.removeFile path), answer⟩ =>
    (own path → answer = .removed → file' = none) ∧
      (¬ own path ∨ answer = .failed → file' = file)
  | _ => file' = file

/-- The device refuses no record. -/
def NoneRefused (t : PairTrace PairingFile) : Prop :=
  ∀ pairingFile, ⟨.startSession pairingFile, .invalidHostId⟩ ∉ t ∧
    ⟨.startSession pairingFile, .rustls⟩ ∉ t

/-- One run of `connect_device`: the connection it is for, the calls, and what it returns. -/
structure ConnectRun (PairingFile : Type) where
  handle : UsbMuxHandle
  info : DeviceMeta
  calls : PairTrace PairingFile
  udid : String
  task : Option (PairTask PairingFile Unit)

/-- The device is connected one time after another, and each time `connect_device` runs. -/
inductive Connects (lockdown : Lockdown PairingFile) (finder : PairingFileFinder)
    (own : Path → Prop) (raw : String) :
    Option Bytes → List (ConnectRun PairingFile) → Option Bytes → Prop
  | nil {file} : Connects lockdown finder own raw file [] file
  | cons {file file' file'' c rest}
      (run : (connectDevice lockdown finder c.handle raw c.info).Runs c.calls (c.udid, c.task))
      (served : Through (KeepsFile own) file c.calls file')
      (connects : Connects lockdown finder own raw file' rest file'') :
      Connects lockdown finder own raw file (c :: rest) file''

/-- The device has been registered under a form of its serial, nothing else has been noticed of
the run, and no task is left to pair with it. -/
structure ConnectRun.AtOnce (raw : String) (c : ConnectRun PairingFile) : Prop where
  candidate : c.udid ∈ pairedCandidates raw
  registered : shared c.calls = [.send (.discovered c.handle c.udid c.info)]
  noTask : c.task = none

section
variable {lockdown : Lockdown PairingFile} {finder : PairingFileFinder} {own : Path → Prop}
  {file file' : Option Bytes} {t : PairTrace PairingFile} {udid raw : String}

theorem KeepsFile.keeps {e : Exchange (@PairCall.Answer PairingFile)}
    (h : KeepsFile own file e file') (hremoves : e.1.removes = false)
    (hwrites : e.1.writes = false) : file' = file := by
  obtain ⟨c, answer⟩ := e
  cases c with
  | client c =>
      cases c with
      | pathExists | openFile | readToEnd => exact h.2
      | writeFile => cases hwrites
      | removeFile => cases hremoves
      | _ => exact h
  | _ => exact h

theorem keeps_of_looks (h : Through (KeepsFile own) file t file') (hlooks : ∀ e ∈ t, e.1.Looks) :
    file' = file :=
  h.invariant (I := fun f => f = file) rfl fun _ e he _ hstep hf =>
    (hstep.keeps (hlooks e he).2.1 (hlooks e he).2.2).trans hf

theorem getPairingRecord_found {contents : Bytes} (hown : own (finder.join (udid ++ ".plist"))) :
    (PairTask.client (finder.getPairingRecord lockdown.toIdevice udid) :
      PairTask PairingFile _).Over (KeepsFile own) (some contents) fun _ r _ =>
        r = lockdown.pairingFile contents := by
  unfold PairingFileFinder.getPairingRecord
  simp [KeepsFile, hown]

/-- A record that can be read is found, under this UDID or one that is tried before it. -/
theorem firstPaired_found {contents : Bytes} {udids : List String}
    (hown : own (finder.join (udid ++ ".plist")))
    (hparse : (lockdown.pairingFile contents).isSome) (hmem : udid ∈ udids) :
    (PairTask.client (finder.firstPaired lockdown udids) : PairTask PairingFile _).Over
      (KeepsFile own) (some contents) fun _ r _ => r ≠ none := by
  induction udids with
  | nil => cases hmem
  | cons first rest ih =>
      unfold PairingFileFinder.firstPaired
      rw [over_lift, over_bind]
      intro t r hrun u hserved
      have hu : u = some contents :=
        keeps_of_looks (through_map.mpr hserved)
          (meets_lift.mp (getPairingRecord_looks first) t r hrun)
      cases r with
      | some pairingFile => exact over_pure.mpr (Option.some_ne_none _)
      | none =>
          have hrest : udid ∈ rest := by
            refine (List.mem_cons.mp hmem).resolve_left fun hfirst => ?_
            have hnone : none = lockdown.pairingFile contents :=
              over_lift.mp (getPairingRecord_found (hfirst ▸ hown)) t none hrun u hserved
            rw [← hnone] at hparse
            cases hparse
          rw [hu]
          exact over_lift.mp (ih hrest)

theorem Refused.not_noneRefused (h : Refused lockdown finder t udid) : ¬ NoneRefused t := by
  obtain ⟨-, pairingFile, -, hsession⟩ := h
  intro hnone
  rcases hsession with hsession | hsession
  · exact (hnone pairingFile).1 hsession
  · exact (hnone pairingFile).2 hsession

theorem NoneRefused.of_subset {t' : PairTrace PairingFile} (h : NoneRefused t') (hsub : t ⊆ t') :
    NoneRefused t :=
  fun pairingFile => ⟨fun hmem => (h pairingFile).1 (hsub hmem),
    fun hmem => (h pairingFile).2 (hsub hmem)⟩

theorem validatedUdid_trusts {contents : Bytes} {k : UsbMuxHandle}
    (hown : own (finder.join (udid ++ ".plist")))
    (hparse : (lockdown.pairingFile contents).isSome) (hmem : udid ∈ pairedCandidates raw) :
    (validatedUdid lockdown finder k raw).Over (KeepsFile own) (some contents)
      fun t r _ => NoneRefused t → r ≠ none := by
  unfold validatedUdid resolvePairedUdid
  rw [over_bind]
  intro t r hrun u hserved
  cases r with
  | none => exact absurd rfl (firstPaired_found hown hparse hmem t none hrun u hserved)
  | some udid' =>
      dsimp only
      rw [over_bind]
      intro t' check hrun' u' _
      cases check with
      | valid => exact over_pure.mpr fun _ => Option.some_ne_none udid'
      | unknown => exact over_pure.mpr fun _ => Option.some_ne_none udid'
      | stale =>
          have hrefused := checkPairingRecord_refuses k udid' t' .stale hrun' rfl
          intro t'' r'' _ u'' _ hnone
          refine absurd (hnone.of_subset ?_) hrefused.not_noneRefused
          exact List.Subset.trans (List.subset_append_left t' t'') (List.subset_append_right t _)

/-- A record that can be read is trusted unless the device refuses one, and left alone: the
device is registered and nothing else is done. -/
theorem connectDevice_trusts {contents : Bytes} {k : UsbMuxHandle} {info : DeviceMeta}
    (hown : own (finder.join (udid ++ ".plist")))
    (hparse : (lockdown.pairingFile contents).isSome) (hmem : udid ∈ pairedCandidates raw) :
    (connectDevice lockdown finder k raw info).Over (KeepsFile own) (some contents)
      fun t r file' => NoneRefused t → ConnectRun.AtOnce raw ⟨k, info, t, r.1, r.2⟩ ∧
        file' = some contents := by
  unfold connectDevice
  rw [over_bind]
  intro t r hrun u hserved
  have htrusts := validatedUdid_trusts hown hparse hmem t r hrun u hserved
  have hlooked := validatedUdid_looks k raw t r hrun
  cases r with
  | none =>
      refine over_pure.mpr fun hnone => absurd rfl (htrusts ?_)
      rwa [List.append_nil] at hnone
  | some udid' =>
      obtain ⟨hlooks, hcandidate, -⟩ := hlooked
      unfold registerWithManager
      dsimp only
      rw [over_bind, over_perform]
      intro answer u' hsend
      refine over_pure.mpr fun _ => ⟨⟨hcandidate, ?_, rfl⟩, ?_⟩
      · show shared (t ++ [⟨.send (.discovered k udid' info), ()⟩]) = _
        rw [shared_append, shared_eq_nil fun e he => (hlooks e he).1]
        rfl
      · have hkept : u' = u := hsend
        rw [hkept]
        exact keeps_of_looks hserved hlooks

/-- What is left of a record that has been written. -/
theorem pairAndStore_leaves (hown : own (finder.join (udid ++ ".plist"))) :
    (pairAndStore lockdown finder raw).Over (KeepsFile own) file fun _ r file' =>
      r = some udid → ∃ pairingFile bytes,
        lockdown.serialize (lockdown.setUdid pairingFile udid) = some bytes ∧
          file' = some bytes := by
  unfold pairAndStore
  rw [over_bind]
  intro t r _ u _
  cases r with
  | none => exact over_pure.mpr (by simp)
  | some udid' =>
      dsimp only
      rw [over_bind]
      intro t' identity _ u' _
      cases identity with
      | none => exact over_pure.mpr (by simp)
      | some identity =>
          dsimp only
          rw [over_bind, over_perform]
          intro pairingFile u'' _
          cases pairingFile with
          | none => exact over_pure.mpr (by simp)
          | some pairingFile =>
              dsimp only
              split
              · next bytes hbytes =>
                  rw [over_bind]
                  intro t'' _ _ v _
                  rw [over_bind, over_lift, over_perform]
                  intro written v' hwrite
                  cases written with
                  | false => exact over_pure.mpr (by simp)
                  | true =>
                      rw [if_pos rfl]
                      refine over_pure.mpr fun h => ?_
                      cases h
                      exact ⟨pairingFile, bytes, hbytes, hwrite.1 hown rfl⟩
              · exact over_pure.mpr (by simp)

/-- The device says that it is in restore mode. -/
def Restoring (t : PairTrace PairingFile) : Prop :=
  ∃ ty, ⟨.getType, some ty⟩ ∈ t ∧ ty ≠ lockdownType

theorem pairViaUsb_leaves {k : UsbMuxHandle} (hown : own (finder.join (udid ++ ".plist"))) :
    (pairViaUsb lockdown finder k raw).Over (KeepsFile own) file fun t r file' =>
      ¬ Restoring t → r = some udid → ∃ pairingFile bytes,
        lockdown.serialize (lockdown.setUdid pairingFile udid) = some bytes ∧
          file' = some bytes := by
  unfold pairViaUsb
  rw [over_bind, over_lift, over_perform]
  intro connected u _
  split
  · rw [over_bind, over_perform]
    intro ty u' _
    cases ty with
    | none => exact (pairAndStore_leaves hown).imp fun t r file' h _ => h
    | some ty =>
        dsimp only
        split
        · next hty =>
            refine over_pure.mpr fun hnot => absurd ⟨ty, ?_, hty⟩ hnot
            simp
        · exact (pairAndStore_leaves hown).imp fun t r file' h _ => h
  · exact over_pure.mpr (by simp)

theorem pairTask_leaves {k : UsbMuxHandle} {info : DeviceMeta}
    (hown : own (finder.join (udid ++ ".plist"))) :
    (pairTask lockdown finder k raw info).Over (KeepsFile own) file fun t _ file' =>
      ¬ Restoring t → .rename udid ∈ shared t → ∃ pairingFile bytes,
        lockdown.serialize (lockdown.setUdid pairingFile udid) = some bytes ∧
          file' = some bytes := by
  unfold pairTask
  rw [over_bind]
  intro t r hrun u hserved
  have hleaves := pairViaUsb_leaves hown t r hrun u hserved
  have hnil : shared t = [] := shared_eq_nil fun e he => (pairViaUsb_quiet k raw t r hrun e he).1
  cases r with
  | none =>
      refine over_perform.mpr fun answer u' _ _ hrename => ?_
      rw [shared_append, hnil] at hrename
      simp [shared, PairCall.isShared] at hrename
  | some udid' =>
      unfold registerWithManager
      dsimp only
      rw [over_bind, over_perform]
      intro answer u' hu'
      rw [over_perform]
      intro answer' u'' hu'' hnot hrename
      have hudid : udid = udid' := by
        rw [shared_append, hnil] at hrename
        simpa [shared, PairCall.isShared] using hrename
      have hkept : u'' = u := Eq.trans hu'' hu'
      rw [hkept]
      refine hleaves (fun hrestoring => hnot ?_) (hudid ▸ rfl)
      obtain ⟨ty, htype, hty⟩ := hrestoring
      exact ⟨ty, List.mem_append_left _ htype, hty⟩

/-! ### Connecting again and again -/

theorem Connects.trusts {contents : Bytes} {runs : List (ConnectRun PairingFile)}
    (hown : own (finder.join (udid ++ ".plist")))
    (hparse : (lockdown.pairingFile contents).isSome) (hmem : udid ∈ pairedCandidates raw)
    (h : Connects lockdown finder own raw (some contents) runs file')
    (hnone : ∀ c ∈ runs, NoneRefused c.calls) :
    (∀ c ∈ runs, c.AtOnce raw) ∧ file' = some contents := by
  generalize hfile : some contents = file at h
  induction h with
  | nil => exact ⟨by simp, rfl⟩
  | cons run served _ ih =>
      subst hfile
      obtain ⟨hfirst, hrest⟩ := List.forall_mem_cons.mp hnone
      obtain ⟨hr, hkept⟩ := connectDevice_trusts hown hparse hmem _ _ run _ served hfirst
      obtain ⟨hruns, hfile'⟩ := ih hrest hkept.symm
      exact ⟨List.forall_mem_cons.mpr ⟨hr, hruns⟩, hfile'.trans hkept⟩

end

/-- **A device is paired once.**  When the task has paired with a device under a form of its
serial, every later connection registers it at once, under a form of its serial, and spawns no
other task, however often it comes back, as long as the device refuses no record and the file is
left alone. -/
theorem paired_once {lockdown : Lockdown PairingFile} {finder : PairingFileFinder}
    {own : Path → Prop} {file file' file'' : Option Bytes} {udid raw : String} {k : UsbMuxHandle}
    {info : DeviceMeta} {t : PairTrace PairingFile} {runs : List (ConnectRun PairingFile)}
    (hcrate : ∀ pairingFile bytes, lockdown.serialize pairingFile = some bytes →
      (lockdown.pairingFile bytes).isSome)
    (hown : own (finder.join (udid ++ ".plist"))) (hmem : udid ∈ pairedCandidates raw)
    (hrun : (pairTask lockdown finder k raw info).Runs t ())
    (hserved : Through (KeepsFile own) file t file') (hrestoring : ¬ Restoring t)
    (hpaired : .rename udid ∈ shared t)
    (hconnects : Connects lockdown finder own raw file' runs file'')
    (hnone : ∀ c ∈ runs, NoneRefused c.calls) :
    (∀ c ∈ runs, c.AtOnce raw) ∧ file'' = file' := by
  obtain ⟨pairingFile, bytes, hbytes, rfl⟩ :=
    pairTask_leaves hown t () hrun file' hserved hrestoring hpaired
  exact hconnects.trusts hown (hcrate _ _ hbytes) hmem hnone

/-- A device that is paired when nothing is on file, and that takes its record afterwards. -/
def agreeing (onFile : Bool) : (c : PairCall Bytes) → c.Answer
  | .client (.pathExists _) => onFile
  | .client (.readToEnd _) => some [1]
  | .client c => willing [] c
  | .getType => some lockdownType
  | .getValue _ => some (.string "a")
  | .pair _ _ => some [1]
  | .startSession _ => .started
  | .send _ | .rename _ | .shutdown => ()

/-- The record of this device. -/
def recordOfA (path : Path) : Prop :=
  path = defaultFinder.join ("a" ++ ".plist")

/-- This device comes back as connection `k`. -/
def comesBack (k : UsbMuxHandle) : ConnectRun Bytes :=
  let run := (connectDevice plainLockdown defaultFinder k "a" ⟨0, 0, 0⟩).follow
    (fun _ => agreeing true) []
  ⟨k, ⟨0, 0, 0⟩, run.1, run.2.1, run.2.2⟩

theorem comesBack_served (k : UsbMuxHandle) :
    Through (KeepsFile recordOfA) (some [1]) (comesBack k).calls (some [1]) := by
  show Through (KeepsFile recordOfA) _ [⟨.client (.pathExists _), _⟩, ⟨.client (.openFile _), _⟩,
    ⟨.client (.readToEnd _), _⟩, ⟨.client (.pathExists _), _⟩, ⟨.client (.openFile _), _⟩,
    ⟨.client (.readToEnd _), _⟩, ⟨.client (.connectUsb _ _), _⟩, ⟨.getType, _⟩,
    ⟨.startSession _, _⟩, ⟨.send _, _⟩] _
  simp only [through_cons, through_nil]
  exact ⟨_, ⟨fun _ => rfl, rfl⟩, _, ⟨fun _ => rfl, rfl⟩, _, ⟨fun _ => rfl, rfl⟩, _,
    ⟨fun _ => rfl, rfl⟩, _, ⟨fun _ => rfl, rfl⟩, _, ⟨fun _ => rfl, rfl⟩, _, rfl, _, rfl, _, rfl,
    _, rfl, rfl⟩

theorem comesBack_noneRefused (k : UsbMuxHandle) : NoneRefused (comesBack k).calls := by
  intro pairingFile
  refine ⟨fun hmem => ?_, fun hmem => ?_⟩
  · cases answer_of_mem_follow hmem
  · cases answer_of_mem_follow hmem

/-- This device is paired as connection 0, and comes back twice. -/
theorem agreeing_device_is_paired_once :
    (comesBack 1).AtOnce "a" ∧ (comesBack 2).AtOnce "a" := by
  have hother : ¬ recordOfA (defaultFinder.join "SystemConfiguration.plist") := by
    unfold recordOfA
    decide
  have hpairs : Through (KeepsFile recordOfA) none ((pairTask plainLockdown defaultFinder 0 "a"
      ⟨0, 0, 0⟩).follow (fun _ => agreeing false) []).1 (some [1]) := by
    show Through (KeepsFile recordOfA) none [⟨.client (.connectUsb _ _), _⟩, ⟨.getType, _⟩,
      ⟨.getValue _, _⟩, ⟨.client (.pathExists _), _⟩, ⟨.client .newUuid, _⟩,
      ⟨.client .newUuid, _⟩, ⟨.client (.createDirAll _), _⟩, ⟨.pair _ _, _⟩,
      ⟨.client (.createDirAll _), _⟩, ⟨.client (.writeFile _ _), _⟩, ⟨.rename _, _⟩,
      ⟨.send _, _⟩] _
    simp only [through_cons, through_nil]
    exact ⟨_, rfl, _, rfl, _, rfl, _, ⟨fun h => absurd h hother, rfl⟩, _, rfl, _, rfl, _, rfl, _,
      rfl, _, rfl, _, ⟨fun _ _ => rfl, fun h => absurd rfl h⟩, _, rfl, _, rfl, rfl⟩
  have hrestoring : ¬ Restoring ((pairTask plainLockdown defaultFinder 0 "a" ⟨0, 0, 0⟩).follow
      (fun _ => agreeing false) []).1 := by
    intro hrestoring
    obtain ⟨ty, hmem, hty⟩ := hrestoring
    exact hty (Option.some.inj (answer_of_mem_follow hmem))
  have hpaired : .rename "a" ∈ shared ((pairTask plainLockdown defaultFinder 0 "a"
      ⟨0, 0, 0⟩).follow (fun _ => agreeing false) []).1 := by
    show PairCall.rename "a" ∈ [PairCall.rename "a", PairCall.send _]
    exact List.mem_cons_self
  have hown : recordOfA (defaultFinder.join ("a" ++ ".plist")) := rfl
  have hcrate (pairingFile bytes : Bytes) (_ : plainLockdown.serialize pairingFile = some bytes) :
      (plainLockdown.pairingFile bytes).isSome :=
    rfl
  have hback : Connects plainLockdown defaultFinder recordOfA "a" (some [1])
      [comesBack 1, comesBack 2] (some [1]) :=
    .cons (runs_follow (fun _ => agreeing true) [] _) (comesBack_served 1)
      (.cons (runs_follow (fun _ => agreeing true) [] _) (comesBack_served 2) .nil)
  have hnone : ∀ c ∈ [comesBack 1, comesBack 2], NoneRefused c.calls := by
    simp [comesBack_noneRefused]
  have honce := paired_once hcrate hown (by decide)
    (runs_follow (fun _ => agreeing false) [] _) hpairs hrestoring hpaired hback hnone
  exact ⟨honce.1 _ (by simp), honce.1 _ (by simp)⟩

end Netmuxd
