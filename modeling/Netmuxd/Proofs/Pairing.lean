/-
What connecting to a device comes to.

A run of `connect_device` ends in one of three ways: the device is registered under a UDID whose
record has been read, or no record could be read, or the record that was read has been removed
after the device refused it.  In the last two a task is spawned, and a run of it either
registers the device or shuts its mux task down.  All of this is read off the calls of a run
and their answers, whatever these are.
-/
import Netmuxd.Daemon.Pairing
import Netmuxd.Proofs.PairRecords

namespace Netmuxd

open Lib Talk

variable {PairingFile : Type}

abbrev PairTrace (PairingFile : Type) :=
  List (Exchange (@PairCall.Answer PairingFile))

/-! ### What is seen of a run -/

/-- Calls that others notice. -/
def PairCall.isShared : PairCall PairingFile → Bool
  | .send _ | .rename _ | .shutdown => true
  | _ => false

def PairCall.removes : PairCall PairingFile → Bool
  | .client (.removeFile _) => true
  | _ => false

def PairCall.writes : PairCall PairingFile → Bool
  | .client (.writeFile _ _) => true
  | _ => false

def shared (t : PairTrace PairingFile) : List (PairCall PairingFile) :=
  (t.map fun e => e.1).filter PairCall.isShared

/-- Nothing that others notice is done, and no file is removed. -/
def PairCall.Quiet (c : PairCall PairingFile) : Prop :=
  c.isShared = false ∧ c.removes = false

/-- No file is written either. -/
def PairCall.Looks (c : PairCall PairingFile) : Prop :=
  c.isShared = false ∧ c.removes = false ∧ c.writes = false

@[simp] theorem shared_nil : shared ([] : PairTrace PairingFile) = [] := rfl

@[simp] theorem shared_append (t t' : PairTrace PairingFile) :
    shared (t ++ t') = shared t ++ shared t' := by
  simp [shared]

/-- Calls that get the host's identity. -/
def ClientCall.ForIdentity (finder : PairingFileFinder) : ClientCall → Prop
  | .pathExists path | .openFile path | .readToEnd path | .writeFile path _ =>
    path = finder.join "SystemConfiguration.plist"
  | .createDirAll _ | .newUuid => True
  | _ => False

theorem shared_eq_nil {t : PairTrace PairingFile} (h : ∀ e ∈ t, e.1.isShared = false) :
    shared t = [] := by
  apply List.filter_eq_nil_iff.mpr
  intro c hc
  obtain ⟨e, he, rfl⟩ := List.mem_map.mp hc
  simp [h e he]

section
variable (lockdown : Lockdown PairingFile) (finder : PairingFileFinder)

/-- The record of this UDID has been read. -/
def HasRead (t : PairTrace PairingFile) (udid : String) (pairingFile : PairingFile) : Prop :=
  ∃ contents, ⟨.client (.readToEnd (finder.join (udid ++ ".plist"))), some contents⟩ ∈ t ∧
    lockdown.pairingFile contents = some pairingFile

/-- What has been read, if anything has, is no record. -/
def NoRecord : Exchange (@PairCall.Answer PairingFile) → Prop
  | ⟨.client (.readToEnd _), some contents⟩ => lockdown.pairingFile contents = none
  | _ => True

def NothingRead (t : PairTrace PairingFile) : Prop :=
  ∀ e ∈ t, NoRecord lockdown e

/-- The device, which could have taken the record of this UDID, has refused it. -/
structure Refused (t : PairTrace PairingFile) (udid : String) : Prop where
  lockdownType : ⟨.getType, some lockdownType⟩ ∈ t
  refused : ∃ pairingFile, HasRead lockdown finder t udid pairingFile ∧
    (⟨.startSession pairingFile, .invalidHostId⟩ ∈ t ∨ ⟨.startSession pairingFile, .rustls⟩ ∈ t)

/-- How looking for a record to trust ends. -/
inductive Looked (raw : String) : PairTrace PairingFile → Option String → Prop
  | found {t udid} (looks : ∀ e ∈ t, e.1.Looks) (candidate : udid ∈ pairedCandidates raw)
      (read : ∃ pairingFile, HasRead lockdown finder t udid pairingFile) : Looked raw t (some udid)
  | missing {t} (looks : ∀ e ∈ t, e.1.Looks) (nothing : NothingRead lockdown t) :
      Looked raw t none
  /-- The record is removed last, after the device has refused it. -/
  | refused {t udid} (looks : ∀ e ∈ t, e.1.Looks) (candidate : udid ∈ pairedCandidates raw)
      (refused : Refused lockdown finder t udid) (answer : RemoveFile) :
      Looked raw (t ++ [⟨.client (.removeFile (finder.join (udid ++ ".plist"))), answer⟩]) none

/-- A record has been written under the UDID that the device told, or under the one its serial
makes. -/
structure Stored (raw : String) (t : PairTrace PairingFile) (udid : String) : Prop where
  told : ⟨.getValue "UniqueDeviceID", some (.string udid)⟩ ∈ t ∨
    ⟨.getValue "UniqueDeviceID", none⟩ ∈ t ∧ udid = synthesizeUdid raw
  written : ∃ hostId systemBuid pairingFile bytes,
    ⟨.pair hostId systemBuid, some pairingFile⟩ ∈ t ∧
    lockdown.serialize (lockdown.setUdid pairingFile udid) = some bytes ∧
    ⟨.client (.writeFile (finder.join (udid ++ ".plist")) bytes), true⟩ ∈ t

/-- The entry in `known` gets the UDID, and the device is registered under it. -/
def registers (k : UsbMuxHandle) (udid : String) (info : DeviceMeta) : PairTrace PairingFile :=
  [⟨.rename udid, ()⟩, ⟨.send (.discovered k udid info), ()⟩]

/-- How the task that pairs ends, after all that others do not notice: the device is in restore
mode and is exposed as it is, or a record for it has been written, or it is given up. -/
inductive TaskEnding (k : UsbMuxHandle) (raw : String) (info : DeviceMeta) :
    PairTrace PairingFile → Prop
  | exposed {t ty} (quiet : ∀ e ∈ t, e.1.Quiet) (type : ⟨.getType, some ty⟩ ∈ t)
      (ne : ty ≠ lockdownType) (keeps : ∀ e ∈ t, e.1.writes = false) :
      TaskEnding k raw info (t ++ registers k (synthesizeUdid raw) info)
  | paired {t udid} (quiet : ∀ e ∈ t, e.1.Quiet) (stored : Stored lockdown finder raw t udid) :
      TaskEnding k raw info (t ++ registers k udid info)
  | shutdown {t} (quiet : ∀ e ∈ t, e.1.Quiet) : TaskEnding k raw info (t ++ [⟨.shutdown, ()⟩])

end

section
variable {lockdown : Lockdown PairingFile} {finder : PairingFileFinder}
  {t t' : PairTrace PairingFile} {udid raw : String} {k : UsbMuxHandle} {info : DeviceMeta}

theorem HasRead.left {pairingFile : PairingFile} (h : HasRead lockdown finder t udid pairingFile) :
    HasRead lockdown finder (t ++ t') udid pairingFile := by
  obtain ⟨contents, hread, hparse⟩ := h
  exact ⟨contents, List.mem_append_left _ hread, hparse⟩

theorem HasRead.right {pairingFile : PairingFile}
    (h : HasRead lockdown finder t' udid pairingFile) :
    HasRead lockdown finder (t ++ t') udid pairingFile := by
  obtain ⟨contents, hread, hparse⟩ := h
  exact ⟨contents, List.mem_append_right _ hread, hparse⟩

theorem Refused.right (h : Refused lockdown finder t' udid) :
    Refused lockdown finder (t ++ t') udid := by
  obtain ⟨htype, pairingFile, hread, hsession⟩ := h
  exact ⟨List.mem_append_right _ htype, pairingFile, hread.right,
    hsession.imp (List.mem_append_right _) (List.mem_append_right _)⟩

theorem nothingRead_nil : NothingRead lockdown [] := by
  intro e he
  cases he

theorem nothingRead_cons {e : Exchange (@PairCall.Answer PairingFile)} :
    NothingRead lockdown (e :: t) ↔ NoRecord lockdown e ∧ NothingRead lockdown t :=
  List.forall_mem_cons

theorem NothingRead.append (h : NothingRead lockdown t) (h' : NothingRead lockdown t') :
    NothingRead lockdown (t ++ t') :=
  List.forall_mem_append.mpr ⟨h, h'⟩

/-! ### Looking for a record -/

theorem getPairingRecord_looks (udid : String) :
    (PairTask.client (finder.getPairingRecord lockdown.toIdevice udid) :
      PairTask PairingFile _).Only PairCall.Looks := by
  unfold PairingFileFinder.getPairingRecord
  refine only_lift.mpr (Only.bind (only_perform ⟨rfl, rfl, rfl⟩) fun present => ?_)
  split
  · refine Only.bind (only_perform ⟨rfl, rfl, rfl⟩) fun opened => ?_
    split
    · refine Only.bind (only_perform ⟨rfl, rfl, rfl⟩) fun contents => ?_
      cases contents <;> exact only_pure _
    · exact only_pure _
  · exact only_pure _

/-- A record that is found has been read, and if none is found nothing that was read is one. -/
theorem getPairingRecord_reads (udid : String) :
    (PairTask.client (finder.getPairingRecord lockdown.toIdevice udid) :
      PairTask PairingFile _).Meets fun t r =>
      match r with
      | some pairingFile => HasRead lockdown finder t udid pairingFile
      | none => NothingRead lockdown t := by
  unfold PairingFileFinder.getPairingRecord
  rw [meets_lift, meets_bind, meets_perform]
  intro present
  split
  · rw [meets_bind, meets_perform]
    intro opened
    split
    · rw [meets_bind, meets_perform]
      intro contents
      cases contents with
      | none =>
          exact meets_pure.mpr (nothingRead_cons.mpr ⟨trivial, nothingRead_cons.mpr
            ⟨trivial, nothingRead_cons.mpr ⟨trivial, nothingRead_nil⟩⟩⟩)
      | some contents =>
          refine meets_pure.mpr ?_
          cases hparse : lockdown.pairingFile contents with
          | none =>
              exact nothingRead_cons.mpr ⟨trivial, nothingRead_cons.mpr
                ⟨trivial, nothingRead_cons.mpr ⟨hparse, nothingRead_nil⟩⟩⟩
          | some pairingFile =>
              exact ⟨contents, .tail _ (.tail _ (.head _)), hparse⟩
    · exact meets_pure.mpr (nothingRead_cons.mpr ⟨trivial, nothingRead_cons.mpr
        ⟨trivial, nothingRead_nil⟩⟩)
  · exact meets_pure.mpr (nothingRead_cons.mpr ⟨trivial, nothingRead_nil⟩)

theorem firstPaired_looks (udids : List String) :
    (PairTask.client (finder.firstPaired lockdown udids) :
      PairTask PairingFile _).Only PairCall.Looks := by
  induction udids with
  | nil => exact only_lift.mpr (only_pure _)
  | cons udid rest ih =>
      unfold PairingFileFinder.firstPaired
      refine only_lift.mpr (Only.bind (only_lift.mp (getPairingRecord_looks udid)) fun r => ?_)
      cases r with
      | some pairingFile => exact only_pure _
      | none => exact only_lift.mp ih

theorem firstPaired_reads (udids : List String) :
    (PairTask.client (finder.firstPaired lockdown udids) : PairTask PairingFile _).Meets
      fun t r =>
        match r with
        | some udid => udid ∈ udids ∧ ∃ pairingFile, HasRead lockdown finder t udid pairingFile
        | none => NothingRead lockdown t := by
  induction udids with
  | nil => exact meets_lift.mpr (meets_pure.mpr nothingRead_nil)
  | cons udid rest ih =>
      unfold PairingFileFinder.firstPaired
      rw [meets_lift] at ih ⊢
      rw [meets_bind]
      refine Meets.imp (meets_lift.mp (getPairingRecord_reads udid)) fun t r hr => ?_
      cases r with
      | some pairingFile =>
          refine meets_pure.mpr ⟨List.mem_cons_self, pairingFile, ?_⟩
          rw [List.append_nil]
          exact hr
      | none =>
          refine Meets.imp ih fun t' r hr' => ?_
          rw [List.map_append]
          cases r with
          | some udid' =>
              obtain ⟨hmem, pairingFile, hread'⟩ := hr'
              exact ⟨List.mem_cons_of_mem _ hmem, pairingFile, hread'.right⟩
          | none => exact hr.append hr'

/-! ### Trying a record out -/

theorem checkPairingRecord_looks (k : UsbMuxHandle) (udid : String) :
    (checkPairingRecord lockdown finder k udid).Only PairCall.Looks := by
  unfold checkPairingRecord
  refine Only.bind (getPairingRecord_looks udid) fun r => ?_
  cases r with
  | none => exact only_pure _
  | some pairingFile =>
      refine Only.bind (only_lift.mpr (only_perform ⟨rfl, rfl, rfl⟩)) fun connected => ?_
      split
      · refine Only.bind (only_perform ⟨rfl, rfl, rfl⟩) fun ty => ?_
        cases ty with
        | none => exact only_pure _
        | some ty =>
            dsimp only
            split
            · exact only_pure _
            · refine Only.bind (only_perform ⟨rfl, rfl, rfl⟩) fun session => ?_
              cases session <;> exact only_pure _
      · exact only_pure _

theorem checkPairingRecord_refuses (k : UsbMuxHandle) (udid : String) :
    (checkPairingRecord lockdown finder k udid).Meets fun t r =>
      r = .stale → Refused lockdown finder t udid := by
  unfold checkPairingRecord
  rw [meets_bind]
  refine Meets.imp (getPairingRecord_reads udid) fun t r hr => ?_
  cases r with
  | none => simp
  | some pairingFile =>
      dsimp only
      rw [meets_bind, meets_lift, meets_perform]
      intro connected
      split
      · rw [meets_bind, meets_perform]
        intro ty
        cases ty with
        | none => simp
        | some ty =>
            dsimp only
            split
            · simp
            · next hty =>
                rw [meets_bind, meets_perform]
                intro session
                have hrefused (hsession : session = .invalidHostId ∨ session = .rustls) :
                    Refused lockdown finder
                      (t ++ ([⟨.client (.connectUsb k lockdown.lockdowndPort), connected⟩] ++
                        ([⟨.getType, some ty⟩] ++ ([⟨.startSession pairingFile, session⟩] ++ []))))
                      udid := by
                  rw [ne_eq, not_not] at hty
                  refine ⟨by simp [hty], pairingFile, HasRead.left hr, ?_⟩
                  rcases hsession with rfl | rfl <;> simp
                cases session with
                | started => simp
                | invalidHostId =>
                    rw [meets_pure]
                    exact fun _ => hrefused (Or.inl rfl)
                | rustls =>
                    rw [meets_pure]
                    exact fun _ => hrefused (Or.inr rfl)
                | failed => simp
      · simp

theorem validatedUdid_looks (k : UsbMuxHandle) (raw : String) :
    (validatedUdid lockdown finder k raw).Meets (Looked lockdown finder raw) := by
  unfold validatedUdid resolvePairedUdid
  rw [meets_bind]
  intro t r hfirst
  have hlooks := firstPaired_looks _ t r hfirst
  have hr := firstPaired_reads _ t r hfirst
  cases r with
  | none =>
      rw [meets_pure, List.append_nil]
      exact .missing hlooks hr
  | some udid =>
      obtain ⟨hcandidate, pairingFile, hread⟩ := hr
      dsimp only
      rw [meets_bind]
      intro t' check hrun
      have hrefused := checkPairingRecord_refuses k udid t' check hrun
      have hlooks' : ∀ e ∈ t ++ t', e.1.Looks :=
        List.forall_mem_append.mpr ⟨hlooks, checkPairingRecord_looks k udid t' check hrun⟩
      have hfound : Looked lockdown finder raw (t ++ (t' ++ [])) (some udid) := by
        rw [List.append_nil]
        exact .found hlooks' hcandidate ⟨pairingFile, hread.left⟩
      cases check with
      | valid => exact meets_pure.mpr hfound
      | unknown => exact meets_pure.mpr hfound
      | stale =>
          unfold PairingFileFinder.removePairingRecord
          dsimp only
          rw [meets_bind, meets_lift, meets_bind, meets_perform]
          intro answer
          have hlooked : Looked lockdown finder raw
              (t ++ (t' ++ [⟨.client (.removeFile (finder.join (udid ++ ".plist"))), answer⟩]))
              none := by
            rw [← List.append_assoc]
            exact .refused hlooks' hcandidate (hrefused rfl).right answer
          cases answer <;> exact meets_pure.mpr (meets_pure.mpr hlooked)

/-! ### Pairing -/

theorem identityField_only (plist : Dictionary) (key : String) :
    (PairingFileFinder.identityField plist key).Only (ClientCall.ForIdentity finder) := by
  unfold PairingFileFinder.identityField
  split
  · exact only_pure _
  · exact Only.bind (only_perform trivial) fun _ => only_pure _

theorem persistIdentity_only (plist : Dictionary) :
    (finder.persistIdentity lockdown.toIdevice plist).Only (ClientCall.ForIdentity finder) := by
  unfold PairingFileFinder.persistIdentity
  refine Only.bind ?_ fun _ => ?_
  · unfold createParent
    split
    · exact only_perform trivial
    · exact only_pure _
  · split
    · exact only_pure _
    · exact Only.bind (only_perform rfl) fun _ => only_pure _

theorem readIdentity_only :
    (finder.readIdentity lockdown.toIdevice).Only (ClientCall.ForIdentity finder) := by
  unfold PairingFileFinder.readIdentity
  refine Only.bind (only_perform rfl) fun present => ?_
  split
  · refine Only.bind (only_perform rfl) fun opened => ?_
    split
    · refine Only.bind (only_perform rfl) fun contents => ?_
      cases contents <;> exact only_pure _
    · exact only_pure _
  · exact only_pure _

theorem getHostIdentity_only :
    (finder.getHostIdentity lockdown.toIdevice).Only (ClientCall.ForIdentity finder) := by
  unfold PairingFileFinder.getHostIdentity
  refine Only.bind readIdentity_only fun plist => ?_
  cases plist with
  | none => exact only_pure _
  | some plist =>
      refine Only.bind (identityField_only _ _) fun hostId => ?_
      refine Only.bind (identityField_only _ _) fun systemBuid => ?_
      dsimp only
      split
      · exact Only.bind (persistIdentity_only _) fun _ => only_pure _
      · exact only_pure _

theorem getHostIdentity_quiet :
    (finder.getHostIdentity lockdown.toIdevice).Only fun c =>
      (PairCall.client c : PairCall PairingFile).Quiet := by
  refine Meets.imp getHostIdentity_only fun t _ ht e he => ⟨rfl, ?_⟩
  have hidentity := ht e he
  cases hcall : e.1 <;> rw [hcall] at hidentity <;> first | rfl | exact hidentity.elim

theorem createParent_quiet' (path : Path) : (createParent path).Only fun c =>
    (PairCall.client c : PairCall PairingFile).Quiet := by
  unfold createParent
  split
  · exact only_perform ⟨rfl, rfl⟩
  · exact only_pure _

theorem canonicalUdid_quiet (raw : String) :
    (canonicalUdid raw : PairTask PairingFile _).Only PairCall.Quiet := by
  unfold canonicalUdid
  refine Only.bind (only_perform ⟨rfl, rfl⟩) fun v => ?_
  cases v <;> exact only_pure _

theorem pairAndStore_quiet (raw : String) :
    (pairAndStore lockdown finder raw).Only PairCall.Quiet := by
  unfold pairAndStore
  refine Only.bind (canonicalUdid_quiet raw) fun udid => ?_
  cases udid with
  | none => exact only_pure _
  | some udid =>
      refine Only.bind (only_lift.mpr getHostIdentity_quiet) fun identity => ?_
      cases identity with
      | none => exact only_pure _
      | some identity =>
          refine Only.bind (only_perform ⟨rfl, rfl⟩) fun pairingFile => ?_
          cases pairingFile with
          | none => exact only_pure _
          | some pairingFile =>
              dsimp only
              split
              · refine Only.bind (only_lift.mpr (createParent_quiet' _)) fun _ => ?_
                refine Only.bind (only_lift.mpr (only_perform ⟨rfl, rfl⟩)) fun written => ?_
                split <;> exact only_pure _
              · exact only_pure _

theorem pairViaUsb_quiet (k : UsbMuxHandle) (raw : String) :
    (pairViaUsb lockdown finder k raw).Only PairCall.Quiet := by
  unfold pairViaUsb
  refine Only.bind (only_lift.mpr (only_perform ⟨rfl, rfl⟩)) fun connected => ?_
  split
  · refine Only.bind (only_perform ⟨rfl, rfl⟩) fun ty => ?_
    cases ty with
    | none => exact pairAndStore_quiet raw
    | some ty =>
        dsimp only
        split
        · exact only_pure _
        · exact pairAndStore_quiet raw
  · exact only_pure _

theorem canonicalUdid_told (raw : String) :
    (canonicalUdid raw : PairTask PairingFile _).Meets fun t r => ∀ udid, r = some udid →
      ⟨.getValue "UniqueDeviceID", some (.string udid)⟩ ∈ t ∨
        ⟨.getValue "UniqueDeviceID", none⟩ ∈ t ∧ udid = synthesizeUdid raw := by
  unfold canonicalUdid
  rw [meets_bind, meets_perform]
  intro v
  cases v with
  | none =>
      rw [meets_pure]
      intro udid hudid
      exact Or.inr ⟨by simp, (Option.some.inj hudid).symm⟩
  | some v =>
      rw [meets_pure]
      intro udid hudid
      cases v <;> simp_all [Value.asString]

theorem pairAndStore_stores (raw : String) :
    (pairAndStore lockdown finder raw).Meets fun t r => ∀ udid, r = some udid →
      Stored lockdown finder raw t udid := by
  unfold pairAndStore
  rw [meets_bind]
  refine Meets.imp (canonicalUdid_told raw) fun t r htold => ?_
  cases r with
  | none => simp
  | some udid =>
      have htold := htold udid rfl
      dsimp only
      rw [meets_bind]
      intro t' identity _
      cases identity with
      | none => simp
      | some identity =>
          dsimp only
          rw [meets_bind, meets_perform]
          intro pairingFile
          cases pairingFile with
          | none => simp
          | some pairingFile =>
              dsimp only
              split
              · next bytes hbytes =>
                  rw [meets_bind]
                  intro t'' _ _
                  rw [meets_bind, meets_lift, meets_perform]
                  intro written
                  cases written with
                  | false => simp
                  | true =>
                      rw [if_pos rfl, meets_pure]
                      intro udid' hudid
                      cases hudid
                      refine ⟨htold.imp ?_ ?_, identity.1, identity.2, pairingFile, bytes, ?_,
                        hbytes, ?_⟩
                      · intro h
                        simp [h]
                      · intro ⟨h, heq⟩
                        exact ⟨List.mem_append_left _ h, heq⟩
                      · simp
                      · simp [Embedding.exchange, PairTask.fileCalls]
              · simp

theorem Stored.mono (h : Stored lockdown finder raw t udid) (hsub : t ⊆ t') :
    Stored lockdown finder raw t' udid := by
  obtain ⟨htold, hostId, systemBuid, pairingFile, bytes, hpair, hbytes, hwritten⟩ := h
  exact ⟨htold.imp (hsub ·) fun h => ⟨hsub h.1, h.2⟩, hostId, systemBuid, pairingFile, bytes,
    hsub hpair, hbytes, hsub hwritten⟩

theorem Stored.right (h : Stored lockdown finder raw t' udid) :
    Stored lockdown finder raw (t ++ t') udid :=
  h.mono (List.subset_append_right t t')

theorem pairViaUsb_stores (k : UsbMuxHandle) (raw : String) :
    (pairViaUsb lockdown finder k raw).Meets fun t r => ∀ udid, r = some udid →
      udid = synthesizeUdid raw ∧ (∀ e ∈ t, e.1.writes = false) ∧
        (∃ ty, ⟨.getType, some ty⟩ ∈ t ∧ ty ≠ lockdownType) ∨
      Stored lockdown finder raw t udid := by
  unfold pairViaUsb
  rw [meets_bind, meets_lift, meets_perform]
  intro connected
  cases connected with
  | false => simp
  | true =>
      rw [if_pos rfl, meets_bind, meets_perform]
      intro ty
      cases ty with
      | none =>
          exact Meets.imp (pairAndStore_stores raw) fun t r h udid hr =>
            Or.inr (h udid hr).right.right
      | some ty =>
          dsimp only
          split
          · next hty =>
              rw [meets_pure]
              intro udid hudid
              cases hudid
              refine Or.inl ⟨rfl, ?_, ty, by simp, hty⟩
              simp [Embedding.exchange, PairTask.fileCalls, PairCall.writes]
          · exact Meets.imp (pairAndStore_stores raw) fun t r h udid hr =>
              Or.inr (h udid hr).right.right

theorem pairTask_ends (k : UsbMuxHandle) (raw : String) (info : DeviceMeta) :
    (pairTask lockdown finder k raw info).Meets fun t _ =>
      TaskEnding lockdown finder k raw info t ∧ ∀ e ∈ t, e.1.removes = false := by
  unfold pairTask
  rw [meets_bind]
  intro t r hrun
  have hquiet := pairViaUsb_quiet k raw t r hrun
  have hkeeps : ∀ e ∈ t, e.1.removes = false := fun e he => (hquiet e he).2
  cases r with
  | none =>
      rw [meets_perform]
      intro answer
      exact ⟨.shutdown hquiet, List.forall_mem_append.mpr ⟨hkeeps, by simp [PairCall.removes]⟩⟩
  | some udid =>
      unfold registerWithManager
      dsimp only
      rw [meets_bind, meets_perform]
      intro answer
      rw [meets_perform]
      intro answer'
      refine ⟨?_, List.forall_mem_append.mpr ⟨hkeeps, by simp [PairCall.removes]⟩⟩
      rcases pairViaUsb_stores k raw t _ hrun udid rfl with ⟨rfl, hwrites, ty, htype, hty⟩ | hstored
      · exact .exposed hquiet htype hty hwrites
      · exact .paired hquiet hstored

/-- What others notice of the task. -/
theorem TaskEnding.shared (h : TaskEnding lockdown finder k raw info t) :
    shared t = [.shutdown] ∨
      ∃ udid, shared t = [.rename udid, .send (.discovered k udid info)] := by
  cases h with
  | exposed quiet =>
      refine Or.inr ⟨synthesizeUdid raw, ?_⟩
      rw [shared_append, shared_eq_nil fun e he => (quiet e he).1]
      rfl
  | @paired t udid quiet =>
      refine Or.inr ⟨udid, ?_⟩
      rw [shared_append, shared_eq_nil fun e he => (quiet e he).1]
      rfl
  | shutdown quiet =>
      refine Or.inl ?_
      rw [shared_append, shared_eq_nil fun e he => (quiet e he).1]
      rfl

/-- How `connect_device` ends. -/
theorem connectDevice_looks (k : UsbMuxHandle) (raw : String) (info : DeviceMeta) :
    (connectDevice lockdown finder k raw info).Meets fun t r =>
      (∃ udid t', r = (udid, none) ∧ Looked lockdown finder raw t' (some udid) ∧
        t = t' ++ [⟨.send (.discovered k udid info), ()⟩]) ∨
      (r = (raw, some (pairTask lockdown finder k raw info)) ∧
        Looked lockdown finder raw t none) := by
  unfold connectDevice
  rw [meets_bind]
  refine Meets.imp (validatedUdid_looks k raw) fun t r hlooked => ?_
  cases r with
  | none =>
      rw [meets_pure, List.append_nil]
      exact Or.inr ⟨rfl, hlooked⟩
  | some udid =>
      unfold registerWithManager
      dsimp only
      rw [meets_bind, meets_perform]
      intro answer
      rw [meets_pure, List.append_nil]
      exact Or.inl ⟨udid, t, rfl, hlooked, rfl⟩

end

/-- **Connecting to a device.**  It is registered at once, under a UDID whose record has been
read, or a task that pairs with it is spawned.  A record is removed only after the device has
refused it.  The task ends by registering the device, its record having been written before or
the device being in restore mode, or by shutting its mux task down; it removes nothing. -/
theorem connect_device_settles (lockdown : Lockdown PairingFile) (finder : PairingFileFinder)
    (k : UsbMuxHandle) (raw : String) (info : DeviceMeta) :
    ((connectDevice lockdown finder k raw info).Meets fun t r =>
      (∃ udid t', r = (udid, none) ∧ Looked lockdown finder raw t' (some udid) ∧
        t = t' ++ [⟨.send (.discovered k udid info), ()⟩]) ∨
      (r = (raw, some (pairTask lockdown finder k raw info)) ∧
        Looked lockdown finder raw t none)) ∧
    ((pairTask lockdown finder k raw info).Meets fun t _ =>
      TaskEnding lockdown finder k raw info t ∧ ∀ e ∈ t, e.1.removes = false) :=
  ⟨connectDevice_looks k raw info, pairTask_ends k raw info⟩

/-- An idevice that pairs without putting the UDID in the record. -/
def plainLockdown : Lockdown Bytes :=
  { plainIdevice with setUdid := fun pairingFile _ => pairingFile, lockdowndPort := 62078 }

end Netmuxd
