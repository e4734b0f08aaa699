/-
Pair-record requests and the pairing store.

Whatever a request is about, the path it uses is the store's, joined with the id and
`.plist`.  So which file is written or read is a matter of joining alone: it is the
record's own exactly if the id holds no separator.  A path that contains NUL is refused
by the operating system, and names no file.
-/
import Netmuxd.Proofs.Client

namespace Netmuxd

open Lib Talk

/-! ### The files a run uses -/

/-- A path the operating system takes. -/
def Usable (path : Path) : Option Path :=
  if nul ∈ path then none else some path

def written : Exchange ClientCall.Answer → Option Path
  | ⟨.writeFile path _, true⟩ => Usable path
  | _ => none

def opened : Exchange ClientCall.Answer → Option Path
  | ⟨.openFile path, true⟩ => Usable path
  | _ => none

def removed : Exchange ClientCall.Answer → Option Path
  | ⟨.removeFile path, .removed⟩ => Usable path
  | _ => none

/-- All files a run uses in the given way meet `P`. -/
def Uses (used : Exchange ClientCall.Answer → Option Path) (P : Path → Prop) (t : ClientTrace) :
    Prop :=
  ∀ path ∈ t.filterMap used, P path

def ClientCall.OnFile : ClientCall → Prop
  | .openFile _ | .writeFile _ _ | .removeFile _ => True
  | _ => False

/-- The components of a file of the store. -/
def PairingFileFinder.child (finder : PairingFileFinder) (name : String) : List Component :=
  Path.components finder.plistStorage.toList ++ [.normal name.toList]

section
variable {PairingFile : Type} {idevice : Idevice PairingFile} {finder : PairingFileFinder}
  {upstream : Bool} {used : Exchange ClientCall.Answer → Option Path} {P : Path → Prop}

@[simp] theorem uses_nil : Uses used P [] := by
  simp [Uses]

@[simp] theorem uses_cons {e : Exchange ClientCall.Answer} {t : ClientTrace} :
    Uses used P (e :: t) ↔ (∀ path, used e = some path → P path) ∧ Uses used P t := by
  unfold Uses
  rw [List.filterMap_cons]
  cases used e <;> simp

@[simp] theorem uses_append {t t' : ClientTrace} :
    Uses used P (t ++ t') ↔ Uses used P t ∧ Uses used P t' := by
  unfold Uses
  rw [List.filterMap_append]
  exact List.forall_mem_append

theorem usable_iff {path : Path} :
    (∀ used, Usable path = some used → P used) ↔ (nul ∉ path → P path) := by
  unfold Usable
  by_cases h : nul ∈ path <;> simp [h]

/-! ### What uses no file -/

def ClientCall.NoFile (c : ClientCall) : Prop :=
  ¬ c.OnFile

theorem uses_of_noFile {α : Type} {m : Client α}
    (hused : ∀ e path, used e = some path → e.1.OnFile) (hm : m.Only ClientCall.NoFile) :
    m.Meets fun t _ => Uses used P t := by
  refine Meets.imp hm fun t _ ht path hpath => ?_
  obtain ⟨e, he, hue⟩ := List.mem_filterMap.mp hpath
  exact absurd (hused e path hue) (ht e he)

/-- Surroundings in which everything fails. -/
def failing (_ : ClientTrace) : (c : ClientCall) → c.Answer
  | .readExact _ | .readUpstream _ | .request _ | .getDeviceConnection _ | .readToEnd _ => none
  | .removeFile _ => .failed
  | .newUuid => ""
  | .copyBidirectional | .createDirAll _ => ()
  | .writeAll _ | .removeDevice _ | .openSocket _ | .subscribe | .connectUpstream
  | .writeUpstream _ | .connectTcp _ _ | .connectUsb _ _ | .pathExists _ | .openFile _
  | .writeFile _ _ => false

/-- What uses no file does not matter. -/
theorem noFile_meets {α : Type} {m : Client α} {R : Prop}
    (hused : ∀ e path, used e = some path → e.1.OnFile) (hm : m.Only ClientCall.NoFile) :
    (m.Meets fun t _ => Uses used P t ∧ R) ↔ R := by
  constructor
  · intro h
    exact (h _ _ (runs_follow failing [] m)).2
  · intro h
    exact (uses_of_noFile hused hm).imp fun t _ ht => ⟨ht, h⟩

theorem uses_bind {α β : Type} {m : Client α} {f : α → Client β}
    (hused : ∀ e path, used e = some path → e.1.OnFile) (hf : ∀ a, (f a).Only ClientCall.NoFile) :
    ((m >>= f).Meets fun t _ => Uses used P t) ↔ m.Meets fun t _ => Uses used P t := by
  constructor
  · intro h t a hrun
    exact (uses_append.mp (h _ _ (hrun.bind (runs_follow failing [] (f a))))).1
  · intro h
    rw [meets_bind]
    exact h.imp fun t a ht => (uses_of_noFile hused (hf a)).imp fun t' _ ht' =>
      uses_append.mpr ⟨ht, ht'⟩

theorem written_onFile (e : Exchange ClientCall.Answer) (path : Path) (h : written e = some path) :
    e.1.OnFile := by
  obtain ⟨c, answer⟩ := e
  cases c <;> simp_all [written, ClientCall.OnFile]

theorem opened_onFile (e : Exchange ClientCall.Answer) (path : Path) (h : opened e = some path) :
    e.1.OnFile := by
  obtain ⟨c, answer⟩ := e
  cases c <;> simp_all [opened, ClientCall.OnFile]

theorem createParent_noFile (path : Path) : (createParent path).Only ClientCall.NoFile := by
  unfold createParent
  split
  · exact only_perform id
  · exact only_pure _

theorem readFrame_noFile : readFrame.Only ClientCall.NoFile := by
  unfold readFrame
  refine Only.bind (only_perform id) fun header => ?_
  split
  · dsimp only
    split
    · exact only_pure _
    · refine Only.bind (only_perform id) fun body => ?_
      split <;> exact only_pure _
  · exact only_pure _

theorem forwardToUpstream_noFile (request : Bytes) :
    (forwardToUpstream request).Only ClientCall.NoFile := by
  unfold forwardToUpstream
  refine Only.bind (only_perform id) fun connected => ?_
  split
  · refine Only.bind (only_perform id) fun wrote => ?_
    split
    · exact readFrame_noFile
    · exact only_pure _
  · exact only_pure _

theorem reply_noFile (frame : Bytes) : (reply frame).Only ClientCall.NoFile := by
  unfold reply
  refine Only.bind (only_perform id) fun sent => ?_
  split <;> exact only_pure _

/-- Passing a request on to upstream uses no file, and it need not work. -/
theorem forwardOr_uses (hused : ∀ e path, used e = some path → e.1.OnFile) {buffer : Bytes}
    {fallback : Client (Option ClientEnding)} :
    ((forwardOr upstream buffer fallback).Meets fun t _ => Uses used P t) ↔
      fallback.Meets fun t _ => Uses used P t := by
  unfold forwardOr
  cases upstream with
  | false => rfl
  | true =>
      rw [if_pos rfl, meets_bind]
      constructor
      · intro h
        have hdead : (forwardToUpstream buffer).Runs [⟨.connectUpstream, false⟩] none :=
          Runs.perform_bind _ (.done _)
        exact (h _ none hdead).imp fun t _ ht => (uses_append.mp ht).2
      · intro h t frame hrun
        have ht : Uses used P t :=
          uses_of_noFile hused (forwardToUpstream_noFile buffer) t frame hrun
        cases frame with
        | none => exact h.imp fun t' _ ht' => uses_append.mpr ⟨ht, ht'⟩
        | some frame =>
            exact (uses_of_noFile hused (reply_noFile frame)).imp fun t' _ ht' =>
              uses_append.mpr ⟨ht, ht'⟩

/-! ### What each function uses -/

theorem getPairingRecord_opened (udid : String) :
    ((finder.getPairingRecord idevice udid).Meets fun t _ => Uses opened P t) ↔
      (nul ∉ finder.join (udid ++ ".plist") → P (finder.join (udid ++ ".plist"))) := by
  rw [← usable_iff]
  unfold PairingFileFinder.getPairingRecord
  simp [opened]
  constructor
  · intro h
    simpa using h none
  · intro h contents
    cases contents <;> simpa using h

theorem removePairingRecord_removed (udid : String) :
    ((finder.removePairingRecord udid).Meets fun t _ => Uses removed P t) ↔
      (nul ∉ finder.join (udid ++ ".plist") → P (finder.join (udid ++ ".plist"))) := by
  rw [← usable_iff]
  unfold PairingFileFinder.removePairingRecord
  rw [meets_bind, meets_perform]
  constructor
  · intro h
    simpa [removed] using h .removed
  · intro h answer
    cases answer <;> simp [removed]
    exact h

theorem savePairRecord_written (udid : String) (deviceId : Option UInt64) (pairRecordData : Bytes)
    (tag : UInt32) :
    ((savePairRecord idevice finder (some udid) deviceId pairRecordData tag).Meets fun t _ =>
        Uses written P t) ↔
      (nul ∉ finder.join (udid ++ ".plist") → P (finder.join (udid ++ ".plist"))) := by
  have hparent := noFile_meets (P := P) (R := ∀ path, Usable (finder.join (udid ++ ".plist")) =
    some path → P path) written_onFile (createParent_noFile (finder.join (udid ++ ".plist")))
  rw [← usable_iff, ← hparent]
  unfold savePairRecord saveUdid reply
  simp [written]

theorem readPairRecord_opened (udid : String) (tag : UInt32) :
    ((readPairRecord idevice finder udid tag).Meets fun t _ => Uses opened P t) ↔
      (nul ∉ finder.join (udid ++ ".plist") → P (finder.join (udid ++ ".plist"))) := by
  rw [← getPairingRecord_opened]
  unfold readPairRecord
  refine uses_bind opened_onFile fun pairFile => ?_
  split
  · split
    · exact reply_noFile _
    · exact only_pure _
  · exact only_pure _

/-! ### The record's own file -/

theorem nul_mem_join (name : String) : nul ∈ finder.join name ↔ nul ∈ name.toList :=
  Path.mem_join finder.nulFree (by decide)

theorem join_components_iff (id : String) :
    Path.components (finder.join (id ++ ".plist")) = finder.child (id ++ ".plist") ↔
      '/' ∉ id.toList := by
  unfold PairingFileFinder.join PairingFileFinder.child
  rw [Path.components_join_iff _ (Path.piece_of_length (by simp))]
  simp

theorem append_plist_inj (id id' : String) : id ++ ".plist" = id' ++ ".plist" ↔ id = id' := by
  rw [← String.toList_inj, ← String.toList_inj]
  simp

theorem child_inj {name name' : String} :
    finder.child name = finder.child name' ↔ name = name' := by
  unfold PairingFileFinder.child
  simp [String.toList_inj]

end

/-- A request's record: the file of the store that is named after the id. -/
def PairingFileFinder.IsRecord (finder : PairingFileFinder) (id : String) (path : Path) : Prop :=
  path.components = finder.child (id ++ ".plist")

def PairingFileFinder.IsIdentity (finder : PairingFileFinder) (path : Path) : Prop :=
  path.components = finder.child "SystemConfiguration.plist"

/-- **Pair records stay in the store** exactly for ids without a separator, and saving one
leaves the host's identity alone exactly for ids that are not its name.  An id with NUL
names no file. -/
theorem pair_records_stay_inside {PairingFile : Type} (idevice : Idevice PairingFile)
    (finder : PairingFileFinder) (upstream : Bool) (buffer : Bytes) (tag : UInt32) (id : String)
    (deviceId : Option UInt64) (pairRecordData : Bytes) :
    (((serve idevice finder upstream buffer tag
        (.savePairRecord (some id) deviceId pairRecordData)).Meets fun t _ =>
          Uses written (fun path => finder.IsRecord id path ∧ ¬ finder.IsIdentity path) t) ↔
      nul ∈ id.toList ∨ '/' ∉ id.toList ∧ id ≠ "SystemConfiguration") ∧
    (((serve idevice finder upstream buffer tag (.readPairRecord id)).Meets fun t _ =>
          Uses opened (finder.IsRecord id) t) ↔
      nul ∈ id.toList ∨ '/' ∉ id.toList) ∧
    (((finder.removePairingRecord id).Meets fun t _ => Uses removed (finder.IsRecord id) t) ↔
      nul ∈ id.toList ∨ '/' ∉ id.toList) := by
  have hnul : nul ∈ finder.join (id ++ ".plist") ↔ nul ∈ id.toList := by
    rw [nul_mem_join]
    simp [nul]
  have hown : finder.IsRecord id (finder.join (id ++ ".plist")) ↔ '/' ∉ id.toList :=
    join_components_iff id
  have hidentity (h : finder.IsRecord id (finder.join (id ++ ".plist"))) :
      finder.IsIdentity (finder.join (id ++ ".plist")) ↔ id = "SystemConfiguration" := by
    unfold PairingFileFinder.IsIdentity
    rw [h, child_inj]
    exact append_plist_inj id "SystemConfiguration"
  refine ⟨?_, ?_, ?_⟩
  · unfold serve
    rw [forwardOr_uses written_onFile, savePairRecord_written, hnul]
    by_cases hslash : '/' ∈ id.toList
    · simp [hown, hslash]
    · simp only [hown, hidentity (hown.mpr hslash), hslash, not_false_eq_true, true_and]
      exact or_iff_not_imp_left.symm
  · unfold serve
    rw [forwardOr_uses opened_onFile, readPairRecord_opened, hnul, hown]
    exact or_iff_not_imp_left.symm
  · rw [removePairingRecord_removed, hnul, hown]
    exact or_iff_not_imp_left.symm

/-- Surroundings in which everything works. -/
def willing (_ : ClientTrace) : (c : ClientCall) → c.Answer
  | .readExact n | .readUpstream n => some (Vector.replicate n 0)
  | .request _ => some []
  | .getDeviceConnection _ => some none
  | .readToEnd _ => some []
  | .removeFile _ => .removed
  | .newUuid => ""
  | .copyBidirectional | .createDirAll _ => ()
  | .writeAll _ | .removeDevice _ | .openSocket _ | .subscribe | .connectUpstream
  | .writeUpstream _ | .connectTcp _ _ | .connectUsb _ _ | .pathExists _ | .openFile _
  | .writeFile _ _ => true

/-- An absolute id names a file anywhere, one with dots leaves the store, and one names the
host's identity. -/
theorem pair_record_id_escapes :
    (∃ t ending, (serve plainIdevice defaultFinder false [] 7
        (.savePairRecord (some "/etc/passwd") none [])).Runs t ending ∧
      t.filterMap written = ["/etc/passwd.plist".toList] ∧
      ¬ defaultFinder.IsRecord "/etc/passwd" "/etc/passwd.plist".toList) ∧
    (∃ t ending, (serve plainIdevice defaultFinder false [] 7
        (.savePairRecord (some "SystemConfiguration") none [])).Runs t ending ∧
      t.filterMap written = ["/var/lib/lockdown/SystemConfiguration.plist".toList] ∧
      defaultFinder.IsIdentity "/var/lib/lockdown/SystemConfiguration.plist".toList) ∧
    (∃ t ending, (serve plainIdevice defaultFinder false [] 7
        (.readPairRecord "../x")).Runs t ending ∧
      t.filterMap opened = ["/var/lib/lockdown/../x.plist".toList] ∧
      ¬ defaultFinder.IsRecord "../x" "/var/lib/lockdown/../x.plist".toList) :=
  ⟨⟨_, _, runs_follow willing [] _, by decide, by unfold PairingFileFinder.IsRecord; decide⟩,
    ⟨_, _, runs_follow willing [] _, by decide, by unfold PairingFileFinder.IsIdentity; decide⟩,
    ⟨_, _, runs_follow willing [] _, by decide, by unfold PairingFileFinder.IsRecord; decide⟩⟩

end Netmuxd
