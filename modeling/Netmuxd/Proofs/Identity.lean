/-
The host identity among concurrent callers.

A call decides what the identity is when it looks: it finds the file absent, or reads it.
If a field is missing then, the call makes it up and writes the file, and until it has,
the file is not what any other call should look at.  As long as none does, the file is
rewritten by one call at most, and all others read what that one has written.
-/
import Netmuxd.Daemon.Identity
import Netmuxd.Proofs.Client

namespace Netmuxd

open Lib Talk

/-! ### Dictionaries -/

section
variable {p : Dictionary} {key key' : String} {value : Value}

theorem lookup_replace_self (h : p.any (fun e => e.1 = key) = true) :
    (p.map fun e => if e.1 = key then (key, value) else e).lookup key = some value := by
  induction p with
  | nil => cases h
  | cons e rest ih =>
      rw [List.map_cons]
      by_cases he : e.1 = key
      · rw [if_pos he]
        exact List.lookup_cons_self
      · rw [if_neg he, List.lookup_cons, beq_false_of_ne (Ne.symm he)]
        exact ih (by simpa [he] using h)

theorem lookup_replace_of_ne (h : key' ≠ key) :
    (p.map fun e => if e.1 = key then (key, value) else e).lookup key' = p.lookup key' := by
  induction p with
  | nil => rfl
  | cons e rest ih =>
      rw [List.map_cons]
      by_cases he : e.1 = key
      · rw [if_pos he, List.lookup_cons, List.lookup_cons, he, beq_false_of_ne h]
        exact ih
      · rw [if_neg he, List.lookup_cons, List.lookup_cons, ih]

theorem get_insert_self : (p.insert key value).get key = some value := by
  unfold Dictionary.insert Dictionary.get
  split
  · rename_i hany
    exact lookup_replace_self hany
  · rename_i hnone
    have hnew : p.lookup key = none := by
      rw [List.lookup_eq_none_iff]
      intro e he
      have hne : ¬ e.1 = key := fun heq => hnone (List.any_eq_true.mpr ⟨e, he, by simpa using heq⟩)
      simpa using Ne.symm hne
    rw [List.lookup_append, hnew, Option.none_or]
    exact List.lookup_cons_self

theorem get_insert_of_ne (h : key' ≠ key) : (p.insert key value).get key' = p.get key' := by
  unfold Dictionary.insert Dictionary.get
  split
  · exact lookup_replace_of_ne h
  · rw [List.lookup_append, List.lookup_cons, beq_false_of_ne h]
    exact Option.or_none

end

/-- A field of the identity: what it is, the file's contents with it, and whether it had to be
made.  `uuid` is what it is made from then. -/
def withField (d : Dictionary) (key uuid : String) : String × Dictionary × Bool :=
  match d.getString key with
  | some s => (s, d, false)
  | none => (uuid.toUpper, d.insert key (.string uuid.toUpper), true)

section
variable {d : Dictionary} {key key' uuid s : String}

theorem withField_some (h : d.getString key = some s) : withField d key uuid = (s, d, false) := by
  unfold withField
  rw [h]

theorem withField_none (h : d.getString key = none) :
    withField d key uuid = (uuid.toUpper, d.insert key (.string uuid.toUpper), true) := by
  unfold withField
  rw [h]

/-- The field is there afterwards, -/
theorem withField_self :
    (withField d key uuid).2.1.getString key = some (withField d key uuid).1 := by
  cases h : d.getString key with
  | none =>
      rw [withField_none h]
      dsimp only
      unfold Dictionary.getString
      rw [get_insert_self]
  | some s =>
      rw [withField_some h]
      exact h

/-- and all others are as before. -/
theorem withField_of_ne (h : key' ≠ key) :
    (withField d key uuid).2.1.get key' = d.get key' := by
  cases hfield : d.getString key with
  | none =>
      rw [withField_none hfield]
      exact get_insert_of_ne h
  | some s => rw [withField_some hfield]

theorem getString_of_get (h : d.get key = some (.string s)) : d.getString key = some s := by
  unfold Dictionary.getString
  rw [h]

theorem get_of_getString (h : d.getString key = some s) : d.get key = some (.string s) := by
  unfold Dictionary.getString at h
  split at h
  · rename_i s' hget
    rw [hget, Option.some.inj h]
  · cases h

/-- Where the key is there, it has a string. -/
def Dictionary.StringIfThere (d : Dictionary) (key : String) : Prop :=
  ∀ value, d.get key = some value → ∃ s, value = .string s

theorem Dictionary.StringIfThere.get_eq_none (h : d.StringIfThere key)
    (hnone : d.getString key = none) : d.get key = none := by
  cases hget : d.get key with
  | none => rfl
  | some value =>
      obtain ⟨s, rfl⟩ := h value hget
      rw [getString_of_get hget] at hnone
      cases hnone

/-- Nothing that is there is replaced, unless the field is there and is not a string. -/
theorem withField_kept (hstring : d.StringIfThere key) {value : Value}
    (hget : d.get key' = some value) : (withField d key uuid).2.1.get key' = some value := by
  cases hfield : d.getString key with
  | none =>
      have hne : key' ≠ key := by
        rintro rfl
        rw [hstring.get_eq_none hfield] at hget
        cases hget
      rw [withField_of_ne hne]
      exact hget
  | some s =>
      rw [withField_some hfield]
      exact hget

end

/-! ### The program, step by step -/

section
variable {PairingFile : Type} (idevice : Idevice PairingFile) (finder : PairingFileFinder)

/-- The identity is written, and returned. -/
def persistThen (plist : Dictionary) (identity : String × String) : IdentityCall := do
  finder.persistIdentity idevice plist
  return some identity

def afterBuid (host buid : String × Dictionary × Bool) : IdentityCall :=
  if host.2.2 || buid.2.2 then persistThen idevice finder buid.2.1 (host.1, buid.1)
  else return some (host.1, buid.1)

def afterHost (host : String × Dictionary × Bool) : IdentityCall := do
  let buid ← PairingFileFinder.identityField host.2.1 "SystemBUID"
  afterBuid idevice finder host buid

/-- What a call does with what it has seen. -/
def afterLook (d : Dictionary) : IdentityCall := do
  let host ← PairingFileFinder.identityField d "HostID"
  afterHost idevice finder host

def reading : IdentityCall :=
  .call (.readToEnd (finder.join "SystemConfiguration.plist")) fun
    | some contents => afterLook idevice finder ((idevice.plist contents).getD [])
    | none => .done none

def opening : IdentityCall :=
  .call (.openFile (finder.join "SystemConfiguration.plist")) fun
    | true => reading idevice finder
    | false => .done none

def checking : IdentityCall :=
  .call (.pathExists (finder.join "SystemConfiguration.plist")) fun
    | true => opening idevice finder
    | false => afterLook idevice finder []

theorem getHostIdentity_eq : finder.getHostIdentity idevice = checking idevice finder := by
  unfold PairingFileFinder.getHostIdentity PairingFileFinder.readIdentity
  refine congrArg (Talk.call _) (funext fun there => ?_)
  cases there with
  | false => rfl
  | true =>
    refine congrArg (Talk.call _) (funext fun opened => ?_)
    cases opened with
    | false => rfl
    | true =>
      refine congrArg (Talk.call _) (funext fun contents => ?_)
      cases contents with
      | none => rfl
      | some contents => rfl

theorem identityField_some {d : Dictionary} {key s : String} (h : d.getString key = some s)
    (uuid : String) :
    PairingFileFinder.identityField d key = .done (withField d key uuid) := by
  unfold PairingFileFinder.identityField
  rw [withField_some h, h]
  rfl

theorem identityField_none {d : Dictionary} {key : String} (h : d.getString key = none) :
    PairingFileFinder.identityField d key =
      .call .newUuid fun uuid => .done (withField d key uuid) := by
  unfold PairingFileFinder.identityField
  rw [h]
  refine congrArg (Talk.call _) (funext fun uuid => ?_)
  rw [withField_none h]
  rfl

variable {d : Dictionary}

theorem afterLook_of_host {h : String} (hhost : d.getString "HostID" = some h) (uuid : String) :
    afterLook idevice finder d = afterHost idevice finder (withField d "HostID" uuid) := by
  unfold afterLook
  rw [identityField_some hhost uuid]
  rfl

theorem afterLook_of_none (hnone : d.getString "HostID" = none) :
    afterLook idevice finder d =
      .call .newUuid fun uuid => afterHost idevice finder (withField d "HostID" uuid) := by
  unfold afterLook
  rw [identityField_none hnone]
  rfl

theorem afterHost_of_buid {host : String × Dictionary × Bool} {b : String}
    (hbuid : host.2.1.getString "SystemBUID" = some b) (uuid : String) :
    afterHost idevice finder host =
      afterBuid idevice finder host (withField host.2.1 "SystemBUID" uuid) := by
  unfold afterHost
  rw [identityField_some hbuid uuid]
  rfl

theorem afterHost_of_none {host : String × Dictionary × Bool}
    (hnone : host.2.1.getString "SystemBUID" = none) :
    afterHost idevice finder host = .call .newUuid fun uuid =>
      persistThen idevice finder (withField host.2.1 "SystemBUID" uuid).2.1
        (host.1, (withField host.2.1 "SystemBUID" uuid).1) := by
  unfold afterHost
  rw [identityField_none hnone]
  refine congrArg (Talk.call _) (funext fun uuid => ?_)
  have hmade : (withField host.2.1 "SystemBUID" uuid).2.2 = true := by rw [withField_none hnone]
  show afterBuid idevice finder host (withField host.2.1 "SystemBUID" uuid) = _
  unfold afterBuid
  rw [hmade, Bool.or_true, if_pos rfl]

/-- An identity that is complete is returned as it is. -/
theorem afterLook_complete {h b : String} (hhost : d.getString "HostID" = some h)
    (hbuid : d.getString "SystemBUID" = some b) :
    afterLook idevice finder d = .done (some (h, b)) := by
  rw [afterLook_of_host idevice finder hhost "", withField_some hhost,
    afterHost_of_buid idevice finder hbuid "", withField_some hbuid]
  rfl

/-- The directory is made, then the file is written. -/
theorem persistThen_eq {bytes : Bytes} (hbytes : idevice.xml d = some bytes)
    (identity : String × String) :
    ∃ dir, persistThen idevice finder d identity =
      .call (.createDirAll dir) fun _ =>
        .call (.writeFile (finder.join "SystemConfiguration.plist") bytes) fun _ =>
          .done (some identity) := by
  have hname : Path.IsName "SystemConfiguration.plist".toList := by
    refine ⟨by decide, Path.piece_of_length (by decide)⟩
  have hparent : ∃ dir, Path.parent (finder.join "SystemConfiguration.plist") = some dir := by
    unfold Path.parent PairingFileFinder.join
    rw [Path.components_join _ hname, List.getLast?_concat]
    exact ⟨_, rfl⟩
  obtain ⟨dir, hdir⟩ := hparent
  refine ⟨dir, ?_⟩
  unfold persistThen PairingFileFinder.persistIdentity createParent
  dsimp only
  rw [hdir, hbytes]
  rfl

end

/-! ### The identity that comes of a file -/

section
variable (d₀ : Dictionary)

def hostField (u : String) : String × Dictionary × Bool :=
  withField d₀ "HostID" u

def buidField (u v : String) : String × Dictionary × Bool :=
  withField (hostField d₀ u).2.1 "SystemBUID" v

/-- What is returned, with `u` and `v` for what has to be made. -/
def identityFrom (u v : String) : String × String :=
  ((hostField d₀ u).1, (buidField d₀ u v).1)

/-- What is written. -/
def completed (u v : String) : Dictionary :=
  (buidField d₀ u v).2.1

/-- The fields of the identity that are there are strings. -/
structure Dictionary.IdentityStrings : Prop where
  host : d₀.StringIfThere "HostID"
  buid : d₀.StringIfThere "SystemBUID"

/-- A file with this identity that has all that `d₀` has, and no key besides that is not of
the identity. -/
structure Completes (d : Dictionary) (identity : String × String) : Prop where
  host : d.get "HostID" = some (.string identity.1)
  buid : d.get "SystemBUID" = some (.string identity.2)
  kept : ∀ key value, d₀.get key = some value → d.get key = some value
  others : ∀ key, key ≠ "HostID" → key ≠ "SystemBUID" → d.get key = d₀.get key

theorem completes_of_complete {h b : String} (hhost : d₀.getString "HostID" = some h)
    (hbuid : d₀.getString "SystemBUID" = some b) : Completes d₀ d₀ (h, b) where
  host := get_of_getString hhost
  buid := get_of_getString hbuid
  kept := fun _ _ hget => hget
  others := fun _ _ _ => rfl

section
variable {d₀} {d : Dictionary} {identity : String × String}

theorem Completes.host_eq (h : Completes d₀ d identity) {value : Value}
    (hget : d₀.get "HostID" = some value) : value = .string identity.1 :=
  Option.some.inj ((h.kept _ _ hget).symm.trans h.host)

theorem Completes.buid_eq (h : Completes d₀ d identity) {value : Value}
    (hget : d₀.get "SystemBUID" = some value) : value = .string identity.2 :=
  Option.some.inj ((h.kept _ _ hget).symm.trans h.buid)

theorem Completes.identityStrings (h : Completes d₀ d identity) : d₀.IdentityStrings where
  host := fun _ hget => ⟨_, h.host_eq hget⟩
  buid := fun _ hget => ⟨_, h.buid_eq hget⟩

end

theorem completed_completes (hstrings : d₀.IdentityStrings) (u v : String) :
    Completes d₀ (completed d₀ u v) (identityFrom d₀ u v) := by
  have hne : "HostID" ≠ "SystemBUID" := by decide
  have hbuid₀ : (hostField d₀ u).2.1.get "SystemBUID" = d₀.get "SystemBUID" :=
    withField_of_ne hne.symm
  have hbuid : (hostField d₀ u).2.1.StringIfThere "SystemBUID" := by
    intro value hget
    rw [hbuid₀] at hget
    exact hstrings.buid value hget
  refine ⟨?_, get_of_getString withField_self, ?_, ?_⟩
  · have hsame : (completed d₀ u v).get "HostID" = (hostField d₀ u).2.1.get "HostID" :=
      withField_of_ne hne
    rw [hsame]
    exact get_of_getString withField_self
  · intro key value hget
    have hhost : (hostField d₀ u).2.1.get key = some value := withField_kept hstrings.host hget
    exact withField_kept hbuid hhost
  · intro key hhost hbuid
    exact (withField_of_ne hbuid).trans (withField_of_ne hhost)

/-- What is written keeps what was there exactly if the fields of the identity that were there
were strings.  A field that is something else is made anew. -/
theorem completed_completes_iff (u v : String) :
    Completes d₀ (completed d₀ u v) (identityFrom d₀ u v) ↔ d₀.IdentityStrings :=
  ⟨Completes.identityStrings, fun hstrings => completed_completes d₀ hstrings u v⟩

end

/-! ### What a call is at -/

/-- The dictionary can be written, and is what is read afterwards. -/
def Idevice.Keeps {PairingFile : Type} (idevice : Idevice PairingFile) (d : Dictionary) : Prop :=
  ∃ bytes, idevice.xml d = some bytes ∧ idevice.plist bytes = some d

section
variable {PairingFile : Type} (idevice : Idevice PairingFile) (finder : PairingFileFinder)
  (d₀ : Dictionary) (uuids : String → Prop)

/-- A call that has found a field missing and has not finished writing the file. -/
inductive Rewriting : IdentityCall → Prop
  | host (hnone : d₀.getString "HostID" = none) :
      Rewriting (.call .newUuid fun u => afterHost idevice finder (hostField d₀ u))
  | buid {u : String} (hu : uuids u) :
      Rewriting (.call .newUuid fun v =>
        persistThen idevice finder (completed d₀ u v) (identityFrom d₀ u v))
  | persist {u v : String} (hu : uuids u) (hv : uuids v) :
      Rewriting (persistThen idevice finder (completed d₀ u v) (identityFrom d₀ u v))
  | write {u v : String} {bytes : Bytes} (hu : uuids u) (hv : uuids v)
      (hbytes : idevice.xml (completed d₀ u v) = some bytes) :
      Rewriting (.call (.writeFile (finder.join "SystemConfiguration.plist") bytes) fun _ =>
        .done (some (identityFrom d₀ u v)))

/-- What a call makes of the file it looks at. -/
def seen (file : Option Bytes) : Dictionary :=
  match file with
  | some contents => (idevice.plist contents).getD []
  | none => []

variable {uuids}

/-- A call that has seen the file has the identity, or sets out to complete it. -/
theorem afterLook_cases {u : String} (hu : uuids u) :
    (∃ h b, d₀.getString "HostID" = some h ∧ d₀.getString "SystemBUID" = some b ∧
      afterLook idevice finder d₀ = .done (some (h, b))) ∨
    Rewriting idevice finder d₀ uuids (afterLook idevice finder d₀) := by
  cases hhost : d₀.getString "HostID" with
  | none =>
      rw [afterLook_of_none idevice finder hhost]
      exact .inr (.host hhost)
  | some h =>
      cases hbuid : d₀.getString "SystemBUID" with
      | some b => exact .inl ⟨h, b, rfl, rfl, afterLook_complete idevice finder hhost hbuid⟩
      | none =>
          have hnone : (hostField d₀ u).2.1.getString "SystemBUID" = none := by
            unfold hostField
            rw [withField_some hhost]
            exact hbuid
          rw [afterLook_of_host idevice finder hhost u]
          refine .inr ?_
          show Rewriting idevice finder d₀ uuids (afterHost idevice finder (hostField d₀ u))
          rw [afterHost_of_none idevice finder hnone]
          exact .buid hu

variable {d₀}

/-- A call that had to make the `HostID` will write the file, whether or not the other
field is there. -/
theorem afterHost_rewriting (hnone : d₀.getString "HostID" = none) {u : String} (hu : uuids u) :
    Rewriting idevice finder d₀ uuids (afterHost idevice finder (hostField d₀ u)) := by
  cases hbuid : (hostField d₀ u).2.1.getString "SystemBUID" with
  | none =>
      rw [afterHost_of_none idevice finder hbuid]
      exact .buid hu
  | some b =>
      have hmade : (hostField d₀ u).2.2 = true := by
        unfold hostField
        rw [withField_none hnone]
      have heq : afterHost idevice finder (hostField d₀ u) =
          persistThen idevice finder (completed d₀ u u) (identityFrom d₀ u u) := by
        rw [afterHost_of_buid idevice finder hbuid u]
        unfold afterBuid
        rw [hmade, Bool.true_or, if_pos rfl]
        rfl
      rw [heq]
      exact .persist hu hu

end

/-- The next step of the call writes the identity, or makes a field for it. -/
def Regenerates (call : IdentityCall) : Prop :=
  match call with
  | .call .newUuid _ => True
  | .call (.createDirAll _) _ => True
  | .call (.writeFile _ _) _ => True
  | _ => False

section
variable {PairingFile : Type} {idevice : Idevice PairingFile} {finder : PairingFileFinder}
  {d₀ : Dictionary} {uuids : String → Prop} {n : Nat} {s s' : IdentityCalls n} {i j : Fin n}

theorem Rewriting.regenerates {call : IdentityCall}
    (hkeeps : ∀ u v, uuids u → uuids v → idevice.Keeps (completed d₀ u v))
    (h : Rewriting idevice finder d₀ uuids call) : Regenerates call := by
  cases h with
  | host => trivial
  | buid => trivial
  | @persist u v hu hv =>
      obtain ⟨bytes, hbytes, -⟩ := hkeeps u v hu hv
      obtain ⟨dir, heq⟩ := persistThen_eq idevice finder hbytes (identityFrom d₀ u v)
      rw [heq]
      trivial
  | write => trivial

@[simp] theorem answer_calls_self (rest : IdentityCall) : (s.answer i rest).calls i = rest :=
  Function.update_self ..

theorem answer_calls_of_ne (h : j ≠ i) (rest : IdentityCall) :
    (s.answer i rest).calls j = s.calls j :=
  Function.update_of_ne h ..

@[simp] theorem answer_file (rest : IdentityCall) : (s.answer i rest).file = s.file := rfl

@[simp] theorem answer_truncated (rest : IdentityCall) :
    (s.answer i rest).truncated = s.truncated := rfl

/-! ### A call that has not seen the file -/

/-- The call has not seen the file yet.  If it is past the check, there is one. -/
structure Undecided (idevice : Idevice PairingFile) (finder : PairingFileFinder)
    (s : IdentityCalls n) (j : Fin n) : Prop where
  whole : s.truncated j = false
  at_ : s.calls j = checking idevice finder ∨
    s.file.isSome = true ∧
      (s.calls j = opening idevice finder ∨ s.calls j = reading idevice finder)

/-- What the call does next decides what the identity is to it. -/
def IdentityCalls.Looks (s : IdentityCalls n) (i : Fin n) : Prop :=
  match s.calls i with
  | .call (.pathExists _) _ => s.file = none
  | .call (.readToEnd _) _ => True
  | _ => False

/-- It goes on to the read, or it looks. -/
theorem Undecided.next {a : CallTurn n} (h : Undecided idevice finder s a.caller)
    (hnext : s.next a = some s') :
    (s.file.isSome = true ∧ ∃ rest, s' = s.answer a.caller rest ∧
      (rest = opening idevice finder ∨ rest = reading idevice finder)) ∨
    (s.Looks a.caller ∧
      s' = s.answer a.caller (afterLook idevice finder (seen idevice s.file))) := by
  unfold IdentityCalls.next at hnext
  rcases h.at_ with hcall | ⟨hfile, hcall | hcall⟩
  · rw [hcall] at hnext
    obtain rfl := Option.some.inj hnext
    cases hfile : s.file with
    | none =>
        refine .inr ⟨?_, rfl⟩
        unfold IdentityCalls.Looks
        rw [hcall]
        exact hfile
    | some contents => exact .inl ⟨rfl, _, rfl, .inl rfl⟩
  · rw [hcall] at hnext
    obtain rfl := Option.some.inj hnext
    refine .inl ⟨hfile, _, rfl, .inr ?_⟩
    rw [hfile]
  · obtain ⟨contents, hcontents⟩ := Option.isSome_iff_exists.mp hfile
    rw [hcall] at hnext
    obtain rfl := Option.some.inj hnext
    refine .inr ⟨?_, by rw [hcontents]; rfl⟩
    unfold IdentityCalls.Looks
    rw [hcall]
    trivial

theorem Undecided.frame (h : Undecided idevice finder s j) (hcall : s'.calls j = s.calls j)
    (htruncated : s'.truncated j = s.truncated j)
    (hfile : s.file.isSome = true → s'.file.isSome = true) : Undecided idevice finder s' j where
  whole := htruncated.trans h.whole
  at_ := by
    rw [hcall]
    exact h.at_.imp id fun hrest => ⟨hfile hrest.1, hrest.2⟩

theorem Undecided.of_answer (h : Undecided idevice finder s j) {rest : IdentityCall} (hne : j ≠ i) :
    Undecided idevice finder (s.answer i rest) j :=
  h.frame (answer_calls_of_ne hne rest) rfl id

theorem Undecided.goesOn (h : Undecided idevice finder s i) (hfile : s.file.isSome = true)
    {rest : IdentityCall} (hrest : rest = opening idevice finder ∨ rest = reading idevice finder) :
    Undecided idevice finder (s.answer i rest) i where
  whole := h.whole
  at_ := .inr ⟨hfile, by simpa using hrest⟩

end

/-! ### The file over a run -/

/-- The file as it is first found.  It is absent or it parses. -/
def FirstFile {PairingFile : Type} (idevice : Idevice PairingFile) (file : Option Bytes)
    (d₀ : Dictionary) : Prop :=
  (file = none ∧ d₀ = []) ∨ ∃ contents, file = some contents ∧ idevice.plist contents = some d₀

section
variable {PairingFile : Type} {idevice : Idevice PairingFile} {finder : PairingFileFinder}
  {d₀ d : Dictionary} {uuids : String → Prop} {n : Nat} {s s' : IdentityCalls n} {i j : Fin n}
  {file₀ : Option Bytes}

theorem FirstFile.seen (h : FirstFile idevice file₀ d₀) : seen idevice file₀ = d₀ := by
  rcases h with ⟨rfl, rfl⟩ | ⟨contents, rfl, hparse⟩
  · rfl
  · show (idevice.plist contents).getD [] = d₀
    rw [hparse]
    rfl

variable (idevice finder file₀ d₀ uuids)

/-- The call has emptied the file and is about to write it. -/
def Emptied (s : IdentityCalls n) (i : Fin n) : Prop :=
  s.file = some [] ∧ ∃ u v bytes, uuids u ∧ uuids v ∧
    idevice.xml (completed d₀ u v) = some bytes ∧
    s.calls i = .call (.writeFile (finder.join "SystemConfiguration.plist") bytes) fun _ =>
      .done (some (identityFrom d₀ u v))

/-- Where the calls are with the file: no call has seen it, or one has and is about to rewrite
it, or it has the identity that all calls have or will have. -/
inductive IdentityPhase (s : IdentityCalls n) : Prop
  | untouched (hfile : s.file = file₀) (hall : ∀ j, Undecided idevice finder s j)
  | rewriting (i : Fin n) (hcall : Rewriting idevice finder d₀ uuids (s.calls i))
      (hfile : s.truncated i = false → s.file = file₀)
      (htruncated : s.truncated i = true → Emptied idevice finder d₀ uuids s i)
      (hall : ∀ j, j ≠ i → Undecided idevice finder s j)
  | settled (contents : Bytes) (d : Dictionary) (identity : String × String)
      (hfile : s.file = some contents) (hparse : idevice.plist contents = some d)
      (hcompletes : Completes d₀ d identity)
      (hall : ∀ j, Undecided idevice finder s j ∨ s.calls j = .done (some identity))

variable {idevice finder file₀ d₀ uuids}

theorem IdentityPhase.start : IdentityPhase idevice finder d₀ uuids file₀
    (IdentityCalls.start idevice finder n file₀) :=
  .untouched rfl fun _ => ⟨rfl, .inl (getHostIdentity_eq idevice finder)⟩

/-- The first look at the file. -/
theorem IdentityPhase.firstLook {u : String} (hfirst : FirstFile idevice file₀ d₀) (hu : uuids u)
    (hfile : s.file = file₀) (hall : ∀ j, Undecided idevice finder s j) :
    IdentityPhase idevice finder d₀ uuids file₀
      (s.answer i (afterLook idevice finder (Netmuxd.seen idevice s.file))) := by
  rw [hfile, hfirst.seen]
  rcases afterLook_cases idevice finder d₀ hu with ⟨h, b, hhost, hbuid, hdone⟩ | hrewriting
  · obtain ⟨contents, hcontents, hparse⟩ :
        ∃ contents, file₀ = some contents ∧ idevice.plist contents = some d₀ := by
      rcases hfirst with ⟨-, rfl⟩ | hthere
      · cases hhost
      · exact hthere
    refine .settled contents d₀ (h, b) (hfile.trans hcontents) hparse
      (completes_of_complete d₀ hhost hbuid) fun j => ?_
    by_cases hj : j = i
    · rw [hj, answer_calls_self]
      exact .inr hdone
    · exact .inl ((hall j).of_answer hj)
  · refine .rewriting i (by rwa [answer_calls_self]) (fun _ => hfile) ?_
      fun j hj => (hall j).of_answer hj
    intro htruncated
    rw [answer_truncated, (hall i).whole] at htruncated
    cases htruncated

/-- An answer to the call that rewrites the file, before it does. -/
theorem IdentityPhase.rewritingOn {rest : IdentityCall}
    (hrest : Rewriting idevice finder d₀ uuids rest) (hfile : s.file = file₀)
    (hwhole : s.truncated i = false) (hall : ∀ j, j ≠ i → Undecided idevice finder s j) :
    IdentityPhase idevice finder d₀ uuids file₀ (s.answer i rest) := by
  refine .rewriting i (by rwa [answer_calls_self]) (fun _ => hfile) ?_
    fun j hj => (hall j hj).of_answer hj
  intro htruncated
  rw [answer_truncated, hwhole] at htruncated
  cases htruncated

/-- The call that rewrites the file takes its next step. -/
theorem IdentityPhase.rewrite {a : CallTurn n} (hstrings : d₀.IdentityStrings)
    (hkeeps : ∀ u v, uuids u → uuids v → idevice.Keeps (completed d₀ u v))
    (hcall : Rewriting idevice finder d₀ uuids (s.calls a.caller))
    (hfile : s.truncated a.caller = false → s.file = file₀)
    (htruncated : s.truncated a.caller = true → Emptied idevice finder d₀ uuids s a.caller)
    (hall : ∀ j, j ≠ a.caller → Undecided idevice finder s j)
    (hnext : s.next a = some s') (huuid : uuids a.uuid) :
    IdentityPhase idevice finder d₀ uuids file₀ s' := by
  unfold IdentityCalls.next at hnext
  cases ht : s.truncated a.caller with
  | true =>
      obtain ⟨hempty, u, v, bytes, hu, hv, hbytes, heq⟩ := htruncated ht
      obtain ⟨bytes', hbytes', hparse⟩ := hkeeps u v hu hv
      obtain rfl : bytes = bytes' := Option.some.inj (hbytes.symm.trans hbytes')
      rw [heq] at hnext
      simp only [ht, if_true] at hnext
      obtain rfl := Option.some.inj hnext
      refine .settled bytes (completed d₀ u v) (identityFrom d₀ u v) ?_ hparse
        (completed_completes d₀ hstrings u v) fun j => ?_
      · show some (overwrite s.file bytes) = some bytes
        rw [hempty]
        simp [overwrite]
      · by_cases hj : j = a.caller
        · rw [hj]
          exact .inr (answer_calls_self _)
        · refine .inl ((hall j hj).frame (answer_calls_of_ne hj _) ?_ fun _ => rfl)
          exact Function.update_of_ne hj ..
  | false =>
      have hsame := hfile ht
      generalize hc : s.calls a.caller = call at hcall hnext
      cases hcall with
      | host hnone =>
          obtain rfl := Option.some.inj hnext
          exact .rewritingOn (afterHost_rewriting idevice finder hnone huuid) hsame ht hall
      | buid hu =>
          obtain rfl := Option.some.inj hnext
          exact .rewritingOn (.persist hu huuid) hsame ht hall
      | @persist u v hu hv =>
          obtain ⟨bytes, hbytes, -⟩ := hkeeps u v hu hv
          obtain ⟨dir, heq⟩ := persistThen_eq idevice finder hbytes (identityFrom d₀ u v)
          rw [heq] at hnext
          obtain rfl := Option.some.inj hnext
          exact .rewritingOn (.write hu hv hbytes) hsame ht hall
      | @write u v bytes hu hv hbytes =>
          simp only [ht, Bool.false_eq_true, if_false] at hnext
          obtain rfl := Option.some.inj hnext
          refine .rewriting a.caller (by rw [hc]; exact .write hu hv hbytes) ?_ ?_ ?_
          · intro hwhole
            simp at hwhole
          · exact fun _ => ⟨rfl, u, v, bytes, hu, hv, hbytes, hc⟩
          · intro j hj
            refine (hall j hj).frame rfl ?_ fun _ => rfl
            exact Function.update_of_ne hj ..

/-- No call looks at the file while another makes the identity. -/
def IdentityCalls.LooksAlone (s : IdentityCalls n) (a : CallTurn n) (_ : IdentityCalls n) : Prop :=
  s.Looks a.caller → ∀ j, ¬ Regenerates (s.calls j)

theorem IdentityPhase.step {a : CallTurn n} (hstrings : d₀.IdentityStrings)
    (hkeeps : ∀ u v, uuids u → uuids v → idevice.Keeps (completed d₀ u v))
    (hfirst : FirstFile idevice file₀ d₀) (h : IdentityPhase idevice finder d₀ uuids file₀ s)
    (hstep : s.Step uuids a s') (halone : s.LooksAlone a s') :
    IdentityPhase idevice finder d₀ uuids file₀ s' := by
  obtain ⟨hnext, huuid⟩ := hstep
  cases h with
  | untouched hfile hall =>
      rcases (hall a.caller).next hnext with ⟨hthere, rest, rfl, hrest⟩ | ⟨-, rfl⟩
      · refine .untouched hfile fun j => ?_
        by_cases hj : j = a.caller
        · rw [hj]
          exact (hall a.caller).goesOn hthere hrest
        · exact (hall j).of_answer hj
      · exact .firstLook hfirst huuid hfile hall
  | rewriting i hcall hfile htruncated hall =>
      by_cases hi : a.caller = i
      · subst hi
        exact .rewrite hstrings hkeeps hcall hfile htruncated hall hnext huuid
      · rcases (hall a.caller hi).next hnext with ⟨hthere, rest, rfl, hrest⟩ | ⟨hlooks, -⟩
        · have hi' : i ≠ a.caller := Ne.symm hi
          refine .rewriting i ?_ hfile ?_ fun j hj => ?_
          · rwa [answer_calls_of_ne hi']
          · intro ht
            obtain ⟨hempty, u, v, bytes, hu, hv, hbytes, heq⟩ := htruncated ht
            exact ⟨hempty, u, v, bytes, hu, hv, hbytes, (answer_calls_of_ne hi' _).trans heq⟩
          · by_cases hj' : j = a.caller
            · rw [hj']
              exact (hall a.caller hi).goesOn hthere hrest
            · exact (hall j hj).of_answer hj'
        · exact absurd (hcall.regenerates hkeeps) (halone hlooks i)
  | settled contents d identity hfile hparse hcompletes hall =>
      rcases hall a.caller with hundecided | hdone
      · have hothers : ∀ rest j, j ≠ a.caller →
            Undecided idevice finder (s.answer a.caller rest) j ∨
              (s.answer a.caller rest).calls j = .done (some identity) := by
          intro rest j hj
          rw [answer_calls_of_ne hj]
          exact (hall j).imp (fun hj' => hj'.of_answer hj) id
        rcases hundecided.next hnext with ⟨hthere, rest, rfl, hrest⟩ | ⟨-, rfl⟩
        · refine .settled contents d identity hfile hparse hcompletes fun j => ?_
          by_cases hj : j = a.caller
          · rw [hj]
            exact .inl (hundecided.goesOn hthere hrest)
          · exact hothers _ j hj
        · refine .settled contents d identity hfile hparse hcompletes fun j => ?_
          by_cases hj : j = a.caller
          · have hseen : seen idevice s.file = d := by
              rw [hfile]
              show (idevice.plist contents).getD [] = d
              rw [hparse]
              rfl
            rw [hj, answer_calls_self, hseen]
            exact .inr (afterLook_complete idevice finder (getString_of_get hcompletes.host)
              (getString_of_get hcompletes.buid))
          · exact hothers _ j hj
      · unfold IdentityCalls.next at hnext
        rw [hdone] at hnext
        cases hnext

variable (idevice d₀)

/-- All calls that have returned have the same identity, with the fields that were there, and
when all have, the file has it too, with everything that was there and all other keys as they
were. -/
structure IdentityCalls.Stable (s : IdentityCalls n) : Prop where
  agree : ∀ i j r r', s.result i = some r → s.result j = some r' → r = r'
  kept : ∀ i r, s.result i = some r → ∃ host buid, r = some (host, buid) ∧
    (∀ there, d₀.get "HostID" = some there → there = .string host) ∧
    ∀ there, d₀.get "SystemBUID" = some there → there = .string buid
  stored : (∀ i, (s.result i).isSome = true) → ∀ i identity, s.result i = some (some identity) →
    ∃ contents d, s.file = some contents ∧ idevice.plist contents = some d ∧
      Completes d₀ d identity

variable {idevice d₀}

theorem Undecided.result_eq_none (h : Undecided idevice finder s j) : s.result j = none := by
  unfold IdentityCalls.result
  rcases h.at_ with hcall | ⟨-, hcall | hcall⟩
  all_goals rw [hcall]; rfl

theorem Rewriting.result_eq_none
    (hkeeps : ∀ u v, uuids u → uuids v → idevice.Keeps (completed d₀ u v))
    (h : Rewriting idevice finder d₀ uuids (s.calls j)) : s.result j = none := by
  have hnot : Regenerates (s.calls j) := h.regenerates hkeeps
  unfold IdentityCalls.result
  cases hcall : s.calls j with
  | done r =>
      rw [hcall] at hnot
      exact hnot.elim
  | call c rest => rfl

/-- As long as no call has returned, there is nothing to disagree on. -/
theorem stable_of_none (h : ∀ i, s.result i = none) : s.Stable idevice d₀ := by
  refine ⟨fun i j r r' hi => ?_, fun i r hi => ?_, fun _ i identity hi => ?_⟩
  all_goals
    rw [h i] at hi
    cases hi

theorem IdentityPhase.stable (hkeeps : ∀ u v, uuids u → uuids v → idevice.Keeps (completed d₀ u v))
    (h : IdentityPhase idevice finder d₀ uuids file₀ s) : s.Stable idevice d₀ := by
  cases h with
  | untouched hfile hall => exact stable_of_none fun i => (hall i).result_eq_none
  | rewriting i hcall hfile htruncated hall =>
      refine stable_of_none fun j => ?_
      by_cases hj : j = i
      · rw [hj]
        exact hcall.result_eq_none hkeeps
      · exact (hall j hj).result_eq_none
  | settled contents d identity hfile hparse hcompletes hall =>
      have hresult : ∀ i r, s.result i = some r → r = some identity := by
        intro i r hr
        rcases hall i with hundecided | hdone
        · rw [hundecided.result_eq_none] at hr
          cases hr
        · unfold IdentityCalls.result at hr
          rw [hdone] at hr
          exact (Option.some.inj hr).symm
      refine ⟨?_, ?_, ?_⟩
      · intro i j r r' hi hj
        rw [hresult i r hi, hresult j r' hj]
      · intro i r hi
        exact ⟨identity.1, identity.2, hresult i r hi, fun _ => hcompletes.host_eq,
          fun _ => hcompletes.buid_eq⟩
      · intro _ i identity' hi
        obtain rfl := Option.some.inj (hresult i _ hi)
        exact ⟨contents, d, hfile, hparse, hcompletes⟩

end

/-- The host identity is the same to all callers, and is the one that is stored, as long as no
call looks at the file while another has found a field missing and has not finished writing,
not when it finds the file absent, and not when it reads it, and the fields that the file had
at first are strings. -/
theorem identity_is_stable {PairingFile : Type} {idevice : Idevice PairingFile}
    {finder : PairingFileFinder} {uuids : String → Prop} {n : Nat} {file₀ : Option Bytes}
    {d₀ : Dictionary} {tr : List (IdentityCalls n × CallTurn n × IdentityCalls n)}
    {s : IdentityCalls n} (hfirst : FirstFile idevice file₀ d₀) (hstrings : d₀.IdentityStrings)
    (hkeeps : ∀ u v, uuids u → uuids v → idevice.Keeps (completed d₀ u v))
    (hrun : Run (IdentityCalls.Step uuids) (.start idevice finder n file₀) tr s)
    (halone : EveryStep IdentityCalls.LooksAlone tr) :
    EveryStep (fun _ _ s' => s'.Stable idevice d₀) tr :=
  Run.everyStep_of (P := IdentityPhase idevice finder d₀ uuids file₀) IdentityPhase.start
    (fun _ _ _ hphase hstep halone => hphase.step hstrings hkeeps hfirst hstep halone)
    (fun _ _ _ hphase hstep halone =>
      (hphase.step hstrings hkeeps hfirst hstep halone).stable hkeeps)
    hrun halone

/-! ### Two calls on an absent file -/

def asBytes (s : String) : Bytes :=
  s.toList.map fun c => UInt8.ofNat c.toNat

def asText (bytes : Bytes) : String :=
  String.ofList (bytes.map fun b => Char.ofNat b.toNat)

theorem asText_asBytes {s : String} (h : ∀ c ∈ s.toList, c.toNat < 128) :
    asText (asBytes s) = s := by
  apply String.toList_injective
  unfold asText asBytes
  rw [String.toList_ofList, List.map_map]
  refine (List.map_congr_left fun c hc => ?_).trans (List.map_id _)
  show Char.ofNat (UInt8.ofNat c.toNat).toNat = c
  rw [UInt8.toNat_ofNat', Nat.mod_eq_of_lt (Nat.lt_trans (h c hc) (by decide)), Char.ofNat_toNat]

def identityHead : Bytes :=
  asBytes "<plist version=\"1.0\"><dict><key>HostID</key><string>"

def identityMiddle : Bytes :=
  asBytes "</string><key>SystemBUID</key><string>"

def identityTail : Bytes :=
  asBytes "</string></dict></plist>"

/-- The property list of an identity. -/
def identityBody (host buid : String) : Bytes :=
  identityHead ++ (asBytes host ++ (identityMiddle ++ (asBytes buid ++ identityTail)))

def readIdentityBody (contents : Bytes) : Option Dictionary :=
  let fields := contents.drop identityHead.length
  let host := asText (fields.take 36)
  let buid := asText ((fields.drop (36 + identityMiddle.length)).take 36)
  if identityBody host buid = contents then
    some [("HostID", .string host), ("SystemBUID", .string buid)]
  else none

/-- The property list of an identity without its second field. -/
def hostBody (host : String) : Bytes :=
  identityHead ++ (asBytes host ++ identityTail)

def readHostBody (contents : Bytes) : Option Dictionary :=
  let host := asText ((contents.drop identityHead.length).take 36)
  if hostBody host = contents then some [("HostID", .string host)] else none

/-- An idevice that writes property lists of an identity, and reads them and those that have
the `HostID` alone. -/
def identityIdevice : Idevice Bytes :=
  { plainIdevice with
    xml := fun d =>
      match d with
      | [("HostID", .string host), ("SystemBUID", .string buid)] => some (identityBody host buid)
      | _ => none
    plist := fun contents => (readIdentityBody contents).or (readHostBody contents) }

/-- In upper case it is 36 characters of ASCII. -/
def IsUuid (u : String) : Prop :=
  u.toUpper.toList.length = 36 ∧ ∀ c ∈ u.toUpper.toList, c.toNat < 128

theorem completed_nil (u v : String) :
    completed [] u v = [("HostID", .string u.toUpper), ("SystemBUID", .string v.toUpper)] := by
  rfl

theorem readIdentityBody_identityBody {u v : String} (hu : IsUuid u) (hv : IsUuid v) :
    readIdentityBody (identityBody u.toUpper v.toUpper) =
      some [("HostID", .string u.toUpper), ("SystemBUID", .string v.toUpper)] := by
  have hulen : (asBytes u.toUpper).length = 36 := (List.length_map _).trans hu.1
  have hvlen : (asBytes v.toUpper).length = 36 := (List.length_map _).trans hv.1
  have hhost : (identityBody u.toUpper v.toUpper).drop identityHead.length =
      asBytes u.toUpper ++ (identityMiddle ++ (asBytes v.toUpper ++ identityTail)) :=
    List.drop_left
  have hbuid : (asBytes u.toUpper ++ (identityMiddle ++ (asBytes v.toUpper ++ identityTail))).drop
      (36 + identityMiddle.length) = asBytes v.toUpper ++ identityTail := by
    rw [← List.append_assoc]
    exact List.drop_left' (by rw [List.length_append, hulen])
  unfold readIdentityBody
  simp only [hhost, hbuid, List.take_left' hulen, List.take_left' hvlen, asText_asBytes hu.2,
    asText_asBytes hv.2, if_true]

theorem identityIdevice_plist (contents : Bytes) :
    identityIdevice.plist contents = (readIdentityBody contents).or (readHostBody contents) :=
  rfl

theorem plist_identityBody {u v : String} (hu : IsUuid u) (hv : IsUuid v) :
    identityIdevice.plist (identityBody u.toUpper v.toUpper) =
      some [("HostID", .string u.toUpper), ("SystemBUID", .string v.toUpper)] := by
  rw [identityIdevice_plist, readIdentityBody_identityBody hu hv, Option.some_or]

theorem plist_hostBody {u : String} (hu : IsUuid u) :
    identityIdevice.plist (hostBody u.toUpper) = some [("HostID", .string u.toUpper)] := by
  have hulen : (asBytes u.toUpper).length = 36 := (List.length_map _).trans hu.1
  have hhost : (hostBody u.toUpper).drop identityHead.length = asBytes u.toUpper ++ identityTail :=
    List.drop_left
  -- it is too short to have both fields
  have hidentity : readIdentityBody (hostBody u.toUpper) = none := by
    unfold readIdentityBody
    refine if_neg fun heq => ?_
    have hlength := congrArg List.length heq
    have hmiddle : identityMiddle.length = 38 := by decide
    unfold identityBody hostBody at hlength
    simp only [List.length_append] at hlength
    omega
  rw [identityIdevice_plist, hidentity, Option.none_or]
  unfold readHostBody
  simp only [hhost, List.take_left' hulen, asText_asBytes hu.2, if_true]

theorem identityIdevice_keeps {u v : String} (hu : IsUuid u) (hv : IsUuid v) :
    identityIdevice.Keeps (completed [] u v) := by
  refine ⟨identityBody u.toUpper v.toUpper, by rw [completed_nil]; rfl, ?_⟩
  rw [completed_nil]
  exact plist_identityBody hu hv

theorem isUuid_of {u : String} (hlength : (u.toList.map Char.toUpper).length = 36)
    (hascii : (u.toList.map Char.toUpper).all (fun c => c.toNat < 128) = true) : IsUuid u := by
  unfold IsUuid String.toUpper
  rw [String.toList_map]
  exact ⟨hlength, fun c hc => of_decide_eq_true (List.all_eq_true.mp hascii c hc)⟩

def uuidA : String := "3c8e0a52-6d1b-4f97-8e24-b90d5a7c1f63"

def uuidB : String := "a7714e0d-52c3-4b16-9f08-1de6c2b3974a"

def uuidC : String := "0f9b6d31-c48a-4e72-b5d7-63e21a80fc95"

def uuidD : String := "e2560b7f-91ad-4c38-a6e0-7f48d13b2c59"

theorem uuidA_isUuid : IsUuid uuidA :=
  isUuid_of (by decide) (by decide)

theorem uuidB_isUuid : IsUuid uuidB :=
  isUuid_of (by decide) (by decide)

theorem uuidC_isUuid : IsUuid uuidC :=
  isUuid_of (by decide) (by decide)

theorem uuidD_isUuid : IsUuid uuidD :=
  isUuid_of (by decide) (by decide)

/-- The turns, with uuids, and no look while the identity is made. -/
def IdentityCalls.PlaysAlone (s : IdentityCalls 2) (as : List (CallTurn 2)) (s' : IdentityCalls 2) :
    Prop :=
  Plays IdentityCalls.next (fun s a s' => IsUuid a.uuid ∧ s.LooksAlone a s') s as s'

theorem IdentityCalls.PlaysAlone.run {s s' : IdentityCalls 2} {as : List (CallTurn 2)}
    (h : s.PlaysAlone as s') :
    ∃ tr, Run (IdentityCalls.Step IsUuid) s tr s' ∧ EveryStep IdentityCalls.LooksAlone tr := by
  have hstep : ∀ (u : IdentityCalls 2) a u', u.next a = some u' →
      IsUuid a.uuid ∧ u.LooksAlone a u' → IdentityCalls.Step IsUuid u a u' :=
    fun _ _ _ hnext hC => ⟨hnext, hC.1⟩
  obtain ⟨tr, hrun, hall, -⟩ := Run.of_plays hstep h
  exact ⟨tr, hrun, hall.imp fun _ _ _ hC => hC.2⟩

/-- The state after a call has found the file there and has read it. -/
def IdentityCalls.looked (s : IdentityCalls 2) (i : Fin 2) (d : Dictionary) : IdentityCalls 2 :=
  ((s.answer i (opening identityIdevice defaultFinder)).answer i
    (reading identityIdevice defaultFinder)).answer i (afterLook identityIdevice defaultFinder d)

theorem call_looks {s : IdentityCalls 2} {i : Fin 2} {contents : Bytes} {d : Dictionary}
    (hcall : s.calls i = checking identityIdevice defaultFinder) (hfile : s.file = some contents)
    (hparse : identityIdevice.plist contents = some d)
    (halone : ∀ j, j ≠ i → ¬ Regenerates (s.calls j)) :
    s.PlaysAlone [⟨i, uuidA⟩, ⟨i, uuidA⟩, ⟨i, uuidA⟩] (s.looked i d) := by
  have hopens : s.next ⟨i, uuidA⟩ = some (s.answer i (opening identityIdevice defaultFinder)) := by
    unfold IdentityCalls.next
    rw [hcall, hfile]
    rfl
  have hreads : IdentityCalls.next (s.answer i (opening identityIdevice defaultFinder))
      ⟨i, uuidA⟩ = some ((s.answer i (opening identityIdevice defaultFinder)).answer i
        (reading identityIdevice defaultFinder)) := by
    unfold IdentityCalls.next
    rw [answer_calls_self, answer_file, hfile]
    rfl
  have hlooks : IdentityCalls.next ((s.answer i (opening identityIdevice defaultFinder)).answer i
      (reading identityIdevice defaultFinder)) ⟨i, uuidA⟩ = some (s.looked i d) := by
    unfold IdentityCalls.next
    rw [answer_calls_self, answer_file, answer_file, hfile]
    show some (IdentityCalls.answer _ i (afterLook identityIdevice defaultFinder
      ((identityIdevice.plist contents).getD []))) = _
    rw [hparse]
    rfl
  refine ⟨_, hopens, ⟨uuidA_isUuid, ?_⟩, _, hreads, ⟨uuidA_isUuid, ?_⟩, _, hlooks,
    ⟨uuidA_isUuid, ?_⟩, rfl⟩
  · unfold IdentityCalls.LooksAlone IdentityCalls.Looks
    rw [hcall]
    intro habsent
    have hnone : s.file = none := habsent
    rw [hfile] at hnone
    cases hnone
  · unfold IdentityCalls.LooksAlone IdentityCalls.Looks
    rw [answer_calls_self]
    exact fun h => h.elim
  · intro _ j
    by_cases hj : j = i
    · rw [hj, answer_calls_self]
      exact id
    · rw [answer_calls_of_ne hj, answer_calls_of_ne hj]
      exact halone j hj

/-- A file with a `HostID` and nothing else. -/
def hostOnly : Dictionary :=
  [("HostID", .string uuidC.toUpper)]

theorem hostOnly_identityStrings : hostOnly.IdentityStrings where
  host := by
    intro value hget
    exact ⟨_, (Option.some.inj hget).symm⟩
  buid := by
    intro value hget
    cases hget

theorem completed_hostOnly (u v : String) :
    completed hostOnly u v =
      [("HostID", .string uuidC.toUpper), ("SystemBUID", .string v.toUpper)] := by
  rfl

theorem hostOnly_keeps {u v : String} (hv : IsUuid v) :
    identityIdevice.Keeps (completed hostOnly u v) := by
  refine ⟨identityBody uuidC.toUpper v.toUpper, by rw [completed_hostOnly]; rfl, ?_⟩
  rw [completed_hostOnly]
  exact plist_identityBody uuidC_isUuid hv

/-- The call that has seen such a file makes the other field. -/
theorem hostOnly_completed {s : IdentityCalls 2}
    (hs : s = IdentityCalls.looked (.start identityIdevice defaultFinder 2
      (some (hostBody uuidC.toUpper))) 0 hostOnly) :
    ∃ s', s.PlaysAlone [⟨0, uuidB⟩, ⟨0, uuidB⟩, ⟨0, uuidB⟩, ⟨0, uuidB⟩] s' ∧
      s'.calls 0 = .done (some (uuidC.toUpper, uuidB.toUpper)) ∧
      s'.calls 1 = checking identityIdevice defaultFinder ∧
      s'.file = some (overwrite (some []) (identityBody uuidC.toUpper uuidB.toUpper)) := by
  subst hs
  exact ⟨_, ⟨_, rfl, ⟨uuidB_isUuid, fun h => h.elim⟩,
    _, rfl, ⟨uuidB_isUuid, fun h => h.elim⟩,
    _, rfl, ⟨uuidB_isUuid, fun h => h.elim⟩,
    _, rfl, ⟨uuidB_isUuid, fun h => h.elim⟩, rfl⟩, rfl, getHostIdentity_eq _ _, rfl⟩

/-- The file has a `HostID`.  A call makes the other field, and another returns both. -/
theorem second_call_returns_the_first : ∃ tr s,
    Run (IdentityCalls.Step IsUuid)
      (.start identityIdevice defaultFinder 2 (some (hostBody uuidC.toUpper))) tr s ∧
    s.result 0 = some (some (uuidC.toUpper, uuidB.toUpper)) ∧
    s.result 1 = some (some (uuidC.toUpper, uuidB.toUpper)) ∧
    EveryStep (fun _ _ s' => s'.Stable identityIdevice hostOnly) tr := by
  have hstart : ∀ j, (IdentityCalls.start identityIdevice defaultFinder 2
      (some (hostBody uuidC.toUpper))).calls j = checking identityIdevice defaultFinder :=
    fun _ => getHostIdentity_eq _ _
  -- the first call reads the file and makes the field that is missing
  have hlook := call_looks (hstart 0) rfl (plist_hostBody uuidC_isUuid)
    (fun j _ => by rw [hstart j]; exact id)
  obtain ⟨s, hmakes, hdone, hcall, hfile⟩ := hostOnly_completed rfl
  -- the second reads what it has written
  have hparse : identityIdevice.plist
      (overwrite (some []) (identityBody uuidC.toUpper uuidB.toUpper)) =
        some [("HostID", .string uuidC.toUpper), ("SystemBUID", .string uuidB.toUpper)] := by
    have hover : overwrite (some []) (identityBody uuidC.toUpper uuidB.toUpper) =
        identityBody uuidC.toUpper uuidB.toUpper := by simp [overwrite]
    rw [hover]
    exact plist_identityBody uuidC_isUuid uuidB_isUuid
  have hreturns := call_looks hcall hfile hparse fun j hj => by
    have hzero : j = 0 := by omega
    rw [hzero, hdone]
    exact id
  obtain ⟨tr₁, hrun₁, halone₁⟩ := hlook.run
  obtain ⟨tr₂, hrun₂, halone₂⟩ := hmakes.run
  obtain ⟨tr₃, hrun₃, halone₃⟩ := hreturns.run
  refine ⟨tr₁ ++ (tr₂ ++ tr₃), _, hrun₁.trans (hrun₂.trans hrun₃), ?_, ?_,
    identity_is_stable (.inr ⟨_, rfl, plist_hostBody uuidC_isUuid⟩) hostOnly_identityStrings
      (fun _ _ _ hv => hostOnly_keeps hv) (hrun₁.trans (hrun₂.trans hrun₃))
      (halone₁.append (halone₂.append halone₃))⟩
  · unfold IdentityCalls.result IdentityCalls.looked
    rw [answer_calls_of_ne (by decide), answer_calls_of_ne (by decide),
      answer_calls_of_ne (by decide), hdone]
  · unfold IdentityCalls.result IdentityCalls.looked
    rw [answer_calls_self, afterLook_complete _ _ (getString_of_get rfl) (getString_of_get rfl)]

/-- Two calls find the file absent, and each makes an identity of its own. -/
theorem two_calls_make_two_identities :
    FirstFile identityIdevice none [] ∧
    (∀ u v, IsUuid u → IsUuid v → identityIdevice.Keeps (completed [] u v)) ∧
    ∃ tr s, Run (IdentityCalls.Step IsUuid) (.start identityIdevice defaultFinder 2 none) tr s ∧
      ¬ s.Stable identityIdevice [] := by
  refine ⟨.inl ⟨rfl, rfl⟩, fun _ _ => identityIdevice_keeps, ?_⟩
  have hplays : ∃ s, Plays IdentityCalls.next (fun _ a _ => IsUuid a.uuid)
      (.start identityIdevice defaultFinder 2 none)
      [⟨0, uuidA⟩, ⟨1, uuidC⟩, ⟨0, uuidA⟩, ⟨0, uuidB⟩, ⟨0, uuidA⟩, ⟨0, uuidA⟩, ⟨0, uuidA⟩,
        ⟨1, uuidC⟩, ⟨1, uuidD⟩, ⟨1, uuidC⟩, ⟨1, uuidC⟩, ⟨1, uuidC⟩] s ∧
      s.calls 0 = .done (some (uuidA.toUpper, uuidB.toUpper)) ∧
      s.calls 1 = .done (some (uuidC.toUpper, uuidD.toUpper)) :=
    ⟨_, ⟨_, rfl, uuidA_isUuid, _, rfl, uuidC_isUuid, _, rfl, uuidA_isUuid, _, rfl, uuidB_isUuid,
      _, rfl, uuidA_isUuid, _, rfl, uuidA_isUuid, _, rfl, uuidA_isUuid, _, rfl, uuidC_isUuid,
      _, rfl, uuidD_isUuid, _, rfl, uuidC_isUuid, _, rfl, uuidC_isUuid, _, rfl, uuidC_isUuid,
      rfl⟩, rfl, rfl⟩
  obtain ⟨s, hplays, hfirst, hsecond⟩ := hplays
  have hstep : ∀ (u : IdentityCalls 2) (a : CallTurn 2) u', u.next a = some u' → IsUuid a.uuid →
      IdentityCalls.Step IsUuid u a u' := fun _ _ _ hnext huuid => ⟨hnext, huuid⟩
  obtain ⟨tr, hrun, -, -⟩ := Run.of_plays hstep hplays
  refine ⟨tr, s, hrun, fun hstable => ?_⟩
  have hagree := hstable.agree 0 1 (some (uuidA.toUpper, uuidB.toUpper))
    (some (uuidC.toUpper, uuidD.toUpper)) (by unfold IdentityCalls.result; rw [hfirst])
    (by unfold IdentityCalls.result; rw [hsecond])
  have hupper : uuidA.toUpper.toList = uuidC.toUpper.toList :=
    congrArg (fun r => (r.map fun p : String × String => p.1.toList).getD []) hagree
  unfold String.toUpper at hupper
  rw [String.toList_map, String.toList_map] at hupper
  revert hupper
  decide

end Netmuxd
