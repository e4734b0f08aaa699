/-
Which arguments are options and which are values.

Reading a command line from left to right, an option that takes a value consumes itself
and the next argument, and every other argument only itself; `readings` is that list, and
the configuration is meant to be its fold.  `collect` takes the value of `--plist-storage`
but moves on by one, so that it reads the value again as an argument.

The fold does not notice an argument that is no option.  Hence the two agree, and no value
is taken for an option, exactly if no value of `--plist-storage` is one.  The proof follows
the loop's states: from each of them, the fold of what is left comes to the same.
-/
import Netmuxd.Daemon.Options

namespace Netmuxd.Options

open Lib (Turn Reaches)

variable {SocketAddr : Type} {target : Target} {addresses : Addresses SocketAddr}

/-! ### The fold -/

/-- `arg`, with `next` after it, is an option that takes `next` as its value. -/
def takesValue (target : Target) (arg next : String) : Bool :=
  match arg with
  | "-p" | "--port" | "--host" | "--plist-storage" => true
  | "--socket-path" => target.isUnix
  | "--upstream-usbmuxd" => !startsWithDash next
  | _ => false

def isOption (target : Target) (arg : String) : Bool :=
  match arg with
  | "-p" | "--port" | "--host" | "--plist-storage" | "--disable-mdns" | "--disable-usb"
  | "--disable-heartbeat" | "--upstream-usbmuxd" | "-h" | "--help" | "--about" => true
  | "--disable-unix" | "--socket-path" => target.isUnix
  | "--libusbk" => target.hasLibusbk
  | "--kill-amds" | "--restart-amds-on-exit" => target.isWindows
  | _ => false

/-- An argument with the value it takes. -/
abbrev Reading := String × Option String

def readings (target : Target) : List String → List Reading
  | [] => []
  | [arg] => [(arg, none)]
  | arg :: next :: rest =>
    if takesValue target arg next then
      (arg, some next) :: readings target rest
    else
      (arg, none) :: readings target (next :: rest)

/-- What an option with its value does to the configuration, as its branch has it. -/
def interpret (target : Target) (addresses : Addresses SocketAddr)
    (res : NetmuxdConfig SocketAddr) (r : Reading) : Except Stop (NetmuxdConfig SocketAddr) :=
  (collectBranch target addresses r.1 r.2 res).map Prod.snd

def foldFrom (target : Target) (addresses : Addresses SocketAddr) (args : List String)
    (res : NetmuxdConfig SocketAddr) : Except Stop (NetmuxdConfig SocketAddr) :=
  (readings target args).foldlM (interpret target addresses) res

/-- The values that `--plist-storage` is given. -/
def storageValues (target : Target) (args : List String) : List String :=
  (readings target args).filterMap fun r => if r.1 = "--plist-storage" then r.2 else none

/-- No value of `--plist-storage` is an option itself. -/
def NoStorageOption (target : Target) (args : List String) : Prop :=
  ∀ value ∈ storageValues target args, isOption target value = false

/-! ### What the loop does with an argument -/

variable (target addresses) in
/-- The loop comes to argument `i`. -/
def Visits (args : List String) (i : Nat) : Prop :=
  ∃ s, Reaches (collectTurn target addresses args) (.start target) s ∧ s.i = i

variable (target addresses) in
def ReadAsOption (args : List String) (j : Nat) : Prop :=
  Visits target addresses args j ∧ ∃ arg, args[j]? = some arg ∧ isOption target arg = true

variable (target addresses) in
def TakenAsValue (args : List String) (j : Nat) : Prop :=
  ∃ i, Visits target addresses args i ∧ j = i + 1 ∧
    ∃ arg next, args[i]? = some arg ∧ args[i + 1]? = some next ∧ takesValue target arg next = true

/-! ### Readings -/

/-- The value that `arg` takes, `next` being what follows it. -/
def valueOf (target : Target) (arg : String) (next : Option String) : Option String :=
  next.filter (takesValue target arg)

theorem valueOf_eq_some {arg value : String} {next : Option String} :
    valueOf target arg next = some value ↔ next = some value ∧ takesValue target arg value = true :=
  Option.filter_eq_some_iff

theorem readings_cons (arg : String) (rest : List String) :
    readings target (arg :: rest) = (arg, valueOf target arg rest.head?) ::
      readings target (rest.drop (valueOf target arg rest.head?).toList.length) := by
  cases rest with
  | nil => rfl
  | cons next rest =>
      rw [readings, valueOf, List.head?_cons, Option.filter_some]
      split
      · rfl
      · rfl

theorem isOption_of_takesValue {arg next : String} (h : takesValue target arg next = true) :
    isOption target arg = true := by
  unfold takesValue at h
  split at h
  all_goals grind [isOption]

theorem valueOf_skip {arg : String} (harg : isOption target arg = false) (next : Option String) :
    valueOf target arg next = none := by
  cases hvalue : valueOf target arg next with
  | none => rfl
  | some value =>
      rw [isOption_of_takesValue (valueOf_eq_some.mp hvalue).2] at harg
      cases harg

/-! ### Branches -/

theorem collectBranch_skip {arg : String} (harg : isOption target arg = false)
    (next : Option String) (res : NetmuxdConfig SocketAddr) :
    collectBranch target addresses arg next res = .ok (1, res) := by
  unfold collectBranch
  split
  all_goals simp_all [isOption]

theorem collectBranch_ignores {arg next : String} (h : takesValue target arg next = false)
    (res : NetmuxdConfig SocketAddr) :
    collectBranch target addresses arg (some next) res =
      collectBranch target addresses arg none res := by
  unfold collectBranch
  split
  all_goals simp_all [takesValue, Option.filter_some]

/-- A branch looks at its value only. -/
theorem collectBranch_value (arg : String) (next : Option String)
    (res : NetmuxdConfig SocketAddr) :
    collectBranch target addresses arg (valueOf target arg next) res =
      collectBranch target addresses arg next res := by
  cases next with
  | none => rfl
  | some next =>
      rw [valueOf, Option.filter_some]
      split
      · rfl
      · next h => exact (collectBranch_ignores (Bool.eq_false_iff.mpr h) res).symm

theorem collectBranch_alone {arg : String} {res res' : NetmuxdConfig SocketAddr} {step : Nat}
    (h : collectBranch target addresses arg none res = .ok (step, res')) : step = 1 := by
  unfold collectBranch at h
  split at h
  all_goals grind [bind_eq_ok, expect]

theorem collectBranch_takes {arg value : String} {res res' : NetmuxdConfig SocketAddr}
    {step : Nat} (hvalue : takesValue target arg value = true)
    (h : collectBranch target addresses arg (some value) res = .ok (step, res')) :
    step = if arg = "--plist-storage" then 1 else 2 := by
  unfold collectBranch at h
  unfold takesValue at hvalue
  split at h
  all_goals simp at hvalue
  all_goals grind [bind_eq_ok]

/-! ### Turns -/

variable {args : List String}

/-- A turn that goes round again has interpreted an argument; the index is past it and its
value, or past `--plist-storage` only. -/
theorem collectTurn_again {s s' : CollectState SocketAddr}
    (h : collectTurn target addresses args s = .again s') :
    ∃ arg value, args[s.i]? = some arg ∧ valueOf target arg args[s.i + 1]? = value ∧
      interpret target addresses s.res (arg, value) = .ok s'.res ∧
      s'.i = s.i + if arg = "--plist-storage" then 1 else 1 + value.toList.length := by
  unfold collectTurn at h
  split at h
  · cases h
  · next arg harg =>
      split at h
      · next step res' hbranch =>
          cases h
          refine ⟨arg, _, harg, rfl, ?_, ?_⟩
          · rw [interpret, collectBranch_value, hbranch]
            rfl
          · rw [← collectBranch_value] at hbranch
            cases hvalue : valueOf target arg args[s.i + 1]? with
            | none =>
                rw [hvalue] at hbranch
                cases collectBranch_alone hbranch
                split <;> rfl
            | some value =>
                rw [hvalue] at hbranch
                have htakes := (valueOf_eq_some.mp hvalue).2
                exact congrArg (s.i + ·) (collectBranch_takes htakes hbranch)
      · cases h

theorem collectTurn_leave {s : CollectState SocketAddr}
    {r : Except Stop (NetmuxdConfig SocketAddr)}
    (h : collectTurn target addresses args s = .leave r) :
    (args[s.i]? = none ∧ r = .ok s.res) ∨
      ∃ arg stop, args[s.i]? = some arg ∧ r = .error stop ∧
        interpret target addresses s.res (arg, valueOf target arg args[s.i + 1]?) =
          .error stop := by
  unfold collectTurn at h
  split at h
  · next hend =>
      cases h
      exact .inl ⟨hend, rfl⟩
  · next arg harg =>
      split at h
      · cases h
      · next stop hbranch =>
          cases h
          refine .inr ⟨arg, stop, harg, rfl, ?_⟩
          rw [interpret, collectBranch_value, hbranch]
          rfl

/-! ### What is left of the arguments -/

theorem readings_drop {i : Nat} {arg : String} {value : Option String} (harg : args[i]? = some arg)
    (hvalue : valueOf target arg args[i + 1]? = value) :
    readings target (args.drop i) =
      (arg, value) :: readings target (args.drop (i + (1 + value.toList.length))) := by
  obtain ⟨hi, rfl⟩ := List.getElem?_eq_some_iff.mp harg
  rw [List.drop_eq_getElem_cons hi, readings_cons, List.head?_drop, hvalue, List.drop_drop,
    Nat.add_assoc]

theorem foldFrom_drop {i : Nat} {arg : String} {value : Option String} (harg : args[i]? = some arg)
    (hvalue : valueOf target arg args[i + 1]? = value) (res : NetmuxdConfig SocketAddr) :
    foldFrom target addresses (args.drop i) res =
      interpret target addresses res (arg, value) >>=
        foldFrom target addresses (args.drop (i + (1 + value.toList.length))) := by
  rw [foldFrom, readings_drop harg hvalue, List.foldlM_cons]
  rfl

theorem storageValues_drop {i : Nat} {arg : String} {value : Option String}
    (harg : args[i]? = some arg) (hvalue : valueOf target arg args[i + 1]? = value) :
    storageValues target (args.drop i) = (if arg = "--plist-storage" then value.toList else []) ++
      storageValues target (args.drop (i + (1 + value.toList.length))) := by
  rw [storageValues, readings_drop harg hvalue, List.filterMap_cons]
  by_cases harg : arg = "--plist-storage"
  · cases value with
    | none => simp [harg, storageValues]
    | some value => simp [harg, storageValues]
  · simp [harg, storageValues]

/-- An argument that is no option makes no difference. -/
theorem foldFrom_skip {i : Nat} {arg : String} (harg : args[i]? = some arg)
    (hskip : isOption target arg = false) (res : NetmuxdConfig SocketAddr) :
    foldFrom target addresses (args.drop i) res =
      foldFrom target addresses (args.drop (i + 1)) res := by
  rw [foldFrom_drop harg (valueOf_skip hskip _), interpret, collectBranch_skip hskip]
  rfl

theorem storageValues_skip {i : Nat} {arg : String} (harg : args[i]? = some arg)
    (hskip : isOption target arg = false) :
    storageValues target (args.drop i) = storageValues target (args.drop (i + 1)) := by
  have hne : arg ≠ "--plist-storage" := by
    intro h
    rw [h] at hskip
    cases hskip
  rw [storageValues_drop harg (valueOf_skip hskip _), if_neg hne]
  rfl

/-! ### The loop and the fold -/

theorem collectTurn_same {s s' : CollectState SocketAddr}
    (hclean : NoStorageOption target (args.drop s.i))
    (h : collectTurn target addresses args s = .again s') :
    NoStorageOption target (args.drop s'.i) ∧
      foldFrom target addresses (args.drop s'.i) s'.res =
        foldFrom target addresses (args.drop s.i) s.res := by
  obtain ⟨arg, value, harg, hvalue, hres, hi⟩ := collectTurn_again h
  rw [foldFrom_drop harg hvalue, hres]
  unfold NoStorageOption at hclean ⊢
  rw [storageValues_drop harg hvalue] at hclean
  by_cases hstorage : arg = "--plist-storage"
  · rw [if_pos hstorage] at hi hclean
    cases value with
    | none =>
        rw [hi]
        exact ⟨hclean, rfl⟩
    | some value =>
        -- the value is read again, and skipped
        have hnext := (valueOf_eq_some.mp hvalue).1
        have hskip : isOption target value = false := hclean value (List.mem_cons_self ..)
        rw [hi, storageValues_skip hnext hskip, foldFrom_skip hnext hskip]
        exact ⟨fun v hv => hclean v (List.mem_cons_of_mem _ hv), rfl⟩
  · rw [if_neg hstorage] at hi hclean
    rw [hi]
    exact ⟨hclean, rfl⟩

theorem collectTurn_result {s : CollectState SocketAddr}
    {r : Except Stop (NetmuxdConfig SocketAddr)}
    (h : collectTurn target addresses args s = .leave r) :
    r = foldFrom target addresses (args.drop s.i) s.res := by
  rcases collectTurn_leave h with ⟨hend, rfl⟩ | ⟨arg, stop, harg, rfl, hstop⟩
  · rw [List.drop_eq_nil_of_le (List.getElem?_eq_none_iff.mp hend)]
    rfl
  · rw [foldFrom_drop harg rfl, hstop]
    rfl

theorem collect_eq_fold (hclean : NoStorageOption target args) :
    collect target addresses args =
      foldFrom target addresses args (defaultConfig target) := by
  have hagain : ∀ s s' : CollectState SocketAddr,
      (NoStorageOption target (args.drop s.i) ∧ foldFrom target addresses (args.drop s.i) s.res =
        foldFrom target addresses args (defaultConfig target)) →
      collectTurn target addresses args s = .again s' →
      NoStorageOption target (args.drop s'.i) ∧
        foldFrom target addresses (args.drop s'.i) s'.res =
          foldFrom target addresses args (defaultConfig target) := by
    intro s s' ⟨hs, hsame⟩ hturn
    obtain ⟨hs', hsame'⟩ := collectTurn_same hs hturn
    exact ⟨hs', hsame'.trans hsame⟩
  exact Lib.whileLoop_induct (Q := fun r =>
      r = foldFrom target addresses args (defaultConfig target)) hagain
    (fun s r hs hturn => (collectTurn_result hturn).trans hs.2) ⟨hclean, rfl⟩

/-! ### Reading twice -/

/-- A value that the loop comes to is one of `--plist-storage`. -/
theorem storage_of_visits {s : CollectState SocketAddr} {arg next : String}
    (hs : Reaches (collectTurn target addresses args) (.start target) s)
    (harg : args[s.i]? = some arg) (hnext : args[s.i + 1]? = some next)
    (htakes : takesValue target arg next = true)
    (hvisits : Visits target addresses args (s.i + 1)) : arg = "--plist-storage" := by
  obtain ⟨s', hs', hi'⟩ := hvisits
  obtain ⟨hlt, -⟩ := List.getElem?_eq_some_iff.mp hnext
  obtain ⟨t, hturn, ht⟩ :=
    hs.next (collectTurn_lowers target addresses args) hs' (by simp only [hi']; omega)
  have hle := ht.lowers (collectTurn_lowers target addresses args)
  obtain ⟨arg', value, harg', hvalue, -, hi⟩ := collectTurn_again hturn
  cases Option.some.inj (harg.symm.trans harg')
  rw [hnext, valueOf, Option.filter_some, if_pos htakes] at hvalue
  by_contra hother
  rw [if_neg hother, ← hvalue, Option.toList_some, List.length_singleton] at hi
  simp only [hi, hi'] at hle
  omega

theorem values_read_once (hclean : NoStorageOption target args) {j : Nat}
    (hvalue : TakenAsValue target addresses args j) : ¬ ReadAsOption target addresses args j := by
  intro ⟨hvisits, v, hv, hoption⟩
  obtain ⟨i, ⟨s, hs, rfl⟩, rfl, arg, next, harg, hnext, htakes⟩ := hvalue
  cases Option.some.inj (hv.symm.trans hnext)
  have hstorage := storage_of_visits hs harg hnext htakes hvisits
  have hclean' : NoStorageOption target (args.drop s.i) :=
    hs.invariant (P := fun s : CollectState SocketAddr => NoStorageOption target (args.drop s.i))
      (fun _ _ hs hturn => (collectTurn_same hs hturn).1) hclean
  have hvalue : valueOf target arg args[s.i + 1]? = some v := valueOf_eq_some.mpr ⟨hnext, htakes⟩
  have hmem : v ∈ storageValues target (args.drop s.i) := by
    rw [storageValues_drop harg hvalue, if_pos hstorage]
    exact List.mem_cons_self ..
  rw [hclean' v hmem] at hoption
  cases hoption

/-- Backwards from the end: what the loop reads after a value of `--plist-storage` is all
that comes after it. -/
theorem clean_of_values_read_once {cfg : NetmuxdConfig SocketAddr}
    (h : collect target addresses args = .ok cfg)
    (honce : ∀ j, TakenAsValue target addresses args j → ¬ ReadAsOption target addresses args j) :
    NoStorageOption target args := by
  have hback : ∀ s : CollectState SocketAddr,
      collectTurn target addresses args s = .leave (collect target addresses args) →
        NoStorageOption target (args.drop s.i) := by
    intro s hturn
    rcases collectTurn_leave hturn with ⟨hend, -⟩ | ⟨arg, stop, -, hstop, -⟩
    · rw [List.drop_eq_nil_of_le (List.getElem?_eq_none_iff.mp hend)]
      exact fun v hv => nomatch hv
    · rw [h] at hstop
      cases hstop
  refine Lib.whileLoop_back (s := CollectState.start target) hback ?_
  intro s s' hs hturn hs'
  obtain ⟨arg, value, harg, hvalue, hres, hi⟩ := collectTurn_again hturn
  unfold NoStorageOption at hs' ⊢
  rw [storageValues_drop harg hvalue]
  by_cases hstorage : arg = "--plist-storage"
  · rw [if_pos hstorage] at hi ⊢
    cases value with
    | none =>
        rw [hi] at hs'
        exact hs'
    | some v =>
        obtain ⟨hnext, htakes⟩ := valueOf_eq_some.mp hvalue
        have hskip : isOption target v = false := by
          rw [Bool.eq_false_iff]
          intro hoption
          exact honce (s.i + 1) ⟨s.i, ⟨s, hs, rfl⟩, rfl, arg, v, harg, hnext, htakes⟩
            ⟨⟨s', hs.snoc hturn, hi⟩, v, hnext, hoption⟩
        rw [hi, storageValues_skip hnext hskip] at hs'
        intro w hw
        rcases List.mem_append.mp hw with hw | hw
        · cases List.mem_singleton.mp hw
          exact hskip
        · exact hs' w hw
  · rw [if_neg hstorage] at hi ⊢
    rw [hi] at hs'
    exact hs'

/-- A configuration is that of the fold, and no value is read as an option, exactly if no
value of `--plist-storage` is an option. -/
theorem option_values_iff (target : Target) (addresses : Addresses SocketAddr)
    (args : List String) (cfg : NetmuxdConfig SocketAddr)
    (h : collect target addresses args = .ok cfg) :
    (foldFrom target addresses args (defaultConfig target) = .ok cfg ∧
      ∀ j, TakenAsValue target addresses args j → ¬ ReadAsOption target addresses args j) ↔
    NoStorageOption target args := by
  constructor
  · intro ⟨_, honce⟩
    exact clean_of_values_read_once h honce
  · intro hclean
    exact ⟨(collect_eq_fold hclean).symm.trans h, fun j => values_read_once hclean⟩

/-- A Unix system without `USBMUXD_SOCKET_ADDRESS`, and no address with a port in use. -/
def systemMuxer : Addresses String where
  parse := fun _ => none
  fromEnvVar := none
  default := .unixSocket "/var/run/usbmuxd"

def unixDefaults : NetmuxdConfig String :=
  defaultConfig .unix

def shimLine : List String :=
  ["netmuxd", "--plist-storage", "/tmp/store", "--upstream-usbmuxd", "--disable-mdns",
    "-p", "27016"]

def shimConfig : NetmuxdConfig String :=
  { unixDefaults with
    plistStorage := some "/tmp/store", upstream := some (.unixSocket "/var/run/usbmuxd"),
    useUsb := false, useMdns := false, port := 27016 }

theorem shimLine_values :
    foldFrom .unix systemMuxer shimLine (defaultConfig .unix) = .ok shimConfig ∧
      ∀ j, TakenAsValue .unix systemMuxer shimLine j →
        ¬ ReadAsOption .unix systemMuxer shimLine j := by
  have hcollect : collect .unix systemMuxer shimLine = .ok shimConfig := rfl
  refine (option_values_iff .unix systemMuxer shimLine shimConfig hcollect).mpr ?_
  intro value hvalue
  cases List.mem_singleton.mp (show value ∈ ["/tmp/store"] from hvalue)
  rfl

/-- `--disable-usb` is the directory here, and USB is disabled. -/
theorem storage_value_is_read_again :
    collect .unix systemMuxer ["netmuxd", "--plist-storage", "--disable-usb"] =
      .ok { unixDefaults with plistStorage := some "--disable-usb", useUsb := false } ∧
    foldFrom .unix systemMuxer ["netmuxd", "--plist-storage", "--disable-usb"]
        (defaultConfig .unix) =
      .ok { unixDefaults with plistStorage := some "--disable-usb" } ∧
    ¬ ∀ (args : List String) (cfg : NetmuxdConfig String),
      collect .unix systemMuxer args = .ok cfg →
        foldFrom .unix systemMuxer args (defaultConfig .unix) = .ok cfg ∧
          ∀ j, TakenAsValue .unix systemMuxer args j → ¬ ReadAsOption .unix systemMuxer args j := by
  have hcollect : collect .unix systemMuxer ["netmuxd", "--plist-storage", "--disable-usb"] =
      .ok { unixDefaults with plistStorage := some "--disable-usb", useUsb := false } := rfl
  refine ⟨hcollect, rfl, fun h => ?_⟩
  have hfold := (h _ _ hcollect).1
  cases hfold

end Netmuxd.Options
