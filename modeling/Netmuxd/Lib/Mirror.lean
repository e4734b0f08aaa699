/-
Logs of what goes into a table and what comes out.

A party that hears of every entry put into a table and of every one taken out can keep
a copy of the table: `replay` is that copy.  A log is orderly if no key goes in twice
and none comes out that is not in.  The whole table, entry by entry, is itself such a
log, so a copy can be started at any time.
-/
import Mathlib.Data.List.Induction
import Mathlib.Logic.Function.Basic
import Mathlib.Tactic.Common

namespace Netmuxd.Lib

inductive Edit (κ ν : Type*)
  | put (k : κ) (v : ν)
  | drop (k : κ)

variable {κ ν : Type*}

/-- The key that goes in, if one does. -/
def Edit.put? : Edit κ ν → Option κ
  | .put k _ => some k
  | .drop _ => none

/-- The keys that ever went in. -/
def puts (log : List (Edit κ ν)) : List κ :=
  log.filterMap Edit.put?

section
variable {log : List (Edit κ ν)} {k : κ}

theorem puts_append (log log' : List (Edit κ ν)) : puts (log ++ log') = puts log ++ puts log' :=
  List.filterMap_append ..

theorem puts_drop : puts (log ++ [.drop k]) = puts log := by
  rw [puts_append]
  simp [puts, Edit.put?]

end

section
variable [DecidableEq κ] {log : List (Edit κ ν)} {table : κ → Option ν} {k k' : κ} {v : ν}

def Edit.apply (table : κ → Option ν) : Edit κ ν → κ → Option ν
  | .put k v => Function.update table k (some v)
  | .drop k => Function.update table k none

/-- The table that a log leads to. -/
def replay (log : List (Edit κ ν)) : κ → Option ν :=
  log.foldl Edit.apply fun _ => none

theorem replay_put : replay (log ++ [.put k v]) = Function.update (replay log) k (some v) := by
  unfold replay
  rw [List.foldl_append]
  rfl

theorem replay_drop :
    replay (log ++ [.drop k] : List (Edit κ ν)) = Function.update (replay log) k none := by
  unfold replay
  rw [List.foldl_append]
  rfl

/-- No key goes in twice, and what comes out is in. -/
structure Orderly (log : List (Edit κ ν)) : Prop where
  once : (puts log).Nodup
  inside : ∀ pre k post, log = pre ++ .drop k :: post → (replay pre k).isSome = true

theorem orderly_nil : Orderly ([] : List (Edit κ ν)) where
  once := List.nodup_nil
  inside := by
    intro pre k post h
    simp at h

/-- Where a list grown by one element is cut. -/
theorem snoc_eq_append_cons {α : Type*} {l pre post : List α} {a b : α}
    (h : l ++ [a] = pre ++ b :: post) :
    (pre = l ∧ b = a) ∨ ∃ post', l = pre ++ b :: post' := by
  induction post using List.reverseRecOn with
  | nil =>
      obtain ⟨hl, hab⟩ := List.append_inj' h rfl
      injection hab with hab
      exact Or.inl ⟨hl.symm, hab.symm⟩
  | append_singleton post c _ =>
      rw [← List.cons_append, ← List.append_assoc] at h
      obtain ⟨hl, -⟩ := List.append_inj' h rfl
      exact Or.inr ⟨post, hl⟩

theorem Orderly.put (h : Orderly log) (hk : k ∉ puts log) : Orderly (log ++ [.put k v]) where
  once := by
    rw [puts_append]
    refine List.nodup_append.mpr ⟨h.once, by simp [puts, Edit.put?], ?_⟩
    intro a ha b hb
    have hb : b = k := by simpa [puts, Edit.put?] using hb
    rw [hb]
    intro hak
    exact hk (hak ▸ ha)
  inside := by
    intro pre k' post heq
    rcases snoc_eq_append_cons heq with ⟨-, hbad⟩ | ⟨post', hlog⟩
    · cases hbad
    · exact h.inside pre k' post' hlog

theorem Orderly.drop (h : Orderly log) (hk : (replay log k).isSome = true) :
    Orderly (log ++ [.drop k]) where
  once := by
    rw [puts_drop]
    exact h.once
  inside := by
    intro pre k' post heq
    rcases snoc_eq_append_cons heq with ⟨hpre, hlast⟩ | ⟨post', hlog⟩
    · cases hlast
      rw [hpre]
      exact hk
    · exact h.inside pre k' post' hlog

/-- The log that puts in the entries of a table under these keys. -/
def snapshot (table : κ → Option ν) (keys : List κ) : List (Edit κ ν) :=
  keys.filterMap fun k => (table k).map (.put k)

omit [DecidableEq κ] in
theorem mem_puts_snapshot {keys : List κ} (h : k ∈ puts (snapshot table keys)) : k ∈ keys := by
  simp only [puts, snapshot, List.mem_filterMap] at h
  obtain ⟨e, ⟨k', hk', hmap⟩, hput⟩ := h
  obtain ⟨v, -, rfl⟩ := Option.map_eq_some_iff.mp hmap
  cases hput
  exact hk'

theorem snapshot_spec {keys : List κ} (hkeys : keys.Nodup) :
    Orderly (snapshot table keys) ∧
      ∀ k, replay (snapshot table keys) k = if k ∈ keys then table k else none := by
  induction keys using List.reverseRecOn with
  | nil => exact ⟨orderly_nil, fun k => by simp [snapshot, replay]⟩
  | append_singleton keys a ih =>
      obtain ⟨hnodup, -, hdisj⟩ := List.nodup_append.mp hkeys
      have ha : a ∉ keys := fun h => hdisj a h a (List.mem_singleton_self a) rfl
      obtain ⟨hord, hreplay⟩ := ih hnodup
      have hsplit : snapshot table (keys ++ [a]) =
          snapshot table keys ++ ((table a).map fun v => Edit.put a v).toList := by
        unfold snapshot
        rw [List.filterMap_append]
        cases hta : table a with
        | none => simp [hta]
        | some v => simp [hta]
      rw [hsplit]
      cases hta : table a with
      | none =>
          refine ⟨by simpa using hord, fun k => ?_⟩
          by_cases hk : k = a
          · simp [hk, hreplay, ha, hta]
          · simp [hreplay, hk]
      | some v =>
          refine ⟨hord.put fun h => ha (mem_puts_snapshot h), fun k => ?_⟩
          rw [Option.map_some, Option.toList_some, replay_put]
          by_cases hk : k = a
          · simp [hk, hta]
          · simp [hreplay, hk]

/-- **A copy can be started at any time.** -/
theorem replay_snapshot {keys : List κ} (hkeys : keys.Nodup)
    (hall : ∀ k, (table k).isSome = true → k ∈ keys) : replay (snapshot table keys) = table := by
  funext k
  rw [(snapshot_spec hkeys).2]
  by_cases hk : k ∈ keys
  · rw [if_pos hk]
  · rw [if_neg hk]
    have hnone : (table k).isSome ≠ true := fun h => hk (hall k h)
    exact (Option.not_isSome_iff_eq_none.mp hnone).symm

/-! ### Logs in which a key may come back -/

/-- A key goes in only while it is not in. -/
def Alternates (log : List (Edit κ ν)) : Prop :=
  ∀ pre k v post, log = pre ++ .put k v :: post → replay pre k = none

theorem replay_append_of_nil {log log' : List (Edit κ ν)} (h : replay log = fun _ => none) :
    replay (log ++ log') = replay log' := by
  unfold replay at h ⊢
  rw [List.foldl_append, h]

theorem alternates_nil : Alternates ([] : List (Edit κ ν)) := by
  intro pre k v post h
  simp at h

theorem Alternates.put (h : Alternates log) (hk : replay log k = none) :
    Alternates (log ++ [.put k v]) := by
  intro pre k' v' post heq
  rcases snoc_eq_append_cons heq with ⟨rfl, hlast⟩ | ⟨post', hlog⟩
  · cases hlast
    exact hk
  · exact h pre k' v' post' hlog

theorem Alternates.drop (h : Alternates log) : Alternates (log ++ [.drop k]) := by
  intro pre k' v' post heq
  rcases snoc_eq_append_cons heq with ⟨-, hbad⟩ | ⟨post', hlog⟩
  · cases hbad
  · exact h pre k' v' post' hlog

theorem Alternates.left {log' : List (Edit κ ν)} (h : Alternates (log ++ log')) :
    Alternates log := by
  intro pre k' v' post heq
  refine h pre k' v' (post ++ log') ?_
  rw [heq, List.append_assoc, List.cons_append]

theorem replay_of_not_mem_puts (h : k ∉ puts log) : replay log k = none := by
  induction log using List.reverseRecOn with
  | nil => rfl
  | append_singleton log e ih =>
      rw [puts_append, List.mem_append, not_or] at h
      cases e with
      | put k' v =>
          have hne : k ≠ k' := by simpa [puts, Edit.put?] using h.2
          rw [replay_put, Function.update_of_ne hne, ih h.1]
      | drop k' =>
          rw [replay_drop]
          by_cases hk : k = k'
          · rw [hk, Function.update_self]
          · rw [Function.update_of_ne hk, ih h.1]

/-- A log that starts from nothing goes on as it would by itself. -/
theorem Alternates.append {log' : List (Edit κ ν)} (h : Alternates log)
    (hnil : replay log = fun _ => none) (h' : Orderly log') : Alternates (log ++ log') := by
  induction log' using List.reverseRecOn with
  | nil => rwa [List.append_nil]
  | append_singleton log' e ih =>
      have hleft : Orderly log' := by
        refine ⟨(List.nodup_append.mp (puts_append log' [e] ▸ h'.once)).1, ?_⟩
        intro pre k post heq
        refine h'.inside pre k (post ++ [e]) ?_
        rw [heq, List.append_assoc, List.cons_append]
      rw [← List.append_assoc]
      cases e with
      | put k v =>
          refine (ih hleft).put ?_
          rw [replay_append_of_nil hnil]
          refine replay_of_not_mem_puts fun hk => ?_
          have honce := h'.once
          rw [puts_append] at honce
          exact (List.nodup_append.mp honce).2.2 k hk k (by simp [puts, Edit.put?]) rfl
      | drop k => exact (ih hleft).drop

/-- What is in stays in while keys only go in. -/
theorem replay_snapshot_isSome {keys : List κ} (h : (replay log k).isSome = true) :
    (replay (log ++ snapshot table keys) k).isSome = true := by
  induction keys using List.reverseRecOn with
  | nil => rwa [snapshot, List.filterMap_nil, List.append_nil]
  | append_singleton keys a ih =>
      unfold snapshot at ih ⊢
      rw [List.filterMap_append, ← List.append_assoc]
      cases hta : table a with
      | none => simpa [hta] using ih
      | some v =>
          rw [List.filterMap_cons_some (by rw [hta, Option.map_some]), List.filterMap_nil,
            replay_put]
          by_cases hk : k = a
          · rw [hk, Function.update_self]
            rfl
          · rw [Function.update_of_ne hk]
            exact ih

/-- A table that is put in where something is left has a key go in twice, or leaves that. -/
theorem leftover_of_snapshot {keys : List κ} (hall : (table k).isSome = true → k ∈ keys)
    (h : (replay log k).isSome = true) (halt : Alternates (log ++ snapshot table keys)) :
    replay (log ++ snapshot table keys) ≠ table := by
  intro hsame
  have hin := @replay_snapshot_isSome κ ν _ log table k keys h
  have hk : (table k).isSome = true := by rwa [hsame] at hin
  obtain ⟨v, hv⟩ := Option.isSome_iff_exists.mp hk
  obtain ⟨before, after, hkeys⟩ := List.append_of_mem (hall hk)
  have hsplit : log ++ snapshot table keys =
      (log ++ snapshot table before) ++ .put k v :: snapshot table after := by
    unfold snapshot
    rw [hkeys, List.filterMap_append, List.filterMap_cons_some (by rw [hv, Option.map_some]),
      List.append_assoc]
  have hnone := halt _ k v _ hsplit
  have hbefore := @replay_snapshot_isSome κ ν _ log table k before h
  rw [hnone] at hbefore
  cases hbefore

end

end Netmuxd.Lib
