/-
Maps that are filled from a list.

An item of the list may give a key a value, which replaces the one there was.  So what a map
filled from a list has under a key is what the last item gave that gave the key a value.
-/
import Mathlib.Data.List.AList
import Mathlib.Data.List.Induction
import Mathlib.Tactic.Common

namespace Netmuxd.Lib

variable {ι α β : Type} [DecidableEq α] {f : ι → Option (α × β)} {l : List ι} {x : ι} {a : α}
  {b : β}

def fill (f : ι → Option (α × β)) (m : AList fun _ : α => β) (l : List ι) : AList fun _ : α => β :=
  l.foldl (fun m x => (f x).elim m fun e => m.insert e.1 e.2) m

/-- A map kept as part of a larger state is filled if each step of the state fills it. -/
theorem fill_of_step {σ : Type} {step : σ → ι → σ} {part : σ → AList fun _ : α => β}
    (h : ∀ s x, part (step s x) = (f x).elim (part s) fun e => (part s).insert e.1 e.2) (s : σ) :
    part (l.foldl step s) = fill f (part s) l := by
  induction l generalizing s with
  | nil => simp [fill]
  | cons x l ih =>
      rw [List.foldl_cons, ih, h]
      simp [fill]

/-- The last item that gives `a` a value gives it `b`. -/
def Last (f : ι → Option (α × β)) (l : List ι) (a : α) (b : β) : Prop :=
  ∃ before x after, l = before ++ x :: after ∧ f x = some (a, b) ∧
    ∀ y ∈ after, ∀ b', f y ≠ some (a, b')

omit [DecidableEq α] in
@[simp] theorem not_last_nil : ¬ Last f [] a b := by
  intro h
  obtain ⟨before, x, after, hsplit, -⟩ := h
  simp at hsplit

omit [DecidableEq α] in
/-- One more item has the last word, if it has a value for the key. -/
theorem last_snoc :
    Last f (l ++ [x]) a b ↔ f x = some (a, b) ∨ (∀ b', f x ≠ some (a, b')) ∧ Last f l a b := by
  constructor
  · intro h
    obtain ⟨before, y, after, hsplit, hy, hlast⟩ := h
    by_cases hafter : after = []
    · rw [hafter] at hsplit
      obtain ⟨-, hxy⟩ := List.append_inj' hsplit rfl
      rw [List.singleton_inj] at hxy
      exact Or.inl (hxy ▸ hy)
    · obtain ⟨init, z, hinit⟩ := List.eq_nil_or_concat after |>.resolve_left hafter
      have hsplit' : l ++ [x] = (before ++ y :: init) ++ [z] := by
        simp [hsplit, hinit]
      obtain ⟨hl, hxz⟩ := List.append_inj' hsplit' rfl
      rw [List.singleton_inj] at hxz
      rw [hinit] at hlast
      refine Or.inr ⟨hxz ▸ hlast z (by simp), before, y, init, hl, hy, ?_⟩
      intro w hw
      exact hlast w (by simp [hw])
  · intro h
    rcases h with hx | ⟨hx, before, y, after, hl, hy, hlast⟩
    · exact ⟨l, x, [], rfl, hx, by simp⟩
    · refine ⟨before, y, after ++ [x], by simp [hl], hy, ?_⟩
      intro w hw
      rcases List.mem_append.mp hw with hw | hw
      · exact hlast w hw
      · rw [List.mem_singleton.mp hw]
        exact hx

/-- What stands under a key is what the last item that has a value for it says. -/
theorem lookup_fill : (fill f ∅ l).lookup a = some b ↔ Last f l a b := by
  induction l using List.reverseRecOn with
  | nil => simp [fill]
  | append_singleton l x ih =>
      have hfill : fill f ∅ (l ++ [x]) = (f x).elim (fill f ∅ l) fun e =>
          (fill f ∅ l).insert e.1 e.2 := by
        simp [fill]
      rw [hfill, last_snoc, ← ih]
      cases hx : f x with
      | none => simp
      | some e =>
          by_cases he : a = e.1
          · subst he
            simp [Prod.ext_iff]
          · have he' : e.1 ≠ a := fun h => he h.symm
            simp [AList.lookup_insert_ne he, Prod.ext_iff, he']

end Netmuxd.Lib
