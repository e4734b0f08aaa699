/-
Runs of a labelled transition system.

A run keeps every transition it took, so that a statement about all steps of a run
and a statement about the state it ends in can be made of the same object.  The
rules below are the ones an invariant proof needs: what holds at the start and
survives each step holds at the end, and holds of every step on the way.
-/
import Mathlib.Tactic.Common

namespace Netmuxd.Lib

variable {σ α : Type*} {step : σ → α → σ → Prop} {s₀ s s' : σ} {tr : List (σ × α × σ)}

/-- `Run step s₀ tr s`: the transitions `tr`, taken in order, lead from `s₀` to `s`. -/
inductive Run (step : σ → α → σ → Prop) (s₀ : σ) : List (σ × α × σ) → σ → Prop
  | nil : Run step s₀ [] s₀
  | snoc {tr : List (σ × α × σ)} {s s' : σ} {a : α} (h : Run step s₀ tr s) (hs : step s a s') :
      Run step s₀ (tr ++ [(s, a, s')]) s'

/-- A condition on every step of a run. -/
def EveryStep (P : σ → α → σ → Prop) (tr : List (σ × α × σ)) : Prop :=
  ∀ t ∈ tr, P t.1 t.2.1 t.2.2

theorem EveryStep.imp {P Q : σ → α → σ → Prop} (h : EveryStep P tr)
    (hPQ : ∀ s a s', P s a s' → Q s a s') : EveryStep Q tr :=
  fun t ht => hPQ _ _ _ (h t ht)

theorem everyStep_nil (P : σ → α → σ → Prop) : EveryStep P [] := by
  intro t ht
  cases ht

theorem everyStep_single {P : σ → α → σ → Prop} {a : α} (h : P s a s') :
    EveryStep P [(s, a, s')] := by
  intro t ht
  rw [List.mem_singleton.mp ht]
  exact h

theorem everyStep_snoc {P : σ → α → σ → Prop} {a : α} :
    EveryStep P (tr ++ [(s, a, s')]) ↔ EveryStep P tr ∧ P s a s' := by
  constructor
  · intro h
    exact ⟨fun t ht => h t (List.mem_append_left _ ht), h (s, a, s') (by simp)⟩
  · rintro ⟨h, hlast⟩ t ht
    rcases List.mem_append.mp ht with hl | hr
    · exact h t hl
    · rw [List.mem_singleton.mp hr]
      exact hlast

theorem EveryStep.append {P : σ → α → σ → Prop} {tr' : List (σ × α × σ)} (h : EveryStep P tr)
    (h' : EveryStep P tr') : EveryStep P (tr ++ tr') := by
  intro t ht
  rcases List.mem_append.mp ht with hl | hr
  · exact h t hl
  · exact h' t hr

namespace Run

theorem single {a : α} (hs : step s a s') : Run step s [(s, a, s')] s' :=
  show Run step s ([] ++ [(s, a, s')]) s' from Run.snoc Run.nil hs

theorem trans {tr' : List (σ × α × σ)} {u : σ} (h : Run step s₀ tr s) (h' : Run step s tr' u) :
    Run step s₀ (tr ++ tr') u := by
  induction h' with
  | nil => simpa using h
  | snoc _ hs ih =>
      rw [← List.append_assoc]
      exact Run.snoc ih hs

/-- **Invariants.**  What holds at the start and survives each step holds at the end,
here for runs whose steps all meet `C`. -/
theorem invariant_of {C : σ → α → σ → Prop} {P : σ → Prop} (h0 : P s₀)
    (hstep : ∀ s a s', P s → step s a s' → C s a s' → P s') (h : Run step s₀ tr s)
    (hC : EveryStep C tr) : P s := by
  induction h with
  | nil => exact h0
  | snoc _ hs ih =>
      obtain ⟨hC, hlast⟩ := everyStep_snoc.mp hC
      exact hstep _ _ _ (ih hC) hs hlast

theorem invariant {P : σ → Prop} (h0 : P s₀) (hstep : ∀ s a s', P s → step s a s' → P s')
    (h : Run step s₀ tr s) : P s := by
  induction h with
  | nil => exact h0
  | snoc _ hs ih => exact hstep _ _ _ ih hs

/-- What follows from the invariant for a single step holds of every step of a run. -/
theorem everyStep_of {C : σ → α → σ → Prop} {P : σ → Prop} {Q : σ → α → σ → Prop} (h0 : P s₀)
    (hstep : ∀ s a s', P s → step s a s' → C s a s' → P s')
    (hQ : ∀ s a s', P s → step s a s' → C s a s' → Q s a s') (h : Run step s₀ tr s)
    (hC : EveryStep C tr) : EveryStep Q tr := by
  induction h with
  | nil => exact everyStep_nil Q
  | snoc hrun hs ih =>
      obtain ⟨hC, hlast⟩ := everyStep_snoc.mp hC
      exact everyStep_snoc.mpr ⟨ih hC, hQ _ _ _ (invariant_of h0 hstep hrun hC) hs hlast⟩

/-- Two conditions that agree on every step taken from a state with the invariant
agree on whole runs. -/
theorem everyStep_congr {C : σ → α → σ → Prop} {P : σ → Prop} {Q : σ → α → σ → Prop} (h0 : P s₀)
    (hstep : ∀ s a s', P s → step s a s' → P s')
    (hQ : ∀ s a s', P s → step s a s' → (Q s a s' ↔ C s a s')) (h : Run step s₀ tr s) :
    EveryStep Q tr ↔ EveryStep C tr := by
  induction h with
  | nil => exact ⟨fun _ => everyStep_nil C, fun _ => everyStep_nil Q⟩
  | snoc hrun hs ih =>
      rw [everyStep_snoc, everyStep_snoc, ih, hQ _ _ _ (invariant h0 hstep hrun) hs]

/-- What holds at the start and after every step holds at the end. -/
theorem last {P : σ → Prop} (h0 : P s₀) (h : Run step s₀ tr s)
    (hall : EveryStep (fun _ _ s' => P s') tr) : P s := by
  cases h with
  | nil => exact h0
  | snoc _ _ => exact (everyStep_snoc.mp hall).2

/-- What each step meets exactly if it meets `C`, given that the steps before have met it,
all steps of a run meet exactly if they meet `C`. -/
theorem everyStep_iff {C Q : σ → α → σ → Prop} {I P : σ → Prop} (h0 : I s₀)
    (hstep : ∀ s a s', I s → step s a s' → I s') (hP0 : P s₀) (hQP : ∀ s a s', Q s a s' → P s')
    (hQ : ∀ s a s', I s → P s → step s a s' → (Q s a s' ↔ C s a s')) (h : Run step s₀ tr s) :
    EveryStep Q tr ↔ EveryStep C tr := by
  induction h with
  | nil => exact ⟨fun _ => everyStep_nil C, fun _ => everyStep_nil _⟩
  | snoc hrun hs ih =>
      rw [everyStep_snoc, everyStep_snoc, ← ih]
      constructor
      · rintro ⟨hall, hlast⟩
        have hP := hrun.last hP0 (hall.imp hQP)
        exact ⟨hall, (hQ _ _ _ (invariant h0 hstep hrun) hP hs).mp hlast⟩
      · rintro ⟨hall, hlast⟩
        have hP := hrun.last hP0 (hall.imp hQP)
        exact ⟨hall, (hQ _ _ _ (invariant h0 hstep hrun) hP hs).mpr hlast⟩

/-- A property of states that each step keeps exactly if it meets `C` holds all along a run
exactly if every step meets `C`. -/
theorem everyState_iff {C : σ → α → σ → Prop} {I P : σ → Prop} (h0 : I s₀)
    (hstep : ∀ s a s', I s → step s a s' → I s') (hP0 : P s₀)
    (hP : ∀ s a s', I s → P s → step s a s' → (P s' ↔ C s a s')) (h : Run step s₀ tr s) :
    EveryStep (fun _ _ s' => P s') tr ↔ EveryStep C tr :=
  everyStep_iff h0 hstep hP0 (fun _ _ _ => id) hP h

/-- A run of one system seen as a run of another, each step being a step there or none. -/
theorem simulate {τ β : Type*} {step' : τ → β → τ → Prop} {f : σ → τ}
    (hsim : ∀ s a s', step s a s' → f s' = f s ∨ ∃ b, step' (f s) b (f s'))
    (h : Run step s₀ tr s) : ∃ tr', Run step' (f s₀) tr' (f s) := by
  induction h with
  | nil => exact ⟨[], Run.nil⟩
  | snoc _ hs ih =>
      obtain ⟨tr', hrun⟩ := ih
      rcases hsim _ _ _ hs with heq | ⟨b, hb⟩
      · exact ⟨tr', heq ▸ hrun⟩
      · exact ⟨_, Run.snoc hrun hb⟩

/-- A run of one system seen as a run of another that is in a related state, each step that
meets `C` being any number of steps there. -/
theorem simulate_of {τ β : Type*} {step' : τ → β → τ → Prop} {R : σ → τ → Prop} {t₀ : τ}
    {C : σ → α → σ → Prop} (h0 : R s₀ t₀)
    (hsim : ∀ s a s' t, R s t → step s a s' → C s a s' → ∃ tr' t', Run step' t tr' t' ∧ R s' t')
    (h : Run step s₀ tr s) (hC : EveryStep C tr) : ∃ tr' t, Run step' t₀ tr' t ∧ R s t := by
  induction h with
  | nil => exact ⟨[], t₀, Run.nil, h0⟩
  | snoc _ hs ih =>
      obtain ⟨hC, hlast⟩ := everyStep_snoc.mp hC
      obtain ⟨tr', t, hrun, hR⟩ := ih hC
      obtain ⟨tr'', t', hrun', hR'⟩ := hsim _ _ _ t hR hs hlast
      exact ⟨tr' ++ tr'', t', hrun.trans hrun', hR'⟩

end Run

/-- A condition that only looks at the action. -/
theorem everyStep_of_actions {P : σ → α → σ → Prop} {as : List α}
    (hmap : tr.map (fun t => t.2.1) = as) (h : ∀ s a s', a ∈ as → P s a s') : EveryStep P tr := by
  intro t ht
  refine h t.1 t.2.1 t.2.2 ?_
  rw [← hmap]
  exact List.mem_map_of_mem ht

/-! ### Runs that are computed -/

/-- The actions of a list, taken one after the other. -/
def exec (next : σ → α → Option σ) : σ → List α → Option σ
  | s, [] => some s
  | s, a :: rest => (next s a).bind fun s' => exec next s' rest

theorem exec_cons {next : σ → α → Option σ} {a : α} {as : List α}
    (h : exec next s (a :: as) = some s') : ∃ u, next s a = some u ∧ exec next u as = some s' :=
  Option.bind_eq_some_iff.mp h

theorem exec_append {next : σ → α → Option σ} {as bs : List α} {u : σ}
    (h : exec next s as = some u) (h' : exec next u bs = some s') :
    exec next s (as ++ bs) = some s' := by
  induction as generalizing s with
  | nil => rw [← h'] ; cases h ; rfl
  | cons a rest ih =>
      obtain ⟨v, hv, hrest⟩ := exec_cons h
      rw [List.cons_append, exec, hv, Option.bind_some]
      exact ih hrest

theorem exec_split {next : σ → α → Option σ} {as bs : List α}
    (h : exec next s (as ++ bs) = some s') :
    ∃ u, exec next s as = some u ∧ exec next u bs = some s' := by
  induction as generalizing s with
  | nil => exact ⟨s, rfl, h⟩
  | cons a rest ih =>
      obtain ⟨v, hv, hrest⟩ := exec_cons h
      obtain ⟨u, hu, hbs⟩ := ih hrest
      exact ⟨u, by rw [exec, hv, Option.bind_some, hu], hbs⟩

/-- A computed run is a run, if its actions may be taken whenever they can be. -/
theorem Run.of_exec {next : σ → α → Option σ} {as : List α}
    (hstep : ∀ s a s', a ∈ as → next s a = some s' → step s a s') :
    ∀ {s₀ s : σ}, exec next s₀ as = some s →
      ∃ tr, Run step s₀ tr s ∧ tr.map (fun t => t.2.1) = as := by
  induction as with
  | nil =>
      intro s₀ s h
      cases h
      exact ⟨[], Run.nil, rfl⟩
  | cons a rest ih =>
      intro s₀ s h
      obtain ⟨u, hu, hrest⟩ := exec_cons h
      obtain ⟨tr, hrun, hmap⟩ :=
        ih (fun s a s' ha => hstep s a s' (List.mem_cons_of_mem _ ha)) hrest
      refine ⟨(s₀, a, u) :: tr, ?_, by rw [List.map_cons, hmap]⟩
      exact Run.trans (Run.single (hstep _ _ _ (List.mem_cons_self ..) hu)) hrun

/-- The actions of a list, taken one after the other, with `C` checked at each. -/
def Plays (next : σ → α → Option σ) (C : σ → α → σ → Prop) : σ → List α → σ → Prop
  | s, [], s' => s = s'
  | s, a :: rest, s' => ∃ u, next s a = some u ∧ C s a u ∧ Plays next C u rest s'

theorem Run.of_plays {next : σ → α → Option σ} {C : σ → α → σ → Prop} {as : List α}
    (hstep : ∀ s a s', next s a = some s' → C s a s' → step s a s') :
    ∀ {s₀ s : σ}, Plays next C s₀ as s →
      ∃ tr, Run step s₀ tr s ∧ EveryStep C tr ∧ tr.map (fun t => t.2.1) = as := by
  induction as with
  | nil =>
      intro s₀ s h
      cases h
      exact ⟨[], Run.nil, everyStep_nil C, rfl⟩
  | cons a rest ih =>
      intro s₀ s h
      obtain ⟨u, hu, hC, hrest⟩ := h
      obtain ⟨tr, hrun, hall, hmap⟩ := ih hrest
      exact ⟨(s₀, a, u) :: tr, Run.trans (Run.single (hstep _ _ _ hu hC)) hrun,
        (everyStep_single hC).append hall, by rw [List.map_cons, hmap]⟩

end Netmuxd.Lib
