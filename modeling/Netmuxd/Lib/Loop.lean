/-
Loops that count down.

A `while` loop is written as one turn of its body: it either leaves with a result
or goes round again with a new state.  `iter` runs at most a given number of turns
and is defined by recursion on that number, so it computes.  A measure that every
further turn lowers makes the number of turns needed explicit, and `whileLoop` is
the loop without any bound in sight.
-/
import Mathlib.Logic.Relation
import Mathlib.Tactic.Common

namespace Netmuxd.Lib

/-- What one turn of a loop comes to. -/
inductive Turn (σ ρ : Type)
  | leave (r : ρ)
  | again (s : σ)

variable {σ ρ : Type} {body : σ → Turn σ ρ}

/-- The loop, given up on after `fuel` turns. -/
def iter (body : σ → Turn σ ρ) : Nat → σ → Option ρ
  | 0, _ => none
  | fuel + 1, s =>
    match body s with
    | .leave r => some r
    | .again s' => iter body fuel s'

/-- Every turn that goes round again lowers the measure `μ`. -/
def Lowers (body : σ → Turn σ ρ) (μ : σ → Nat) : Prop :=
  ∀ s s', body s = .again s' → μ s' < μ s

theorem iter_isSome {μ : σ → Nat} (hμ : Lowers body μ) :
    ∀ (fuel : Nat) (s : σ), μ s < fuel → (iter body fuel s).isSome = true := by
  intro fuel
  induction fuel with
  | zero => intro s h; omega
  | succ fuel ih =>
      intro s h
      rw [iter]
      cases hb : body s with
      | leave r => rfl
      | again s' =>
          have := hμ s s' hb
          exact ih s' (by omega)

/-- What holds on entry and round every further turn holds of the result. -/
theorem iter_induct {P : σ → Prop} {Q : ρ → Prop}
    (hagain : ∀ s s', P s → body s = .again s' → P s')
    (hleave : ∀ s r, P s → body s = .leave r → Q r) :
    ∀ {fuel : Nat} {s : σ} {r : ρ}, P s → iter body fuel s = some r → Q r := by
  intro fuel
  induction fuel with
  | zero => intro s r _ h; cases h
  | succ fuel ih =>
      intro s r hP h
      rw [iter] at h
      cases hb : body s with
      | leave r' =>
          rw [hb] at h
          cases h
          exact hleave s r hP hb
      | again s' =>
          rw [hb] at h
          exact ih (hagain s s' hP hb) h

/-- A loop with a measure runs to its end. -/
def whileLoop (body : σ → Turn σ ρ) (μ : σ → Nat) (hμ : Lowers body μ) (s : σ) : ρ :=
  (iter body (μ s + 1) s).get (iter_isSome hμ _ s (Nat.lt_succ_self _))

theorem iter_whileLoop {μ : σ → Nat} (hμ : Lowers body μ) (s : σ) :
    iter body (μ s + 1) s = some (whileLoop body μ hμ s) :=
  (Option.some_get _).symm

theorem whileLoop_leave {μ : σ → Nat} {hμ : Lowers body μ} {s : σ} {r : ρ}
    (h : body s = .leave r) : whileLoop body μ hμ s = r := by
  have hiter := iter_whileLoop hμ s
  rw [iter, h] at hiter
  exact (Option.some.inj hiter).symm

theorem whileLoop_induct {μ : σ → Nat} {hμ : Lowers body μ} {P : σ → Prop} {Q : ρ → Prop}
    (hagain : ∀ s s', P s → body s = .again s' → P s')
    (hleave : ∀ s r, P s → body s = .leave r → Q r) {s : σ} (hs : P s) :
    Q (whileLoop body μ hμ s) :=
  iter_induct hagain hleave hs (iter_whileLoop hμ s)

/-! ### The states on the way -/

/-- The loop gets from one state to the other. -/
def Reaches (body : σ → Turn σ ρ) : σ → σ → Prop :=
  Relation.ReflTransGen fun s s' => body s = .again s'

theorem Reaches.snoc {s s' t : σ} (h : Reaches body s s') (ht : body s' = .again t) :
    Reaches body s t :=
  Relation.ReflTransGen.tail h ht

/-- What every turn preserves holds of all states on the way. -/
theorem Reaches.invariant {P : σ → Prop} (hagain : ∀ s s', P s → body s = .again s' → P s')
    {s s' : σ} (h : Reaches body s s') (hs : P s) : P s' := by
  induction h with
  | refl => exact hs
  | tail _ hturn ih => exact hagain _ _ ih hturn

theorem Reaches.lowers {μ : σ → Nat} (hμ : Lowers body μ) {s s' : σ} (h : Reaches body s s') :
    μ s' ≤ μ s := by
  refine Reaches.invariant (P := fun u => μ u ≤ μ s) (fun u u' hu hstep => ?_) h (Nat.le_refl _)
  exact Nat.le_trans (Nat.le_of_lt (hμ u u' hstep)) hu

/-- Of two states on the way, the one that the measure puts first goes on to the other
through its own turn. -/
theorem Reaches.next {μ : σ → Nat} (hμ : Lowers body μ) {s₀ s s' : σ} (h : Reaches body s₀ s)
    (h' : Reaches body s₀ s') (hlt : μ s' < μ s) : ∃ t, body s = .again t ∧ Reaches body t s' := by
  have hunique : Relator.RightUnique fun s s' => body s = .again s' := by
    intro a b c hb hc
    exact Turn.again.inj (hb.symm.trans hc)
  rcases Relation.ReflTransGen.total_of_right_unique hunique h h' with hfwd | hback
  · rcases Relation.ReflTransGen.cases_head hfwd with rfl | hrest
    · omega
    · exact hrest
  · have hle := Reaches.lowers hμ hback
    omega

/-- What holds where the loop leaves with `r`, and is carried back by each of its turns,
holds at the start. -/
theorem iter_back {P : σ → Prop} {r : ρ} {s₀ : σ} (hleave : ∀ s, body s = .leave r → P s)
    (hagain : ∀ s s', Reaches body s₀ s → body s = .again s' → P s' → P s) :
    ∀ {fuel : Nat} {s : σ}, Reaches body s₀ s → iter body fuel s = some r → P s := by
  intro fuel
  induction fuel with
  | zero => intro s _ h; cases h
  | succ fuel ih =>
      intro s hs h
      rw [iter] at h
      cases hb : body s with
      | leave r' =>
          rw [hb] at h
          cases h
          exact hleave s hb
      | again s' =>
          rw [hb] at h
          exact hagain s s' hs hb (ih (hs.snoc hb) h)

theorem whileLoop_back {μ : σ → Nat} {hμ : Lowers body μ} {P : σ → Prop} {s : σ}
    (hleave : ∀ u, body u = .leave (whileLoop body μ hμ s) → P u)
    (hagain : ∀ u u', Reaches body s u → body u = .again u' → P u' → P u) : P s :=
  iter_back hleave hagain .refl (iter_whileLoop hμ s)

/-! ### Two loops side by side -/

/-- Two turns that leave with related results, or go round again with related states.  The
first may also leave with a result that is related to whatever the second comes to. -/
inductive Turn.Related {σ' ρ' : Type} (R : σ → σ' → Prop) (S : ρ → ρ' → Prop) :
    Turn σ ρ → Turn σ' ρ' → Prop
  | leave {r : ρ} {r' : ρ'} (h : S r r') : Related R S (.leave r) (.leave r')
  | again {s : σ} {s' : σ'} (h : R s s') : Related R S (.again s) (.again s')
  | abandon {r : ρ} {t' : Turn σ' ρ'} (h : ∀ r', S r r') : Related R S (.leave r) t'

theorem iter_related {σ' ρ' : Type} {R : σ → σ' → Prop} {S : ρ → ρ' → Prop}
    {body' : σ' → Turn σ' ρ'} (hbody : ∀ s s', R s s' → Turn.Related R S (body s) (body' s')) :
    ∀ {fuel : Nat} {s : σ} {s' : σ'} {r : ρ} {r' : ρ'}, R s s' → iter body fuel s = some r →
      iter body' fuel s' = some r' → S r r' := by
  intro fuel
  induction fuel with
  | zero => intro s s' r r' _ h; cases h
  | succ fuel ih =>
      intro s s' r r' hR h h'
      rw [iter] at h h'
      have hturn := hbody s s' hR
      cases hb : body s with
      | leave t =>
          rw [hb] at h hturn
          cases h
          cases hb' : body' s' with
          | leave t' =>
              rw [hb'] at h' hturn
              cases h'
              cases hturn with
              | leave hS => exact hS
              | abandon hS => exact hS _
          | again u' =>
              rw [hb'] at hturn
              cases hturn with
              | abandon hS => exact hS _
      | again u =>
          rw [hb] at h hturn
          cases hb' : body' s' with
          | leave t' =>
              rw [hb'] at hturn
              cases hturn
          | again u' =>
              rw [hb'] at h' hturn
              cases hturn with
              | again hR' => exact ih hR' h h'

/-- Loops whose turns are related, and that may turn equally often, have related results. -/
theorem whileLoop_related {σ' ρ' : Type} {R : σ → σ' → Prop} {S : ρ → ρ' → Prop}
    {body' : σ' → Turn σ' ρ'} {μ : σ → Nat} {μ' : σ' → Nat} {hμ : Lowers body μ}
    {hμ' : Lowers body' μ'} (hbody : ∀ s s', R s s' → Turn.Related R S (body s) (body' s'))
    {s : σ} {s' : σ'} (h : R s s') (hsame : μ' s' = μ s) :
    S (whileLoop body μ hμ s) (whileLoop body' μ' hμ' s') := by
  have hright := iter_whileLoop hμ' s'
  rw [hsame] at hright
  exact iter_related hbody h (iter_whileLoop hμ s) hright

/-! ### The same loop with another result -/

variable {τ : Type}

/-- A turn whose result is passed through `f`. -/
def Turn.map (f : ρ → τ) : Turn σ ρ → Turn σ τ
  | .leave r => .leave (f r)
  | .again s => .again s

theorem iter_map {f : ρ → τ} {body' : σ → Turn σ τ} (h : ∀ s, body' s = (body s).map f) :
    ∀ (fuel : Nat) (s : σ), iter body' fuel s = (iter body fuel s).map f := by
  intro fuel
  induction fuel with
  | zero => intro s; rfl
  | succ fuel ih =>
      intro s
      rw [iter, iter, h]
      cases body s with
      | leave r => rfl
      | again s' => exact ih s'

end Netmuxd.Lib
