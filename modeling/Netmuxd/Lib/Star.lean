/-
Steps that leave output behind.

`R s os t` is a step from `s` to `t` that outputs the list `os`.  `Star R` chains
such steps and concatenates what they output.  A property of a state together with
everything output so far carries over a chain as soon as it carries over a step.
-/
import Mathlib.Tactic.Common

namespace Netmuxd.Lib

variable {σ ω : Type*} {R : σ → List ω → σ → Prop} {s t u : σ} {os os' : List ω}

inductive Star (R : σ → List ω → σ → Prop) (s : σ) : List ω → σ → Prop
  | refl : Star R s [] s
  | tail {os os' : List ω} {t u : σ} (h : Star R s os t) (hs : R t os' u) :
      Star R s (os ++ os') u

namespace Star

theorem single (h : R s os t) : Star R s os t :=
  Star.tail Star.refl h

theorem trans (h : Star R s os t) (h' : Star R t os' u) : Star R s (os ++ os') u := by
  induction h' with
  | refl => simpa using h
  | tail _ hs ih =>
      rw [← List.append_assoc]
      exact Star.tail ih hs

/-- A property of the state and of all output so far that each step keeps. -/
theorem preserves {P : List ω → σ → Prop}
    (hstep : ∀ hist s os t, P hist s → R s os t → P (hist ++ os) t) {hist : List ω}
    (h : Star R s os t) (hP : P hist s) : P (hist ++ os) t := by
  induction h with
  | refl => simpa using hP
  | tail _ hs ih =>
      rw [← List.append_assoc]
      exact hstep _ _ _ _ ih hs

/-- The same from a state nothing has been output before. -/
theorem output {P : List ω → σ → Prop} (h0 : P [] s)
    (hstep : ∀ hist s os t, P hist s → R s os t → P (hist ++ os) t) (h : Star R s os t) :
    P os t := by
  have hall := preserves hstep h h0
  rwa [List.nil_append] at hall

/-- A relation between the ends that is reflexive and extended by each step. -/
theorem relates {Q : σ → σ → Prop} (hrefl : Q s s)
    (hstep : ∀ t os u, Q s t → R t os u → Q s u) (h : Star R s os t) : Q s t := by
  induction h with
  | refl => exact hrefl
  | tail _ hs ih => exact hstep _ _ _ ih hs

/-- What holds of every output of a step holds of every output of a chain. -/
theorem forall_output {P : ω → Prop} (hstep : ∀ s os t, R s os t → ∀ o ∈ os, P o)
    (h : Star R s os t) : ∀ o ∈ os, P o := by
  induction h with
  | refl => simp
  | tail _ hs ih =>
      intro o ho
      rcases List.mem_append.mp ho with hl | hr
      · exact ih o hl
      · exact hstep _ _ _ hs o hr

end Star

end Netmuxd.Lib
