/-
Programs that talk to their surroundings.

A program makes one call after the other and goes on with what it is answered, until it
is done.  What a call means is left to the surroundings: a run is any sequence of calls
and answers that the program can have.  So what holds of all runs holds whatever the
surroundings are.
-/
import Mathlib.Tactic.Common

namespace Netmuxd.Lib

inductive Talk {Call : Type} (Answer : Call → Type) (α : Type) : Type
  | done (a : α)
  | call (c : Call) (next : Answer c → Talk Answer α)

/-- A call and what was answered. -/
abbrev Exchange {Call : Type} (Answer : Call → Type) := (c : Call) × Answer c

variable {Call : Type} {Answer : Call → Type} {α β : Type}

namespace Talk

def bind (m : Talk Answer α) (f : α → Talk Answer β) : Talk Answer β :=
  match m with
  | .done a => f a
  | .call c next => .call c fun answer => (next answer).bind f

instance : Monad (Talk Answer) where
  pure := .done
  bind := bind

/-- The program that makes one call. -/
def perform (c : Call) : Talk Answer (Answer c) :=
  .call c .done

/-! ### Runs -/

inductive Runs : Talk Answer α → List (Exchange Answer) → α → Prop
  | done (a : α) : Runs (.done a) [] a
  | call {c : Call} {next : Answer c → Talk Answer α} {tr : List (Exchange Answer)} {a : α}
      (answer : Answer c) (h : Runs (next answer) tr a) :
      Runs (.call c next) (⟨c, answer⟩ :: tr) a

variable {m : Talk Answer α} {f : α → Talk Answer β} {tr : List (Exchange Answer)}

theorem Runs.bind {tr' : List (Exchange Answer)} {a : α} {b : β} (h : m.Runs tr a)
    (h' : (f a).Runs tr' b) : (m >>= f).Runs (tr ++ tr') b := by
  induction h with
  | done a => exact h'
  | call answer _ ih => exact .call answer (ih h')

theorem Runs.perform_bind {c : Call} {f : Answer c → Talk Answer β} {b : β} (answer : Answer c)
    (h : (f answer).Runs tr b) : (perform c >>= f).Runs (⟨c, answer⟩ :: tr) b :=
  .call answer h

theorem runs_bind {b : β} :
    (m >>= f).Runs tr b ↔ ∃ tr₁ a tr₂, tr = tr₁ ++ tr₂ ∧ m.Runs tr₁ a ∧ (f a).Runs tr₂ b := by
  constructor
  · intro h
    induction m generalizing tr with
    | done a => exact ⟨[], a, tr, rfl, .done a, h⟩
    | call c next ih =>
        cases h with
        | call answer h =>
            obtain ⟨tr₁, a, tr₂, rfl, hm, hf⟩ := ih answer h
            exact ⟨⟨c, answer⟩ :: tr₁, a, tr₂, rfl, .call answer hm, hf⟩
  · rintro ⟨tr₁, a, tr₂, rfl, hm, hf⟩
    exact hm.bind hf

/-! ### What holds of all runs -/

/-- Every run of the program meets `Q`. -/
def Meets (m : Talk Answer α) (Q : List (Exchange Answer) → α → Prop) : Prop :=
  ∀ tr a, m.Runs tr a → Q tr a

variable {Q Q' : List (Exchange Answer) → α → Prop}

theorem Meets.imp (h : m.Meets Q) (hQ : ∀ tr a, Q tr a → Q' tr a) : m.Meets Q' :=
  fun tr a hrun => hQ tr a (h tr a hrun)

@[simp] theorem meets_pure {a : α} : (pure a : Talk Answer α).Meets Q ↔ Q [] a := by
  constructor
  · intro h
    exact h [] a (.done a)
  · intro h tr b hrun
    cases hrun
    exact h

@[simp] theorem meets_call {c : Call} {next : Answer c → Talk Answer α} :
    (Talk.call c next).Meets Q ↔
      ∀ answer, (next answer).Meets fun tr a => Q (⟨c, answer⟩ :: tr) a := by
  constructor
  · intro h answer tr a hrun
    exact h _ a (.call answer hrun)
  · intro h tr a hrun
    cases hrun with
    | call answer hrun => exact h answer _ a hrun

@[simp] theorem meets_bind {Q : List (Exchange Answer) → β → Prop} :
    (m >>= f).Meets Q ↔ m.Meets fun tr a => (f a).Meets fun tr' b => Q (tr ++ tr') b := by
  constructor
  · intro h tr a hm tr' b hf
    exact h _ b (hm.bind hf)
  · intro h tr b hrun
    obtain ⟨tr₁, a, tr₂, rfl, hm, hf⟩ := runs_bind.mp hrun
    exact h tr₁ a hm tr₂ b hf

@[simp] theorem meets_perform {c : Call} {Q : List (Exchange Answer) → Answer c → Prop} :
    (perform c).Meets Q ↔ ∀ answer, Q [⟨c, answer⟩] answer := by
  unfold perform
  rw [meets_call]
  exact forall_congr' fun answer => meets_pure

/-! ### What is called -/

/-- All calls the program can make meet `P`. -/
def Only (m : Talk Answer α) (P : Call → Prop) : Prop :=
  m.Meets fun tr _ => ∀ e ∈ tr, P e.1

variable {P : Call → Prop}

theorem only_pure (a : α) : (pure a : Talk Answer α).Only P := by
  unfold Only
  simp

theorem only_perform {c : Call} (h : P c) : (perform c : Talk Answer (Answer c)).Only P := by
  unfold Only
  simpa using fun _ : Answer c => h

theorem Only.bind (hm : m.Only P) (hf : ∀ a, (f a).Only P) : (m >>= f).Only P := by
  unfold Only
  rw [meets_bind]
  refine Meets.imp hm fun tr a htr => Meets.imp (hf a) fun tr' b htr' => ?_
  intro e he
  rcases List.mem_append.mp he with he | he
  · exact htr e he
  · exact htr' e he

/-! ### Surroundings that answer -/

/-- What is answered, and what the program comes to, when each call is answered by
`oracle` from what was said before. -/
def follow (oracle : List (Exchange Answer) → (c : Call) → Answer c) :
    List (Exchange Answer) → Talk Answer α → List (Exchange Answer) × α
  | _, .done a => ([], a)
  | said, .call c next =>
    let answer := oracle said c
    let (tr, a) := follow oracle (said ++ [⟨c, answer⟩]) (next answer)
    (⟨c, answer⟩ :: tr, a)

/-- Surroundings that answer each call bring the program to its end. -/
theorem runs_follow (oracle : List (Exchange Answer) → (c : Call) → Answer c)
    (said : List (Exchange Answer)) (m : Talk Answer α) :
    m.Runs (m.follow oracle said).1 (m.follow oracle said).2 := by
  induction m generalizing said with
  | done a => exact .done a
  | call c next ih => exact .call _ (ih _ _)

/-- All answers of `tr` are the oracle's. -/
def Obeys (oracle : List (Exchange Answer) → (c : Call) → Answer c)
    (said tr : List (Exchange Answer)) : Prop :=
  ∀ before e after, tr = before ++ e :: after → e.2 = oracle (said ++ before) e.1

theorem obeys_follow (oracle : List (Exchange Answer) → (c : Call) → Answer c)
    (said : List (Exchange Answer)) (m : Talk Answer α) :
    Obeys oracle said (m.follow oracle said).1 := by
  induction m generalizing said with
  | done a =>
      intro before e after h
      simp [follow] at h
  | call c next ih =>
      intro before e after h
      cases before with
      | nil =>
          obtain ⟨rfl, -⟩ := List.cons.inj h
          simp
      | cons first before =>
          obtain ⟨rfl, hrest⟩ := List.cons.inj h
          have := ih _ _ before e after hrest
          rwa [List.append_assoc] at this

/-- Surroundings that look at the call alone answer it the same each time. -/
theorem answer_of_mem_follow {answer : (c : Call) → Answer c} {m : Talk Answer α}
    {e : Exchange Answer} (he : e ∈ (m.follow (fun _ => answer) []).1) : e.2 = answer e.1 := by
  obtain ⟨before, after, hsplit⟩ := List.append_of_mem he
  exact obeys_follow (fun _ => answer) [] m before e after hsplit

end Talk

end Netmuxd.Lib
