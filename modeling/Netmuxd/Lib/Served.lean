/-
Programs in surroundings that have a state.

Surroundings say which answers they may give in a state and what state they are in then.  A
run over them is one whose answers they give, one after the other, so what holds of all runs
over them may speak of the state before and after.

What a run has been told so far may also be summed up as it goes along, and every exchange be
judged by that.

A program that makes some of the calls of a larger set is a program for that set.
-/
import Netmuxd.Lib.Talk
import Mathlib.Logic.Equiv.Defs

namespace Netmuxd.Lib.Talk

variable {Call Call' : Type} {Answer : Call → Type} {Answer' : Call' → Type} {α β σ : Type}

/-! ### Surroundings with a state -/

/-- The surroundings give these answers on their way from one state to another. -/
def Through (R : σ → Exchange Answer → σ → Prop) : σ → List (Exchange Answer) → σ → Prop
  | s, [], s' => s = s'
  | s, e :: tr, s' => ∃ u, R s e u ∧ Through R u tr s'

section
variable {R : σ → Exchange Answer → σ → Prop} {s s' : σ} {e : Exchange Answer}
  {tr tr' : List (Exchange Answer)}

@[simp] theorem through_nil : Through R s [] s' ↔ s = s' :=
  Iff.rfl

@[simp] theorem through_cons : Through R s (e :: tr) s' ↔ ∃ u, R s e u ∧ Through R u tr s' :=
  Iff.rfl

@[simp] theorem through_append :
    Through R s (tr ++ tr') s' ↔ ∃ u, Through R s tr u ∧ Through R u tr' s' := by
  induction tr generalizing s with
  | nil => simp
  | cons e tr ih =>
      simp only [List.cons_append, through_cons, ih]
      constructor
      · rintro ⟨u, hu, v, hv, hs'⟩
        exact ⟨v, ⟨u, hu, hv⟩, hs'⟩
      · rintro ⟨v, ⟨u, hu, hv⟩, hs'⟩
        exact ⟨u, hu, v, hv, hs'⟩

/-- What every exchange keeps holds at the end. -/
theorem Through.invariant {I : σ → Prop} (h : Through R s tr s') (hs : I s)
    (hstep : ∀ s, ∀ e ∈ tr, ∀ s', R s e s' → I s → I s') : I s' := by
  induction tr generalizing s with
  | nil => exact through_nil.mp h ▸ hs
  | cons e tr ih =>
      obtain ⟨u, hu, hrest⟩ := h
      exact ih hrest (hstep s e List.mem_cons_self u hu hs)
        fun s e he => hstep s e (List.mem_cons_of_mem _ he)

end

/-- Every run of the program over the surroundings, from `s`, meets `Q`. -/
def Over (R : σ → Exchange Answer → σ → Prop) (m : Talk Answer α) (s : σ)
    (Q : List (Exchange Answer) → α → σ → Prop) : Prop :=
  m.Meets fun tr a => ∀ s', Through R s tr s' → Q tr a s'

section
variable {R : σ → Exchange Answer → σ → Prop} {m : Talk Answer α} {s : σ}
  {Q Q' : List (Exchange Answer) → α → σ → Prop}

theorem Over.imp (h : m.Over R s Q) (hQ : ∀ tr a s', Q tr a s' → Q' tr a s') : m.Over R s Q' :=
  Meets.imp h fun tr a htr s' hs' => hQ tr a s' (htr s' hs')

@[simp] theorem over_pure {a : α} : (pure a : Talk Answer α).Over R s Q ↔ Q [] a s := by
  simp [Over]

@[simp] theorem over_perform {c : Call} {Q : List (Exchange Answer) → Answer c → σ → Prop} :
    (perform c).Over R s Q ↔ ∀ answer s', R s ⟨c, answer⟩ s' → Q [⟨c, answer⟩] answer s' := by
  simp [Over]

@[simp] theorem over_bind {f : α → Talk Answer β} {Q : List (Exchange Answer) → β → σ → Prop} :
    (m >>= f).Over R s Q ↔
      m.Over R s fun tr a u => (f a).Over R u fun tr' b s' => Q (tr ++ tr') b s' := by
  unfold Over
  rw [meets_bind]
  constructor
  · intro h tr a hm u hu tr' b hf s' hs'
    exact h tr a hm tr' b hf s' (through_append.mpr ⟨u, hu, hs'⟩)
  · intro h tr a hm tr' b hf s' hs'
    obtain ⟨u, hu, hs'⟩ := through_append.mp hs'
    exact h tr a hm u hu tr' b hf s' hs'

end

/-! ### Summing up what has been said -/

/-- Every exchange meets `P` together with what has been said before it. -/
def Along (next : σ → Exchange Answer → σ) (P : σ → Exchange Answer → Prop) :
    σ → List (Exchange Answer) → Prop
  | _, [] => True
  | s, e :: tr => P s e ∧ Along next P (next s e) tr

section
variable {next : σ → Exchange Answer → σ} {P : σ → Exchange Answer → Prop} {s : σ}
  {e : Exchange Answer} {tr tr' : List (Exchange Answer)}

theorem along_nil : Along next P s [] :=
  trivial

theorem along_append :
    Along next P s (tr ++ tr') ↔ Along next P s tr ∧ Along next P (tr.foldl next s) tr' := by
  induction tr generalizing s with
  | nil => exact (and_iff_right along_nil).symm
  | cons e tr ih => exact (and_congr_right fun _ => ih).trans and_assoc.symm

/-- What is said at any point of a run. -/
theorem Along.at {before after : List (Exchange Answer)}
    (h : Along next P s (before ++ e :: after)) :
    P (before.foldl next s) e :=
  (along_append.mp h).2.1

end

/-- Every exchange of every run meets `P`, and the run meets `Q` at its end. -/
def Safe (next : σ → Exchange Answer → σ) (P : σ → Exchange Answer → Prop) (m : Talk Answer α)
    (s : σ) (Q : List (Exchange Answer) → α → σ → Prop) : Prop :=
  m.Meets fun tr a => Along next P s tr ∧ Q tr a (tr.foldl next s)

section
variable {next : σ → Exchange Answer → σ} {P : σ → Exchange Answer → Prop} {m : Talk Answer α}
  {s : σ} {Q Q' : List (Exchange Answer) → α → σ → Prop}

theorem Safe.imp (h : m.Safe next P s Q) (hQ : ∀ tr a s', Q tr a s' → Q' tr a s') :
    m.Safe next P s Q' :=
  Meets.imp h fun tr a htr => ⟨htr.1, hQ tr a _ htr.2⟩

theorem Safe.and_meets {R : List (Exchange Answer) → α → Prop} (h : m.Safe next P s Q)
    (hm : m.Meets R) : m.Safe next P s fun tr a s' => R tr a ∧ Q tr a s' :=
  fun tr a hrun => ⟨(h tr a hrun).1, hm tr a hrun, (h tr a hrun).2⟩

theorem safe_pure {a : α} (h : Q [] a s) : (pure a : Talk Answer α).Safe next P s Q :=
  meets_pure.mpr ⟨trivial, h⟩

theorem safe_perform {c : Call} {Q : List (Exchange Answer) → Answer c → σ → Prop}
    (hP : ∀ answer, P s ⟨c, answer⟩)
    (hQ : ∀ answer, Q [⟨c, answer⟩] answer (next s ⟨c, answer⟩)) :
    (perform c).Safe next P s Q :=
  meets_perform.mpr fun answer => ⟨⟨hP answer, trivial⟩, hQ answer⟩

theorem Safe.bind {f : α → Talk Answer β} {Q : List (Exchange Answer) → β → σ → Prop}
    (h : m.Safe next P s fun tr a u =>
      (f a).Safe next P u fun tr' b s' => Q (tr ++ tr') b s') :
    (m >>= f).Safe next P s Q := by
  refine meets_bind.mpr (Meets.imp h fun tr a ⟨htr, hf⟩ => Meets.imp hf fun tr' b ⟨htr', hQ⟩ => ?_)
  rw [List.foldl_append]
  exact ⟨along_append.mpr ⟨htr, htr'⟩, hQ⟩

/-- What is done with a program that is about to make a call, and with what is left of it. -/
theorem Safe.call {c : Call} {rest : Answer c → Talk Answer α}
    (h : (Talk.call c rest).Safe next P s Q) (oracle : (c : Call) → Answer c) (answer : Answer c) :
    P s ⟨c, answer⟩ ∧ (rest answer).Safe next P (next s ⟨c, answer⟩)
      fun tr a s' => Q (⟨c, answer⟩ :: tr) a s' := by
  have hrest := meets_call.mp h answer
  obtain ⟨⟨hP, -⟩, -⟩ := hrest _ _ (runs_follow (fun _ => oracle) [] (rest answer))
  exact ⟨hP, Meets.imp hrest fun tr a htr => ⟨htr.1.2, htr.2⟩⟩

theorem Safe.done {a : α} (h : (Talk.done a).Safe next P s Q) : Q [] a s :=
  (meets_pure.mp h).2

end

/-! ### Loops -/

/-- A body that is gone through again with what it has come to, as often as that or until it
comes to nothing. -/
def turns (body : β → Talk Answer (Option β)) : Nat → β → Talk Answer (Option β)
  | 0, b => pure (some b)
  | n + 1, b => do
    match ← body b with
    | some b => turns body n b
    | none => pure none

/-- What every turn keeps. -/
theorem safe_turns {next : σ → Exchange Answer → σ} {P : σ → Exchange Answer → Prop}
    {body : β → Talk Answer (Option β)} {I : σ → β → Prop} {E : σ → Prop}
    (hbody : ∀ s b, I s b → (body b).Safe next P s fun _ r s' => r.elim (E s') (I s'))
    (n : Nat) {s : σ} {b : β} (h : I s b) :
    (turns body n b).Safe next P s fun _ r s' => r.elim (E s') (I s') := by
  induction n generalizing s b with
  | zero => exact safe_pure h
  | succ n ih =>
      unfold turns
      refine Safe.bind (Safe.imp (hbody s b h) fun tr r s' hr => ?_)
      cases r with
      | none => exact safe_pure hr
      | some b => exact ih hr

/-! ### More calls -/

/-- Each call is one of the larger set, with the same answers. -/
structure Embedding (Answer : Call → Type) (Answer' : Call' → Type) where
  call : Call → Call'
  answer (c : Call) : Answer c ≃ Answer' (call c)

def Embedding.exchange (E : Embedding Answer Answer') (e : Exchange Answer) : Exchange Answer' :=
  ⟨E.call e.1, E.answer e.1 e.2⟩

def lift (E : Embedding Answer Answer') : Talk Answer α → Talk Answer' α
  | .done a => .done a
  | .call c next => .call (E.call c) fun answer => lift E (next ((E.answer c).symm answer))

section
variable {E : Embedding Answer Answer'} {m : Talk Answer α}

@[simp] theorem meets_lift {Q : List (Exchange Answer') → α → Prop} :
    (m.lift E).Meets Q ↔ m.Meets fun tr a => Q (tr.map E.exchange) a := by
  induction m generalizing Q with
  | done a =>
      show (pure a : Talk Answer' α).Meets Q ↔ (pure a : Talk Answer α).Meets _
      rw [meets_pure, meets_pure, List.map_nil]
  | call c next ih =>
      rw [lift, meets_call, meets_call]
      constructor
      · intro h answer
        have hnext := ih _ |>.mp (h (E.answer c answer))
        rw [Equiv.symm_apply_apply] at hnext
        exact hnext
      · intro h answer
        have hnext := h ((E.answer c).symm answer)
        refine (ih _).mpr (Meets.imp hnext fun tr a htr => ?_)
        simpa [Embedding.exchange] using htr

theorem only_lift {P : Call' → Prop} : (m.lift E).Only P ↔ m.Only fun c => P (E.call c) := by
  unfold Only
  rw [meets_lift]
  simp only [List.forall_mem_map]
  rfl

theorem through_map {R : σ → Exchange Answer' → σ → Prop} {s s' : σ} {tr : List (Exchange Answer)} :
    Through R s (tr.map E.exchange) s' ↔ Through (fun s e s' => R s (E.exchange e) s') s tr s' := by
  induction tr generalizing s with
  | nil => simp
  | cons e tr ih => simp [ih]

@[simp] theorem over_lift {R : σ → Exchange Answer' → σ → Prop} {s : σ}
    {Q : List (Exchange Answer') → α → σ → Prop} :
    (m.lift E).Over R s Q ↔
      m.Over (fun s e s' => R s (E.exchange e) s') s fun tr a s' => Q (tr.map E.exchange) a s' := by
  unfold Over
  simp [through_map]

end

end Netmuxd.Lib.Talk
