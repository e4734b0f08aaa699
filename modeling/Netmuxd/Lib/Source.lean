/-
Sources that are polled.

A source takes answers from below and hands them out in pieces, as much at a time as its
caller has room for; what does not fit it holds back.  A poll may also wait, or fail.  It is
given the answers that it takes, so that running out of them is what makes it wait.

Nothing is lost on the way: what has been handed out, followed by what is held, is what has
been taken.  A single poll's share of that is `Polls`, and the rule for runs of polls is
`Reading.conserved`.
-/
import Netmuxd.Lib.Loop
import Netmuxd.Lib.Run

namespace Netmuxd.Lib

/-- What a poll comes to. -/
inductive Poll (α : Type)
  | pending
  | ready (a : α)
  deriving DecidableEq

structure Source (σ α β ε : Type) where
  /-- A poll with room for so many, and the answers it does not take. -/
  poll : σ → Nat → List α → Poll (Except ε (List β)) × σ × List α
  /-- What has been taken and not handed out. -/
  held : σ → List β
  /-- What an answer carries. -/
  content : α → List β
  failed : α → Prop
  /-- What may be assumed of the answers to this poll. -/
  fits : σ → Nat → List α → Prop

variable {σ α β ε : Type}

/-- What a poll hands out. -/
def delivered : Poll (Except ε (List β)) → List β
  | .ready (.ok out) => out
  | _ => []

namespace Source

variable {S : Source σ α β ε}

/-- A poll that has taken `answers` is as it should be. -/
structure Polls (S : Source σ α β ε) (s : σ) (n : Nat) (answers : List α)
    (r : Poll (Except ε (List β))) (t : σ) : Prop where
  conserved : S.held s ++ answers.flatMap S.content = delivered r ++ S.held t
  room : (delivered r).length ≤ n
  /-- Something is handed out wherever there is room. -/
  progress : ∀ out, r = .ready (.ok out) → 0 < n → out ≠ []
  /-- Only an empty source waits. -/
  waits : r = .pending → S.held t = []
  fails : ∀ e, r = .ready (.error e) → ∃ a ∈ answers, S.failed a

def Faithful (S : Source σ α β ε) : Prop :=
  ∀ s n answers r t, S.fits s n answers → S.poll s n answers = (r, t, []) →
    S.Polls s n answers r t

/-! ### Polls that are loops -/

/-- What a turn of a poll's loop leaves when it goes round again. -/
structure Keeps (S : Source σ α β ε) (u u' : σ × List α) : Prop where
  conserved : S.held u.1 ++ u.2.flatMap S.content = S.held u'.1 ++ u'.2.flatMap S.content
  subset : u'.2 ⊆ u.2

/-- What the last turn of a poll's loop comes to. -/
structure Ends (S : Source σ α β ε) (n : Nat) (u : σ × List α)
    (out : Poll (Except ε (List β)) × σ × List α) : Prop where
  conserved : S.held u.1 ++ u.2.flatMap S.content =
    delivered out.1 ++ (S.held out.2.1 ++ out.2.2.flatMap S.content)
  room : (delivered out.1).length ≤ n
  progress : ∀ bytes, out.1 = .ready (.ok bytes) → 0 < n → bytes ≠ []
  waits : out.1 = .pending → S.held out.2.1 = []
  fails : ∀ e, out.1 = .ready (.error e) → ∃ a ∈ u.2, S.failed a

section
variable {n : Nat} {u : σ × List α} {t : σ} {rest : List α}

theorem Ends.pending (hconserved : S.held u.1 ++ u.2.flatMap S.content =
      S.held t ++ rest.flatMap S.content) (hheld : S.held t = []) :
    S.Ends n u (.pending, t, rest) where
  conserved := hconserved
  room := Nat.zero_le n
  progress := by
    intro bytes h
    cases h
  waits := fun _ => hheld
  fails := by
    intro e h
    cases h

theorem Ends.ready {bytes : List β} (hconserved : S.held u.1 ++ u.2.flatMap S.content =
      bytes ++ (S.held t ++ rest.flatMap S.content)) (hroom : bytes.length ≤ n)
    (hprogress : 0 < n → 0 < bytes.length) : S.Ends n u (.ready (.ok bytes), t, rest) where
  conserved := hconserved
  room := hroom
  progress := by
    intro bytes' h hn
    cases h
    exact List.ne_nil_of_length_pos (hprogress hn)
  waits := by
    intro h
    cases h
  fails := by
    intro e h
    cases h

theorem Ends.failed {e : ε} {a : α} (hconserved : S.held u.1 ++ u.2.flatMap S.content =
      S.held t ++ rest.flatMap S.content) (ha : a ∈ u.2) (hfailed : S.failed a) :
    S.Ends n u (.ready (.error e), t, rest) where
  conserved := hconserved
  room := Nat.zero_le n
  progress := by
    intro bytes h
    cases h
  waits := by
    intro h
    cases h
  fails := fun _ _ => ⟨a, ha, hfailed⟩

end

theorem polls_of_loop {n : Nat} {μ : σ × List α → Nat}
    {body : σ × List α → Turn (σ × List α) (Poll (Except ε (List β)) × σ × List α)}
    {hμ : Lowers body μ}
    (hagain : ∀ u u', S.fits u.1 n u.2 → body u = .again u' →
      S.fits u'.1 n u'.2 ∧ S.Keeps u u')
    (hleave : ∀ u out, S.fits u.1 n u.2 → body u = .leave out → S.Ends n u out)
    {s t : σ} {answers : List α} {r : Poll (Except ε (List β))} (hfits : S.fits s n answers)
    (h : whileLoop body μ hμ (s, answers) = (r, t, [])) : S.Polls s n answers r t := by
  have hends : S.Ends n (s, answers) (whileLoop body μ hμ (s, answers)) := by
    refine whileLoop_induct (Q := fun out => S.Ends n (s, answers) out)
      (P := fun u => S.fits u.1 n u.2 ∧ S.Keeps (s, answers) u) ?_ ?_
      ⟨hfits, rfl, fun _ ha => ha⟩
    · intro u u' ⟨hu, hkeeps⟩ hturn
      obtain ⟨hu', hkeeps'⟩ := hagain u u' hu hturn
      exact ⟨hu', hkeeps.conserved.trans hkeeps'.conserved,
        fun _ ha => hkeeps.subset (hkeeps'.subset ha)⟩
    · intro u out ⟨hu, hkeeps⟩ hturn
      obtain ⟨hconserved, hroom, hprogress, hwaits, hfails⟩ := hleave u out hu hturn
      refine ⟨hkeeps.conserved.trans hconserved, hroom, hprogress, hwaits, fun e he => ?_⟩
      obtain ⟨a, ha, hfailed⟩ := hfails e he
      exact ⟨a, hkeeps.subset ha, hfailed⟩
  rw [h] at hends
  obtain ⟨hconserved, hroom, hprogress, hwaits, hfails⟩ := hends
  refine ⟨?_, hroom, hprogress, hwaits, hfails⟩
  rw [hconserved, List.flatMap_nil, List.append_nil]

/-! ### Runs of polls -/

/-- A source with all it has handed out and all it has taken. -/
structure Reading (σ α β : Type) where
  source : σ
  returned : List β
  taken : List α

def Reading.start (s : σ) : Reading σ α β :=
  { source := s, returned := [], taken := [] }

/-- A poll with room for `e.1` that takes the answers `e.2`. -/
def Reading.Step (S : Source σ α β ε) (u : Reading σ α β) (e : Nat × List α)
    (u' : Reading σ α β) : Prop :=
  ∃ r t, S.poll u.source e.1 e.2 = (r, t, []) ∧
    u' = { source := t, returned := u.returned ++ delivered r, taken := u.taken ++ e.2 }

/-- The assumption on the answers, for a step of a run. -/
def Reading.Fits (S : Source σ α β ε) (u : Reading σ α β) (e : Nat × List α)
    (_ : Reading σ α β) : Prop :=
  S.fits u.source e.1 e.2

theorem Reading.conserved (hS : S.Faithful) {s : σ} (hs : S.held s = [])
    {tr : List (Reading σ α β × (Nat × List α) × Reading σ α β)} {u : Reading σ α β}
    (h : Run (Reading.Step S) (.start s) tr u) (hfits : EveryStep (Reading.Fits S) tr) :
    u.returned ++ S.held u.source = u.taken.flatMap S.content := by
  refine h.invariant_of (P := fun u => u.returned ++ S.held u.source = u.taken.flatMap S.content)
    hs ?_ hfits
  intro u e u' hu ⟨r, t, hpoll, hu'⟩ hfits
  have hpolls := hS _ _ _ _ _ hfits hpoll
  rw [hu', List.flatMap_append, ← hu, List.append_assoc, ← hpolls.conserved, List.append_assoc]

end Source

end Netmuxd.Lib
