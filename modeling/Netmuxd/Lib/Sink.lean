/-
Writing frames through a polled writer.

A writer takes what it is offered, all of it or a part; a poll may also wait, or fail.  The
task that uses it takes a frame, offers what is left of it until nothing is, and flushes
before it takes the next one.  What a poll meets is given to it, so a run is any sequence of
frames and polls.

An invariant of such a task is four facts: about the start, about taking a frame, and about
one poll of each kind.
-/
import Netmuxd.Lib.Feed
import Netmuxd.Lib.Run
import Netmuxd.Lib.Source

namespace Netmuxd.Lib

structure Sink (ω E β ε : Type) where
  /-- How much of the buffer has been taken. -/
  pollWrite : ω → E → List β → Poll (Except ε Nat) × ω
  pollFlush : ω → E → Poll (Except ε Unit) × ω

/-- Where the task is: waiting for a frame, with something of it left to write, flushing, or
out of its loop after an error. -/
inductive TaskAt (β : Type)
  | waiting
  | writing (rest : List β)
  | flushing
  | broken

structure FrameTask (ω β : Type) where
  writer : ω
  place : TaskAt β := .waiting
  /-- The frames that have been taken, in order. -/
  frames : List (List β) := []

inductive FrameEvent (E β : Type)
  | recv (frame : List β)
  | pollWrite (e : E)
  | pollFlush (e : E)

variable {ω E β ε : Type} {S : Sink ω E β ε}

/-- `write_all` returns once nothing is left. -/
def TaskAt.offer : List β → TaskAt β
  | [] => .flushing
  | b :: rest => .writing (b :: rest)

/-- What a poll of `write_all` comes to.  A writer that takes nothing has failed. -/
def TaskAt.wrote (rest : List β) : Poll (Except ε Nat) → TaskAt β
  | .pending => .writing rest
  | .ready (.error _) => .broken
  | .ready (.ok 0) => .broken
  | .ready (.ok (n + 1)) => .offer (rest.drop (n + 1))

def TaskAt.flushed : Poll (Except ε Unit) → TaskAt β
  | .pending => .flushing
  | .ready (.error _) => .broken
  | .ready (.ok ()) => .waiting

theorem TaskAt.offer_unbroken (rest : List β) : TaskAt.offer rest ≠ .broken := by
  cases rest <;> simp [TaskAt.offer]

theorem TaskAt.wrote_unbroken (rest : List β) {n : Nat} (hn : 0 < n) :
    TaskAt.wrote rest (.ready (.ok n) : Poll (Except ε Nat)) ≠ .broken := by
  cases n with
  | zero => exact absurd hn (Nat.lt_irrefl 0)
  | succ n => exact offer_unbroken (rest.drop (n + 1))

namespace FrameTask

def next (S : Sink ω E β ε) (t : FrameTask ω β) : FrameEvent E β → Option (FrameTask ω β)
  | .recv frame =>
    match t.place with
    | .waiting => some { t with place := .offer frame, frames := t.frames ++ [frame] }
    | _ => none
  | .pollWrite e =>
    match t.place with
    | .writing rest =>
      let (r, writer) := S.pollWrite t.writer e rest
      some { t with writer, place := .wrote rest r }
    | _ => none
  | .pollFlush e =>
    match t.place with
    | .flushing =>
      let (r, writer) := S.pollFlush t.writer e
      some { t with writer, place := .flushed r }
    | _ => none

def Step (S : Sink ω E β ε) (t : FrameTask ω β) (a : FrameEvent E β) (t' : FrameTask ω β) : Prop :=
  t.next S a = some t'

/-- What is assumed of what polls meet. -/
def Meets (C : E → Prop) (_ : FrameTask ω β) : FrameEvent E β → FrameTask ω β → Prop
  | .recv _, _ => True
  | .pollWrite e, _ | .pollFlush e, _ => C e

/-- Something is left while the task is writing. -/
def Busy (t : FrameTask ω β) : Prop :=
  ∀ rest, t.place = .writing rest → rest ≠ []

theorem busy_offer (frame rest : List β) (h : TaskAt.offer frame = .writing rest) : rest ≠ [] := by
  cases frame with
  | nil => cases h
  | cons b frame =>
      cases h
      exact List.cons_ne_nil b frame

theorem busy_wrote {rest rest' : List β} {r : Poll (Except ε Nat)} (hrest : rest ≠ [])
    (h : TaskAt.wrote rest r = .writing rest') : rest' ≠ [] := by
  cases r with
  | pending =>
      cases h
      exact hrest
  | ready r =>
      cases r with
      | error e => cases h
      | ok n =>
          cases n with
          | zero => cases h
          | succ n => exact busy_offer _ _ h

/-- **Invariants of a frame task.** -/
theorem invariant {C : E → Prop} {I : ω → List (List β) → TaskAt β → Prop} {w : ω}
    (hstart : I w [] .waiting)
    (hrecv : ∀ w frames frame, I w frames .waiting → I w (frames ++ [frame]) (.offer frame))
    (hwrite : ∀ w frames rest e, C e → I w frames (.writing rest) → rest ≠ [] →
      I (S.pollWrite w e rest).2 frames (.wrote rest (S.pollWrite w e rest).1))
    (hflush : ∀ w frames e, C e → I w frames .flushing →
      I (S.pollFlush w e).2 frames (.flushed (S.pollFlush w e).1))
    {tr : List (FrameTask ω β × FrameEvent E β × FrameTask ω β)} {t : FrameTask ω β}
    (hrun : Run (Step S) { writer := w } tr t) (hC : EveryStep (Meets C) tr) :
    I t.writer t.frames t.place ∧ t.Busy := by
  refine hrun.invariant_of (P := fun t => I t.writer t.frames t.place ∧ t.Busy) ⟨hstart, ?_⟩ ?_ hC
  · intro rest h
    cases h
  · intro t a t' ⟨ht, hbusy⟩ hstep hmeets
    unfold Step next at hstep
    cases a with
    | recv frame =>
        dsimp only at hstep
        split at hstep
        · next hplace =>
            cases hstep
            rw [hplace] at ht
            exact ⟨hrecv _ _ _ ht, fun rest h => busy_offer _ _ h⟩
        · cases hstep
    | pollWrite e =>
        dsimp only at hstep
        split at hstep
        · next rest hplace =>
            cases hstep
            rw [hplace] at ht
            have hrest := hbusy rest hplace
            exact ⟨hwrite _ _ _ _ hmeets ht hrest, fun rest' h => busy_wrote hrest h⟩
        · cases hstep
    | pollFlush e =>
        dsimp only at hstep
        split at hstep
        · next hplace =>
            cases hstep
            rw [hplace] at ht
            refine ⟨hflush _ _ _ hmeets ht, fun rest h => ?_⟩
            generalize (S.pollFlush t.writer e).1 = r at h
            cases r with
            | pending => cases h
            | ready r => cases r <;> cases h
        · cases hstep

end FrameTask

/-! ### Marks -/

/-- What a writer has handed on, if it marks the end of a transfer itself. -/
inductive Mark (β : Type)
  | bytes (piece : List β)
  | finish

/-- The transfers that have been ended, and what has been handed on since. -/
def transfers (marks : List (Mark β)) : List (List β) × List β :=
  marks.foldl
    (fun s m =>
      match m with
      | .bytes piece => (s.1, s.2 ++ piece)
      | .finish => (s.1 ++ [s.2], []))
    ([], [])

@[simp] theorem transfers_nil : transfers ([] : List (Mark β)) = ([], []) := rfl

@[simp] theorem transfers_bytes (marks : List (Mark β)) (piece : List β) :
    transfers (marks ++ [.bytes piece]) =
      ((transfers marks).1, (transfers marks).2 ++ piece) := by
  simp [transfers, List.foldl_append]

@[simp] theorem transfers_finish (marks : List (Mark β)) :
    transfers (marks ++ [.finish]) = ((transfers marks).1 ++ [(transfers marks).2], []) := by
  simp [transfers, List.foldl_append]

/-! ### A task that is fed -/

/-- What arrives, however the task is run, is the frames that are not empty, one transfer each. -/
def Sink.Delivers [DecidableEq β] (S : Sink ω E β ε) (w : ω)
    (arrived : ω → List (List β) × List β) : Prop :=
  ∀ tr t, Run (FrameTask.Step S) { writer := w } tr t →
    (arrived t.writer).1 <+: t.frames.filter (· ≠ []) ∧
      (t.place = .waiting → arrived t.writer = (t.frames.filter (· ≠ []), []))

/-- The same, as long as no frame is empty. -/
def Sink.DeliversFrames (S : Sink ω E β ε) (w : ω) (arrived : ω → List (List β) × List β) : Prop :=
  ∀ tr t, Run (FrameTask.Step S) { writer := w } tr t → (∀ frame ∈ t.frames, frame ≠ []) →
    (arrived t.writer).1 <+: t.frames ∧ (t.place = .waiting → arrived t.writer = (t.frames, []))

theorem Sink.Delivers.frames [DecidableEq β] {w : ω} {arrived : ω → List (List β) × List β}
    (h : S.Delivers w arrived) : S.DeliversFrames w arrived := by
  intro tr t hrun hne
  have hfilter : t.frames.filter (· ≠ []) = t.frames := by
    rw [List.filter_eq_self]
    intro frame hframe
    simpa using hne frame hframe
  have hdelivers := h tr t hrun
  rw [hfilter] at hdelivers
  exact hdelivers

namespace FrameTask

/-- The frame that a step takes. -/
def takes : FrameEvent E β → Option (List β)
  | .recv frame => some frame
  | .pollWrite _ | .pollFlush _ => none

theorem frames_of_step {t t' : FrameTask ω β} {e : FrameEvent E β} (h : Step S t e t') :
    t'.frames = t.frames ++ (takes e).toList := by
  unfold Step next at h
  cases e with
  | recv frame =>
      dsimp only at h
      split at h
      · rw [Option.some.injEq] at h
        rw [← h]
        rfl
      · simp at h
  | pollWrite e =>
      dsimp only at h
      split at h
      · rw [Option.some.injEq] at h
        rw [← h]
        simp [takes]
      · simp at h
  | pollFlush e =>
      dsimp only at h
      split at h
      · rw [Option.some.injEq] at h
        rw [← h]
        simp [takes]
      · simp at h

variable {σ α : Type} {step : σ → α → σ → Prop} {log : σ → List (List β)}

/-- A task that takes its frames off a log. -/
abbrev FedStep (step : σ → α → σ → Prop) (log : σ → List (List β)) (S : Sink ω E β ε) :
    Fed σ (FrameTask ω β) → FedEvent α (FrameEvent E β) → Fed σ (FrameTask ω β) → Prop :=
  Fed.Step step log (Step S) FrameTask.frames takes

/-- **What arrives is the log,** as far as the task has come, if no frame of it is empty. -/
theorem arrives {u₀ : σ} {w : ω} {arrived : ω → List (List β) × List β}
    {tr : List (Fed σ (FrameTask ω β) × FedEvent α (FrameEvent E β) × Fed σ (FrameTask ω β))}
    {s : Fed σ (FrameTask ω β)} (hS : S.DeliversFrames w arrived)
    (hgrow : ∀ tr u a u', Run step u₀ tr u → step u a u' → log u <+: log u')
    (hne : ∀ frame ∈ log s.source, frame ≠ [])
    (hrun : Run (FedStep step log S) ⟨u₀, { writer := w }⟩ tr s) :
    (arrived s.consumer.writer).1 <+: log s.source ∧
      (s.consumer.place = .waiting →
        arrived s.consumer.writer = (s.consumer.frames, [])) := by
  have htaken (t : FrameTask ω β) (e : FrameEvent E β) (t' : FrameTask ω β)
      (h : FrameTask.Step S t e t') : t'.frames = t.frames ++ (takes e).toList := frames_of_step h
  obtain ⟨-, ⟨tr', htask⟩, hbegins⟩ := Fed.runs rfl hgrow htaken hrun
  obtain ⟨hfirst, hall⟩ :=
    hS tr' s.consumer htask fun frame hframe => hne frame (hbegins.subset hframe)
  exact ⟨hfirst.trans hbegins, hall⟩

end FrameTask

end Netmuxd.Lib
