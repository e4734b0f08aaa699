/-
One transfer for each frame, over blocking drivers and with ends marked.

A write over a blocking driver takes the whole buffer at once and is reported only when the
driver is through with it, so while the task offers a frame again and again it is one write.
The invariant is what the driver has completed: the transfers of all frames before, and of
the current one what its thread has got to (`Job.Of`).  The thread sends the empty packet
exactly where the transfer fills its packets, so a receiver ends a transfer with each frame.

`ZlpWriter` marks an end where something has been taken since the last one.  It does so at the
first poll of a flush, and at none of those that follow until something is taken again.
-/
import Mathlib.Data.List.Induction
import Netmuxd.Lib.Transfer
import Netmuxd.Usb.PipeWriter

namespace Netmuxd.PipeIo

open Lib (Run EveryStep received received_fills received_ends Fills Poll TaskAt FrameTask
  FrameEvent Sink Mark transfers transfers_bytes transfers_finish)
open BulkIo (IoResult)

/-! ### What a receiver makes of the calls -/

/-- The transfers a frame takes. -/
def calls (mps : Nat) (frame : Bytes) : List Bytes :=
  if frame = [] then [] else if PipeWriter.NeedsTerminator mps frame then [frame, []] else [frame]

section
variable {mps : Nat} {frame rest : Bytes} {frames l : List Bytes}

theorem needsTerminator_iff (hmps : 0 < mps) :
    PipeWriter.NeedsTerminator mps frame ↔ Fills mps frame := by
  unfold PipeWriter.NeedsTerminator Fills
  rw [Nat.dvd_iff_mod_eq_zero]
  exact ⟨fun h => h.2, fun h => ⟨hmps, h⟩⟩

theorem received_end (hmps : 0 < mps) :
    received mps (l ++ [[]]) = ((received mps l).1 ++ [(received mps l).2], []) := by
  rw [received_ends hmps (fun h => h.1 rfl), List.append_nil]

theorem received_calls (hmps : 0 < mps) (frames : List Bytes) :
    received mps (frames.flatMap (calls mps)) = (frames.filter (· ≠ []), []) := by
  induction frames using List.reverseRecOn with
  | nil => rfl
  | append_singleton frames frame ih =>
      rw [List.flatMap_append, List.flatMap_singleton, List.filter_append]
      by_cases hnil : frame = []
      · rw [calls, if_pos hnil]
        simp [ih, hnil]
      · have hlast : [frame].filter (· ≠ []) = [frame] := by simp [hnil]
        rw [hlast]
        by_cases hneeds : PipeWriter.NeedsTerminator mps frame
        · have hfills := (needsTerminator_iff hmps).mp hneeds
          rw [calls, if_neg hnil, if_pos hneeds, show [frame, []] = [frame] ++ [[]] from rfl,
            ← List.append_assoc, received_end hmps, received_fills hmps hfills, ih,
            List.nil_append]
        · have hends := mt (needsTerminator_iff hmps).mpr hneeds
          rw [calls, if_neg hnil, if_neg hneeds, received_ends hmps hends, ih, List.nil_append]

end

/-! ### One write -/

/-- What a thread that writes these bytes has had transferred. -/
def Job.Of (mps : Nat) (bytes : Bytes) : Job → List Bytes → Prop
  | .transfer bytes', l => bytes' = bytes ∧ l = []
  | .terminator _, l => PipeWriter.NeedsTerminator mps bytes ∧ l = [bytes]
  | .done (.ok _), l => l = calls mps bytes
  | .done (.error _), l => l = [] ∨ PipeWriter.NeedsTerminator mps bytes ∧ l = [bytes]

/-- How many calls the thread has yet to make at most. -/
def Job.left : Job → Nat
  | .transfer _ => 2
  | .terminator _ => 1
  | .done _ => 0

def WorkerStep.Completes : WorkerStep → Prop
  | .completes _ => True
  | .fails _ => False

namespace PipeWriter

/-- A write of `rest` is in flight, after transfers of all that came before. -/
structure InFlight (mps : Nat) (frames : List Bytes) (rest : Bytes) (w : PipeWriter) : Prop where
  maxPacket : w.maxPacket = mps
  ne : rest ≠ []
  pendingLen : w.pendingLen = rest.length
  job : ∃ job l, w.pending = some job ∧ job.Of mps rest l ∧
    w.written = frames.flatMap (calls mps) ++ l

/-- Nothing is in flight, and all frames have been transferred. -/
structure Idle (mps : Nat) (frames : List Bytes) (w : PipeWriter) : Prop where
  maxPacket : w.maxPacket = mps
  pending : w.pending = none
  written : w.written = frames.flatMap (calls mps)

/-- The write in flight has not failed. -/
def Healthy (w : PipeWriter) : Prop :=
  ∀ e, w.pending ≠ some (.done (.error e))

section
variable {mps : Nat} {frames : List Bytes} {rest : Bytes} {w : PipeWriter}

theorem InFlight.workerStep (h : w.InFlight mps frames rest) (a : WorkerStep) :
    (w.workerStep a).InFlight mps frames rest := by
  obtain ⟨hmax, hne, hlen, job, l, hpending, hof, hwritten⟩ := h
  cases a with
  | completes n =>
      cases job with
      | transfer bytes =>
          obtain ⟨rfl, rfl⟩ := hof
          rw [List.append_nil] at hwritten
          simp only [PipeWriter.workerStep, hpending]
          refine ⟨hmax, hne, hlen, _, [bytes], rfl, ?_, by rw [hwritten]⟩
          rw [hmax]
          split
          · next hneeds => exact ⟨hneeds, rfl⟩
          · next hneeds =>
              show [bytes] = calls mps bytes
              rw [calls, if_neg hne, if_neg hneeds]
      | terminator transferred =>
          obtain ⟨hneeds, rfl⟩ := hof
          simp only [PipeWriter.workerStep, hpending]
          refine ⟨hmax, hne, hlen, _, [rest, []], rfl, ?_, ?_⟩
          · show [rest, []] = calls mps rest
            rw [calls, if_neg hne, if_pos hneeds]
          · rw [hwritten, List.append_assoc]
            rfl
      | done res =>
          simp only [PipeWriter.workerStep, hpending]
          exact ⟨hmax, hne, hlen, _, l, hpending, hof, hwritten⟩
  | fails e =>
      cases job with
      | transfer bytes =>
          simp only [PipeWriter.workerStep, hpending]
          exact ⟨hmax, hne, hlen, _, l, rfl, .inl hof.2, hwritten⟩
      | terminator transferred =>
          simp only [PipeWriter.workerStep, hpending]
          exact ⟨hmax, hne, hlen, _, l, rfl, .inr hof, hwritten⟩
      | done res =>
          simp only [PipeWriter.workerStep, hpending]
          exact ⟨hmax, hne, hlen, _, l, hpending, hof, hwritten⟩

theorem InFlight.work (h : w.InFlight mps frames rest) (steps : List WorkerStep) :
    (w.work steps).InFlight mps frames rest := by
  induction steps generalizing w with
  | nil => exact h
  | cons a steps ih => exact ih (h.workerStep a)

theorem Idle.work (h : w.Idle mps frames) (steps : List WorkerStep) : w.work steps = w := by
  induction steps with
  | nil => rfl
  | cons a steps ih =>
      have hstep : w.workerStep a = w := by
        cases a <;> simp only [PipeWriter.workerStep, h.pending]
      rw [PipeWriter.work, List.foldl_cons, hstep]
      exact ih

theorem Idle.spawnWrite (h : w.Idle mps frames) (hrest : rest ≠ []) :
    (w.spawnWrite rest).InFlight mps frames rest :=
  ⟨h.maxPacket, hrest, rfl, _, [], rfl, ⟨rfl, rfl⟩, by
    rw [List.append_nil]
    exact h.written⟩

/-- What a poll of a write comes to. -/
theorem InFlight.pollPending (h : w.InFlight mps frames rest) :
    (w.pollPending = (.pending, w)) ∨
    (∃ w', w.pollPending = (.ready (.ok rest.length), w') ∧ w'.Idle mps (frames ++ [rest])) ∨
    ∃ e w' l, w.pollPending = (.ready (.error e), w') ∧ w.pending = some (.done (.error e)) ∧
      (l = [] ∨ NeedsTerminator mps rest ∧ l = [rest]) ∧
      w'.written = frames.flatMap (calls mps) ++ l := by
  obtain ⟨hmax, hne, hlen, job, l, hpending, hof, hwritten⟩ := h
  cases job with
  | transfer bytes => exact .inl (by simp only [PipeWriter.pollPending, hpending])
  | terminator transferred => exact .inl (by simp only [PipeWriter.pollPending, hpending])
  | done res =>
      cases res with
      | ok n =>
          have hpoll : w.pollPending =
              (.ready (.ok rest.length), { w with pending := none, pendingLen := 0 }) := by
            simp only [PipeWriter.pollPending, hpending, hlen]
          refine .inr (.inl ⟨_, hpoll, hmax, rfl, ?_⟩)
          rw [List.flatMap_append, List.flatMap_singleton, ← hof]
          exact hwritten
      | error e =>
          have hpoll : w.pollPending =
              (.ready (.error e), { w with pending := none, pendingLen := 0 }) := by
            simp only [PipeWriter.pollPending, hpending]
          exact .inr (.inr ⟨e, _, l, hpoll, hpending, hof, hwritten⟩)

/-! ### Threads that do not fail -/

theorem Healthy.workerStep (h : w.Healthy) {a : WorkerStep} (ha : a.Completes) :
    (w.workerStep a).Healthy := by
  cases a with
  | fails e => cases ha
  | completes n =>
      cases hpending : w.pending with
      | none =>
          simp only [PipeWriter.workerStep, hpending]
          exact h
      | some job =>
          cases job with
          | transfer bytes =>
              simp only [PipeWriter.workerStep, hpending]
              intro e
              dsimp only
              split <;> nofun
          | terminator transferred =>
              simp only [PipeWriter.workerStep, hpending]
              nofun
          | done res =>
              simp only [PipeWriter.workerStep, hpending]
              exact h

theorem Healthy.work (h : w.Healthy) {steps : List WorkerStep} (hok : ∀ a ∈ steps, a.Completes) :
    (w.work steps).Healthy := by
  induction steps generalizing w with
  | nil => exact h
  | cons a steps ih =>
      have hstep := h.workerStep (hok a (List.mem_cons_self ..))
      exact ih hstep fun a' ha' => hok a' (List.mem_cons_of_mem _ ha')

/-- Enough steps bring a thread to its end. -/
theorem Healthy.finishes {job : Job} {steps : List WorkerStep} (h : w.Healthy)
    (hpending : w.pending = some job) (hok : ∀ a ∈ steps, a.Completes)
    (henough : job.left ≤ steps.length) :
    ∃ n, (w.work steps).pending = some (.done (.ok n)) := by
  induction steps generalizing w job with
  | nil =>
      cases job with
      | transfer bytes => cases henough
      | terminator transferred => cases henough
      | done res =>
          cases res with
          | ok n => exact ⟨n, hpending⟩
          | error e => exact absurd hpending (h e)
  | cons a steps ih =>
      have ha := hok a (List.mem_cons_self ..)
      have hrest : ∀ a' ∈ steps, a'.Completes := fun a' ha' => hok a' (List.mem_cons_of_mem _ ha')
      have hstep := h.workerStep ha
      rw [List.length_cons] at henough
      cases a with
      | fails e => cases ha
      | completes n =>
          cases job with
          | transfer bytes =>
              have hnext : (w.workerStep (.completes n)).pending =
                  some (if NeedsTerminator w.maxPacket bytes then .terminator n
                    else .done (.ok n)) := by
                simp only [PipeWriter.workerStep, hpending]
              refine ih hstep hnext hrest ?_
              simp only [Job.left] at henough
              split <;> simp only [Job.left] <;> omega
          | terminator transferred =>
              have hnext : (w.workerStep (.completes n)).pending =
                  some (.done (.ok transferred)) := by
                simp only [PipeWriter.workerStep, hpending]
              exact ih hstep hnext hrest (Nat.zero_le _)
          | done res =>
              have hnext : (w.workerStep (.completes n)).pending = some (.done res) := by
                simp only [PipeWriter.workerStep, hpending]
              exact ih hstep hnext hrest (Nat.zero_le _)

end

/-! ### The task -/

/-- What has been transferred, by where the task is. -/
inductive Delivers (mps : Nat) (w : PipeWriter) : List Bytes → TaskAt UInt8 → Prop
  | waiting {frames : List Bytes} (h : w.Idle mps frames) : Delivers mps w frames .waiting
  | fresh {frames : List Bytes} {rest : Bytes} (h : w.Idle mps frames) :
      Delivers mps w (frames ++ [rest]) (.writing rest)
  | inFlight {frames : List Bytes} {rest : Bytes} (h : w.InFlight mps frames rest) :
      Delivers mps w (frames ++ [rest]) (.writing rest)
  | flushing {frames : List Bytes} (h : w.Idle mps frames) : Delivers mps w frames .flushing
  | broken {frames l : List Bytes} {rest : Bytes}
      (hl : l = [] ∨ NeedsTerminator mps rest ∧ l = [rest])
      (h : w.written = frames.flatMap (calls mps) ++ l) :
      Delivers mps w (frames ++ [rest]) .broken

section
variable {mps : Nat} {frames : List Bytes} {rest : Bytes} {w : PipeWriter}

/-- A poll of a write, from where its thread is then. -/
theorem InFlight.delivers (h : w.InFlight mps frames rest) :
    Delivers mps w.pollPending.2 (frames ++ [rest]) (.wrote rest w.pollPending.1) := by
  rcases h.pollPending with hpoll | ⟨w', hpoll, hidle⟩ | ⟨e, w', l, hpoll, -, hl, hwritten⟩
  · rw [hpoll]
    exact .inFlight h
  · have hwrote : TaskAt.wrote (ε := String) rest (.ready (.ok rest.length)) = .flushing := by
      cases hrest : rest with
      | nil => exact absurd hrest h.ne
      | cons b bytes =>
          have hdrop : (b :: bytes).drop (bytes.length + 1) = [] :=
            List.drop_length (l := b :: bytes)
          show TaskAt.offer ((b :: bytes).drop (bytes.length + 1)) = .flushing
          rw [hdrop]
          rfl
    rw [hpoll, hwrote]
    exact .flushing hidle
  · rw [hpoll]
    exact .broken hl hwritten

theorem Idle.pollFlush (h : w.Idle mps frames) (steps : List WorkerStep) :
    w.pollFlush steps = (.ready (.ok ()), w) := by
  unfold PipeWriter.pollFlush PipeWriter.pollPending
  rw [h.work, h.pending]

theorem Idle.pollWrite (h : w.Idle mps frames) (hrest : rest ≠ []) (steps : List WorkerStep) :
    w.pollWrite steps rest = ((w.spawnWrite rest).work steps).pollPending := by
  rw [PipeWriter.pollWrite, h.pending, Option.isSome_none, if_neg Bool.false_ne_true,
    if_neg hrest]

theorem InFlight.pollWrite (h : w.InFlight mps frames rest) (steps : List WorkerStep) :
    w.pollWrite steps rest = (w.work steps).pollPending := by
  obtain ⟨job, l, hpending, -⟩ := h.job
  rw [PipeWriter.pollWrite, hpending, Option.isSome_some, if_pos rfl]

theorem Delivers.recv (h : Delivers mps w frames .waiting) (frame : Bytes) :
    Delivers mps w (frames ++ [frame]) (.offer frame) := by
  cases h with
  | waiting h =>
      cases frame with
      | nil =>
          refine .flushing ⟨h.maxPacket, h.pending, ?_⟩
          rw [h.written, List.flatMap_append, List.flatMap_singleton, calls, if_pos rfl,
            List.append_nil]
      | cons b frame => exact .fresh h

theorem Delivers.pollWrite (h : Delivers mps w frames (.writing rest)) (hrest : rest ≠ [])
    (steps : List WorkerStep) :
    Delivers mps (w.pollWrite steps rest).2 frames (.wrote rest (w.pollWrite steps rest).1) := by
  cases h with
  | fresh h =>
      rw [h.pollWrite hrest]
      exact ((h.spawnWrite hrest).work steps).delivers
  | inFlight h =>
      rw [h.pollWrite]
      exact (h.work steps).delivers

theorem Delivers.pollFlush (h : Delivers mps w frames .flushing) (steps : List WorkerStep) :
    Delivers mps (w.pollFlush steps).2 frames (.flushed (w.pollFlush steps).1) := by
  cases h with
  | flushing h =>
      rw [h.pollFlush]
      exact .waiting h

/-- What has arrived is the frames in order, and between two frames all of them. -/
theorem Delivers.received {place : TaskAt UInt8} (hmps : 0 < mps)
    (h : Delivers mps w frames place) :
    (Lib.received mps w.written).1 <+: frames.filter (· ≠ []) ∧
      (place = .waiting → Lib.received mps w.written = (frames.filter (· ≠ []), [])) := by
  have hpart : ∀ {frames l : List Bytes} {rest : Bytes},
      w.written = frames.flatMap (calls mps) ++ l →
      (l = [] ∨ NeedsTerminator mps rest ∧ l = [rest]) →
      (Lib.received mps w.written).1 <+: (frames ++ [rest]).filter (· ≠ []) := by
    intro frames l rest hwritten hl
    rw [List.filter_append, hwritten]
    rcases hl with rfl | ⟨hneeds, rfl⟩
    · rw [List.append_nil, received_calls hmps]
      exact List.prefix_append ..
    · rw [received_fills hmps ((needsTerminator_iff hmps).mp hneeds), received_calls hmps]
      exact List.prefix_append ..
  cases h with
  | waiting h =>
      rw [h.written, received_calls hmps]
      exact ⟨List.prefix_refl _, fun _ => rfl⟩
  | fresh h =>
      refine ⟨hpart (l := []) (by rw [h.written, List.append_nil]) (.inl rfl), ?_⟩
      intro hplace
      cases hplace
  | @inFlight frames rest h =>
      refine ⟨?_, fun hplace => by cases hplace⟩
      obtain ⟨job, l, -, hof, hwritten⟩ := h.job
      cases job with
      | transfer bytes => exact hpart hwritten (.inl hof.2)
      | terminator transferred => exact hpart hwritten (.inr hof)
      | done res =>
          cases res with
          | error e => exact hpart hwritten hof
          | ok n =>
              have hall : w.written = (frames ++ [rest]).flatMap (calls mps) := by
                rw [List.flatMap_append, List.flatMap_singleton, ← hof]
                exact hwritten
              have hreceived : (Lib.received mps w.written).1 =
                  (frames ++ [rest]).filter (· ≠ []) := by
                rw [hall, received_calls hmps]
              exact hreceived ▸ List.prefix_refl _
  | flushing h =>
      rw [h.written, received_calls hmps]
      exact ⟨List.prefix_refl _, fun hplace => by cases hplace⟩
  | broken hl hwritten => exact ⟨hpart hwritten hl, fun hplace => by cases hplace⟩

/-! ### Polls that find the driver through -/

theorem Idle.healthy (h : w.Idle mps frames) : w.Healthy := by
  intro e hpending
  rw [h.pending] at hpending
  cases hpending

/-- A poll of a write that has not failed does not fail. -/
theorem InFlight.unbroken (h : w.InFlight mps frames rest) (hhealthy : w.Healthy) :
    w.pollPending.2.Healthy ∧
      (TaskAt.wrote (ε := String) rest w.pollPending.1 : TaskAt UInt8) ≠ .broken := by
  rcases h.pollPending with hpoll | ⟨w', hpoll, hidle⟩ | ⟨e, w', l, -, hpending, -⟩
  · rw [hpoll]
    exact ⟨hhealthy, fun hbroken => by cases hbroken⟩
  · rw [hpoll]
    exact ⟨hidle.healthy, TaskAt.wrote_unbroken rest (List.length_pos_iff.mpr h.ne)⟩
  · exact absurd hpending (hhealthy e)

/-- The task, with a write that has not failed if one is in flight. -/
structure Going (mps : Nat) (w : PipeWriter) (frames : List Bytes) (place : TaskAt UInt8) :
    Prop where
  delivers : Delivers mps w frames place
  healthy : w.Healthy
  unbroken : place ≠ .broken

theorem going_start : Going mps (.new mps) [] .waiting :=
  ⟨.waiting ⟨rfl, rfl, rfl⟩, nofun, nofun⟩

theorem Going.recv (h : Going mps w frames .waiting) (frame : Bytes) :
    Going mps w (frames ++ [frame]) (.offer frame) := by
  exact ⟨h.delivers.recv frame, h.healthy, TaskAt.offer_unbroken frame⟩

theorem Going.pollWrite (h : Going mps w frames (.writing rest)) (hrest : rest ≠ [])
    {steps : List WorkerStep} (hok : ∀ a ∈ steps, a.Completes) :
    Going mps (w.pollWrite steps rest).2 frames (.wrote rest (w.pollWrite steps rest).1) := by
  obtain ⟨hdelivers, hhealthy, -⟩ := h
  refine ⟨hdelivers.pollWrite hrest steps, ?_, ?_⟩
  · cases hdelivers with
    | fresh h =>
        have hspawned : (w.spawnWrite rest).Healthy := nofun
        rw [h.pollWrite hrest]
        exact (((h.spawnWrite hrest).work steps).unbroken (hspawned.work hok)).1
    | inFlight h =>
        rw [h.pollWrite]
        exact ((h.work steps).unbroken (hhealthy.work hok)).1
  · cases hdelivers with
    | fresh h =>
        have hspawned : (w.spawnWrite rest).Healthy := nofun
        rw [h.pollWrite hrest]
        exact (((h.spawnWrite hrest).work steps).unbroken (hspawned.work hok)).2
    | inFlight h =>
        rw [h.pollWrite]
        exact ((h.work steps).unbroken (hhealthy.work hok)).2

theorem Going.pollFlush (h : Going mps w frames .flushing) (steps : List WorkerStep) :
    Going mps (w.pollFlush steps).2 frames (.flushed (w.pollFlush steps).1) := by
  obtain ⟨hdelivers, hhealthy, -⟩ := h
  cases hdelivers with
  | flushing h =>
      rw [h.pollFlush]
      exact ⟨.waiting h, hhealthy, nofun⟩

/-- A poll that finds both calls of the thread completed reports the whole frame. -/
theorem Going.reports (h : Going mps w frames (.writing rest)) (hrest : rest ≠ [])
    {steps : List WorkerStep} (hok : ∀ a ∈ steps, a.Completes) (htwo : 2 ≤ steps.length) :
    (w.pollWrite steps rest).1 = .ready (.ok rest.length) := by
  have hready : ∀ {u : PipeWriter} {frames}, u.InFlight mps frames rest → u.Healthy →
      (u.work steps).pollPending.1 = .ready (.ok rest.length) := by
    intro u frames hu hhealthy
    obtain ⟨job, l, hpending, -⟩ := hu.job
    have hleft : job.left ≤ steps.length := by
      cases job <;> simp only [Job.left] <;> omega
    obtain ⟨n, hdone⟩ := hhealthy.finishes hpending hok hleft
    rw [PipeWriter.pollPending, hdone, (hu.work steps).pendingLen]
  obtain ⟨hdelivers, hhealthy, -⟩ := h
  cases hdelivers with
  | fresh h =>
      have hspawned : (w.spawnWrite rest).Healthy := nofun
      rw [h.pollWrite hrest]
      exact hready (h.spawnWrite hrest) hspawned
  | inFlight h =>
      rw [h.pollWrite]
      exact hready h hhealthy

end

end PipeWriter

/-- What the device receives of a pipe writer. -/
theorem PipeWriter.delivers {mps : Nat} (hmps : 0 < mps) :
    PipeWriter.sink.Delivers (.new mps) fun w => received mps w.written := by
  intro tr t hrun
  have hdelivers := (FrameTask.invariant (C := fun _ => True)
    (I := fun w frames place => PipeWriter.Delivers mps w frames place)
    (.waiting ⟨rfl, rfl, rfl⟩) (fun w frames frame h => h.recv frame)
    (fun w frames rest steps _ h hrest => h.pollWrite hrest steps)
    (fun w frames steps _ h => h.pollFlush steps) hrun
    fun u _ => by rcases u.2.1 with _ | _ | _ <;> trivial).1
  exact hdelivers.received hmps

/-- **The pipe writers.**  What the device receives is the frames, each as one transfer; as
long as the driver completes what it is given, the task goes on, and a poll that finds it
through reports the whole frame.  A call that completes is taken to have sent its whole buffer,
as the writers take it. -/
theorem pipe_writers_send_frames {S : Sink PipeWriter (List WorkerStep) UInt8 String}
    (hS : S = LibusbkWriter.sink ∨ S = AppleMuxWriter.sink) {mps : Nat} (hmps : 0 < mps)
    {tr : List (FrameTask PipeWriter UInt8 × FrameEvent (List WorkerStep) UInt8 ×
      FrameTask PipeWriter UInt8)} {t : FrameTask PipeWriter UInt8}
    (hrun : Run (FrameTask.Step S) { writer := .new mps } tr t) :
    (received mps t.writer.written).1 <+: t.frames.filter (· ≠ []) ∧
    (t.place = .waiting → received mps t.writer.written = (t.frames.filter (· ≠ []), [])) ∧
    (EveryStep (FrameTask.Meets fun steps => ∀ a ∈ steps, a.Completes) tr →
      t.place ≠ .broken ∧ ∀ rest, t.place = .writing rest →
        ∀ steps, (∀ a ∈ steps, WorkerStep.Completes a) → 2 ≤ steps.length →
          (S.pollWrite t.writer steps rest).1 = .ready (.ok rest.length)) := by
  have hsink : S = PipeWriter.sink := hS.elim id id
  subst hsink
  obtain ⟨hfirst, hall⟩ := PipeWriter.delivers hmps tr t hrun
  refine ⟨hfirst, hall, fun hok => ?_⟩
  obtain ⟨hgoing, hbusy⟩ := FrameTask.invariant
    (I := fun w frames place => PipeWriter.Going mps w frames place)
    PipeWriter.going_start (fun w frames frame h => h.recv frame)
    (fun w frames rest steps hok h hrest => h.pollWrite hrest hok)
    (fun w frames steps _ h => h.pollFlush steps) hrun hok
  refine ⟨hgoing.unbroken, fun rest hplace steps hok htwo => ?_⟩
  rw [hplace] at hgoing
  exact hgoing.reports (hbusy rest hplace) hok htwo

/-- A frame that fills its packets, offered twice and flushed once. -/
def eightBytes : List (FrameEvent (List WorkerStep) UInt8) :=
  [.recv (List.replicate 8 7), .pollWrite [], .pollWrite [.completes 8, .completes 0],
    .pollFlush []]

def eightBytesSent : FrameTask PipeWriter UInt8 where
  writer :=
    { maxPacket := 4
      pending := none
      pendingLen := 0
      written := [List.replicate 8 7, []] }
  place := .waiting
  frames := [List.replicate 8 7]

/-- The frame arrives as one transfer, which an empty one ends. -/
theorem eightBytes_arrive : ∃ tr,
    Run (FrameTask.Step LibusbkWriter.sink) { writer := .new 4 } tr eightBytesSent ∧
    tr.map (fun t => t.2.1) = eightBytes ∧
    received 4 eightBytesSent.writer.written = ([List.replicate 8 7], []) := by
  have hexec : Lib.exec (FrameTask.next LibusbkWriter.sink) { writer := .new 4 } eightBytes =
      some eightBytesSent := rfl
  obtain ⟨tr, hrun, hmap⟩ := Run.of_exec (fun _ _ _ _ hnext => hnext) hexec
  exact ⟨tr, hrun, hmap, (pipe_writers_send_frames (Or.inl rfl) (by decide) hrun).2.1 rfl⟩

/-! ### Ends of transfers -/

/-- nusb's writer neither fails nor answers that it has taken nothing. -/
def InnerAnswer.Takes (answer : InnerAnswer) : Prop :=
  (∀ e, answer.write ≠ .ready (.error e)) ∧ answer.write ≠ .ready (.ok 0) ∧
    ∀ e, answer.flush ≠ .ready (.error e)

namespace ZlpWriter

/-- What has been marked in each place.  An end is due when something has been taken since the
last one, and no end is marked while none is due. -/
inductive Marks : ZlpWriter → List Bytes → TaskAt UInt8 → Prop
  | waiting {w frames} (marks : transfers w.inner = (frames.filter (· ≠ []), []))
      (ended : w.ended = true) : Marks w frames .waiting
  | writing {w before taken rest} (rest_ne : rest ≠ [])
      (marks : transfers w.inner = (before.filter (· ≠ []), taken))
      (ended : w.ended = true ↔ taken = []) :
      Marks w (before ++ [taken ++ rest]) (.writing rest)
  | due {w before frame} (frame_ne : frame ≠ [])
      (marks : transfers w.inner = (before.filter (· ≠ []), frame)) (ended : w.ended = false) :
      Marks w (before ++ [frame]) .flushing
  | ended {w frames} (marks : transfers w.inner = (frames.filter (· ≠ []), []))
      (ended : w.ended = true) : Marks w frames .flushing
  | broken {w frames} (marks : (transfers w.inner).1 <+: frames.filter (· ≠ [])) :
      Marks w frames .broken

section
variable {w : ZlpWriter} {frames : List Bytes} {rest : Bytes} {place : TaskAt UInt8}

theorem filter_append_one {frame : Bytes} (h : frame ≠ []) :
    (frames ++ [frame]).filter (· ≠ []) = frames.filter (· ≠ []) ++ [frame] := by
  simp [h]

theorem Marks.recv (h : Marks w frames .waiting) (frame : Bytes) :
    Marks w (frames ++ [frame]) (.offer frame) := by
  obtain ⟨hmarks, hended⟩ := h
  cases frame with
  | nil =>
      refine .ended ?_ hended
      rw [hmarks]
      simp
  | cons b bytes =>
      exact .writing (List.cons_ne_nil b bytes) hmarks (iff_of_true hended rfl)

theorem Marks.prefix_of_broken (h : Marks w frames .broken) :
    (transfers w.inner).1 <+: frames.filter (· ≠ []) := by
  obtain _ | _ | _ | _ | hmarks := h
  exact hmarks

/-- A poll that takes nothing leaves the marks as they are. -/
theorem Marks.breaks (h : Marks w frames (.writing rest)) : Marks w frames .broken := by
  obtain _ | ⟨hrest, hmarks, -⟩ := h
  refine .broken ?_
  rw [hmarks, filter_append_one (List.append_ne_nil_of_right_ne_nil _ hrest)]
  exact List.prefix_append _ _

theorem Marks.takes (h : Marks w frames (.writing rest)) {n : Nat} (hn : 0 < n)
    (hle : n ≤ rest.length) :
    Marks { ended := false, inner := w.inner ++ [.bytes (rest.take n)] } frames
      (.offer (rest.drop n)) := by
  cases h with
  | @writing before taken _ hrest hmarks _ =>
      have htaken : rest.take n ≠ [] := by
        apply List.ne_nil_of_length_pos
        rw [List.length_take]
        omega
      have hmarks' : transfers (w.inner ++ [.bytes (rest.take n)]) =
          (before.filter (· ≠ []), taken ++ rest.take n) := by
        rw [transfers_bytes, hmarks]
      have hsplit : taken ++ rest = (taken ++ rest.take n) ++ rest.drop n := by
        rw [List.append_assoc, List.take_append_drop]
      have hne : taken ++ rest.take n ≠ [] := List.append_ne_nil_of_right_ne_nil _ htaken
      rw [hsplit]
      cases hdrop : rest.drop n with
      | nil =>
          rw [List.append_nil]
          exact .due hne hmarks' rfl
      | cons b bytes =>
          exact .writing (List.cons_ne_nil b bytes) hmarks' (iff_of_false Bool.false_ne_true hne)

theorem Marks.pollWrite (h : Marks w frames (.writing rest)) (answer : InnerAnswer) :
    Marks (w.pollWrite answer rest).2 frames (.wrote rest (w.pollWrite answer rest).1) := by
  unfold ZlpWriter.pollWrite innerWrite
  rcases answer.write with _ | ⟨e | n⟩
  · exact h
  · exact h.breaks
  · cases hmin : min n rest.length with
    | zero =>
        have htake : rest.take n = [] := by
          apply List.eq_nil_of_length_eq_zero
          rw [List.length_take, hmin]
        obtain _ | ⟨hrest, hmarks, -⟩ := h
        simp only [hmin]
        refine .broken ?_
        rw [transfers_bytes, hmarks, filter_append_one (List.append_ne_nil_of_right_ne_nil _ hrest)]
        exact List.prefix_append _ _
    | succ m =>
        have htake : rest.take n = rest.take (m + 1) := by
          rw [← hmin, List.take_eq_take_min]
        simp only [hmin, htake]
        exact h.takes (Nat.succ_pos m) (hmin ▸ Nat.min_le_right _ _)

theorem Marks.pollFlush (h : Marks w frames .flushing) (answer : InnerAnswer) :
    Marks (w.pollFlush answer).2 frames (.flushed (w.pollFlush answer).1) := by
  have hflushed : Marks (w.pollFlush answer).2 frames .flushing ∧
      (transfers (w.pollFlush answer).2.inner = (frames.filter (· ≠ []), []) ∧
        (w.pollFlush answer).2.ended = true) := by
    unfold ZlpWriter.pollFlush
    cases h with
    | @due before frame hne hmarks hended =>
        have hsubmit : transfers w.submitEnd.inner =
            ((before ++ [frame]).filter (· ≠ []), []) := by
          rw [submitEnd, transfers_finish, hmarks, filter_append_one hne]
        rw [hended]
        exact ⟨.ended hsubmit rfl, hsubmit, rfl⟩
    | ended hmarks hended =>
        rw [hended]
        exact ⟨.ended hmarks hended, hmarks, hended⟩
  obtain ⟨hplace, hmarks, hended⟩ := hflushed
  rcases (w.pollFlush answer).1 with _ | ⟨e | u⟩
  · exact hplace
  · have hall : (transfers (w.pollFlush answer).2.inner).1 = frames.filter (· ≠ []) := by
      rw [hmarks]
    exact .broken (hall ▸ List.prefix_refl _)
  · exact .waiting hmarks hended

theorem Marks.inOrder (h : Marks w frames place) :
    (transfers w.inner).1 <+: frames.filter (· ≠ []) := by
  cases h with
  | waiting hmarks _ => exact (congrArg Prod.fst hmarks) ▸ List.prefix_refl _
  | writing hrest hmarks hended =>
      exact (Marks.breaks (.writing hrest hmarks hended)).prefix_of_broken
  | due hne hmarks _ =>
      rw [hmarks, filter_append_one hne]
      exact List.prefix_append _ _
  | ended hmarks _ => exact (congrArg Prod.fst hmarks) ▸ List.prefix_refl _
  | broken hmarks => exact hmarks

theorem Marks.complete (h : Marks w frames .waiting) :
    transfers w.inner = (frames.filter (· ≠ []), []) := by
  cases h with
  | waiting hmarks _ => exact hmarks

theorem Marks.partway (h : Marks w frames (.writing rest)) :
    ∃ before taken, frames = before ++ [taken ++ rest] ∧
      transfers w.inner = (before.filter (· ≠ []), taken) := by
  obtain _ | ⟨-, hmarks, -⟩ := h
  exact ⟨_, _, rfl, hmarks⟩

theorem pollWrite_unbroken (w : ZlpWriter) (hrest : rest ≠ []) {answer : InnerAnswer}
    (hok : answer.Takes) : TaskAt.wrote rest (w.pollWrite answer rest).1 ≠ .broken := by
  obtain ⟨hnofail, hsome, -⟩ := hok
  have hpos := List.length_pos_iff.mpr hrest
  unfold ZlpWriter.pollWrite innerWrite
  cases hwrite : answer.write with
  | pending => simp [TaskAt.wrote]
  | ready r =>
      cases r with
      | error e => exact absurd hwrite (hnofail e)
      | ok n =>
          have hn : n ≠ 0 := fun h0 => hsome (h0 ▸ hwrite)
          obtain ⟨m, hm⟩ : ∃ m, min n rest.length = m + 1 :=
            Nat.exists_eq_succ_of_ne_zero (by omega)
          simp only [hm]
          exact TaskAt.wrote_unbroken rest (Nat.succ_pos m)

theorem pollFlush_unbroken (w : ZlpWriter) {answer : InnerAnswer} (hok : answer.Takes) :
    (TaskAt.flushed (w.pollFlush answer).1 : TaskAt UInt8) ≠ .broken := by
  obtain ⟨-, -, hnofail⟩ := hok
  unfold ZlpWriter.pollFlush
  cases hflush : answer.flush with
  | pending => simp [TaskAt.flushed]
  | ready r =>
      cases r with
      | error e => exact absurd hflush (hnofail e)
      | ok u => simp [TaskAt.flushed]

end

theorem marks_of_run
    {tr : List (FrameTask ZlpWriter UInt8 × FrameEvent InnerAnswer UInt8 ×
      FrameTask ZlpWriter UInt8)} {t : FrameTask ZlpWriter UInt8}
    (hrun : Run (FrameTask.Step ZlpWriter.sink) { writer := {} } tr t) :
    Marks t.writer t.frames t.place :=
  (FrameTask.invariant (C := fun _ => True) (I := Marks)
    (.waiting rfl rfl) (fun w frames frame h => h.recv frame)
    (fun w frames rest answer _ h _ => h.pollWrite answer)
    (fun w frames answer _ h => h.pollFlush answer) hrun
    fun u _ => by rcases u.2.1 with _ | _ | _ <;> trivial).1

/-- What the device receives of nusb's writer. -/
theorem delivers : ZlpWriter.sink.Delivers {} fun w => transfers w.inner := by
  intro tr t hrun
  have hmarks := marks_of_run hrun
  refine ⟨hmarks.inOrder, fun hplace => ?_⟩
  rw [hplace] at hmarks
  exact hmarks.complete

end ZlpWriter

/-- **The ends of transfers.**  nusb's writer is given the bytes of the frames in order, and an
end after each frame and nowhere else: every transfer is a whole frame, whatever the parts are
in which frames are taken and however often flushes are polled. -/
theorem zlp_writer_ends_frames
    {tr : List (FrameTask ZlpWriter UInt8 × FrameEvent InnerAnswer UInt8 ×
      FrameTask ZlpWriter UInt8)} {t : FrameTask ZlpWriter UInt8}
    (hrun : Run (FrameTask.Step ZlpWriter.sink) { writer := {} } tr t) :
    (transfers t.writer.inner).1 <+: t.frames.filter (· ≠ []) ∧
    (t.place = .waiting → transfers t.writer.inner = (t.frames.filter (· ≠ []), [])) ∧
    (∀ rest, t.place = .writing rest → ∃ before taken, t.frames = before ++ [taken ++ rest] ∧
      transfers t.writer.inner = (before.filter (· ≠ []), taken)) ∧
    (EveryStep (FrameTask.Meets InnerAnswer.Takes) tr → t.place ≠ .broken) := by
  have hmarks := ZlpWriter.marks_of_run hrun
  obtain ⟨hfirst, hall⟩ := ZlpWriter.delivers tr t hrun
  refine ⟨hfirst, hall, fun rest hplace => ?_, fun hok => ?_⟩
  · rw [hplace] at hmarks
    exact hmarks.partway
  · exact (FrameTask.invariant (I := fun _ _ place => place ≠ .broken) nofun
      (fun _ _ frame _ => TaskAt.offer_unbroken frame)
      (fun w _ rest answer hok _ hrest => w.pollWrite_unbroken hrest hok)
      (fun w _ answer hok _ => w.pollFlush_unbroken hok) hrun hok).1

/-- Three bytes, taken in two parts, and a flush that is polled twice. -/
def threeBytes : List (FrameEvent InnerAnswer UInt8) :=
  [.recv [1, 2, 3],
    .pollWrite { write := .ready (.ok 2), flush := .pending },
    .pollWrite { write := .pending, flush := .pending },
    .pollWrite { write := .ready (.ok 2), flush := .pending },
    .pollFlush { write := .pending, flush := .pending },
    .pollFlush { write := .pending, flush := .ready (.ok ()) }]

def threeBytesSent : FrameTask ZlpWriter UInt8 where
  writer := { ended := true, inner := [.bytes [1, 2], .bytes [3], .finish] }
  place := .waiting
  frames := [[1, 2, 3]]

/-- They arrive as one transfer. -/
theorem threeBytes_end : ∃ tr,
    Run (FrameTask.Step ZlpWriter.sink) { writer := {} } tr threeBytesSent ∧
    tr.map (fun t => t.2.1) = threeBytes ∧
    transfers threeBytesSent.writer.inner = ([[1, 2, 3]], []) := by
  have hexec : Lib.exec (FrameTask.next ZlpWriter.sink) { writer := {} } threeBytes =
      some threeBytesSent := rfl
  obtain ⟨tr, hrun, hmap⟩ := Run.of_exec (fun _ _ _ _ hnext => hnext) hexec
  exact ⟨tr, hrun, hmap, (zlp_writer_ends_frames hrun).2.1 rfl⟩

end Netmuxd.PipeIo
