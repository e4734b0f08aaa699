/-
A device's mux from end to end.

The frames that `run` is given are how the bytes off the inbound pipe begin, cut up as
`read_frame` does; what it has queued is what arrives on the outbound pipe, a transfer for each
frame; and what a device can read there of a connection's sport is what its client has written.

Each of the three is a fact about one stage.  They hold of the whole, since a log only grows and
the stage after it is at some place of the log, however the tasks are run.
-/
import Netmuxd.Proofs.BulkWriter
import Netmuxd.Proofs.Output
import Netmuxd.Proofs.PipeReaders
import Netmuxd.Proofs.Upload

namespace Netmuxd

open Lib PipeIo
open Reader (ReaderTask ReaderEvent)

/-! ### The task of `run` -/

namespace RunTask

variable {left : Option Nat} {t t' : RunTask} {e : RunEvent}
  {tr : List (RunTask × RunEvent × RunTask)}

/-- What a step of `run` does. -/
inductive Moved (left : Option Nat) (t : RunTask) : RunEvent → RunTask → Prop
  | refused {reply : Bytes} {err : IoError} (hplace : t.place = .greeting)
      (h : handshake left reply = .error err) :
      Moved left t (.hello reply) { place := .refused err, given := t.given ++ [reply] }
  | greeted {reply : Bytes} {link : Link} (hplace : t.place = .greeting)
      (h : handshake left reply = .ok link) :
      Moved left t (.hello reply) { place := .looping (.start link), given := t.given ++ [reply] }
  | looped {s s' : Sys} {a : Action} (hplace : t.place = .looping s) (h : s.Step a s') :
      Moved left t (.act a)
        { place := .looping s', given := t.given ++ (RunEvent.act a).takes.toList }

theorem Step.moved (h : RunTask.Step left t e t') : t.Moved left e t' := by
  obtain ⟨hnext, hvalid⟩ := h
  unfold RunTask.next at hnext
  cases hplace : t.place with
  | greeting =>
      cases e with
      | hello reply =>
          rw [hplace] at hnext
          simp only at hnext
          cases hs : handshake left reply with
          | error err =>
              rw [hs] at hnext
              rw [← Option.some.inj hnext]
              exact .refused hplace hs
          | ok link =>
              rw [hs] at hnext
              rw [← Option.some.inj hnext]
              exact .greeted hplace hs
      | act a =>
          rw [hplace] at hnext
          simp at hnext
  | refused err =>
      rw [hplace] at hnext
      simp at hnext
  | looping s =>
      cases e with
      | hello reply =>
          rw [hplace] at hnext
          simp at hnext
      | act a =>
          rw [hplace] at hnext
          obtain ⟨s', hs', rfl⟩ := Option.map_eq_some_iff.mp hnext
          exact .looped hplace ⟨hs', hvalid s a hplace rfl⟩

theorem Moved.given (h : t.Moved left e t') : t'.given = t.given ++ e.takes.toList := by
  cases h with
  | refused => rfl
  | greeted => rfl
  | looped => rfl

/-- In its loop, `run` is what a handshake and a run of the system have made of it. -/
theorem looping_ran (h : Run (RunTask.Step left) {} tr t) {s : Sys}
    (hplace : t.place = .looping s) :
    ∃ reply link tr', handshake left reply = .ok link ∧ Run Sys.Step (Sys.start link) tr' s := by
  induction h generalizing s with
  | nil => cases hplace
  | snoc hrun hstep ih =>
      cases hstep.moved with
      | refused => cases hplace
      | greeted _ hs =>
          cases hplace
          exact ⟨_, _, [], hs, Run.nil⟩
      | looped hbefore hs' =>
          cases hplace
          obtain ⟨reply, link, tr', hs, hran⟩ := ih hbefore
          exact ⟨reply, link, _, hs, hran.snoc hs'⟩

theorem link_looping {s : Sys} (h : t.place = .looping s) : t.link left = s.mux.link := by
  unfold RunTask.link
  rw [h]

theorem link_outside (h : ∀ s, t.place ≠ .looping s) :
    t.link left = (sendVersion { writeLeft := left } 2 0).2 := by
  unfold RunTask.link
  split
  · next s hplace => exact absurd hplace (h s)
  · rfl

theorem queued_version (left : Option Nat) :
    queued (sendVersion { writeLeft := left } 2 0).2.out <+: [versionFrame] := by
  rw [sendVersion_eq]
  cases left with
  | none => exact List.prefix_rfl
  | some n =>
      cases n with
      | zero => exact List.nil_prefix
      | succ n => exact List.prefix_rfl

/-- What `run` has queued only grows, VERSION from before its loop included. -/
theorem queued_grows (hrun : Run (RunTask.Step left) {} tr t) (hstep : RunTask.Step left t e t') :
    queued (t.link left).out <+: queued (t'.link left).out := by
  cases hstep.moved with
  | refused hplace _ =>
      rw [link_outside (by simp [hplace])]
      exact List.prefix_rfl
  | @greeted reply link hplace hs =>
      rw [link_outside (by simp [hplace]), link_looping rfl]
      show _ <+: queued link.out
      rw [(handshake_link hs).1]
      exact (queued_version left).trans ⟨[setupFrame], rfl⟩
  | looped hplace hs' =>
      rw [link_looping hplace]
      obtain ⟨reply, link, tr', hs, hran⟩ := looping_ran hrun hplace
      obtain ⟨trm, hmux⟩ := Sys.mux_run hran
      rcases hs'.moved with ⟨-, hmoved, -⟩ | ⟨-, -, -, u, msgs, ns, -, rfl⟩
      · exact Netmuxd.queued_grows hs hmux hmoved
      · exact List.prefix_rfl

theorem queued_ne_nil (hrun : Run (RunTask.Step left) {} tr t) :
    ∀ frame ∈ queued (t.link left).out, frame ≠ [] := by
  by_cases hlooping : ∃ s, t.place = .looping s
  · obtain ⟨s, hplace⟩ := hlooping
    rw [link_looping hplace]
    obtain ⟨reply, link, tr', hs, hran⟩ := looping_ran hrun hplace
    obtain ⟨trm, hmux⟩ := Sys.mux_run hran
    exact (session_run hs hmux).1.queued_ne_nil
  · rw [link_outside fun s hplace => hlooping ⟨s, hplace⟩]
    intro frame hframe
    rw [List.mem_singleton.mp ((queued_version left).subset hframe)]
    simp [versionFrame, toBe32]

end RunTask

/-! ### The writer of `open_mux` -/

namespace BulkIo

/-- Where the writer task of `BulkWriter` is. -/
def phaseOf : TaskAt UInt8 → Phase
  | .waiting => .waiting
  | .writing rest => .writing rest
  | .flushing => .flushing
  | .broken => .broken

def writerTask (t : FrameTask BulkWriter UInt8) : WriterTask where
  writer := t.writer
  phase := phaseOf t.place
  frames := t.frames

theorem phaseOf_offer (rest : Bytes) : phaseOf (.offer rest) = writeAll rest := by
  cases rest with
  | nil => rfl
  | cons b rest => rfl

/-- What a poll of `write_all` comes to, said of the writer task. -/
theorem writerTask_wrote {t : FrameTask BulkWriter UInt8} {rest : Bytes} (answers : List Status)
    (hplace : t.place = .writing rest) :
    (writerTask t).next (.pollWrite answers) =
      some { writer := (t.writer.pollWrite answers rest).2
             phase := phaseOf (.wrote rest (t.writer.pollWrite answers rest).1)
             frames := t.frames } := by
  unfold WriterTask.next writerTask
  rw [hplace]
  dsimp only [phaseOf]
  generalize t.writer.pollWrite answers rest = out
  obtain ⟨r, w⟩ := out
  cases r with
  | pending => rfl
  | ready r =>
      cases r with
      | error e => rfl
      | ok n =>
          cases n with
          | zero => rfl
          | succ n => simp [TaskAt.wrote, phaseOf, ← phaseOf_offer]

theorem writerTask_flushed {t : FrameTask BulkWriter UInt8} (answers : List Status)
    (hplace : t.place = .flushing) :
    (writerTask t).next (.pollFlush answers) =
      some { writer := (t.writer.pollFlush answers).2
             phase := phaseOf (.flushed (t.writer.pollFlush answers).1)
             frames := t.frames } := by
  unfold WriterTask.next writerTask
  rw [hplace]
  dsimp only [phaseOf]
  generalize t.writer.pollFlush answers = out
  obtain ⟨r, w⟩ := out
  cases r with
  | pending => rfl
  | ready r =>
      cases r with
      | error e => rfl
      | ok u => rfl

/-- A step of the frame task is one of the writer task. -/
theorem writerTask_step {t t' : FrameTask BulkWriter UInt8} {e : FrameEvent (List Status) UInt8}
    (h : FrameTask.Step BulkWriter.sink t e t') :
    ∃ e', (writerTask t).Step e' (writerTask t') := by
  unfold FrameTask.Step FrameTask.next at h
  cases e with
  | recv frame =>
      dsimp only at h
      split at h
      · next hplace =>
          rw [← Option.some.inj h]
          refine ⟨.recv frame, ?_⟩
          simp [WriterTask.Step, WriterTask.next, writerTask, hplace, phaseOf, ← phaseOf_offer]
      · simp at h
  | pollWrite answers =>
      dsimp only at h
      split at h
      · next rest hplace =>
          rw [← Option.some.inj h]
          exact ⟨.pollWrite answers, writerTask_wrote answers hplace⟩
      · simp at h
  | pollFlush answers =>
      dsimp only at h
      split at h
      · next hplace =>
          rw [← Option.some.inj h]
          exact ⟨.pollFlush answers, writerTask_flushed answers hplace⟩
      · simp at h

/-- What the device receives of a bulk writer. -/
theorem BulkWriter.delivers {mps max : Nat} (hmps : 0 < mps) (hdvd : mps ∣ Nat.max max 1) :
    BulkWriter.sink.DeliversFrames (WriterTask.start mps max).writer
      fun w => received mps w.ep.submitted := by
  intro tr t hrun hne
  obtain ⟨tr', hrun'⟩ : ∃ tr, Run WriterTask.Step (.start mps max) tr (writerTask t) :=
    hrun.simulate (f := writerTask) fun _ _ _ hstep => .inr (writerTask_step hstep)
  obtain ⟨-, hframing⟩ := WriterTask.inv_of_run hmps hdvd hrun' hne
  refine ⟨hframing.inOrder, ?_⟩
  intro hplace
  have hphase : (writerTask t).phase = .waiting := by
    simp [writerTask, hplace, phaseOf]
  rw [hphase] at hframing
  obtain ⟨hrests⟩ := hframing
  exact hrests.received

end BulkIo

/-! ### Reader, `run` and writer -/

variable {σ α ω E : Type} {S : Source σ α UInt8 String} {K : Sink ω E UInt8 String}
  {left : Option Nat} {s₀ : σ} {w : ω} {arrived : ω → List Bytes × Bytes}

theorem ReadStep.fits {u u' : ReaderTask σ α} {e : ReaderEvent α} (h : ReadStep S u e u') :
    ReaderTask.Fits S u e u' := by
  obtain ⟨-, hfits⟩ := h
  cases e with
  | poll answers => exact hfits answers rfl
  | elapsed => trivial
  | next => trivial

/-- Reader and `run`, each as it runs alone. -/
theorem runStep_runs {tr : List (Fed (ReaderTask σ α) RunTask ×
      FedEvent (ReaderEvent α) RunEvent × Fed (ReaderTask σ α) RunTask)}
    {p : Fed (ReaderTask σ α) RunTask}
    (h : Run (RunStep S left) ⟨.start s₀, {}⟩ tr p) :
    (∃ tr', Run (ReadStep S) (.start s₀) tr' p.source) ∧
      (∃ tr', Run (RunTask.Step left) {} tr' p.consumer) ∧
      p.consumer.given <+: p.source.frames := by
  refine Fed.runs rfl ?_ ?_ h
  · intro tr u e u' _ hstep
    exact hstep.1.frames
  · intro t e t' hstep
    exact hstep.moved.given

/-- The writer task takes the frames that `run` queues. -/
abbrev MuxStep (S : Source σ α UInt8 String) (K : Sink ω E UInt8 String) (left : Option Nat) :
    Fed (Fed (ReaderTask σ α) RunTask) (FrameTask ω UInt8) →
    FedEvent (FedEvent (ReaderEvent α) RunEvent) (FrameEvent E UInt8) →
    Fed (Fed (ReaderTask σ α) RunTask) (FrameTask ω UInt8) → Prop :=
  FrameTask.FedStep (RunStep S left) (fun p => queued (p.consumer.link left).out) K

/-- The mux `p`, of which `arrived` has come out. -/
structure Carries (S : Source σ α UInt8 String) (left : Option Nat) (arrived : List Bytes × Bytes)
    (p : Fed (Fed (ReaderTask σ α) RunTask) (FrameTask ω UInt8)) : Prop where
  /-- What has been read are the frames of the bytes that came in, -/
  read : ReaderTask.Recovers S p.source.source
  /-- `run` has been given the first of them, -/
  given : p.source.consumer.given <+: p.source.source.frames
  /-- and the transfers that have ended are the first of the frames it has queued. -/
  sent : arrived.1 <+: queued (p.source.consumer.link left).out
  /-- These are all, once the writer task has caught up. -/
  caught : p.consumer.place = .waiting →
    p.consumer.frames = queued (p.source.consumer.link left).out →
      arrived = (queued (p.source.consumer.link left).out, [])
  /-- Each client's bytes arrive in order, as long as no sport has been handed out twice, -/
  client : left = none → ∀ s i, p.source.consumer.place = .looping s → s.mux.ports.Nodup →
    spawnedAs (s.acts i) ≠ none → carried (sportAt (i - 1)) arrived.1 <+: (s.tasks i).written
  /-- and all of them do, once nothing is left on the way. -/
  whole : left = none → ∀ s i, p.source.consumer.place = .looping s → s.mux.ports.Nodup →
    spawnedAs (s.acts i) ≠ none → ∀ c, s.mux.entry i = some c → (s.view i).NothingLeft c →
      p.consumer.place = .waiting → p.consumer.frames = queued s.mux.link.out →
        carried (sportAt (i - 1)) arrived.1 = (s.tasks i).written

/-- However the tasks of a mux between these two pipes are run, and whatever they meet. -/
def ConnectsPipes (S : Source σ α UInt8 String) (s₀ : σ) (K : Sink ω E UInt8 String) (w : ω)
    (arrived : ω → List Bytes × Bytes) : Prop :=
  ∀ left tr p, Run (MuxStep S K left) ⟨⟨.start s₀, {}⟩, { writer := w }⟩ tr p →
    Carries S left (arrived p.consumer.writer) p

/-- A faithful reader and a writer that delivers make a mux that carries. -/
theorem Lib.Sink.DeliversFrames.connects (hK : K.DeliversFrames w arrived) (hS : S.Faithful)
    (hs₀ : S.held s₀ = []) : ConnectsPipes S s₀ K w arrived := by
  intro left tr p hrun
  have hgrow (tr) (u : Fed (ReaderTask σ α) RunTask) (e) (u' : Fed (ReaderTask σ α) RunTask)
      (hrun : Run (RunStep S left) ⟨.start s₀, {}⟩ tr u) (hstep : RunStep S left u e u') :
      queued (u.consumer.link left).out <+: queued (u'.consumer.link left).out := by
    obtain ⟨-, ⟨tr', htask⟩, -⟩ := runStep_runs hrun
    cases hstep with
    | produce _ => exact List.prefix_rfl
    | consume _ h => exact RunTask.queued_grows htask h
  have htaken (t : FrameTask ω UInt8) (e : FrameEvent E UInt8) (t' : FrameTask ω UInt8)
      (h : FrameTask.Step K t e t') : t'.frames = t.frames ++ (FrameTask.takes e).toList :=
    FrameTask.frames_of_step h
  obtain ⟨⟨tr₁, hsource⟩, -⟩ := Fed.runs rfl hgrow htaken hrun
  obtain ⟨⟨tr₂, hread⟩, ⟨tr₃, htask⟩, hgiven⟩ := runStep_runs hsource
  obtain ⟨hsent, hcaught⟩ :=
    FrameTask.arrives hK hgrow (RunTask.queued_ne_nil htask) hrun
  have hinv : ReaderTask.Inv S p.source.source :=
    hread.invariant (ReaderTask.Inv.start hs₀) fun _ _ _ hu hstep => hu.step hS hstep.1 hstep.fits
  have hcaught' (hplace : p.consumer.place = .waiting)
      (hall : p.consumer.frames = queued (p.source.consumer.link left).out) :
      arrived p.consumer.writer = (queued (p.source.consumer.link left).out, []) := by
    rw [hcaught hplace, hall]
  refine ⟨hinv.recovers, hgiven, hsent, hcaught', ?_, ?_⟩
  · rintro rfl s i hplace hports hspawn
    obtain ⟨reply, link, tr', hs, hran⟩ := RunTask.looping_ran htask hplace
    rw [RunTask.link_looping hplace] at hsent
    exact (carried_mono hsent).trans (sport_carries_written hs hran hports hspawn).1
  · rintro rfl s i hplace hports hspawn c hc hn hwaits hall
    obtain ⟨reply, link, tr', hs, hran⟩ := RunTask.looping_ran htask hplace
    rw [RunTask.link_looping hplace] at hcaught'
    rw [hcaught' hwaits hall]
    exact (sport_carries_written hs hran hports hspawn).2 c hc hn

/-- **From pipe to pipe.**  Over each reader and its writer, `run` is given the frames of the bytes
that come in, what it queues comes out, and of each connection's sport that is what the client
has written.  The endpoint reader of nusb, which `ZlpWriter` goes with, is taken to be faithful. -/
theorem mux_connects_its_pipes :
    (∀ mps, 0 < mps →
      ConnectsPipes LibusbkReader.source .new LibusbkWriter.sink (.new mps)
        (fun w => received mps w.written) ∧
      ConnectsPipes AppleMuxReader.source .new AppleMuxWriter.sink (.new mps)
        (fun w => received mps w.written)) ∧
    (∀ mps transferSize inFlight max, 0 < mps → mps ∣ Nat.max max 1 →
      ConnectsPipes BulkIo.BulkReader.source
        ((BulkIo.BulkReader.new mps transferSize).withInFlight inFlight) BulkIo.BulkWriter.sink
        (BulkIo.WriterTask.start mps max).writer (fun w => received mps w.ep.submitted)) ∧
    ∀ (σ α : Type) (S : Source σ α UInt8 String) (s₀ : σ), S.Faithful → S.held s₀ = [] →
      ConnectsPipes S s₀ ZlpWriter.sink {} (fun w => transfers w.inner) := by
  refine ⟨?_, ?_, ?_⟩
  · intro mps hmps
    exact ⟨(PipeWriter.delivers hmps).frames.connects (PipeReader.faithful _) rfl,
      (PipeWriter.delivers hmps).frames.connects (PipeReader.faithful _) rfl⟩
  · intro mps transferSize inFlight max hmps hdvd
    exact (BulkIo.BulkWriter.delivers hmps hdvd).connects BulkIo.BulkReader.faithful rfl
  · intro σ α S s₀ hS hs₀
    exact ZlpWriter.delivers.frames.connects hS hs₀

/-- The acceptance of the first connection, as a frame. -/
def acceptedFrame : Bytes :=
  packetOf {} ⟨62078, 1, 0, 1, synAck, 512⟩ []

/-- VERSION's answer and an acceptance, each read off one transfer. -/
def chatRead : ReaderTask PipeReader ReadAnswer where
  source := .new
  future := .head []
  frames := [versionReply, acceptedFrame]
  taken := [.ok versionReply, .ok acceptedFrame]

theorem ReadStep.of_poll {u : ReaderTask σ α} {answers : List α} {r : Poll (Except String Bytes)}
    {s : σ} (hwaits : ∀ r, u.future ≠ .done r)
    (hpoll : S.poll u.source u.future.room answers = (r, s, []))
    (hfits : S.fits u.source u.future.room answers) :
    ReadStep S u (.poll answers)
      { u with source := s, future := u.future.resume r, taken := u.taken ++ answers } := by
  refine ⟨.poll hwaits hpoll, ?_⟩
  intro answers' h
  cases h
  exact hfits

theorem ReadStep.of_next {u : ReaderTask σ α} {pkt : Bytes} (hdone : u.future = .done (.ok pkt)) :
    ReadStep S u .next { u with future := .head [], frames := u.frames ++ [pkt] } := by
  refine ⟨.next hdone, ?_⟩
  intro answers h
  cases h

theorem chatRead_run : ∃ tr, Run (ReadStep LibusbkReader.source) (.start .new) tr chatRead := by
  have hone {me : PipeReader} {n : Nat} {sent : Bytes} (hp : me.pending = none)
      (hsent : sent.length ≤ LibusbkReader.readChunk) :
      LibusbkReader.source.fits me n [.ok sent] := by
    refine ⟨?_, by simp⟩
    intro answer ha
    rw [hp]
    cases ha
    exact hsent
  have hnone {me : PipeReader} {n : Nat} : LibusbkReader.source.fits me n [] :=
    ⟨by simp, by simp⟩
  -- for each frame: its first 8 bytes, the others off the leftover, and the next call
  have hreply : ReadStep LibusbkReader.source (.start .new) (.poll [.ok versionReply]) _ :=
    .of_poll (fun r h => by cases h) rfl (hone rfl (by decide))
  have hversion := ((Run.single hreply).snoc
    (.of_poll (fun r h => by cases h) rfl hnone)).snoc (.of_next rfl)
  have haccepted : ReadStep LibusbkReader.source
      { source := .new, future := .head [], frames := [versionReply], taken := [.ok versionReply] }
      (.poll [.ok acceptedFrame]) _ :=
    .of_poll (fun r h => by cases h) rfl (hone rfl (by decide))
  exact ⟨_, ((hversion.snoc haccepted).snoc
    (.of_poll (fun r h => by cases h) rfl hnone)).snoc (.of_next rfl)⟩

/-- The client's two bytes have come to the loop. -/
def chatTask : RunTask where
  place := .looping afterChat
  given := chatRead.frames

theorem chatTask_run : ∃ tr, Run (RunTask.Step none) {} tr chatTask := by
  have hexec : exec (RunTask.next none) {} (.hello versionReply :: chat.map .act) =
      some chatTask := rfl
  have hstep : ∀ t e t', e ∈ RunEvent.hello versionReply :: chat.map .act →
      t.next none e = some t' → RunTask.Step none t e t' := by
    intro t e t' he hnext
    refine ⟨hnext, ?_⟩
    rintro s a - rfl ev hev
    refine Sys.valid_of_event ?_ hev
    rintro order rfl
    simp [chat] at he
  obtain ⟨tr, hrun, -⟩ := Run.of_exec hstep hexec
  exact ⟨tr, hrun⟩

/-- The transfers of a frame and of its flush, when the driver completes them. -/
def frameEvents (frame : Bytes) : List (FrameEvent (List WorkerStep) UInt8) :=
  [.recv frame, .pollWrite [.completes frame.length], .pollFlush []]

/-- All that the loop has queued is written. -/
def chatSent : FrameTask PipeWriter UInt8 where
  writer := { (PipeWriter.new 512) with written := queued afterChat.mux.link.out }
  place := .waiting
  frames := queued afterChat.mux.link.out

theorem chatSent_run :
    ∃ tr, Run (FrameTask.Step LibusbkWriter.sink) { writer := .new 512 } tr chatSent := by
  have hexec : exec (FrameTask.next LibusbkWriter.sink) { writer := .new 512 }
      ((queued afterChat.mux.link.out).flatMap frameEvents) = some chatSent := rfl
  obtain ⟨tr, hrun, -⟩ := Run.of_exec (fun _ _ _ _ hnext => hnext) hexec
  exact ⟨tr, hrun⟩

/-- The client's bytes have come out of the other pipe. -/
theorem chat_comes_out : ∃ tr, Run (MuxStep LibusbkReader.source LibusbkWriter.sink none)
      ⟨⟨.start .new, {}⟩, { writer := .new 512 }⟩ tr ⟨⟨chatRead, chatTask⟩, chatSent⟩ ∧
    carried 1 (received 512 chatSent.writer.written).1 = [65, 66] := by
  obtain ⟨tr₁, hread⟩ := chatRead_run
  obtain ⟨tr₂, htask⟩ := chatTask_run
  obtain ⟨tr₃, hsent⟩ := chatSent_run
  have hgiven (t : RunTask) (e : RunEvent) (t' : RunTask) (h : RunTask.Step none t e t') :
      t'.given = t.given ++ e.takes.toList := h.moved.given
  obtain ⟨tr₄, hreads⟩ : ∃ tr, Run (RunStep LibusbkReader.source none) ⟨.start .new, {}⟩ tr
      ⟨chatRead, {}⟩ := Fed.produces hread
  obtain ⟨tr₅, hruns⟩ : ∃ tr, Run (RunStep LibusbkReader.source none) ⟨chatRead, {}⟩ tr
      ⟨chatRead, chatTask⟩ := Fed.consumes hgiven htask List.prefix_rfl
  obtain ⟨tr₆, hsource⟩ : ∃ tr, Run (MuxStep LibusbkReader.source LibusbkWriter.sink none)
      ⟨⟨.start .new, {}⟩, { writer := .new 512 }⟩ tr
      ⟨⟨chatRead, chatTask⟩, { writer := .new 512 }⟩ := Fed.produces (hreads.trans hruns)
  obtain ⟨tr₇, hwrites⟩ : ∃ tr, Run (MuxStep LibusbkReader.source LibusbkWriter.sink none)
      ⟨⟨chatRead, chatTask⟩, { writer := .new 512 }⟩ tr ⟨⟨chatRead, chatTask⟩, chatSent⟩ :=
    Fed.consumes (fun _ _ _ h => FrameTask.frames_of_step h) hsent List.prefix_rfl
  have hrun := hsource.trans hwrites
  have hcarries := (mux_connects_its_pipes.1 512 (by decide)).1 none _ _ hrun
  have hports : afterChat.mux.ports.Nodup := List.nodup_cons.mpr ⟨by simp, List.nodup_nil⟩
  refine ⟨_, hrun, ?_⟩
  exact hcarries.whole rfl afterChat 1 rfl hports (fun h => by cases h) _ rfl
    ⟨rfl, rfl, rfl, rfl⟩ rfl rfl

end Netmuxd
