/-
What the device receives of a session.

The loop only queues its frames.  The writer task takes them off the queue while the loop goes
on, and the adapter under it cuts them up for the driver.  The loop's log only grows, so what has
been taken is how it begins, and what arrives is that, one transfer for each frame.
-/
import Netmuxd.Proofs.PipeWriters
import Netmuxd.Proofs.Session

namespace Netmuxd

open Lib PipeIo

/-- The loop adds to what it has queued and takes nothing back. -/
theorem queued_grows {left : Option Nat} {reply : Bytes} {link : Link}
    {tr : List (Mux × Event × Mux)} {m m' : Mux} {ev : Event}
    (hs : handshake left reply = .ok link) (hrun : Run Mux.Step (Mux.start link) tr m)
    (hstep : m.Step ev m') : queued m.link.out <+: queued m'.link.out := by
  obtain ⟨hsession, -⟩ := session_run hs hrun
  obtain ⟨-, -, new, hnew, -⟩ :=
    (hstep.works hsession.version).rxSeq (hsession.hears ev).version
  exact ⟨new, hnew.symm⟩

theorem V2Frame.ne_nil {proto : Proto} {txSeq rxSeq : UInt16} {f : Bytes}
    (h : V2Frame proto txSeq rxSeq f) : f ≠ [] := by
  obtain ⟨body, hlayout⟩ := h.layout
  intro hnil
  rw [hnil] at hlayout
  simp [toBe32] at hlayout

theorem Link.Session.queued_ne_nil {l : Link} (h : l.Session) :
    ∀ frame ∈ queued l.out, frame ≠ [] := by
  obtain ⟨tcps, hqueued, hnum⟩ := h.frames
  intro frame hframe
  rw [hqueued] at hframe
  rcases List.mem_cons.mp hframe with hversion | hframe
  · rw [hversion]
    simp [versionFrame, toBe32]
  · rcases List.mem_cons.mp hframe with hsetup | htcp
    · rw [hsetup]
      exact setupFrame_v2Frame.ne_nil
    · obtain ⟨k, hk⟩ := List.mem_iff_getElem?.mp htcp
      obtain ⟨rxSeq, hframe⟩ := hnum k frame hk
      exact hframe.ne_nil

/-- Whatever the loop meets and however the writer task is run beside it: what it has queued is
VERSION, SETUP and TCP frames numbered in order; the transfers that have ended are these frames,
as far as they go; and when the task has taken them all and waits, they are all there is. -/
def Receives (link : Link) {ω E : Type} (S : Sink ω E UInt8 String) (w : ω)
    (arrived : ω → List Bytes × Bytes) : Prop :=
  ∀ tr s, Run (FrameTask.FedStep Mux.Step (fun m => queued m.link.out) S)
      ⟨Mux.start link, { writer := w }⟩ tr s →
    ∃ tcps, queued s.source.link.out = versionFrame :: setupFrame :: tcps ∧
      (∀ k f, tcps[k]? = some f → ∃ rxSeq, V2Frame .tcp (UInt16.ofNat (k + 1)) rxSeq f) ∧
      (arrived s.consumer.writer).1 <+: versionFrame :: setupFrame :: tcps ∧
      (s.consumer.place = .waiting → s.consumer.frames = queued s.source.link.out →
        arrived s.consumer.writer = (versionFrame :: setupFrame :: tcps, []))

theorem Lib.Sink.Delivers.receives {left : Option Nat} {reply : Bytes} {link : Link} {ω E : Type}
    {S : Sink ω E UInt8 String} {w : ω} {arrived : ω → List Bytes × Bytes}
    (hS : S.Delivers w arrived) (hs : handshake left reply = .ok link) :
    Receives link S w arrived := by
  intro tr s hrun
  have hgrow (tr : List (Mux × Event × Mux)) (m : Mux) (ev : Event) (m' : Mux)
      (hrun : Run Mux.Step (Mux.start link) tr m) (hstep : m.Step ev m') :
      queued m.link.out <+: queued m'.link.out := queued_grows hs hrun hstep
  have htaken (t : FrameTask ω UInt8) (e : FrameEvent E UInt8) (t' : FrameTask ω UInt8)
      (h : FrameTask.Step S t e t') : t'.frames = t.frames ++ (FrameTask.takes e).toList :=
    FrameTask.frames_of_step h
  obtain ⟨⟨tr', hsource⟩, -⟩ := Fed.runs rfl hgrow htaken hrun
  obtain ⟨hsession, -⟩ := session_run hs hsource
  obtain ⟨tcps, hqueued, hnum⟩ := hsession.frames
  obtain ⟨hfirst, hall⟩ := FrameTask.arrives hS.frames hgrow hsession.queued_ne_nil hrun
  refine ⟨tcps, hqueued, hnum, hqueued ▸ hfirst, ?_⟩
  intro hplace htaken
  rw [hall hplace, htaken, hqueued]

/-- **The device receives the session,** frame by frame and in order, over each of the daemon's
writers. -/
theorem device_receives_the_session {left : Option Nat} {reply : Bytes} {link : Link}
    (hs : handshake left reply = .ok link) :
    Receives link ZlpWriter.sink {} (fun w => transfers w.inner) ∧
    ∀ mps, 0 < mps →
      Receives link LibusbkWriter.sink (.new mps) (fun w => received mps w.written) ∧
      Receives link AppleMuxWriter.sink (.new mps) (fun w => received mps w.written) := by
  refine ⟨ZlpWriter.delivers.receives hs, ?_⟩
  intro mps hmps
  exact ⟨(PipeWriter.delivers hmps).receives hs, (PipeWriter.delivers hmps).receives hs⟩

/-- VERSION taken, written and flushed. -/
def versionSent : FrameTask ZlpWriter UInt8 where
  writer := { ended := true, inner := [.bytes versionFrame, .finish] }
  place := .waiting
  frames := [versionFrame]

theorem version_frame_arrives : ∃ tcps,
    queued freshLink.out = versionFrame :: setupFrame :: tcps ∧
      (transfers versionSent.writer.inner).1 <+: versionFrame :: setupFrame :: tcps := by
  have hrun : Run (FrameTask.FedStep Mux.Step (fun m => queued m.link.out) ZlpWriter.sink)
      ⟨Mux.start freshLink, { writer := {} }⟩
      [(_, .consume (.recv versionFrame), _),
        (_, .consume (.pollWrite ⟨.ready (.ok 20), .pending⟩), _),
        (_, .consume (.pollFlush ⟨.pending, .ready (.ok ())⟩), _)]
      ⟨Mux.start freshLink, versionSent⟩ :=
    ((Run.nil.snoc (.consume (fun _ hframe => hframe ▸ rfl) rfl)).snoc (.consume nofun rfl)).snoc
      (.consume nofun rfl)
  obtain ⟨tcps, hqueued, -, hfirst, -⟩ :=
    (device_receives_the_session handshake_versionReply).1 _ _ hrun
  exact ⟨tcps, hqueued, hfirst⟩

end Netmuxd
