/-
One transfer for each frame.

The writer task writes a frame in pieces of at most `max_out` bytes and flushes.  All
pieces but the last fill their packets, because the packet size divides `max_out`, so
that only the last one can end the transfer on the pipe; where it does not, the flush
submits an empty buffer, and does so once.

The invariant is what a receiver has made of the submissions so far: whole frames, and
the part of the current frame that has been accepted.  `bytes_since_flush` is the length
of that part, and `zlp_sent` says whether the empty buffer has gone out.
-/
import Netmuxd.Lib.Run
import Netmuxd.Lib.Transfer
import Netmuxd.Usb.BulkIo

namespace Netmuxd.BulkIo

open Lib (Run EveryStep received Fills Turn Poll)

namespace BulkWriter

variable {w w' : BulkWriter} {answers : List Status}

/-! ### What is in flight -/

/-- The writer knows whether a submission of its own is in flight; two never are. -/
def Sound (w : BulkWriter) : Prop :=
  w.ep.pending = if w.inFlight then 1 else 0

/-- `w'` is `w` with what is in flight handed back or not. -/
structure Drained (w w' : BulkWriter) : Prop where
  maxPacketSize : w'.ep.maxPacketSize = w.ep.maxPacketSize
  submitted : w'.ep.submitted = w.ep.submitted
  maxOut : w'.maxOut = w.maxOut
  bytesSinceFlush : w'.bytesSinceFlush = w.bytesSinceFlush
  zlpSent : w'.zlpSent = w.zlpSent
  sound : w.Sound → w'.Sound

theorem Drained.refl (w : BulkWriter) : Drained w w :=
  ⟨rfl, rfl, rfl, rfl, rfl, id⟩

theorem Sound.completed (h : w.Sound) : w.completed.Sound := by
  have hle : w.ep.pending ≤ 1 := by
    rw [h]
    split <;> omega
  show w.ep.pending - 1 = 0
  omega

theorem drained_completed (w : BulkWriter) : Drained w w.completed :=
  ⟨rfl, rfl, rfl, rfl, rfl, Sound.completed⟩

theorem Sound.submit (h : w.Sound) (hidle : w.inFlight = false) (buffer : Bytes) :
    (w.submit buffer).Sound := by
  rw [Sound, hidle] at h
  show w.ep.pending + 1 = 1
  rw [h]
  rfl

/-- What is in flight is waited for, or it has failed, or nothing is in flight any more. -/
theorem pollDrain_spec (w : BulkWriter) (answers : List Status) :
    ∃ w', Drained w w' ∧
      (answers = [] ∧ w.pollDrain answers = (.pending, w', []) ∨
      (∃ e rest, .error e ∈ answers ∧
        w.pollDrain answers = (.ready (.error ("usb out: " ++ e)), w', rest)) ∨
      ∃ rest, w'.inFlight = false ∧ rest ⊆ answers ∧ answers.length ≤ rest.length + 1 ∧
        w.pollDrain answers = (.ready (.ok ()), w', rest)) := by
  rcases w.pollDrain_cases answers with ⟨hidle, hdrain⟩ | ⟨-, hnone, hdrain⟩ |
    ⟨-, status, rest, rfl, hdrain⟩
  · exact ⟨w, .refl w, .inr (.inr ⟨answers, hidle, fun _ h => h, Nat.le_succ _, hdrain⟩)⟩
  · exact ⟨w, .refl w, .inl ⟨hnone, hdrain⟩⟩
  · refine ⟨w.completed, drained_completed w, .inr ?_⟩
    cases status with
    | error e => exact .inl ⟨e, rest, List.mem_cons_self .., hdrain⟩
    | ok u =>
        exact .inr ⟨rest, rfl, fun _ h => List.mem_cons_of_mem _ h, Nat.le_refl _, hdrain⟩

/-! ### Writing -/

/-- The writer with the first `n` bytes of `buf` submitted. -/
def wrote (w : BulkWriter) (buf : Bytes) (n : Nat) : BulkWriter :=
  { w.submit (buf.take n) with bytesSinceFlush := w.bytesSinceFlush + n, zlpSent := false }

theorem pollWrite_spec (w : BulkWriter) (answers : List Status) {buf : Bytes} (hbuf : buf ≠ []) :
    ∃ w₁, Drained w w₁ ∧
      (answers = [] ∧ w.pollWrite answers buf = (.pending, w₁) ∨
      (∃ e, .error e ∈ answers ∧
        w.pollWrite answers buf = (.ready (.error ("usb out: " ++ e)), w₁)) ∨
      (w₁.inFlight = false ∧ w.pollWrite answers buf =
        (.ready (.ok (min buf.length w.maxOut)), w₁.wrote buf (min buf.length w.maxOut)))) := by
  obtain ⟨w₁, hw₁, ⟨hnone, hdrain⟩ | ⟨e, rest, he, hdrain⟩ | ⟨rest, hidle, -, -, hdrain⟩⟩ :=
    w.pollDrain_spec answers
  · refine ⟨w₁, hw₁, .inl ⟨hnone, ?_⟩⟩
    rw [pollWrite, hdrain]
  · refine ⟨w₁, hw₁, .inr (.inl ⟨e, he, ?_⟩)⟩
    rw [pollWrite, hdrain]
  · refine ⟨w₁, hw₁, .inr (.inr ⟨hidle, ?_⟩)⟩
    rw [pollWrite, hdrain]
    dsimp only
    rw [if_neg hbuf, hw₁.maxOut]
    rfl

/-! ### Flushing -/

/-- A turn of the flush waits, fails, submits the empty buffer that is owed, or is done. -/
theorem flushTurn_spec (w : BulkWriter) (answers : List Status) :
    ∃ w₁, Drained w w₁ ∧
      (answers = [] ∧ flushTurn (w, answers) = .leave (.pending, w₁) ∨
      (∃ e, .error e ∈ answers ∧
        flushTurn (w, answers) = .leave (.ready (.error ("usb out: " ++ e)), w₁)) ∨
      (∃ rest, w₁.inFlight = false ∧ rest ⊆ answers ∧ answers.length ≤ rest.length + 1 ∧
        w₁.OwesZlp ∧
        flushTurn (w, answers) = .again ({ w₁ with zlpSent := true }.submit [], rest)) ∨
      (w₁.inFlight = false ∧ ¬ w₁.OwesZlp ∧
        flushTurn (w, answers) = .leave (.ready (.ok ()), { w₁ with bytesSinceFlush := 0 }))) := by
  obtain ⟨w₁, hw₁, ⟨hnone, hdrain⟩ | ⟨e, rest, he, hdrain⟩ | ⟨rest, hidle, hrest, hlen, hdrain⟩⟩ :=
    w.pollDrain_spec answers
  · refine ⟨w₁, hw₁, .inl ⟨hnone, ?_⟩⟩
    rw [flushTurn, hdrain]
  · refine ⟨w₁, hw₁, .inr (.inl ⟨e, he, ?_⟩)⟩
    rw [flushTurn, hdrain]
  · refine ⟨w₁, hw₁, .inr (.inr ?_)⟩
    by_cases howes : w₁.OwesZlp
    · refine .inl ⟨rest, hidle, hrest, hlen, howes, ?_⟩
      rw [flushTurn, hdrain]
      dsimp only
      rw [if_pos howes]
    · refine .inr ⟨hidle, howes, ?_⟩
      rw [flushTurn, hdrain]
      dsimp only
      rw [if_neg howes]

/-- A writer with nothing to flush stays as it is. -/
theorem pollFlush_idle (hidle : w.inFlight = false) (hbytes : w.bytesSinceFlush = 0)
    (answers : List Status) : w.pollFlush answers = (.ready (.ok ()), w) := by
  refine Lib.whileLoop_leave ?_
  have howes : ¬ w.OwesZlp := by
    intro h
    have hpos := h.2.1
    omega
  have hsame : { w with bytesSinceFlush := 0 } = w := by
    rw [← hbytes]
  unfold flushTurn pollDrain
  rw [hidle]
  dsimp only
  rw [Bool.not_false, if_pos rfl]
  dsimp only
  rw [if_neg howes, hsame]

/-! ### The current frame -/

variable {mps maxOut : Nat} {earlier : List Bytes} {frame : Bytes}

/-- What a writer keeps: its endpoint's packet size, its cap, and what it knows of itself. -/
structure Keeps (mps maxOut : Nat) (w : BulkWriter) : Prop where
  maxPacketSize : w.ep.maxPacketSize = mps
  maxOut : w.maxOut = maxOut
  sound : w.Sound

theorem Keeps.drained (h : Keeps mps maxOut w) (hw : Drained w w') : Keeps mps maxOut w' :=
  ⟨hw.maxPacketSize.trans h.maxPacketSize, hw.maxOut.trans h.maxOut, hw.sound h.sound⟩

/-- After the frames `earlier`, `accepted` has been submitted of the next one. -/
structure Accepted (mps : Nat) (earlier : List Bytes) (accepted : Bytes) (w : BulkWriter) :
    Prop where
  bytesSinceFlush : w.bytesSinceFlush = accepted.length
  whole : mps ∣ accepted.length
  received : received mps w.ep.submitted = (earlier, accepted)

theorem Accepted.drained {accepted : Bytes} (h : Accepted mps earlier accepted w)
    (hw : Drained w w') : Accepted mps earlier accepted w' :=
  ⟨hw.bytesSinceFlush.trans h.bytesSinceFlush, h.whole, hw.submitted ▸ h.received⟩

/-- All of `frame` has been submitted, and it has ended or owes its empty buffer. -/
inductive Flushing (mps : Nat) (earlier : List Bytes) (frame : Bytes) (w : BulkWriter) : Prop
  | owes (hbytes : w.bytesSinceFlush = frame.length) (hzlp : w.zlpSent = false)
      (hwhole : mps ∣ frame.length) (h : received mps w.ep.submitted = (earlier, frame))
  | ended (hbytes : w.bytesSinceFlush = frame.length)
      (hzlp : w.zlpSent = true ∨ ¬ mps ∣ frame.length)
      (h : received mps w.ep.submitted = (earlier ++ [frame], []))

theorem Flushing.drained (h : Flushing mps earlier frame w) (hw : Drained w w') :
    Flushing mps earlier frame w' := by
  rcases h with ⟨hbytes, hzlp, hwhole, h⟩ | ⟨hbytes, hzlp, h⟩
  · exact .owes (hw.bytesSinceFlush.trans hbytes) (hw.zlpSent.trans hzlp) hwhole
      (hw.submitted ▸ h)
  · exact .ended (hw.bytesSinceFlush.trans hbytes) (hw.zlpSent ▸ hzlp) (hw.submitted ▸ h)

theorem Flushing.inOrder (h : Flushing mps earlier frame w) :
    (received mps w.ep.submitted).1 <+: earlier ++ [frame] := by
  rcases h with ⟨-, -, -, h⟩ | ⟨-, -, h⟩
  · rw [h]
    exact List.prefix_append ..
  · exact ⟨[], by rw [List.append_nil, h]⟩

/-- The empty buffer is owed exactly by a frame that fills its packets. -/
theorem Flushing.owesZlp_iff (h : Flushing mps earlier frame w) (hframe : frame ≠ [])
    (hmps : w.ep.maxPacketSize = mps) :
    w.OwesZlp ↔ received mps w.ep.submitted = (earlier, frame) := by
  have hpos := List.length_pos_iff.mpr hframe
  rcases h with ⟨hbytes, hzlp, hwhole, h⟩ | ⟨hbytes, hzlp, h⟩
  · refine iff_of_true ⟨hzlp, by omega, ?_⟩ h
    rw [hbytes, hmps]
    exact Nat.mod_eq_zero_of_dvd hwhole
  · refine iff_of_false ?_ ?_
    · intro ⟨hfalse, _, hmod⟩
      rw [hbytes, hmps] at hmod
      rcases hzlp with hzlp | hzlp
      · rw [hzlp] at hfalse
        cases hfalse
      · exact hzlp (Nat.dvd_of_mod_eq_zero hmod)
    · intro hsame
      rw [h] at hsame
      exact hframe (Prod.mk.inj hsame).2.symm

/-- Everything written has ended, and there is nothing to flush. -/
structure Rests (mps : Nat) (frames : List Bytes) (w : BulkWriter) : Prop where
  received : received mps w.ep.submitted = (frames, [])
  bytesSinceFlush : w.bytesSinceFlush = 0
  inFlight : w.inFlight = false

/-- What a turn of the flush preserves. -/
theorem Flushing.turn {s s' : BulkWriter × List Status} (hmps : 0 < mps) (hframe : frame ≠ [])
    (hs : Keeps mps maxOut s.1 ∧ Flushing mps earlier frame s.1)
    (hturn : flushTurn s = .again s') :
    Keeps mps maxOut s'.1 ∧ Flushing mps earlier frame s'.1 := by
  obtain ⟨hkeeps, hflush⟩ := hs
  obtain ⟨w₁, hw₁, ⟨_, hleave⟩ | ⟨_, _, hleave⟩ | ⟨rest, hidle, _, _, howes, hagain⟩ |
    ⟨_, _, hleave⟩⟩ := flushTurn_spec s.1 s.2
  · cases hleave.symm.trans hturn
  · cases hleave.symm.trans hturn
  · cases Turn.again.inj (hagain.symm.trans hturn)
    have hkeeps₁ := hkeeps.drained hw₁
    have hflush₁ := hflush.drained hw₁
    have hcarry := (hflush₁.owesZlp_iff hframe hkeeps₁.maxPacketSize).mp howes
    have hzlp : ¬ Fills mps ([] : Bytes) := fun h => h.1 rfl
    have hended : received mps (w₁.ep.submitted ++ [[]]) = (earlier ++ [frame], []) := by
      rw [Lib.received_ends hmps hzlp, hcarry, List.append_nil]
    have hbytes : w₁.bytesSinceFlush = frame.length := by
      rcases hflush₁ with ⟨hbytes, _, _, _⟩ | ⟨hbytes, _, _⟩
      · exact hbytes
      · exact hbytes
    exact ⟨⟨hkeeps₁.maxPacketSize, hkeeps₁.maxOut, hkeeps₁.sound.submit hidle []⟩,
      .ended hbytes (.inl rfl) hended⟩
  · cases hleave.symm.trans hturn

/-- A flush that succeeds has ended the frame; one that does not leaves it to be flushed. -/
theorem Flushing.pollFlush_spec (hmps : 0 < mps) (hframe : frame ≠ [])
    (hkeeps : Keeps mps maxOut w) (hflush : Flushing mps earlier frame w)
    (answers : List Status) :
    Keeps mps maxOut (w.pollFlush answers).2 ∧
      (((w.pollFlush answers).1 = .ready (.ok ()) ∧
          Rests mps (earlier ++ [frame]) (w.pollFlush answers).2) ∨
        ((w.pollFlush answers).1 ≠ .ready (.ok ()) ∧
          Flushing mps earlier frame (w.pollFlush answers).2)) := by
  have hleave : ∀ (s : BulkWriter × List Status) (out : Poll (IoResult Unit) × BulkWriter),
      (Keeps mps maxOut s.1 ∧ Flushing mps earlier frame s.1) → flushTurn s = .leave out →
      Keeps mps maxOut out.2 ∧
        ((out.1 = .ready (.ok ()) ∧ Rests mps (earlier ++ [frame]) out.2) ∨
          (out.1 ≠ .ready (.ok ()) ∧ Flushing mps earlier frame out.2)) := by
    intro s out ⟨hkeeps, hflush⟩ hturn
    obtain ⟨w₁, hw₁,
      ⟨_, hout⟩ | ⟨e, _, hout⟩ | ⟨rest, _, _, _, _, hagain⟩ | ⟨hidle, howes, hout⟩⟩ :=
      flushTurn_spec s.1 s.2
    · cases Turn.leave.inj (hout.symm.trans hturn)
      exact ⟨hkeeps.drained hw₁, .inr ⟨nofun, hflush.drained hw₁⟩⟩
    · cases Turn.leave.inj (hout.symm.trans hturn)
      exact ⟨hkeeps.drained hw₁, .inr ⟨nofun, hflush.drained hw₁⟩⟩
    · cases hagain.symm.trans hturn
    · cases Turn.leave.inj (hout.symm.trans hturn)
      have hkeeps₁ := hkeeps.drained hw₁
      have hflush₁ := hflush.drained hw₁
      rw [hflush₁.owesZlp_iff hframe hkeeps₁.maxPacketSize] at howes
      refine ⟨⟨hkeeps₁.maxPacketSize, hkeeps₁.maxOut, hkeeps₁.sound⟩, .inl ⟨rfl, ?_, rfl, hidle⟩⟩
      rcases hflush₁ with ⟨-, -, -, h⟩ | ⟨-, -, h⟩
      · exact absurd h howes
      · exact h
  exact Lib.whileLoop_induct (Q := fun out : Poll (IoResult Unit) × BulkWriter =>
      Keeps mps maxOut out.2 ∧
        ((out.1 = .ready (.ok ()) ∧ Rests mps (earlier ++ [frame]) out.2) ∨
          (out.1 ≠ .ready (.ok ()) ∧ Flushing mps earlier frame out.2)))
    (fun s s' => Flushing.turn hmps hframe) hleave ⟨hkeeps, hflush⟩

/-- How many completions a flush may still have to wait for. -/
def due (w : BulkWriter) : Nat :=
  if w.zlpSent then 1 else 2

/-- With successes only, a flush does not fail; two of them are enough for it. -/
theorem pollFlush_succeeds (w : BulkWriter) {answers : List Status}
    (hok : ∀ e, .error e ∉ answers) :
    (∀ e, (w.pollFlush answers).1 ≠ .ready (.error e)) ∧
      (2 ≤ answers.length → (w.pollFlush answers).1 = .ready (.ok ())) := by
  have hagain : ∀ s s' : BulkWriter × List Status,
      ((∀ e, .error e ∉ s.2) ∧ (2 ≤ answers.length → due s.1 ≤ s.2.length)) →
      flushTurn s = .again s' →
      (∀ e, .error e ∉ s'.2) ∧ (2 ≤ answers.length → due s'.1 ≤ s'.2.length) := by
    intro s s' ⟨hs, hdue⟩ hturn
    obtain ⟨w₁, hw₁, ⟨_, hleave⟩ | ⟨_, _, hleave⟩ | ⟨rest, _, hrest, hlen, howes, hagain⟩ |
      ⟨_, _, hleave⟩⟩ := flushTurn_spec s.1 s.2
    · cases hleave.symm.trans hturn
    · cases hleave.symm.trans hturn
    · cases Turn.again.inj (hagain.symm.trans hturn)
      refine ⟨fun e he => hs e (hrest he), fun htwo => ?_⟩
      have hfalse : s.1.zlpSent = false := hw₁.zlpSent.symm.trans howes.1
      have hdue := hdue htwo
      rw [due, hfalse, if_neg Bool.false_ne_true] at hdue
      show 1 ≤ rest.length
      omega
    · cases hleave.symm.trans hturn
  refine Lib.whileLoop_induct (Q := fun out : Poll (IoResult Unit) × BulkWriter =>
      (∀ e, out.1 ≠ .ready (.error e)) ∧ (2 ≤ answers.length → out.1 = .ready (.ok ())))
    hagain ?_ ⟨hok, fun htwo => ?_⟩
  · intro s out ⟨hs, hdue⟩ hturn
    obtain ⟨w₁, _, ⟨hnone, hout⟩ | ⟨e, he, _⟩ | ⟨rest, _, _, _, _, hagain⟩ | ⟨_, _, hout⟩⟩ :=
      flushTurn_spec s.1 s.2
    · cases Turn.leave.inj (hout.symm.trans hturn)
      refine ⟨nofun, fun htwo => ?_⟩
      have hdue := hdue htwo
      have hpos : 0 < due s.1 := by
        unfold due
        split <;> omega
      rw [hnone, List.length_nil] at hdue
      omega
    · exact absurd he (hs e)
    · cases hagain.symm.trans hturn
    · cases Turn.leave.inj (hout.symm.trans hturn)
      exact ⟨nofun, fun _ => rfl⟩
  · show due w ≤ answers.length
    unfold due
    split <;> omega

end BulkWriter

/-! ### The task -/

namespace WriterTask

open BulkWriter

/-- The pipe and the writer in each phase, after these frames. -/
inductive Framing (mps : Nat) (frames : List Bytes) (w : BulkWriter) : Phase → Prop
  | waiting (h : Rests mps frames w) : Framing mps frames w .waiting
  | writing {earlier : List Bytes} {accepted rest : Bytes}
      (hframes : frames = earlier ++ [accepted ++ rest]) (hrest : rest ≠ [])
      (h : Accepted mps earlier accepted w) : Framing mps frames w (.writing rest)
  | flushing {earlier : List Bytes} {frame : Bytes} (hframes : frames = earlier ++ [frame])
      (hframe : frame ≠ []) (h : Flushing mps earlier frame w) : Framing mps frames w .flushing
  | broken (h : (received mps w.ep.submitted).1 <+: frames) : Framing mps frames w .broken

structure Inv (mps maxOut : Nat) (s : WriterTask) : Prop where
  keeps : Keeps mps maxOut s.writer
  framing : Framing mps s.frames s.writer s.phase

variable {mps maxOut : Nat} {s s' : WriterTask}

theorem Framing.inOrder {frames : List Bytes} {w : BulkWriter} {phase : Phase}
    (h : Framing mps frames w phase) : (received mps w.ep.submitted).1 <+: frames := by
  cases h with
  | waiting h =>
      exact ⟨[], by rw [List.append_nil, h.received]⟩
  | writing hframes _ h =>
      rw [h.received, hframes]
      exact List.prefix_append ..
  | flushing hframes _ h =>
      rw [hframes]
      exact h.inOrder
  | broken h => exact h

theorem Inv.recv {buf : Bytes} (h : Inv mps maxOut s) (hbuf : buf ≠ [])
    (hstep : s.Step (.recv buf) s') : Inv mps maxOut s' := by
  obtain ⟨hkeeps, hframing⟩ := h
  unfold Step next at hstep
  dsimp only at hstep
  split at hstep
  · next hphase =>
      cases hstep
      rw [hphase] at hframing
      obtain ⟨hrests⟩ := hframing
      have haccepted : Accepted mps s.frames [] s.writer :=
        ⟨hrests.bytesSinceFlush, Nat.dvd_zero _, hrests.received⟩
      refine ⟨hkeeps, ?_⟩
      show Framing mps (s.frames ++ [buf]) s.writer (writeAll buf)
      rw [writeAll, if_neg hbuf]
      exact .writing rfl hbuf haccepted
  · cases hstep

/-- The pieces of a frame fill their packets up to the last one. -/
theorem Framing.wrote (hmps : 0 < mps) (hmax : 0 < maxOut) (hdvd : mps ∣ maxOut)
    {w : BulkWriter} {earlier : List Bytes} {accepted rest : Bytes} (hrest : rest ≠ [])
    (h : Accepted mps earlier accepted w) :
    Framing mps (earlier ++ [accepted ++ rest]) (w.wrote rest (min rest.length maxOut))
      (writeAll (rest.drop (min rest.length maxOut))) := by
  have hpos := List.length_pos_iff.mpr hrest
  unfold writeAll
  rcases Nat.lt_or_ge maxOut rest.length with hlong | hshort
  · have hmin : min rest.length maxOut = maxOut := by omega
    have hlen : (rest.take maxOut).length = maxOut := by
      rw [List.length_take]
      omega
    have hfills : Fills mps (rest.take maxOut) := by
      refine ⟨List.ne_nil_of_length_pos (by omega), ?_⟩
      rw [hlen]
      exact hdvd
    have hmore : rest.drop maxOut ≠ [] := by
      refine List.ne_nil_of_length_pos ?_
      rw [List.length_drop]
      omega
    have haccepted : Accepted mps earlier (accepted ++ rest.take maxOut) (w.wrote rest maxOut) := by
      refine ⟨?_, ?_, ?_⟩
      · show w.bytesSinceFlush + maxOut = _
        rw [List.length_append, hlen, h.bytesSinceFlush]
      · rw [List.length_append, hlen]
        exact Nat.dvd_add h.whole hdvd
      · show received mps (w.ep.submitted ++ [rest.take maxOut]) = _
        rw [Lib.received_fills hmps hfills, h.received]
    rw [hmin, if_neg hmore]
    refine .writing ?_ hmore haccepted
    rw [List.append_assoc, List.take_append_drop]
  · have hmin : min rest.length maxOut = rest.length := by omega
    rw [hmin, if_pos List.drop_length]
    have hbytes : (w.wrote rest rest.length).bytesSinceFlush = (accepted ++ rest).length := by
      show w.bytesSinceFlush + rest.length = _
      rw [List.length_append, h.bytesSinceFlush]
    have hframe : accepted ++ rest ≠ [] := fun hnil => hrest (List.append_eq_nil_iff.mp hnil).2
    have hwhole : mps ∣ (accepted ++ rest).length ↔ mps ∣ rest.length := by
      rw [List.length_append]
      exact (Nat.dvd_add_right h.whole)
    refine .flushing rfl hframe ?_
    have hsubmitted : (w.wrote rest rest.length).ep.submitted = w.ep.submitted ++ [rest] := by
      show w.ep.submitted ++ [rest.take rest.length] = _
      rw [List.take_length]
    by_cases hfills : mps ∣ rest.length
    · refine .owes hbytes rfl (hwhole.mpr hfills) ?_
      rw [hsubmitted, Lib.received_fills hmps ⟨hrest, hfills⟩, h.received]
    · refine .ended hbytes (.inr fun hall => hfills (hwhole.mp hall)) ?_
      rw [hsubmitted, Lib.received_ends hmps fun hall => hfills hall.2, h.received]

theorem Inv.pollWrite (hmps : 0 < mps) (hmax : 0 < maxOut) (hdvd : mps ∣ maxOut)
    {answers : List Status} (h : Inv mps maxOut s) (hstep : s.Step (.pollWrite answers) s') :
    Inv mps maxOut s' := by
  obtain ⟨hkeeps, hframing⟩ := h
  unfold Step next at hstep
  dsimp only at hstep
  split at hstep
  · next rest hphase =>
      rw [hphase] at hframing
      obtain _ | ⟨hframes, hrest, haccepted⟩ := hframing
      obtain ⟨w₁, hw₁, ⟨_, hpoll⟩ | ⟨e, _, hpoll⟩ | ⟨hidle, hpoll⟩⟩ :=
        s.writer.pollWrite_spec answers hrest
      · rw [hpoll] at hstep
        cases hstep
        refine ⟨hkeeps.drained hw₁, ?_⟩
        show Framing mps s.frames w₁ s.phase
        rw [hphase]
        exact .writing hframes hrest (haccepted.drained hw₁)
      · rw [hpoll] at hstep
        cases hstep
        refine ⟨hkeeps.drained hw₁, .broken ?_⟩
        exact (Framing.writing hframes hrest (haccepted.drained hw₁)).inOrder
      · have hpos := List.length_pos_iff.mpr hrest
        obtain ⟨n, hn⟩ : ∃ n, min rest.length maxOut = n + 1 :=
          ⟨min rest.length maxOut - 1, by omega⟩
        rw [hpoll, hkeeps.maxOut, hn] at hstep
        cases hstep
        have hkeeps₁ := hkeeps.drained hw₁
        refine ⟨⟨hkeeps₁.maxPacketSize, hkeeps₁.maxOut, hkeeps₁.sound.submit hidle _⟩, ?_⟩
        have hwrote := Framing.wrote hmps hmax hdvd hrest (haccepted.drained hw₁)
        rw [hn] at hwrote
        show Framing mps s.frames (w₁.wrote rest (n + 1)) (writeAll (rest.drop (n + 1)))
        rw [hframes]
        exact hwrote
  · cases hstep

theorem Inv.pollFlush (hmps : 0 < mps) {answers : List Status} (h : Inv mps maxOut s)
    (hstep : s.Step (.pollFlush answers) s') : Inv mps maxOut s' := by
  obtain ⟨hkeeps, hframing⟩ := h
  unfold Step next at hstep
  dsimp only at hstep
  split at hstep
  · next hphase =>
      rw [hphase] at hframing
      obtain _ | _ | ⟨hframes, hframe, hflush⟩ := hframing
      have hspec := hflush.pollFlush_spec hmps hframe hkeeps answers
      generalize s.writer.pollFlush answers = out at hstep hspec
      obtain ⟨r, w⟩ := out
      cases hstep
      obtain ⟨hkeeps', ⟨hr, hrests⟩ | ⟨hr, hflush'⟩⟩ := hspec
      · cases hr
        refine ⟨hkeeps', ?_⟩
        show Framing mps s.frames w .waiting
        rw [hframes]
        exact .waiting hrests
      · match r with
        | .pending =>
            refine ⟨hkeeps', ?_⟩
            show Framing mps s.frames w s.phase
            rw [hphase]
            exact .flushing hframes hframe hflush'
        | .ready (.error e) =>
            exact ⟨hkeeps', .broken (Framing.flushing hframes hframe hflush').inOrder⟩
        | .ready (.ok ()) => exact absurd rfl hr
  · next hphase =>
      cases hstep
      rw [hphase] at hframing
      obtain ⟨hrests⟩ := hframing
      rw [pollFlush_idle hrests.inFlight hrests.bytesSinceFlush]
      exact ⟨hkeeps, .waiting hrests⟩
  · cases hstep

/-! ### Runs -/

/-- What an event adds to the frames. -/
def taken : WriterEvent → List Bytes
  | .recv buf => [buf]
  | _ => []

theorem frames_step {e : WriterEvent} (hstep : s.Step e s') :
    s'.frames = s.frames ++ taken e := by
  unfold Step next at hstep
  cases e with
  | recv buf =>
      dsimp only at hstep
      split at hstep
      · cases hstep
        rfl
      · cases hstep
  | pollWrite answers =>
      refine Eq.trans ?_ (List.append_nil _).symm
      dsimp only at hstep
      split at hstep
      · split at hstep <;> cases hstep <;> rfl
      · cases hstep
  | pollFlush answers =>
      have hflushed : ∀ out, (s.flushed out).frames = s.frames := by
        intro out
        unfold flushed
        split <;> rfl
      refine Eq.trans ?_ (List.append_nil _).symm
      dsimp only at hstep
      split at hstep
      · cases hstep
        exact hflushed _
      · cases hstep
        exact hflushed _
      · cases hstep

theorem inv_start (mps max : Nat) : Inv mps (Nat.max max 1) (.start mps max) :=
  ⟨⟨rfl, rfl, rfl⟩, .waiting ⟨rfl, rfl, rfl⟩⟩

theorem Inv.step (hmps : 0 < mps) (hmax : 0 < maxOut) (hdvd : mps ∣ maxOut) {e : WriterEvent}
    (h : (∀ f ∈ s.frames, f ≠ []) → Inv mps maxOut s) (hstep : s.Step e s')
    (hframes : ∀ f ∈ s'.frames, f ≠ []) : Inv mps maxOut s' := by
  rw [frames_step hstep] at hframes
  have hs := h fun f hf => hframes f (List.mem_append_left _ hf)
  cases e with
  | recv buf =>
      exact hs.recv (hframes buf (List.mem_append_right _ (List.mem_singleton_self buf))) hstep
  | pollWrite answers => exact hs.pollWrite hmps hmax hdvd hstep
  | pollFlush answers => exact hs.pollFlush hmps hstep

theorem inv_of_run {max : Nat} (hmps : 0 < mps) (hdvd : mps ∣ Nat.max max 1)
    {tr : List (WriterTask × WriterEvent × WriterTask)}
    (h : Run WriterTask.Step (.start mps max) tr s) (hframes : ∀ f ∈ s.frames, f ≠ []) :
    Inv mps (Nat.max max 1) s := by
  have hmax : 0 < Nat.max max 1 := Nat.le_max_right max 1
  exact h.invariant (P := fun s => (∀ f ∈ s.frames, f ≠ []) → Inv mps (Nat.max max 1) s)
    (fun _ => inv_start mps max) (fun _ _ _ hs hstep => Inv.step hmps hmax hdvd hs hstep) hframes

/-- No completion that the poll meets is an error. -/
def Succeeds : WriterEvent → Prop
  | .recv _ => True
  | .pollWrite answers => ∀ e, .error e ∉ answers
  | .pollFlush answers => ∀ e, .error e ∉ answers

/-- Then a write of something accepts something, if it does not wait. -/
theorem pollWrite_accepts {w : BulkWriter} {answers : List Status} {rest : Bytes}
    (hmax : 0 < w.maxOut) (hrest : rest ≠ []) (hok : ∀ e, .error e ∉ answers) :
    (answers = [] ∧ (w.pollWrite answers rest).1 = .pending) ∨
      ∃ n, (w.pollWrite answers rest).1 = .ready (.ok (n + 1)) := by
  obtain ⟨w₁, -, ⟨hnone, hpoll⟩ | ⟨e, he, -⟩ | ⟨-, hpoll⟩⟩ := w.pollWrite_spec answers hrest
  · rw [hpoll]
    exact .inl ⟨hnone, rfl⟩
  · exact absurd he (hok e)
  · have hpos := List.length_pos_iff.mpr hrest
    refine .inr ⟨min rest.length w.maxOut - 1, ?_⟩
    rw [hpoll, Nat.sub_add_cancel (by omega)]

/-- Without errors the task stays in its loop. -/
theorem Inv.unbroken (hmax : 0 < maxOut) {e : WriterEvent} (h : Inv mps maxOut s)
    (hphase : s.phase ≠ .broken) (hstep : s.Step e s') (hok : Succeeds e) :
    s'.phase ≠ .broken := by
  have hwriteAll : ∀ rest, writeAll rest ≠ .broken := by
    intro rest
    unfold writeAll
    split
    · nofun
    · nofun
  have hflushed : ∀ answers, (∀ e, .error e ∉ answers) →
      (s.flushed (s.writer.pollFlush answers)).phase ≠ .broken := by
    intro answers hok
    have herror := (s.writer.pollFlush_succeeds hok).1
    unfold flushed
    split
    · exact hphase
    · next e _ hout => exact absurd (congrArg Prod.fst hout) (herror e)
    · nofun
  unfold Step next at hstep
  cases e with
  | recv buf =>
      dsimp only at hstep
      split at hstep
      · cases hstep
        exact hwriteAll buf
      · cases hstep
  | pollWrite answers =>
      dsimp only at hstep
      split at hstep
      · next rest hwriting =>
          obtain ⟨hkeeps, hframing⟩ := h
          rw [hwriting] at hframing
          obtain _ | ⟨_, hrest, _⟩ := hframing
          rw [← hkeeps.maxOut] at hmax
          have haccepts := pollWrite_accepts hmax hrest hok
          generalize s.writer.pollWrite answers rest = out at hstep haccepts
          obtain ⟨r, w⟩ := out
          rcases haccepts with ⟨-, hr⟩ | ⟨n, hr⟩
          · cases hr
            cases hstep
            exact hphase
          · cases hr
            cases hstep
            exact hwriteAll _
      · cases hstep
  | pollFlush answers =>
      dsimp only at hstep
      split at hstep
      · cases hstep
        exact hflushed answers hok
      · cases hstep
        exact hflushed answers hok
      · cases hstep

theorem unbroken_of_run {max : Nat} (hmps : 0 < mps) (hdvd : mps ∣ Nat.max max 1)
    {tr : List (WriterTask × WriterEvent × WriterTask)}
    (h : Run WriterTask.Step (.start mps max) tr s)
    (hall : EveryStep (fun _ e _ => Succeeds e) tr) (hframes : ∀ f ∈ s.frames, f ≠ []) :
    s.phase ≠ .broken := by
  have hmax : 0 < Nat.max max 1 := Nat.le_max_right max 1
  refine (h.invariant_of (P := fun s => (∀ f ∈ s.frames, f ≠ []) →
    Inv mps (Nat.max max 1) s ∧ s.phase ≠ .broken) (fun _ => ⟨inv_start mps max, nofun⟩) ?_
    hall hframes).2
  intro s e s' hs hstep hok hframes'
  refine ⟨Inv.step hmps hmax hdvd (fun hf => (hs hf).1) hstep hframes', ?_⟩
  rw [frames_step hstep] at hframes'
  obtain ⟨hinv, hphase⟩ := hs fun f hf => hframes' f (List.mem_append_left _ hf)
  exact hinv.unbroken hmax hphase hstep hok

/-- Every frame arrives as one transfer. -/
theorem one_transfer_per_frame (mps max : Nat) (hmps : 0 < mps) (hdvd : mps ∣ Nat.max max 1)
    {tr : List (WriterTask × WriterEvent × WriterTask)} {s : WriterTask}
    (h : Run WriterTask.Step (.start mps max) tr s) (hframes : ∀ f ∈ s.frames, f ≠ []) :
    -- the transfers that have ended are the frames, and all of them between two frames
    (received mps s.writer.ep.submitted).1 <+: s.frames ∧
    (s.phase = .waiting → received mps s.writer.ep.submitted = (s.frames, [])) ∧
    s.writer.ep.pending ≤ 1 ∧
    -- flushing again changes nothing
    (s.phase = .waiting → ∀ answers, s.writer.pollFlush answers = (.ready (.ok ()), s.writer)) ∧
    -- as long as completions succeed, each frame is accepted and its flush completes
    (EveryStep (fun _ e _ => Succeeds e) tr → s.phase ≠ .broken) ∧
    (∀ rest, s.phase = .writing rest → ∀ answers, (∀ e, .error e ∉ answers) → answers ≠ [] →
      ∃ n, (s.writer.pollWrite answers rest).1 = .ready (.ok (n + 1))) ∧
    (∀ answers, (∀ e, .error e ∉ answers) → 2 ≤ answers.length →
      (s.writer.pollFlush answers).1 = .ready (.ok ())) := by
  have hmax : 0 < Nat.max max 1 := Nat.le_max_right max 1
  have hinv := inv_of_run hmps hdvd h hframes
  obtain ⟨hkeeps, hframing⟩ := id hinv
  refine ⟨hframing.inOrder, fun hphase => ?_, ?_, fun hphase answers => ?_, fun hall => ?_,
    fun rest hphase answers hok hne => ?_, fun answers hok htwo => ?_⟩
  · rw [hphase] at hframing
    obtain ⟨hrests⟩ := hframing
    exact hrests.received
  · rw [hkeeps.sound]
    split <;> omega
  · rw [hphase] at hframing
    obtain ⟨hrests⟩ := hframing
    exact pollFlush_idle hrests.inFlight hrests.bytesSinceFlush answers
  · exact unbroken_of_run hmps hdvd h hall hframes
  · rw [hphase] at hframing
    obtain _ | ⟨_, hrest, _⟩ := hframing
    rw [← hkeeps.maxOut] at hmax
    exact (pollWrite_accepts hmax hrest hok).resolve_left fun hnone => hne hnone.1
  · exact (s.writer.pollFlush_succeeds hok).2 htwo

/-- A frame of three packets, in two pieces and flushed twice. -/
def threePackets : List WriterEvent :=
  [.recv (List.replicate 12 7), .pollWrite [], .pollWrite [], .pollWrite [.ok ()],
    .pollFlush [.ok ()], .pollFlush [.ok ()], .pollFlush []]

def threePacketsSent : WriterTask where
  writer :=
    { ep :=
        { maxPacketSize := 4
          submitted := [List.replicate 8 7, List.replicate 4 7, []]
          pending := 0 }
      maxOut := 8
      inFlight := false
      bytesSinceFlush := 0
      zlpSent := true }
  phase := .waiting
  frames := [List.replicate 12 7]

theorem threePackets_arrive :
    received 4 [List.replicate 8 7, List.replicate 4 7, ([] : Bytes)] =
      ([List.replicate 12 7], []) := by
  have hexec : Lib.exec WriterTask.next (.start 4 8) threePackets = some threePacketsSent := rfl
  obtain ⟨tr, hrun, -⟩ := Run.of_exec (fun _ _ _ _ hnext => hnext) hexec
  have hframes : ∀ f ∈ threePacketsSent.frames, f ≠ [] := by
    intro f hf
    rw [List.mem_singleton.mp hf]
    exact nofun
  exact (one_transfer_per_frame 4 8 (by decide) (by decide) hrun hframes).2.1 rfl

end WriterTask

end Netmuxd.BulkIo
