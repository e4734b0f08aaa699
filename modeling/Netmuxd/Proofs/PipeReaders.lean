/-
The readers are byte streams, and `read_frame` reads the same frames off any of them.

A reader keeps a completed transfer with a range, or a leftover with an offset, of what it
has still to hand out.  Each turn of its loop either moves bytes from the completions it
takes to what it holds, or hands some of that out; the loop goes round again only when there
is nothing to hand out, which is why an empty completion is never taken for the end.

`read_frame` needs no more of its source than that.  What it has read so far, followed by
what the source holds, is what has been taken and belongs to no earlier frame.
-/
import Netmuxd.Proofs.FrameReader
import Netmuxd.Usb.PipeIo

namespace Netmuxd

open Lib (Run EveryStep Poll Source Turn delivered)

/-! ### nusb -/

namespace BulkIo

/-- What of a drained buffer is still to be handed out. -/
def Drain.rest (d : Drain) : Bytes :=
  (d.buffer.take d.stop).drop d.off

theorem Drain.rest_length (d : Drain) : d.rest.length = d.stop - d.off := by
  rw [Drain.rest, List.length_drop, List.length_take, Nat.min_eq_left d.le]

namespace BulkReader

def held (r : BulkReader) : Bytes :=
  (r.drain.map Drain.rest).getD []

/-- The bytes a completion delivers: those of a transfer that has succeeded. -/
def received (comp : InCompletion) : Bytes :=
  match comp.status with
  | .ok () => comp.buffer.take comp.actualLen
  | .error _ => []

def source : Source BulkReader InCompletion UInt8 String where
  poll := pollRead
  held := held
  content := received
  failed := fun comp => ∃ e, comp.status = .error e
  fits := fun _ _ _ => True

theorem copy_rest (d : Drain) (remaining : Nat) :
    (d.copy remaining).1 ++ ((d.copy remaining).2.map Drain.rest).getD [] = d.rest := by
  have hlen := d.rest_length
  unfold Drain.copy
  dsimp only
  split
  · next hmore =>
      show d.rest.take _ ++ (d.buffer.take d.stop).drop _ = d.rest
      rw [← List.drop_drop]
      exact List.take_append_drop _ _
  · next hall =>
      show d.rest.take (min d.rest.length remaining) ++ [] = d.rest
      have hmin : ¬ d.off + min d.rest.length remaining < d.stop := hall
      have hlt := d.lt
      rw [List.append_nil]
      exact List.take_of_length_le (by omega)

theorem copy_length (d : Drain) (remaining : Nat) :
    (d.copy remaining).1.length = min (d.stop - d.off) remaining := by
  show (d.rest.take (min d.rest.length remaining)).length = _
  rw [List.length_take, d.rest_length]
  omega

theorem submitUntilTarget_drain (r : BulkReader) : r.submitUntilTarget.drain = r.drain := by
  refine Lib.whileLoop_induct (P := fun u : BulkReader => u.drain = r.drain)
    (Q := fun u : BulkReader => u.drain = r.drain) ?_ ?_ rfl
  · intro u u' hu hturn
    unfold submitTurn at hturn
    split at hturn
    · cases hturn
      exact hu
    · cases hturn
  · intro u u' hu hturn
    unfold submitTurn at hturn
    split at hturn
    · cases hturn
    · cases hturn
      exact hu

theorem turn_again {n : Nat} {u u' : BulkReader × List InCompletion}
    (h : readTurn n u = .again u') : source.Keeps u u' := by
  unfold readTurn at h
  split at h
  · cases h
  · next hdrain =>
      have hheld : source.held u.1 = [] := by
        show (u.1.drain.map Drain.rest).getD [] = []
        rw [hdrain]
        rfl
      dsimp only at h
      split at h
      · cases h
      · next comp rest hanswers =>
          split at h
          · cases h
          · next hstatus =>
              have hreceived : received comp = comp.buffer.take comp.actualLen := by
                rw [received, hstatus]
              split at h
              · cases h
                refine ⟨?_, fun _ ha => hanswers ▸ List.mem_cons_of_mem _ ha⟩
                rw [hheld, hanswers, List.nil_append, List.flatMap_cons]
                show received comp ++ _ = (comp.buffer.take comp.actualLen).drop 0 ++ _
                rw [hreceived, List.drop_zero]
              · next hempty =>
                  cases h
                  refine ⟨?_, fun _ ha => hanswers ▸ List.mem_cons_of_mem _ ha⟩
                  rw [hheld, hanswers, List.nil_append, List.flatMap_cons]
                  show received comp ++ _ =
                    (u.1.submitUntilTarget.drain.map Drain.rest).getD [] ++ _
                  rw [hreceived, submitUntilTarget_drain, hdrain, Nat.eq_zero_of_not_pos hempty,
                    List.take_zero]
                  rfl

theorem turn_leave {n : Nat} {u : BulkReader × List InCompletion}
    {out : Poll (IoResult Bytes) × BulkReader × List InCompletion}
    (h : readTurn n u = .leave out) : source.Ends n u out := by
  unfold readTurn at h
  split at h
  · next d hdrain =>
      cases h
      have hlen := copy_length d n
      have hlt := d.lt
      have hroom : (d.copy n).1.length ≤ n := by omega
      have hsome : 0 < n → 0 < (d.copy n).1.length := by omega
      refine .ready ?_ hroom hsome
      show (u.1.drain.map Drain.rest).getD [] ++ _ =
        (d.copy n).1 ++ (((d.copy n).2.map Drain.rest).getD [] ++ _)
      rw [hdrain, ← List.append_assoc, copy_rest]
      rfl
  · next hdrain =>
      have hheld : source.held u.1 = [] := by
        show (u.1.drain.map Drain.rest).getD [] = []
        rw [hdrain]
        rfl
      have hheld' : source.held u.1.submitUntilTarget = [] := by
        show (u.1.submitUntilTarget.drain.map Drain.rest).getD [] = []
        rw [submitUntilTarget_drain]
        exact hheld
      dsimp only at h
      split at h
      · next hanswers =>
          cases h
          refine .pending ?_ hheld'
          rw [hheld, hheld', hanswers]
      · next comp rest hanswers =>
          split at h
          · next e hstatus =>
              cases h
              have hreceived : received comp = [] := by
                rw [received, hstatus]
              refine .failed (a := comp) ?_ ?_ ⟨e, hstatus⟩
              · rw [hheld, hanswers, List.nil_append, List.flatMap_cons]
                show received comp ++ _ = source.held u.1.submitUntilTarget ++ _
                rw [hreceived, hheld']
              · rw [hanswers]
                exact List.mem_cons_self ..
          · split at h
            · cases h
            · cases h

theorem faithful : source.Faithful := by
  intro s n answers r t hfits hpoll
  have hloop : Lib.whileLoop (readTurn n) _ (readTurn_lowers n) (s, answers) = (r, t, []) := hpoll
  exact Source.polls_of_loop (fun _ _ _ hturn => ⟨trivial, turn_again hturn⟩)
    (fun _ _ _ hturn => turn_leave hturn) hfits hloop

end BulkReader

end BulkIo

/-! ### Blocking drivers -/

namespace PipeIo

open BulkIo (IoResult)

namespace PipeReader

def held (me : PipeReader) : Bytes :=
  me.leftover.drop me.leftoverOff

def received : ReadAnswer → Bytes
  | .ok sent => sent
  | .error _ => []

/-- A read that asked for `asked` bytes returns no more. -/
def Within (asked : Nat) (answer : ReadAnswer) : Prop :=
  (received answer).length ≤ asked

/-- The answers to the read that is in flight and to those that follow it in a poll. -/
def Fits (cap : Nat → Nat) (me : PipeReader) (n : Nat) (answers : List ReadAnswer) : Prop :=
  (∀ answer ∈ answers.head?, Within (me.pending.getD (cap n)) answer) ∧
    ∀ answer ∈ answers.tail, Within (cap n) answer

def source (cap : Nat → Nat) : Source PipeReader ReadAnswer UInt8 String where
  poll := pollRead cap
  held := held
  content := received
  failed := fun answer => ∃ e, answer = .error e
  fits := Fits cap

variable {cap : Nat → Nat}

theorem copy_held (me : PipeReader) (n : Nat) :
    (me.copy n).1 ++ (me.copy n).2.held = me.held := by
  unfold copy
  dsimp only
  split
  · next hall =>
      have hle := me.le
      show me.held.take _ ++ ([] : Bytes) = me.held
      rw [List.append_nil]
      refine List.take_of_length_le ?_
      rw [held, List.length_drop]
      omega
  · show me.held.take _ ++ me.leftover.drop _ = me.held
    rw [← List.drop_drop]
    exact List.take_append_drop _ _

theorem copy_length (me : PipeReader) (n : Nat) :
    (me.copy n).1.length = min (me.leftover.length - me.leftoverOff) n := by
  have hlen : (me.leftover.drop me.leftoverOff).length =
      me.leftover.length - me.leftoverOff := List.length_drop
  have htake : (me.copy n).1 = (me.leftover.drop me.leftoverOff).take
      (min (me.leftover.length - me.leftoverOff) n) := by
    unfold copy
    dsimp only
    split
    · rfl
    · rfl
  rw [htake, List.length_take, hlen]
  omega

theorem turn_again {n : Nat} {u u' : PipeReader × List ReadAnswer} (hfits : Fits cap u.1 n u.2)
    (h : readTurn (cap n) n u = .again u') :
    Fits cap u'.1 n u'.2 ∧ (source cap).Keeps u u' := by
  unfold readTurn at h
  split at h
  · cases h
  · next hnone =>
      have hheld : (source cap).held u.1 = [] := List.drop_eq_nil_of_le (by omega)
      split at h
      · next asked hpending =>
          split at h
          · cases h
          · next answer rest hanswers =>
              rw [Fits, hpending, hanswers] at hfits
              obtain ⟨hfirst, hrest⟩ := hfits
              have hfits' : ∀ me : PipeReader, me.pending = none → Fits cap me n rest := by
                intro me hme
                rw [Fits, hme]
                exact ⟨fun a ha => hrest a (List.mem_of_mem_head? ha),
                  fun a ha => hrest a (List.mem_of_mem_tail ha)⟩
              have hsubset : rest ⊆ u.2 := hanswers ▸ fun _ ha => List.mem_cons_of_mem _ ha
              dsimp only at h
              split at h
              · next sent =>
                  have hall : sent.take asked = sent := List.take_of_length_le (hfirst _ rfl)
                  split at h
                  · next hempty =>
                      cases h
                      refine ⟨hfits' _ rfl, ?_, hsubset⟩
                      rw [hheld, hanswers, List.nil_append, List.flatMap_cons]
                      show sent ++ _ = (source cap).held u.1 ++ _
                      rw [← hall, hempty, hheld]
                  · cases h
                    refine ⟨hfits' _ rfl, ?_, hsubset⟩
                    rw [hheld, hanswers, List.nil_append, List.flatMap_cons]
                    show sent ++ rest.flatMap received =
                      (sent.take asked).drop 0 ++ rest.flatMap received
                    rw [hall, List.drop_zero]
              · cases h
      · next hpending =>
          cases h
          refine ⟨?_, rfl, fun _ ha => ha⟩
          rw [Fits, hpending] at hfits
          exact hfits

theorem turn_leave {n : Nat} {u : PipeReader × List ReadAnswer}
    {out : Poll (IoResult Bytes) × PipeReader × List ReadAnswer}
    (h : readTurn (cap n) n u = .leave out) : (source cap).Ends n u out := by
  unfold readTurn at h
  split at h
  · next hsome =>
      cases h
      have hlen := copy_length u.1 n
      have hroom : (u.1.copy n).1.length ≤ n := by omega
      have hmore : 0 < n → 0 < (u.1.copy n).1.length := by omega
      refine .ready ?_ hroom hmore
      show u.1.held ++ _ = (u.1.copy n).1 ++ ((u.1.copy n).2.held ++ _)
      rw [← List.append_assoc, copy_held]
  · next hnone =>
      have hheld : (source cap).held u.1 = [] := List.drop_eq_nil_of_le (by omega)
      split at h
      · split at h
        · next hanswers =>
            cases h
            refine .pending ?_ hheld
            rw [hanswers]
        · next answer rest hanswers =>
            dsimp only at h
            split at h
            · split at h
              · cases h
              · cases h
            · next e =>
                cases h
                refine .failed (a := .error e) ?_ ?_ ⟨e, rfl⟩
                · rw [hanswers]
                  rfl
                · rw [hanswers]
                  exact List.mem_cons_self ..
      · cases h

theorem faithful (cap : Nat → Nat) : (source cap).Faithful := by
  intro s n answers r t hfits hpoll
  have hloop : Lib.whileLoop (readTurn (cap n) n) _ (readTurn_lowers (cap n) n) (s, answers) =
      (r, t, []) := hpoll
  exact Source.polls_of_loop (fun _ _ hfits hturn => turn_again hfits hturn)
    (fun _ _ _ hturn => turn_leave hturn) hfits hloop

end PipeReader

def LibusbkReader.source : Source PipeReader ReadAnswer UInt8 String :=
  { PipeReader.source fun _ => readChunk with poll := pollRead }

def AppleMuxReader.source : Source PipeReader ReadAnswer UInt8 String :=
  { PipeReader.source fun want => Nat.min (Nat.max want 1) readChunk with poll := pollRead }

end PipeIo

/-! ### Byte streams -/

open Lib.Source (Reading)
open Reader (ReaderTask)

variable {σ α : Type}

/-- From the start on, a source is the bytes it has taken: in whatever pieces they are read
off it, and to `read_frame`. -/
structure ByteStream (S : Source σ α UInt8 String) (s : σ) : Prop where
  conserved : ∀ {tr u}, Run (Reading.Step S) (.start s) tr u → EveryStep (Reading.Fits S) tr →
    u.returned ++ S.held u.source = u.taken.flatMap S.content
  nonempty : ∀ {tr u}, Run (Reading.Step S) (.start s) tr u → EveryStep (Reading.Fits S) tr →
    ∀ n answers t out, S.fits u.source n answers →
      S.poll u.source n answers = (.ready (.ok out), t, []) → out.length ≤ n ∧ (0 < n → out ≠ [])
  frames : ∀ {tr u}, Run (ReaderTask.Step S) (.start s) tr u → EveryStep (ReaderTask.Fits S) tr →
    ReaderTask.Recovers S u

theorem ByteStream.of_faithful {S : Source σ α UInt8 String} (hS : S.Faithful) {s : σ}
    (hs : S.held s = []) : ByteStream S s where
  conserved := Reading.conserved hS hs
  nonempty := by
    intro tr u _ _ n answers t out hfits hpoll
    have hpolls := hS _ _ _ _ _ hfits hpoll
    exact ⟨hpolls.room, hpolls.progress out rfl⟩
  frames := ReaderTask.recovers_of_run hS hs

/-- However the bytes are split, and by whichever reader: once both readers wait, they have
read the same frames off the same bytes. -/
theorem ByteStream.same_frames {σ' α' : Type} {S : Source σ α UInt8 String}
    {S' : Source σ' α' UInt8 String} {s : σ} {s' : σ'} (h : ByteStream S s)
    (h' : ByteStream S' s') {tr tr'} {u : ReaderTask σ α} {u' : ReaderTask σ' α'}
    (hrun : Run (ReaderTask.Step S) (.start s) tr u) (hfits : EveryStep (ReaderTask.Fits S) tr)
    (hrun' : Run (ReaderTask.Step S') (.start s') tr' u')
    (hfits' : EveryStep (ReaderTask.Fits S') tr')
    (hsame : u.taken.flatMap S.content = u'.taken.flatMap S'.content)
    (hwaits : S.held u.source = []) (hunread : u.future.Unread)
    (hwaits' : S'.held u'.source = []) (hunread' : u'.future.Unread) :
    u.frames = u'.frames := by
  obtain ⟨rest, hread, -, hend⟩ := (h.frames hrun hfits).frames
  obtain ⟨rest', hread', -, hend'⟩ := (h'.frames hrun' hfits').frames
  have hread := hread 0 []
  have hread' := hread' 0 []
  rw [List.append_nil, List.append_nil] at hread hread'
  rw [← hsame] at hread'
  have hle := Reader.readFrames_le hread (hend hwaits hunread 0) hread'
  have hge := Reader.readFrames_le hread' (hend' hwaits' hunread' 0) hread
  rw [Nat.le_antisymm hle hge, hread] at hread'
  exact (Prod.mk.inj (Except.ok.inj hread')).1

/-- All three readers are byte streams. -/
theorem readers_are_byte_streams :
    (∀ maxPacketSize transferSize inFlight : Nat,
      ByteStream BulkIo.BulkReader.source
        ((BulkIo.BulkReader.new maxPacketSize transferSize).withInFlight inFlight)) ∧
    ByteStream PipeIo.LibusbkReader.source PipeIo.PipeReader.new ∧
    ByteStream PipeIo.AppleMuxReader.source PipeIo.PipeReader.new :=
  ⟨fun _ _ _ => .of_faithful BulkIo.BulkReader.faithful rfl,
    .of_faithful (PipeIo.PipeReader.faithful _) rfl,
    .of_faithful (PipeIo.PipeReader.faithful _) rfl⟩

end Netmuxd
