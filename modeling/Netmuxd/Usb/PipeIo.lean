/-
The readers over blocking drivers, `src/libusbk/io.rs` and `src/apple_mux/io.rs`.

Each read runs on a thread of its own and is polled as a future; what it returns is handed
out in pieces.  The two readers differ in how much they ask for.  An answer is what the
device sends for a read, or why the read failed; the read returns it in a buffer of the size
asked for, cut to the length of what was sent.
-/
import Netmuxd.Lib.Loop
import Netmuxd.Lib.Source
import Netmuxd.Usb.BulkIo

namespace Netmuxd.PipeIo

open Lib (Poll)
open BulkIo (IoResult)

/-- What a read meets on its thread. -/
abbrev ReadAnswer := Except String Bytes

structure PipeReader where
  /-- The read in flight, by the size it asked for. -/
  pending : Option Nat
  leftover : Bytes
  leftoverOff : Nat
  le : leftoverOff ≤ leftover.length

namespace PipeReader

def new : PipeReader :=
  { pending := none, leftover := [], leftoverOff := 0, le := Nat.le_refl 0 }

/-- What is handed out of the leftover, and the reader with the rest of it. -/
def copy (me : PipeReader) (remaining : Nat) : Bytes × PipeReader :=
  let n := min (me.leftover.length - me.leftoverOff) remaining
  let out := (me.leftover.drop me.leftoverOff).take n
  if me.leftoverOff + n = me.leftover.length then
    (out, { me with leftover := [], leftoverOff := 0, le := Nat.le_refl 0 })
  else
    (out, { me with
      leftoverOff := me.leftoverOff + n
      le := by
        have hle := me.le
        show me.leftoverOff + min (me.leftover.length - me.leftoverOff) remaining ≤ _
        omega })

/-- One turn of the loop in `poll_read`; a new read asks for `cap` bytes. -/
def readTurn (cap remaining : Nat) (s : PipeReader × List ReadAnswer) :
    Lib.Turn (PipeReader × List ReadAnswer)
      (Poll (IoResult Bytes) × PipeReader × List ReadAnswer) :=
  if 0 < s.1.leftover.length - s.1.leftoverOff then
    let (out, me) := s.1.copy remaining
    .leave (.ready (.ok out), me, s.2)
  else
    match s.1.pending with
    | some asked =>
      match s.2 with
      | [] => .leave (.pending, s.1, [])
      | answer :: rest =>
        let me := { s.1 with pending := none }
        match answer with
        | .ok sent =>
          let data := sent.take asked
          -- an empty read is not the end: try again
          if data = [] then
            .again (me, rest)
          else
            .again ({ me with leftover := data, leftoverOff := 0, le := Nat.zero_le _ }, rest)
        | .error e => .leave (.ready (.error e), me, rest)
    | none => .again ({ s.1 with pending := some cap }, s.2)

theorem readTurn_lowers (cap remaining : Nat) :
    Lib.Lowers (readTurn cap remaining) fun s =>
      2 * s.2.length + if s.1.pending.isNone then 1 else 0 := by
  intro s s' h
  unfold readTurn at h
  split at h
  · cases h
  · split at h
    · next asked hpending =>
        split at h
        · cases h
        · next answer rest hs =>
            show _ < 2 * s.2.length + if s.1.pending.isNone then 1 else 0
            rw [hs, hpending]
            dsimp only at h
            split at h
            · split at h
              · cases h
                show 2 * rest.length + 1 < 2 * (rest.length + 1) + 0
                omega
              · cases h
                show 2 * rest.length + 1 < 2 * (rest.length + 1) + 0
                omega
            · cases h
    · next hpending =>
        cases h
        show 2 * s.2.length + 0 < 2 * s.2.length + if s.1.pending.isNone then 1 else 0
        rw [hpending]
        exact Nat.lt_succ_self _

def pollRead (cap : Nat → Nat) (me : PipeReader) (remaining : Nat) (answers : List ReadAnswer) :
    Poll (IoResult Bytes) × PipeReader × List ReadAnswer :=
  Lib.whileLoop (readTurn (cap remaining) remaining) _ (readTurn_lowers (cap remaining) remaining)
    (me, answers)

end PipeReader

/-! ### libusbK -/

namespace LibusbkReader

def readChunk : Nat := 16384

/-- `LibusbkReader::poll_read`: `spawn_read` asks for a chunk. -/
def pollRead : PipeReader → Nat → List ReadAnswer →
    Poll (IoResult Bytes) × PipeReader × List ReadAnswer :=
  PipeReader.pollRead fun _ => readChunk

end LibusbkReader

/-! ### Apple's driver -/

namespace AppleMuxReader

def readChunk : Nat := 0x8000

/-- `AppleMuxReader::poll_read`: `spawn_read` asks for `want.clamp(1, READ_CHUNK)` bytes. -/
def pollRead : PipeReader → Nat → List ReadAnswer →
    Poll (IoResult Bytes) × PipeReader × List ReadAnswer :=
  PipeReader.pollRead fun want => Nat.min (Nat.max want 1) readChunk

end AppleMuxReader

end Netmuxd.PipeIo
