/-
Transfers on a packet pipe.

A transfer goes over the pipe as packets of a maximal size, and a receiver takes it to
be over at the first packet that is shorter.  A submission that fills its packets
therefore ends nothing: what comes after it belongs to the same transfer, and an empty
submission is what ends one that happens to fill its packets.
-/
import Mathlib.Tactic.Common
import Mathlib.Data.Nat.Basic

namespace Netmuxd.Lib

variable {β : Type}

/-- The packets of one submission: full ones, then what is left.  An empty submission is
one empty packet. -/
def packets (mps : Nat) (bytes : List β) : List (List β) :=
  if 0 < mps ∧ mps < bytes.length then
    bytes.take mps :: packets mps (bytes.drop mps)
  else
    [bytes]
termination_by bytes.length
decreasing_by
  rw [List.length_drop]
  omega

/-- A receiver with the transfers so far and the bytes of one that has not ended. -/
def receive (mps : Nat) (r : List (List β) × List β) (packet : List β) :
    List (List β) × List β :=
  if packet.length < mps then (r.1 ++ [r.2 ++ packet], []) else (r.1, r.2 ++ packet)

/-- What a receiver makes of submissions, one after the other. -/
def received (mps : Nat) (submitted : List (List β)) : List (List β) × List β :=
  (submitted.flatMap (packets mps)).foldl (receive mps) ([], [])

/-- A submission with no short packet. -/
def Fills (mps : Nat) (bytes : List β) : Prop :=
  bytes ≠ [] ∧ mps ∣ bytes.length

theorem receive_packets {mps : Nat} (hmps : 0 < mps) (bytes : List β) :
    ∀ done carry, (Fills mps bytes →
        (packets mps bytes).foldl (receive mps) (done, carry) = (done, carry ++ bytes)) ∧
      (¬ Fills mps bytes →
        (packets mps bytes).foldl (receive mps) (done, carry) =
          (done ++ [carry ++ bytes], [])) := by
  induction bytes using packets.induct mps with
  | case1 bytes hlong ih =>
      intro done carry
      have htake : (bytes.take mps).length = mps := by
        rw [List.length_take]
        omega
      have hfills : Fills mps (bytes.drop mps) ↔ Fills mps bytes := by
        have hsub : mps ∣ bytes.length - mps ↔ mps ∣ bytes.length :=
          Nat.dvd_sub_self_right.trans (or_iff_left (Nat.not_le.mpr hlong.2))
        have hdrop : bytes.drop mps ≠ [] := by
          intro h
          have hzero := congrArg List.length h
          rw [List.length_drop, List.length_nil] at hzero
          omega
        have hne : bytes ≠ [] := by
          intro h
          rw [h] at hlong
          exact Nat.not_lt_zero _ hlong.2
        rw [Fills, Fills, List.length_drop, hsub]
        exact and_congr_left fun _ => iff_of_true hdrop hne
      have hturn : receive mps (done, carry) (bytes.take mps) =
          (done, carry ++ bytes.take mps) := if_neg (by omega)
      obtain ⟨hfull, hshort⟩ := ih done (carry ++ bytes.take mps)
      rw [packets, if_pos hlong, List.foldl_cons, hturn]
      constructor
      · intro h
        rw [hfull (hfills.mpr h), List.append_assoc, List.take_append_drop]
      · intro h
        rw [hshort fun h' => h (hfills.mp h'), List.append_assoc, List.take_append_drop]
  | case2 bytes hshort =>
      intro done carry
      rw [packets, if_neg hshort, List.foldl_cons, List.foldl_nil]
      constructor
      · intro ⟨hne, hdvd⟩
        have hle := Nat.le_of_dvd (List.length_pos_iff.mpr hne) hdvd
        exact if_neg (by omega)
      · intro hfills
        have hlt : bytes.length < mps := by
          by_contra hge
          have heq : bytes.length = mps := by omega
          refine hfills ⟨fun h => ?_, ⟨1, by omega⟩⟩
          rw [h, List.length_nil] at heq
          omega
        exact if_pos hlt

/-- A submission that fills its packets is carried on. -/
theorem received_fills {mps : Nat} (hmps : 0 < mps) {submitted : List (List β)} {bytes : List β}
    (h : Fills mps bytes) : received mps (submitted ++ [bytes]) =
      ((received mps submitted).1, (received mps submitted).2 ++ bytes) := by
  rw [received, List.flatMap_append, List.foldl_append, List.flatMap_singleton]
  exact (receive_packets hmps bytes _ _).1 h

/-- Any other submission ends the transfer. -/
theorem received_ends {mps : Nat} (hmps : 0 < mps) {submitted : List (List β)} {bytes : List β}
    (h : ¬ Fills mps bytes) : received mps (submitted ++ [bytes]) =
      ((received mps submitted).1 ++ [(received mps submitted).2 ++ bytes], []) := by
  rw [received, List.flatMap_append, List.foldl_append, List.flatMap_singleton]
  exact (receive_packets hmps bytes _ _).2 h

end Netmuxd.Lib
