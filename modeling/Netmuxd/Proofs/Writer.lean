/-
How much the writer task still takes.

A send fails exactly when the writer has taken its last frame.  So whether all the
sends of a branch succeed is a matter of how many there are, and for a flush that
number is a matter of what waits, of the window and of the largest payload.
-/
import Netmuxd.Proofs.Link

namespace Netmuxd

open Lib

/-- The writer takes at least `n` more frames. -/
def Link.Takes (l : Link) (n : Nat) : Prop :=
  ∀ left, l.writeLeft = some left → n ≤ left

theorem Link.takes_zero (l : Link) : l.Takes 0 :=
  fun left _ => Nat.zero_le left

theorem Link.takes_one_iff {l : Link} : l.Takes 1 ↔ l.writeLeft ≠ some 0 := by
  unfold Link.Takes
  constructor
  · intro h hw
    have := h 0 hw
    omega
  · intro h left hw
    have hne : left ≠ 0 := by
      intro hz
      exact h (hz ▸ hw)
    omega

theorem Link.Takes.mono {l : Link} {n k : Nat} (h : l.Takes n) (hk : k ≤ n) : l.Takes k :=
  fun left hw => Nat.le_trans hk (h left hw)

/-- `l'` is `l` after `n` frames and no failure, all for connection `i`. -/
structure Link.Sends (l : Link) (i n : Nat) (l' : Link) : Prop where
  after : ∃ acts, l.After i acts l' ∧ ¬ Failed acts
  left : l'.writeLeft = l.writeLeft.map (· - n)

theorem Link.Sends.refl (l : Link) (i : Nat) : l.Sends i 0 l :=
  ⟨⟨[], Link.After.refl l i, not_failed_nil⟩, by simp⟩

theorem Link.Sends.trans {l l' l'' : Link} {i n k : Nat} (h : l.Sends i n l')
    (h' : l'.Sends i k l'') : l.Sends i (n + k) l'' := by
  obtain ⟨acts, hafter, hok⟩ := h.after
  obtain ⟨acts', hafter', hok'⟩ := h'.after
  refine ⟨⟨acts ++ acts', hafter.trans hafter', ?_⟩, ?_⟩
  · rw [failed_append]
    exact not_or.mpr ⟨hok, hok'⟩
  · rw [h'.left, h.left, Option.map_map]
    congr 1
    funext left
    exact Nat.sub_sub left n k

theorem Link.Sends.takes_iff {l l' : Link} {i n k : Nat} (h : l.Sends i n l') (hn : l.Takes n) :
    l'.Takes k ↔ l.Takes (n + k) := by
  unfold Link.Takes at *
  rw [h.left]
  cases hw : l.writeLeft with
  | none => simp
  | some left =>
      have := hn left hw
      simp only [Option.map_some, Option.some.injEq, forall_eq']
      omega

theorem Link.Sends.version {l l' : Link} {i n : Nat} (h : l.Sends i n l') :
    l'.state.version = l.state.version := by
  obtain ⟨acts, hafter, -⟩ := h.after
  exact hafter.version

/-- The acts between two links are what the log says. -/
theorem Link.After.unique {l l' : Link} {i : Nat} {as bs : List Act} (h : l.After i as l')
    (h' : l.After i bs l') : as = bs := by
  have hmap : as.map (Effect.mk i) = bs.map (Effect.mk i) := by
    have hout : l.out ++ as.map (Effect.mk i) = l.out ++ bs.map (Effect.mk i) := by
      rw [← h.out, ← h'.out]
    exact List.append_cancel_left hout
  refine (List.map_inj_right ?_).mp hmap
  intro a b hab
  cases hab
  rfl

theorem Link.Sends.not_failed {l l' : Link} {i n : Nat} {acts : List Act} (h : l.Sends i n l')
    (hafter : l.After i acts l') : ¬ Failed acts := by
  obtain ⟨acts', hafter', hok⟩ := h.after
  rw [hafter.unique hafter']
  exact hok

theorem Link.emit_sends (l : Link) (i : Nat) {a : Act} (ha : a.isWrite = false) :
    l.Sends i 0 (l.emit i a) := by
  refine ⟨⟨[a], l.emit_after i ha, ?_⟩, by simp [Link.emit]⟩
  rintro ⟨e, he⟩
  rw [← List.mem_singleton.mp he] at ha
  cases ha

/-! ### One frame -/

theorem writeTx_takes {l : Link} (i : Nat) (buf : Bytes) (h : l.Takes 1) :
    (writeTx l i buf).1 = .ok () ∧ (writeTx l i buf).2.writeLeft = l.writeLeft.map (· - 1) := by
  unfold writeTx
  cases hw : l.writeLeft with
  | none => exact ⟨rfl, hw⟩
  | some left =>
      cases left with
      | zero => exact absurd hw (Link.takes_one_iff.mp h)
      | succ left => exact ⟨rfl, rfl⟩

theorem writeTx_gone {l : Link} (i : Nat) (buf : Bytes) (h : ¬ l.Takes 1) :
    (writeTx l i buf).1 = .error .writerGone := by
  rw [Link.takes_one_iff, not_not] at h
  unfold writeTx
  rw [h]

section
variable {l : Link} (conn : Connection) (flags : UInt8) {payload : Bytes}

theorem sendTcp_takes (hv : l.state.version = 2) (hp : payload.length ≤ maxPayload)
    (h : l.Takes 1) :
    ∃ l', sendTcp l conn flags payload = (.ok (), l') ∧ l.Sends conn.id 1 l' := by
  have hres := writeTx_takes conn.id (packetOf l.state (headerOf conn flags) payload)
    (l := { l with state := { l.state with txSeq := l.state.txSeq + 1 } }) h
  rw [← sendTcp_eq hv hp] at hres
  rcases sendTcp_cases conn flags hv hp with ⟨a, l', heq, hafter, ha⟩ | ⟨e, l', heq, -⟩
  · rw [heq] at hres
    refine ⟨l', heq, ⟨[a], hafter, ?_⟩, hres.2⟩
    rintro ⟨e, he⟩
    rw [← List.mem_singleton.mp he] at ha
    cases ha
  · rw [heq] at hres
    cases hres.1

theorem sendTcp_gone (hv : l.state.version = 2) (hp : payload.length ≤ maxPayload)
    (h : ¬ l.Takes 1) :
    ∃ e l', sendTcp l conn flags payload = (.error e, l') ∧ l.After conn.id [.sendFailed e] l' := by
  have hres := writeTx_gone conn.id (packetOf l.state (headerOf conn flags) payload)
    (l := { l with state := { l.state with txSeq := l.state.txSeq + 1 } }) h
  rw [← sendTcp_eq hv hp] at hres
  rcases sendTcp_cases conn flags hv hp with ⟨a, l', heq, -⟩ | hgone
  · rw [heq] at hres
    cases hres
  · exact hgone

end

/-! ### A flush -/

namespace Connection

/-- What the device's window still has room for. -/
def room (c : Connection) : Nat :=
  if c.txSeq - c.rxAck < c.rxWin then (c.rxWin - (c.txSeq - c.rxAck)).toNat else 0

/-- How many of the waiting bytes a flush sends. -/
def sendable (c : Connection) : Nat :=
  min c.pendingTx.length c.room

/-- How many frames a flush sends them in. -/
def flushFrames (c : Connection) : Nat :=
  (c.sendable + maxPayload - 1) / maxPayload

/-- What is left after a frame with `k` of the waiting bytes. -/
def sent (c : Connection) (k : Nat) : Connection :=
  { c with pendingTx := c.pendingTx.drop k, txSeq := c.txSeq + UInt32.ofNat k }

@[simp] theorem sent_pendingTx (c : Connection) (k : Nat) :
    (c.sent k).pendingTx = c.pendingTx.drop k := rfl

theorem sendable_eq_zero {c : Connection} :
    c.sendable = 0 ↔ c.pendingTx = [] ∨ c.rxWin ≤ c.txSeq - c.rxAck := by
  unfold sendable room
  rw [Nat.min_eq_zero_iff, List.length_eq_zero_iff]
  apply or_congr_right
  by_cases hopen : c.txSeq - c.rxAck < c.rxWin
  · rw [if_pos hopen, UInt32.toNat_sub_of_le _ _ (UInt32.le_of_lt hopen)]
    refine iff_of_false ?_ (UInt32.not_le.mpr hopen)
    have := UInt32.lt_iff_toNat_lt.mp hopen
    omega
  · rw [if_neg hopen]
    exact iff_of_true rfl (UInt32.not_lt.mp hopen)

/-- A frame takes its bytes off the window. -/
theorem room_sent {c : Connection} {k : Nat} (hk : k ≤ c.room) : (c.sent k).room = c.room - k := by
  by_cases hopen : c.txSeq - c.rxAck < c.rxWin
  · have hroom : c.room = c.rxWin.toNat - (c.txSeq - c.rxAck).toNat := by
      unfold room
      rw [if_pos hopen, UInt32.toNat_sub_of_le _ _ (UInt32.le_of_lt hopen)]
    have hlt := UInt32.lt_iff_toNat_lt.mp hopen
    have hwin := c.rxWin.toNat_lt
    have hinflight : ((c.sent k).txSeq - (c.sent k).rxAck).toNat
        = (c.txSeq - c.rxAck).toNat + k := by
      rw [show (c.sent k).txSeq - (c.sent k).rxAck = c.txSeq - c.rxAck + UInt32.ofNat k by
        simp only [sent]
        rw [UInt32.sub_eq_add_neg, UInt32.sub_eq_add_neg, UInt32.add_assoc, UInt32.add_assoc,
          UInt32.add_comm (UInt32.ofNat k)]]
      rw [UInt32.toNat_add, UInt32.toNat_ofNat_of_lt' (by
        show k < 4294967296
        omega)]
      exact Nat.mod_eq_of_lt (by omega)
    by_cases hfull : c.room = k
    · have hclosed : ¬ (c.sent k).txSeq - (c.sent k).rxAck < (c.sent k).rxWin := by
        rw [UInt32.lt_iff_toNat_lt, hinflight]
        show ¬ _ < c.rxWin.toNat
        omega
      rw [room, if_neg hclosed]
      omega
    · have hopen' : (c.sent k).txSeq - (c.sent k).rxAck < (c.sent k).rxWin := by
        rw [UInt32.lt_iff_toNat_lt, hinflight]
        show _ < c.rxWin.toNat
        omega
      rw [room, if_pos hopen', UInt32.toNat_sub_of_le _ _ (UInt32.le_of_lt hopen'), hinflight]
      show c.rxWin.toNat - _ = _
      omega
  · have hroom : c.room = 0 := by
      unfold room
      rw [if_neg hopen]
    have hz : k = 0 := by omega
    subst hz
    have hsame : c.sent 0 = c := by
      simp [sent]
    rw [hsame, Nat.sub_zero]

theorem sendable_sent {c : Connection} {k : Nat} (hk : k ≤ c.sendable) :
    (c.sent k).sendable = c.sendable - k := by
  have hroom : k ≤ c.room := Nat.le_trans hk (Nat.min_le_right _ _)
  unfold sendable
  rw [room_sent hroom, sent_pendingTx, List.length_drop, Nat.sub_min_sub_right]

/-- A frame of the largest size, or with all there is to send, is one frame less. -/
theorem flushFrames_sent {c : Connection} (h : 0 < c.sendable) :
    (c.sent (min c.sendable maxPayload)).flushFrames + 1 = c.flushFrames := by
  have hmax := maxPayload_pos
  unfold flushFrames
  rw [sendable_sent (Nat.min_le_left _ _)]
  by_cases hle : c.sendable ≤ maxPayload
  · rw [Nat.min_eq_left hle, Nat.sub_self, Nat.zero_add,
      Nat.div_eq_of_lt (by omega : maxPayload - 1 < maxPayload)]
    rw [show c.sendable + maxPayload - 1 = c.sendable - 1 + maxPayload by omega,
      Nat.add_div_right _ hmax, Nat.div_eq_of_lt (by omega : c.sendable - 1 < maxPayload)]
  · rw [Nat.min_eq_right (by omega)]
    rw [show c.sendable + maxPayload - 1 = c.sendable - maxPayload + maxPayload - 1 + maxPayload by
      omega, Nat.add_div_right _ hmax]

theorem flushFrames_eq_zero {c : Connection} (h : c.sendable = 0) : c.flushFrames = 0 := by
  have hmax := maxPayload_pos
  unfold flushFrames
  rw [h]
  exact Nat.div_eq_of_lt (by omega)

theorem flushFrames_pos {c : Connection} (h : 0 < c.sendable) : 0 < c.flushFrames := by
  rw [← flushFrames_sent h]
  exact Nat.succ_pos _

end Connection

/-- One turn of the flush loop, with what it asks of the writer. -/
theorem flushTurn_takes {l : Link} {c : Connection} (hv : l.state.version = 2) :
    (c.sendable = 0 ∧ flushTurn (l, c) = .leave (.ok (), l, c)) ∨
      (0 < c.sendable ∧ ¬ l.Takes 1 ∧ ∃ e l' k, 0 < k ∧ k ≤ c.pendingTx.length ∧
        flushTurn (l, c) = .leave (.error e, l', { c with pendingTx := c.pendingTx.drop k })) ∨
      (0 < c.sendable ∧ l.Takes 1 ∧ ∃ l', l.Sends c.id 1 l' ∧
        flushTurn (l, c) = .again (l', c.sent (min c.sendable maxPayload))) := by
  by_cases hz : c.sendable = 0
  · refine Or.inl ⟨hz, ?_⟩
    by_cases hnil : c.pendingTx.isEmpty = true
    · simp only [flushTurn, if_pos hnil]
    · have hfull : c.rxWin ≤ c.txSeq - c.rxAck := by
        rcases Connection.sendable_eq_zero.mp hz with h | h
        · exact absurd (List.isEmpty_iff.mpr h) hnil
        · exact h
      simp only [flushTurn, if_neg hnil, if_pos hfull]
  · have hpos : 0 < c.sendable := Nat.pos_of_ne_zero hz
    have hnone := mt Connection.sendable_eq_zero.mpr hz
    have hnil : ¬ c.pendingTx.isEmpty = true := fun h => hnone (Or.inl (List.isEmpty_iff.mp h))
    have hfull : ¬ c.rxWin ≤ c.txSeq - c.rxAck := fun h => hnone (Or.inr h)
    have hroom : c.room = (c.rxWin - (c.txSeq - c.rxAck)).toNat := by
      unfold Connection.room
      rw [if_pos (UInt32.not_le.mp hfull)]
    have hk : min (min c.pendingTx.length maxPayload) (c.rxWin - (c.txSeq - c.rxAck)).toNat
        = min c.sendable maxPayload := by
      rw [← hroom, Connection.sendable, Nat.min_assoc, Nat.min_assoc,
        Nat.min_comm maxPayload c.room]
    have hkpos : 0 < min c.sendable maxPayload := by
      have := maxPayload_pos
      omega
    have hlen : min c.sendable maxPayload ≤ c.pendingTx.length :=
      Nat.le_trans (Nat.min_le_left _ _) (Nat.min_le_left _ _)
    have hmax : (c.pendingTx.take (min c.sendable maxPayload)).length ≤ maxPayload := by
      rw [List.length_take]
      omega
    have hk0 := Nat.ne_of_gt hkpos
    by_cases htakes : l.Takes 1
    · obtain ⟨l', heq, hsends⟩ := sendTcp_takes
        { c with pendingTx := c.pendingTx.drop (min c.sendable maxPayload) } TcpFlags.ack hv hmax
        htakes
      refine Or.inr (Or.inr ⟨hpos, htakes, l', hsends, ?_⟩)
      simp only [flushTurn, if_neg hnil, if_neg hfull, hk, if_neg hk0, heq]
      rfl
    · obtain ⟨e, l', heq, -⟩ := sendTcp_gone
        { c with pendingTx := c.pendingTx.drop (min c.sendable maxPayload) } TcpFlags.ack hv hmax
        htakes
      refine Or.inr (Or.inl ⟨hpos, htakes, e, l', _, hkpos, hlen, ?_⟩)
      simp only [flushTurn, if_neg hnil, if_neg hfull, hk, if_neg hk0, heq]

/-- What has been sent on the way, and what a flush of `c` on `l` still has to send. -/
structure FlushOn (l : Link) (c : Connection) (s : Link × Connection) : Prop where
  frames : ∃ n, l.Takes n ∧ l.Sends c.id n s.1 ∧ n + s.2.flushFrames = c.flushFrames
  waiting : s.2.pendingTx.length + c.sendable = c.pendingTx.length + s.2.sendable
  shorter : s.2.sendable ≤ c.sendable
  id : s.2.id = c.id

/-- What a flush comes to, by what the writer takes. -/
structure Flushes (l : Link) (c : Connection) (r : Except IoError Unit × Link × Connection) :
    Prop where
  taken : l.Takes c.flushFrames → r.1 = .ok () ∧ l.Sends c.id c.flushFrames r.2.1 ∧
    r.2.2.pendingTx.length + c.sendable = c.pendingTx.length
  gone : ¬ l.Takes c.flushFrames →
    (∃ e, r.1 = .error e) ∧ r.2.2.pendingTx.length < c.pendingTx.length

theorem flushLoop_takes {l : Link} {c : Connection} (hv : l.state.version = 2) :
    Flushes l c (flushLoop l c) := by
  refine whileLoop_induct (P := FlushOn l c) ?_ ?_ ?_
  · rintro ⟨l₁, c₁⟩ ⟨l₂, c₂⟩ ⟨⟨n, hn, hsends, hframes⟩, hwait, hshort, hid⟩ hturn
    simp only at hsends hframes hwait hshort hid
    rcases flushTurn_takes (l := l₁) (c := c₁) (hsends.version.trans hv) with
      ⟨-, heq⟩ | ⟨-, -, e, l', k, -, -, heq⟩ | ⟨hpos, htakes, l', h, heq⟩
    · rw [heq] at hturn; cases hturn
    · rw [heq] at hturn; cases hturn
    · rw [heq] at hturn
      cases hturn
      have hless := Connection.flushFrames_sent hpos
      have hrest := Connection.sendable_sent (c := c₁) (Nat.min_le_left c₁.sendable maxPayload)
      refine ⟨⟨n + 1, (hsends.takes_iff hn).mp htakes, hsends.trans (hid ▸ h), ?_⟩, ?_, ?_, hid⟩
      · simp only
        omega
      · have hle : c₁.sendable ≤ c₁.pendingTx.length := Nat.min_le_left _ _
        simp only [hrest, Connection.sent_pendingTx, List.length_drop]
        omega
      · simp only [hrest]
        omega
  · rintro ⟨l₁, c₁⟩ ⟨r, l₂, c₂⟩ ⟨⟨n, hn, hsends, hframes⟩, hwait, hshort, hid⟩ hturn
    simp only at hsends hframes hwait hshort hid
    rcases flushTurn_takes (l := l₁) (c := c₁) (hsends.version.trans hv) with
      ⟨hz, heq⟩ | ⟨hpos, htakes, e, l', k, hk, hlen, heq⟩ | ⟨-, -, l', -, heq⟩
    · rw [heq] at hturn
      cases hturn
      have hall : n = c.flushFrames := by
        have := Connection.flushFrames_eq_zero hz
        omega
      subst hall
      refine ⟨fun _ => ⟨rfl, hsends, ?_⟩, fun hgone => absurd hn hgone⟩
      simp only
      omega
    · rw [heq] at hturn
      cases hturn
      have hgone : ¬ l.Takes c.flushFrames := by
        intro hall
        have hone := Connection.flushFrames_pos hpos
        exact htakes ((hsends.takes_iff hn).mpr (hall.mono (by omega)))
      refine ⟨fun h => absurd h hgone, fun _ => ⟨⟨e, rfl⟩, ?_⟩⟩
      simp only [List.length_drop]
      omega
    · rw [heq] at hturn; cases hturn
  · exact ⟨⟨0, l.takes_zero, Link.Sends.refl l c.id, Nat.zero_add _⟩, rfl, Nat.le_refl _, rfl⟩

theorem flushPending_takes {l : Link} {c : Connection} (hv : l.state.version = 2) :
    Flushes l c (flushPending l c) := by
  have hid : (flushLoop l c).2.2.id = c.id := by
    obtain ⟨acts, -, hmoves, -⟩ := flushLoop_spec (l := l) (c := c) hv
    exact hmoves.same.1
  obtain ⟨htaken, hgone⟩ := flushLoop_takes (l := l) (c := c) hv
  unfold flushPending
  generalize flushLoop l c = res at htaken hgone hid ⊢
  obtain ⟨r, l₁, c₁⟩ := res
  simp only at htaken hgone hid
  by_cases htakes : l.Takes c.flushFrames
  · obtain ⟨hr, hsends, hlen⟩ := htaken htakes
    subst hr
    refine ⟨fun _ => ?_, fun h => absurd htakes h⟩
    by_cases hlow : (c₁.txPause && decide (c₁.pendingTx.length < txLowWater)) = true
    · simp only [if_pos hlow]
      refine ⟨trivial, ?_, hlen⟩
      have hstore := l₁.emit_sends c.id (a := .storePause false) rfl
      have hnotify := (l₁.emit c.id (.storePause false)).emit_sends c.id (a := .notifyOne) rfl
      have hall := hsends.trans (hstore.trans hnotify)
      rw [Nat.add_zero] at hall
      rw [hid]
      exact hall
    · simp only [if_neg hlow]
      exact ⟨trivial, hsends, hlen⟩
  · obtain ⟨⟨e, hr⟩, hlen⟩ := hgone htakes
    subst hr
    exact ⟨fun h => absurd h htakes, fun _ => ⟨⟨e, rfl⟩, hlen⟩⟩

end Netmuxd
