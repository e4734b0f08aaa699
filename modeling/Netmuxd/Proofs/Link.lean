/-
What the sending functions do to the link.

Each of them appends acts for one connection to the log and keeps the version, and
only fails when the writer task can die.  `Link.After` says so, and composes.  For
the flush, whose loop sends frame after frame, `Moves` lists the single things that
can happen to the connection on the way, and `flushPending_spec` says that a flush
is a chain of them that stops only where the loop of the source does.
-/
import Netmuxd.Proofs.Wire
import Netmuxd.Lib.Star

namespace Netmuxd

open Lib

/-- The TCP header and payload of a queued frame. -/
def Act.tcp? : Act → Option (ParsedTcp × Bytes)
  | .frame buf => tcpOf buf
  | _ => none

theorem Act.eq_frame_of_tcp? {a : Act} {r : ParsedTcp × Bytes} (h : a.tcp? = some r) :
    ∃ buf, a = .frame buf ∧ tcpOf buf = some r := by
  cases a with
  | frame buf => exact ⟨buf, rfl, h⟩
  | _ => cases h

/-- Some send in these acts failed. -/
def Failed (acts : List Act) : Prop :=
  ∃ e, Act.sendFailed e ∈ acts

theorem not_failed_nil : ¬ Failed [] := by
  rintro ⟨e, he⟩
  cases he

@[simp] theorem failed_append {as bs : List Act} : Failed (as ++ bs) ↔ Failed as ∨ Failed bs := by
  simp [Failed, List.mem_append, exists_or]

/-! ### The link before and after -/

/-- The acts that go through the writer task. -/
def Act.isWrite : Act → Bool
  | .frame _ | .sendFailed _ => true
  | _ => false

theorem Act.tcp?_of_not_isWrite {a : Act} (h : a.isWrite = false) : a.tcp? = none := by
  cases a with
  | frame buf => cases h
  | _ => rfl

/-- A frame fits the pipe, and a send fails only for want of a writer. -/
def Act.Fits : Act → Prop
  | .frame buf => buf.length ≤ usbMtu
  | .sendFailed e => e = .writerGone
  | _ => True

theorem Act.fits_of_not_isWrite {a : Act} (h : a.isWrite = false) : a.Fits := by
  cases a with
  | frame buf => cases h
  | sendFailed e => cases h
  | _ => trivial

/-- `l'` is `l` after the acts `acts` for connection `i`. -/
structure Link.After (l : Link) (i : Nat) (acts : List Act) (l' : Link) : Prop where
  out : l'.out = l.out ++ acts.map (Effect.mk i)
  version : l'.state.version = l.state.version
  /-- A writer that lives on fails no send. -/
  live : l.writeLeft = none → l'.writeLeft = none ∧ ¬ Failed acts
  /-- A writer that is gone takes nothing more. -/
  dead : l.writeLeft = some 0 → l'.writeLeft = some 0 ∧ ∀ a ∈ acts, a.tcp? = none
  fails : Failed acts → l'.writeLeft = some 0
  fits : ∀ a ∈ acts, a.Fits

theorem Link.After.refl (l : Link) (i : Nat) : l.After i [] l :=
  ⟨by simp, rfl, fun h => ⟨h, not_failed_nil⟩, fun h => ⟨h, by simp⟩,
    fun h => absurd h not_failed_nil, by simp⟩

theorem Link.After.trans {l l' l'' : Link} {i : Nat} {as bs : List Act} (h : l.After i as l')
    (h' : l'.After i bs l'') : l.After i (as ++ bs) l'' where
  out := by rw [h'.out, h.out, List.map_append, List.append_assoc]
  version := h'.version.trans h.version
  live := by
    intro hl
    obtain ⟨hl', has⟩ := h.live hl
    obtain ⟨hl'', hbs⟩ := h'.live hl'
    exact ⟨hl'', by rw [failed_append]; exact not_or.mpr ⟨has, hbs⟩⟩
  dead := by
    intro hl
    obtain ⟨hl', has⟩ := h.dead hl
    obtain ⟨hl'', hbs⟩ := h'.dead hl'
    refine ⟨hl'', fun a ha => ?_⟩
    rcases List.mem_append.mp ha with ha | ha
    · exact has a ha
    · exact hbs a ha
  fails := by
    intro hf
    rcases failed_append.mp hf with hf | hf
    · exact (h'.dead (h.fails hf)).1
    · exact h'.fails hf
  fits := by
    intro a ha
    rcases List.mem_append.mp ha with ha | ha
    · exact h.fits a ha
    · exact h'.fits a ha

/-- The link-level counters are nothing `After` looks at. -/
theorem Link.After.of_state {l l' : Link} {i : Nat} {acts : List Act} {st : MuxState}
    (h : ({ l with state := st } : Link).After i acts l') (hst : st.version = l.state.version) :
    l.After i acts l' :=
  ⟨h.out, h.version.trans hst, h.live, h.dead, h.fails, h.fits⟩

theorem Link.emit_after (l : Link) (i : Nat) {a : Act} (ha : a.isWrite = false) :
    l.After i [a] (l.emit i a) := by
  have hok : ¬ Failed [a] := by
    rintro ⟨e, he⟩
    rw [← List.mem_singleton.mp he] at ha
    cases ha
  refine ⟨rfl, rfl, fun h => ⟨h, hok⟩, fun h => ⟨h, ?_⟩, fun h => absurd h hok, ?_⟩
  · intro b hb
    rw [List.mem_singleton.mp hb]
    exact Act.tcp?_of_not_isWrite ha
  · intro b hb
    rw [List.mem_singleton.mp hb]
    exact Act.fits_of_not_isWrite ha

/-- An act that is done or not. -/
theorem Link.emit_if_after (l : Link) (i : Nat) (b : Bool) {a : Act} (ha : a.isWrite = false) :
    l.After i (if b then [a] else []) (if b then l.emit i a else l) := by
  cases b with
  | true => exact l.emit_after i ha
  | false => exact Link.After.refl l i

theorem writeTx_cases (l : Link) (i : Nat) {buf : Bytes} (hbuf : buf.length ≤ usbMtu) :
    (∃ l', writeTx l i buf = (.ok (), l') ∧ l.After i [.frame buf] l') ∨
      ∃ e l', writeTx l i buf = (.error e, l') ∧ l.After i [.sendFailed e] l' := by
  have hok : ¬ Failed [.frame buf] := by
    rintro ⟨e, he⟩
    cases List.mem_singleton.mp he
  have hfits : ∀ a ∈ [Act.frame buf], a.Fits := by
    intro a ha
    rw [List.mem_singleton.mp ha]
    exact hbuf
  cases hw : l.writeLeft with
  | none =>
      refine Or.inl ⟨l.emit i (.frame buf), by simp only [writeTx, hw], rfl, rfl,
        fun h => ⟨h, hok⟩, ?_, fun h => absurd h hok, hfits⟩
      intro h
      rw [hw] at h
      cases h
  | some left =>
      cases left with
      | zero =>
          refine Or.inr ⟨.writerGone, l.emit i (.sendFailed .writerGone),
            by simp only [writeTx, hw], rfl, rfl, ?_, fun h => ⟨h, ?_⟩, fun _ => hw, ?_⟩
          · intro h
            rw [hw] at h
            cases h
          · intro a ha
            rw [List.mem_singleton.mp ha]
            rfl
          · intro a ha
            rw [List.mem_singleton.mp ha]
            rfl
      | succ left =>
          refine Or.inl ⟨{ l.emit i (.frame buf) with writeLeft := some left },
            by simp only [writeTx, hw], rfl, rfl, ?_, ?_, fun h => absurd h hok, hfits⟩
          · intro h
            rw [hw] at h
            cases h
          · intro h
            rw [hw] at h
            cases h

/-! ### Sending one TCP frame -/

theorem sendTcp_eq {l : Link} {conn : Connection} {flags : UInt8} {payload : Bytes}
    (hv : l.state.version = 2) (hp : payload.length ≤ maxPayload) :
    sendTcp l conn flags payload =
      writeTx { l with state := { l.state with txSeq := l.state.txSeq + 1 } } conn.id
        (packetOf l.state (headerOf conn flags) payload) := by
  have hmtu : ¬ usbMtu < v2HeaderSize + (tcpBytes (headerOf conn flags)).length +
      payload.length := by
    rw [tcpBytes_length]
    unfold maxPayload usbMtu v2HeaderSize tcpHeaderSize at *
    omega
  have hsize : muxHeaderSize 2 = v2HeaderSize := rfl
  have hheader : tcpHeader conn flags = tcpBytes (headerOf conn flags) := rfl
  simp only [sendTcp, sendRaw, hheader, hv, hsize, if_neg hmtu, Bool.false_and,
    Bool.false_eq_true, ↓reduceIte, UInt8.le_refl]
  simp only [packetOf, tcpBytes_length, tcpHeaderSize, List.append_assoc]

/-- What a send of a frame without payload comes to: the frame, or a failure. -/
def Sent (conn : Connection) (flags : UInt8) (a : Act) : Prop :=
  a.tcp? = some (headerOf conn flags, []) ∨ ∃ e, a = .sendFailed e

theorem empty_fits : ([] : Bytes).length ≤ maxPayload := Nat.zero_le _

theorem sendTcp_cases {l : Link} (conn : Connection) (flags : UInt8) {payload : Bytes}
    (hv : l.state.version = 2) (hp : payload.length ≤ maxPayload) :
    (∃ a l', sendTcp l conn flags payload = (.ok (), l') ∧ l.After conn.id [a] l' ∧
        a.tcp? = some (headerOf conn flags, payload)) ∨
      ∃ e l', sendTcp l conn flags payload = (.error e, l') ∧
        l.After conn.id [.sendFailed e] l' := by
  have hbuf : (packetOf l.state (headerOf conn flags) payload).length ≤ usbMtu := by
    rw [packetOf_length]
    unfold maxPayload usbMtu v2HeaderSize tcpHeaderSize at *
    omega
  rw [sendTcp_eq hv hp]
  rcases writeTx_cases { l with state := { l.state with txSeq := l.state.txSeq + 1 } } conn.id
    hbuf with ⟨l', heq, h⟩ | ⟨e, l', heq, h⟩
  · exact Or.inl ⟨.frame (packetOf l.state (headerOf conn flags) payload), l', heq, h.of_state rfl,
      tcpOf_packetOf l.state (headerOf conn flags) payload⟩
  · exact Or.inr ⟨e, l', heq, h.of_state rfl⟩

theorem maxPayload_pos : 0 < maxPayload := by
  simp [maxPayload, usbMtu, v2HeaderSize, tcpHeaderSize]

/-- A frame without payload, whose outcome is looked at only through the log. -/
theorem Sent.spawn? {conn : Connection} {flags : UInt8} {a : Act} (h : Sent conn flags a) :
    a.spawn? = none := by
  rcases h with h | ⟨e, rfl⟩
  · obtain ⟨buf, rfl, -⟩ := Act.eq_frame_of_tcp? h
    rfl
  · rfl

theorem sendTcp_sent {l : Link} (conn : Connection) (flags : UInt8) (hv : l.state.version = 2) :
    ∃ a, l.After conn.id [a] (sendTcp l conn flags []).2 ∧ Sent conn flags a := by
  rcases sendTcp_cases conn flags hv empty_fits with
    ⟨a, l', heq, h, ha⟩ | ⟨e, l', heq, h⟩
  · exact ⟨a, by rw [heq]; exact h, Or.inl ha⟩
  · exact ⟨_, by rw [heq]; exact h, Or.inr ⟨e, rfl⟩⟩

/-! ### The flush as a chain of moves -/

/-- One thing a flush, or a single send, does to a connection. -/
inductive Move : Connection → List Act → Connection → Prop
  /-- An acknowledgement without payload. -/
  | frame {c : Connection} {a : Act} (ha : a.tcp? = some (headerOf c TcpFlags.ack, [])) :
      Move c [a] c
  /-- A data frame inside the device's window. -/
  | data {c : Connection} {k : Nat} {a : Act} (hpos : 0 < k) (hlen : k ≤ c.pendingTx.length)
      (hmax : k ≤ maxPayload) (hopen : c.txSeq - c.rxAck < c.rxWin)
      (hwin : k ≤ (c.rxWin - (c.txSeq - c.rxAck)).toNat)
      (ha : a.tcp? = some (headerOf c TcpFlags.ack, c.pendingTx.take k)) :
      Move c [a]
        { c with pendingTx := c.pendingTx.drop k, txSeq := c.txSeq + UInt32.ofNat k }
  /-- A send that fails; a data frame has left `pending_tx` by then. -/
  | failed {c : Connection} {e : IoError} (k : Nat) :
      Move c [.sendFailed e] { c with pendingTx := c.pendingTx.drop k }
  /-- The pump is let go on. -/
  | resume {c : Connection} (hp : c.txPause = true) (hlow : c.pendingTx.length < txLowWater) :
      Move c [.storePause false, .notifyOne] { c with txPause := false }
  /-- The pump is held back. -/
  | pause {c : Connection} (hhigh : txHighWater < c.pendingTx.length) :
      Move c [.storePause true] { c with txPause := true }

abbrev Moves := Star Move

/-- Moves touch nothing but the queue, the send counter and the pause flag. -/
theorem Move.fields {c c' : Connection} {acts : List Act} (h : Move c acts c') :
    ∃ pendingTx txSeq txPause, c' = { c with pendingTx, txSeq, txPause } := by
  cases h with
  | frame => exact ⟨_, _, _, rfl⟩
  | data => exact ⟨_, _, _, rfl⟩
  | failed => exact ⟨_, _, _, rfl⟩
  | resume => exact ⟨_, _, _, rfl⟩
  | pause => exact ⟨_, _, _, rfl⟩

theorem Moves.fields {c c' : Connection} {acts : List Act} (h : Moves c acts c') :
    ∃ pendingTx txSeq txPause, c' = { c with pendingTx, txSeq, txPause } := by
  refine Star.relates (Q := fun c c' =>
    ∃ pendingTx txSeq txPause, c' = { c with pendingTx, txSeq, txPause })
    ⟨_, _, _, rfl⟩ ?_ h
  rintro d os u ⟨p, q, b, rfl⟩ hm
  obtain ⟨p', q', b', rfl⟩ := hm.fields
  exact ⟨p', q', b', rfl⟩

/-- The same connection: the same Connect, and the same pair of ports. -/
def Connection.Same (c c' : Connection) : Prop :=
  c'.id = c.id ∧ c'.sport = c.sport ∧ c'.dport = c.dport

theorem Moves.same {c c' : Connection} {acts : List Act} (h : Moves c acts c') : c.Same c' := by
  obtain ⟨p, q, b, rfl⟩ := h.fields
  exact ⟨rfl, rfl, rfl⟩

theorem Moves.state {c c' : Connection} {acts : List Act} (h : Moves c acts c') :
    c'.state = c.state ∧ c'.rxTx = c.rxTx := by
  obtain ⟨p, q, b, rfl⟩ := h.fields
  exact ⟨rfl, rfl⟩

/-- The acts that moves consist of: nothing that reaches the client or its forwarder. -/
def Act.isSending : Act → Bool
  | .frame _ | .sendFailed _ | .storePause _ | .notifyOne => true
  | _ => false

theorem Moves.sending {c c' : Connection} {acts : List Act} (h : Moves c acts c') :
    ∀ a ∈ acts, a.isSending = true := by
  refine Star.forall_output (fun c os c' hm a ha => ?_) h
  cases hm with
  | frame ha' =>
      obtain ⟨buf, rfl, -⟩ := Act.eq_frame_of_tcp? ha'
      rw [List.mem_singleton.mp ha]
      rfl
  | data _ _ _ _ _ ha' =>
      obtain ⟨buf, rfl, -⟩ := Act.eq_frame_of_tcp? ha'
      rw [List.mem_singleton.mp ha]
      rfl
  | failed =>
      rw [List.mem_singleton.mp ha]
      rfl
  | resume =>
      rcases List.mem_cons.mp ha with rfl | ha'
      · rfl
      · rw [List.mem_singleton.mp ha']
        rfl
  | pause =>
      rw [List.mem_singleton.mp ha]
      rfl

/-- Where the loop of `flush_pending` stops: nothing is left, or the window is full. -/
def Connection.Flushed (c : Connection) : Prop :=
  c.pendingTx = [] ∨ c.rxWin ≤ c.txSeq - c.rxAck

/-- What the watermark check adds. -/
def Connection.Resumed (c : Connection) : Prop :=
  c.txPause = true → txLowWater ≤ c.pendingTx.length

/-- One turn of the flush loop, for the link and connection it starts with. -/
theorem flushTurn_cases {l : Link} {c : Connection} (hv : l.state.version = 2) :
    (flushTurn (l, c) = .leave (.ok (), l, c) ∧ c.Flushed) ∨
      (∃ e l' k,
        flushTurn (l, c) = .leave (.error e, l', { c with pendingTx := c.pendingTx.drop k }) ∧
          l.After c.id [.sendFailed e] l') ∨
      ∃ a l' c', flushTurn (l, c) = .again (l', c') ∧ l.After c.id [a] l' ∧ Move c [a] c' := by
  by_cases hnil : c.pendingTx.isEmpty = true
  · refine Or.inl ⟨by simp only [flushTurn, if_pos hnil], Or.inl ?_⟩
    exact List.isEmpty_iff.mp hnil
  by_cases hfull : c.rxWin ≤ c.txSeq - c.rxAck
  · exact Or.inl ⟨by simp only [flushTurn, if_neg hnil, if_pos hfull], Or.inr hfull⟩
  set k := min (min c.pendingTx.length maxPayload) (c.rxWin - (c.txSeq - c.rxAck)).toNat with hk
  have hopen : c.txSeq - c.rxAck < c.rxWin := UInt32.not_le.mp hfull
  have hpos : 0 < k := by
    have h1 : 0 < c.pendingTx.length := by
      rw [List.length_pos_iff]
      exact fun hc => hnil (List.isEmpty_iff.mpr hc)
    have h2 : 0 < (c.rxWin - (c.txSeq - c.rxAck)).toNat := by
      rw [UInt32.toNat_sub_of_le _ _ (UInt32.le_of_lt hopen)]
      exact Nat.sub_pos_of_lt hopen
    have := maxPayload_pos
    omega
  have hmax : (c.pendingTx.take k).length ≤ maxPayload := by
    rw [List.length_take]
    omega
  have hk0 := Nat.ne_of_gt hpos
  rcases sendTcp_cases { c with pendingTx := c.pendingTx.drop k } TcpFlags.ack hv hmax with
    ⟨a, l', heq, h, ha⟩ | ⟨e, l', heq, h⟩
  · refine Or.inr (Or.inr ⟨a, l', _, ?_, h, Move.data hpos ?_ ?_ hopen ?_ ha⟩)
    · simp only [flushTurn, if_neg hnil, if_neg hfull, ← hk, if_neg hk0, heq]
    all_goals omega
  · refine Or.inr (Or.inl ⟨e, l', k, ?_, h⟩)
    simp only [flushTurn, if_neg hnil, if_neg hfull, ← hk, if_neg hk0, heq]

/-- What the flush loop has reached after some turns. -/
def FlushReached (l : Link) (c : Connection) (s : Link × Connection) : Prop :=
  ∃ acts, l.After c.id acts s.1 ∧ Moves c acts s.2

/-- What a result `r` of the flush is, given when the source leaves with success. -/
def FlushResult (l : Link) (c : Connection) (Done : Connection → Prop)
    (r : Except IoError Unit × Link × Connection) : Prop :=
  ∃ acts, l.After c.id acts r.2.1 ∧ Moves c acts r.2.2 ∧
    ((r.1 = .ok () ∧ Done r.2.2) ∨ ((∃ e, r.1 = .error e) ∧ Failed acts))

theorem flushLoop_spec {l : Link} {c : Connection} (hv : l.state.version = 2) :
    FlushResult l c Connection.Flushed (flushLoop l c) := by
  refine whileLoop_induct (P := FlushReached l c) ?_ ?_ ⟨[], Link.After.refl l c.id, Star.refl⟩
  · rintro ⟨l₁, c₁⟩ ⟨l₂, c₂⟩ ⟨acts, hafter, hmoves⟩ hturn
    obtain ⟨p, q, b, rfl⟩ := hmoves.fields
    rcases flushTurn_cases (c := { c with pendingTx := p, txSeq := q, txPause := b })
      (hafter.version.trans hv) with ⟨heq, -⟩ | ⟨e, l', k, heq, -⟩ | ⟨a, l', c', heq, h, hm⟩
    · rw [heq] at hturn; cases hturn
    · rw [heq] at hturn; cases hturn
    · rw [heq] at hturn
      cases hturn
      exact ⟨acts ++ [a], hafter.trans h, hmoves.tail hm⟩
  · rintro ⟨l₁, c₁⟩ ⟨r, l₂, c₂⟩ ⟨acts, hafter, hmoves⟩ hturn
    obtain ⟨p, q, b, rfl⟩ := hmoves.fields
    rcases flushTurn_cases (c := { c with pendingTx := p, txSeq := q, txPause := b })
      (hafter.version.trans hv) with ⟨heq, hf⟩ | ⟨e, l', k, heq, h⟩ | ⟨a, l', c', heq, -, -⟩
    · rw [heq] at hturn
      cases hturn
      exact ⟨acts, hafter, hmoves, Or.inl ⟨rfl, hf⟩⟩
    · rw [heq] at hturn
      cases hturn
      exact ⟨acts ++ [.sendFailed e], hafter.trans h, hmoves.tail (Move.failed k),
        Or.inr ⟨⟨e, rfl⟩, e, by simp⟩⟩
    · rw [heq] at hturn; cases hturn

/-- **What a flush does.**  It is a chain of moves; when it succeeds it has stopped for
one of the loop's own reasons and done the watermark check. -/
theorem flushPending_spec {l : Link} {c : Connection} (hv : l.state.version = 2) :
    FlushResult l c (fun c' => c'.Flushed ∧ c'.Resumed) (flushPending l c) := by
  obtain ⟨acts, hafter, hmoves, hend⟩ := flushLoop_spec (l := l) (c := c) hv
  unfold flushPending
  generalize flushLoop l c = res at hafter hmoves hend ⊢
  obtain ⟨r, l₁, c₁⟩ := res
  rcases hend with ⟨hr, hf⟩ | ⟨⟨e, hr⟩, hfail⟩
  · simp only at hr hafter hmoves hf
    subst hr
    obtain ⟨p, q, b, rfl⟩ := hmoves.fields
    by_cases hres : b = true ∧ p.length < txLowWater
    · have hif : (b && decide (p.length < txLowWater)) = true := by simp [hres.1, hres.2]
      simp only [hif, ↓reduceIte]
      refine ⟨acts ++ [.storePause false, .notifyOne], hafter.trans ?_,
        hmoves.tail (Move.resume hres.1 hres.2), Or.inl ⟨rfl, hf, fun hc => by cases hc⟩⟩
      exact (l₁.emit_after c.id rfl).trans
        (Link.emit_after _ c.id rfl)
    · have hif : (b && decide (p.length < txLowWater)) = false := by
        simpa [Bool.and_eq_true] using hres
      simp only [hif, Bool.false_eq_true, ↓reduceIte]
      refine ⟨acts, hafter, hmoves, Or.inl ⟨rfl, hf, ?_⟩⟩
      intro hb
      by_contra hlow
      exact hres ⟨hb, Nat.lt_of_not_le hlow⟩
  · simp only at hr
    subst hr
    exact ⟨acts, hafter, hmoves, Or.inr ⟨⟨e, rfl⟩, hfail⟩⟩

end Netmuxd
