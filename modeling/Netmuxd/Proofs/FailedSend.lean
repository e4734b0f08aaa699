/-
What a failed send leaves behind.

When a send fails in one of the loop's own branches the loop takes the entry out.  In
`handle_incoming` the error is passed on from the middle of the branch, after the entry
has been changed, and the loop only logs it.  A drain notice has been booked by the time
its update is sent, and nobody looks at whether that send succeeds.  `Affordable` says
when none of this can happen: the writer takes all the frames the branch is going to
send, or the branch has nothing to change.
-/
import Netmuxd.Proofs.Addressing

namespace Netmuxd

open Lib

/-! ### Statement -/

/-- Apart from what the last packet's header said, the connection is as it was. -/
def Connection.AsBefore (c c' : Connection) : Prop :=
  c' = { c with rxSeq := c'.rxSeq, rxAck := c'.rxAck, rxWin := c'.rxWin }

/-- A send to the writer's queue fails in the step from `m` to `m'`. -/
def SendFails (m m' : Mux) : Prop :=
  ∃ new i e, m'.link.out = m.link.out ++ new ∧ (⟨i, .sendFailed e⟩ : Effect) ∈ new

/-- Entry `c` at `p` is as before and nothing has been delivered, or it has been taken out
and a Connect still waiting on it is answered with an error. -/
def Untouched (m : Mux) (p : UInt16) (c : Connection) (m' : Mux) : Prop :=
  ∃ acts, actsOf c.id m'.link.out = actsOf c.id m.link.out ++ acts ∧
    ((∃ c', m'.connections p = some c' ∧ c.AsBefore c' ∧ ∀ payload, Act.chunk payload ∉ acts) ∨
      (m'.connections p = none ∧ (c.connectReply = true → ∃ e, Act.reply (.error e) ∈ acts)))

structure Undone (m : Mux) (ev : Event) (m' : Mux) : Prop where
  listed : ∀ p c, m.connections p = some c → Untouched m p c m'
  /-- No connection appears. -/
  free : ∀ p, m.connections p = none → m'.connections p = none
  /-- A Connect taken in this step is answered with an error. -/
  connect : ∀ port, ev = .connect port →
    ∃ e, Act.reply (.error e) ∈ actsOf (m.ports.length + 1) m'.link.out

/-- A send that fails leaves no half-changed connection. -/
def FailsCleanly (m : Mux) (ev : Event) (m' : Mux) : Prop :=
  SendFails m m' → Undone m ev m'

/-- The frames a plain ACK has the loop send on an open connection: an ACK for its payload,
what the window now lets out, and the RST of a client that is gone. -/
def Connection.ackFrames (c : Connection) (th : ParsedTcp) (payload : Bytes) : Nat :=
  (if payload = [] then 0 else 1) + (c.hear th).flushFrames +
    if c.clientClosed = true ∧ c.pendingTx.length ≤ (c.hear th).room then 1 else 0

/-- The writer takes all the frames that are sent after an entry has been changed. -/
def Affordable (m : Mux) : Event → Prop
  | .drained p n => ∀ c, m.connections p = some c → c.UpdateDue n → m.link.Takes 1
  | .packet pkt alive =>
    ∀ th payload c, tcpOf pkt = some (th, payload) → m.connections th.dstPort = some c →
      (c.state = .connecting → th.flags = synAck → m.link.Takes 1) ∧
        (c.state = .connected → th.flags = TcpFlags.ack →
          (payload ≠ [] → (c.rxTx && alive c.id) = true) →
          m.link.Takes (c.ackFrames th payload) ∨
            (payload = [] ∧ c.pendingTx = [] ∧ c.txPause = false))
  | _ => True

/-! ### A plain ACK -/

theorem Link.Sends.of_state {l l' : Link} {i n : Nat} {st : MuxState}
    (h : ({ l with state := st } : Link).Sends i n l') (hst : st.version = l.state.version) :
    l.Sends i n l' := by
  obtain ⟨⟨acts, hafter, hok⟩, hleft⟩ := h
  exact ⟨⟨acts, hafter.of_state hst, hok⟩, hleft⟩

theorem tornDown_sends (c : Connection) (l : Link) : l.Sends c.id 0 (c.tornDown l) := by
  refine ⟨⟨c.tearActs, tornDown_after c l, ?_⟩, ?_⟩
  · rintro ⟨e, he⟩
    cases c.tearActs_local _ he
  · unfold Connection.tornDown
    split <;> split <;> simp [Link.emit]

/-- A flush with nothing to send only looks at the pause flag. -/
theorem flushPending_nil {l : Link} {c : Connection} (h : c.pendingTx = []) :
    (flushPending l c).2.2 = { c with txPause := false } := by
  have hloop : flushLoop l c = (.ok (), l, c) := by
    refine whileLoop_induct (P := fun s => s = (l, c))
      (Q := fun r => r = (Except.ok (), l, c)) ?_ ?_ rfl
    · rintro s s' rfl hturn
      simp [flushTurn, h] at hturn
    · rintro s r rfl hturn
      simp only [flushTurn, h, List.isEmpty_nil, ↓reduceIte, Turn.leave.injEq] at hturn
      exact hturn.symm
  unfold flushPending
  rw [hloop]
  cases hp : c.txPause with
  | true => simp [hp, h, txLowWater]
  | false =>
      have hsame : c = { c with txPause := false } := by
        cases c
        cases hp
        rfl
      simp only [hp, Bool.false_and, Bool.false_eq_true, ↓reduceIte]
      exact hsame

/-- A flush that fails has taken bytes out of the queue. -/
theorem flushPending_failed {l : Link} {c : Connection} (hv : l.state.version = 2)
    (h : ¬ l.Takes c.flushFrames) : ∃ e l' c' acts, flushPending l c = (.error e, l', c') ∧
      l.After c.id acts l' ∧ Failed acts ∧ c'.pendingTx.length < c.pendingTx.length := by
  obtain ⟨acts, hafter, -, hend⟩ := flushPending_spec (l := l) (c := c) hv
  obtain ⟨⟨e, hr⟩, hlen⟩ := (flushPending_takes hv).gone h
  generalize flushPending l c = res at hafter hend hr hlen
  obtain ⟨r, l', c'⟩ := res
  simp only at hr hlen hafter hend
  subst hr
  rcases hend with ⟨hok, -⟩ | ⟨-, hfail⟩
  · cases hok
  · exact ⟨e, l', c', acts, rfl, hafter, hfail, hlen⟩

/-- A flush that succeeds has sent what the window lets out. -/
theorem flushPending_ok {l : Link} {c : Connection} (hv : l.state.version = 2)
    (h : l.Takes c.flushFrames) : ∃ l' c', flushPending l c = (.ok (), l', c') ∧
      l.Sends c.id c.flushFrames l' ∧ c'.id = c.id ∧ c'.clientClosed = c.clientClosed ∧
      c'.pendingTx.length + c.sendable = c.pendingTx.length := by
  obtain ⟨acts, -, hmoves, -⟩ := flushPending_spec (l := l) (c := c) hv
  obtain ⟨hr, hsends, hlen⟩ := (flushPending_takes hv).taken h
  generalize flushPending l c = res at hmoves hr hsends hlen
  obtain ⟨r, l', c'⟩ := res
  simp only at hmoves hr hsends hlen
  subst hr
  obtain ⟨p, q, b, rfl⟩ := hmoves.fields
  exact ⟨l', _, rfl, hsends, rfl, rfl, hlen⟩

/-- The frames of the end of the plain-ACK branch. -/
def Connection.closingFrames (c : Connection) : Nat :=
  c.flushFrames + if c.clientClosed = true ∧ c.pendingTx.length ≤ c.room then 1 else 0

/-- The last branch before the RST of a client that is gone: everything has been sent. -/
theorem Connection.emptied_iff {c c' : Connection} (hclosed : c'.clientClosed = c.clientClosed)
    (hlen : c'.pendingTx.length + c.sendable = c.pendingTx.length) :
    (c'.clientClosed && txDrained c') = true ↔
      c.clientClosed = true ∧ c.pendingTx.length ≤ c.room := by
  rw [Bool.and_eq_true, hclosed]
  apply and_congr_right
  intro _
  rw [txDrained, List.isEmpty_iff_length_eq_zero]
  unfold Connection.sendable at hlen
  omega

theorem flushAndClose_takes {m : Mux} {l : Link} {c : Connection} (p : UInt16)
    (hv : l.state.version = 2) (h : l.Takes c.closingFrames) :
    ∃ n, l.Sends c.id n (flushAndClose m l c p).2.link := by
  have hflush : l.Takes c.flushFrames := h.mono (Nat.le_add_right _ _)
  obtain ⟨l', c', heq, hsends, hid, hclosed, hlen⟩ := flushPending_ok hv hflush
  unfold flushAndClose
  rw [heq]
  simp only
  by_cases hdone : (c'.clientClosed && txDrained c') = true
  · rw [if_pos hdone]
    have hone : c.closingFrames = c.flushFrames + 1 := by
      rw [Connection.closingFrames, if_pos ((Connection.emptied_iff hclosed hlen).mp hdone)]
    obtain ⟨l'', hrst, hsends'⟩ := sendTcp_takes (l := l') c' TcpFlags.rst
      (hsends.version.trans hv) empty_fits ((hsends.takes_iff hflush).mpr (hone ▸ h))
    rw [hrst]
    simp only
    rw [teardown_eq (c := c') (by simp)]
    rw [hid] at hsends'
    exact ⟨_, (hsends.trans hsends').trans (hid ▸ tornDown_sends c' l'')⟩
  · rw [if_neg hdone]
    exact ⟨_, hsends⟩

/-- Without the frames it needs, the branch leaves an entry that has changed. -/
theorem flushAndClose_gone {m : Mux} {l : Link} {c : Connection} {p : UInt16}
    (hv : l.state.version = 2) (h : ¬ l.Takes c.closingFrames) :
    ∃ c' acts, (flushAndClose m l c p).2.connections = Function.update m.connections p (some c') ∧
      l.After c.id acts (flushAndClose m l c p).2.link ∧ Failed acts ∧
      (c'.pendingTx.length < c.pendingTx.length ∨
        (c.pendingTx = [] ∧ c' = { c with txPause := false })) := by
  by_cases hflush : l.Takes c.flushFrames
  · obtain ⟨l', c', heq, hsends, hid, hclosed, hlen⟩ := flushPending_ok hv hflush
    have hdone : (c'.clientClosed && txDrained c') = true := by
      rw [Connection.emptied_iff hclosed hlen]
      by_contra hne
      rw [Connection.closingFrames, if_neg hne, Nat.add_zero] at h
      exact h hflush
    have hone : c.closingFrames = c.flushFrames + 1 := by
      rw [Connection.closingFrames, if_pos ((Connection.emptied_iff hclosed hlen).mp hdone)]
    obtain ⟨e, l'', hrst, hafter⟩ := sendTcp_gone (l := l') c' TcpFlags.rst
      (hsends.version.trans hv) empty_fits
      (fun htakes => h (hone ▸ (hsends.takes_iff hflush).mp htakes))
    obtain ⟨acts, hacts, -⟩ := hsends.after
    have hbranch : flushAndClose m l c p = (.error e, m.put l'' p c') := by
      unfold flushAndClose
      rw [heq]
      simp only [if_pos hdone, hrst]
    rw [hbranch]
    refine ⟨c', acts ++ [.sendFailed e], rfl, hacts.trans (hid ▸ hafter), ⟨e, by simp⟩, ?_⟩
    by_cases hnil : c.pendingTx = []
    · refine Or.inr ⟨hnil, ?_⟩
      have hsame := flushPending_nil (l := l) hnil
      rw [heq] at hsame
      exact hsame
    · have hpos := List.length_pos_iff.mpr hnil
      have hz : c'.pendingTx.length = 0 := by
        rw [List.length_eq_zero_iff]
        exact List.isEmpty_iff.mp (Bool.and_eq_true_iff.mp hdone).2
      exact Or.inl (by omega)
  · obtain ⟨e, l', c', acts, heq, hafter, hfail, hlen⟩ := flushPending_failed hv hflush
    have hbranch : flushAndClose m l c p = (.error e, m.put l' p c') := by
      unfold flushAndClose
      rw [heq]
    rw [hbranch]
    exact ⟨c', acts, rfl, hafter, hfail, Or.inl hlen⟩

/-- The entry keeps its queue and its window when a payload is delivered. -/
theorem Connection.closingFrames_accept (c : Connection) (th : ParsedTcp) (payload : Bytes) :
    (c.accept th payload).closingFrames = (c.hear th).closingFrames := by
  obtain ⟨t, b, h⟩ := c.accept_fields th payload
  rw [h]
  rfl

theorem Connection.ackFrames_nil (c : Connection) (th : ParsedTcp) {payload : Bytes}
    (h : payload = []) : c.ackFrames th payload = (c.hear th).closingFrames := by
  rw [Connection.ackFrames, if_pos h, Nat.zero_add]
  rfl

theorem Connection.ackFrames_cons (c : Connection) (th : ParsedTcp) {payload : Bytes}
    (h : payload ≠ []) : c.ackFrames th payload = 1 + (c.accept th payload).closingFrames := by
  rw [Connection.ackFrames, if_neg h, Nat.add_assoc, Connection.closingFrames_accept]
  rfl

theorem handleConnected_ack {m : Mux} {c : Connection} {th : ParsedTcp} {payload : Bytes}
    {alive : Bool} (hflags : th.flags = TcpFlags.ack)
    (hthere : payload ≠ [] → (c.rxTx && alive) = true) :
    handleConnected m alive (c.hear th) th payload =
      if payload = [] then flushAndClose m m.link (c.hear th) th.dstPort
      else
        match sendTcp (m.link.emit c.id (.chunk payload)) (c.accept th payload) TcpFlags.ack []
        with
        | (.error e, l) => (.error e, m.put l th.dstPort (c.accept th payload))
        | (.ok (), l) => flushAndClose m l (c.accept th payload) th.dstPort := by
  unfold handleConnected
  rw [if_neg (by rw [hflags]; decide), if_neg (not_not.mpr hflags)]
  by_cases hempty : payload = []
  · rw [if_pos (List.isEmpty_iff.mpr hempty), if_pos hempty]
  · rw [if_neg (fun h => hempty (List.isEmpty_iff.mp h)), if_neg hempty]
    have haccept : c.accept th payload = (c.hear th).deliver payload := by
      rw [Connection.accept, if_neg hempty]
    simp only [show ((c.hear th).rxTx && alive) = true from hthere hempty, ↓reduceIte, haccept]
    rfl

section
variable {m : Mux} {c : Connection} {th : ParsedTcp} {payload : Bytes} (alive : Bool)

theorem handleConnected_takes (hv : m.link.state.version = 2) (hflags : th.flags = TcpFlags.ack)
    (hthere : payload ≠ [] → (c.rxTx && alive) = true)
    (h : m.link.Takes (c.ackFrames th payload)) :
    ∃ n, m.link.Sends c.id n (handleConnected m alive (c.hear th) th payload).2.link := by
  rw [handleConnected_ack hflags hthere]
  by_cases hempty : payload = []
  · have hframes := c.ackFrames_nil th hempty
    rw [if_pos hempty]
    exact flushAndClose_takes th.dstPort hv (hframes ▸ h)
  · have hframes := c.ackFrames_cons th hempty
    rw [if_neg hempty]
    have hid := (c.accept_same th payload).1
    have hchunk := m.link.emit_sends c.id (a := .chunk payload) rfl
    obtain ⟨l, hack, hsends⟩ := sendTcp_takes (l := m.link.emit c.id (.chunk payload))
      (c.accept th payload) TcpFlags.ack hv empty_fits
      (h.mono (by omega))
    rw [hid] at hsends
    have hboth := hchunk.trans hsends
    rw [hack]
    obtain ⟨n, hrest⟩ := flushAndClose_takes (m := m) (l := l) th.dstPort
      (hboth.version.trans hv) ((hboth.takes_iff (h.mono (by omega))).mpr (by
        rw [Nat.zero_add, ← hframes]
        exact h))
    rw [hid] at hrest
    exact ⟨_, hboth.trans hrest⟩

theorem handleConnected_gone (hv : m.link.state.version = 2) (hflags : th.flags = TcpFlags.ack)
    (hthere : payload ≠ [] → (c.rxTx && alive) = true)
    (h : ¬ m.link.Takes (c.ackFrames th payload)) :
    ∃ c' acts, (handleConnected m alive (c.hear th) th payload).2.connections =
        Function.update m.connections th.dstPort (some c') ∧
      m.link.After c.id acts (handleConnected m alive (c.hear th) th payload).2.link ∧
      Failed acts ∧ (payload ≠ [] → Act.chunk payload ∈ acts) ∧
      (payload = [] → c'.pendingTx.length < c.pendingTx.length ∨
        (c.pendingTx = [] ∧ c' = { c.hear th with txPause := false })) := by
  rw [handleConnected_ack hflags hthere]
  by_cases hempty : payload = []
  · have hframes := c.ackFrames_nil th hempty
    rw [if_pos hempty]
    obtain ⟨c', acts, hconn, hafter, hfail, hchanged⟩ :=
      flushAndClose_gone (m := m) (p := th.dstPort) (c := c.hear th) hv (hframes ▸ h)
    exact ⟨c', acts, hconn, hafter, hfail, fun hne => absurd hempty hne, fun _ => hchanged⟩
  · have hframes := c.ackFrames_cons th hempty
    rw [if_neg hempty]
    have hid := (c.accept_same th payload).1
    have hchunk := m.link.emit_after c.id (a := .chunk payload) rfl
    by_cases hack : m.link.Takes 1
    · obtain ⟨l, hsent, hsends⟩ := sendTcp_takes (l := m.link.emit c.id (.chunk payload))
        (c.accept th payload) TcpFlags.ack hv empty_fits hack
      rw [hid] at hsends
      have hboth := (m.link.emit_sends c.id (a := .chunk payload) rfl).trans hsends
      rw [hsent]
      obtain ⟨c', acts, hconn, hafter, hfail, -⟩ := flushAndClose_gone (m := m) (p := th.dstPort)
        (c := c.accept th payload) (hboth.version.trans hv) (fun hl => h (by
          rw [hframes]
          exact (hboth.takes_iff hack).mp hl))
      obtain ⟨sent, hsent', -⟩ := hsends.after
      rw [hid] at hafter
      refine ⟨c', [.chunk payload] ++ sent ++ acts, hconn, (hchunk.trans hsent').trans hafter,
        failed_append.mpr (Or.inr hfail), fun _ => by simp, fun he => absurd he hempty⟩
    · obtain ⟨e, l, hgone, hafter⟩ := sendTcp_gone (l := m.link.emit c.id (.chunk payload))
        (c.accept th payload) TcpFlags.ack hv empty_fits hack
      rw [hid] at hafter
      rw [hgone]
      exact ⟨_, _, rfl, hchunk.trans hafter, ⟨e, by simp⟩, fun _ => by simp,
        fun he => absurd he hempty⟩

end

/-! ### The other branches -/

section
variable {m : Mux} {p : UInt16} {c : Connection}

theorem onRxData_bytes_ok {bytes : Bytes} {l : Link} {d : Connection}
    (hc : m.connections p = some c) (hs : c.state = .connected)
    (hflush : flushPending m.link (c.push bytes) = (.ok (), l, d)) :
    onRxData m p (some bytes) =
      if txHighWater < d.pendingTx.length then
        m.put (l.emit d.id (.storePause true)) p { d with txPause := true }
      else m.put l p d := by
  unfold Connection.push at hflush
  simp only [onRxData, hc]
  rw [if_neg (not_not.mpr hs), hflush]

theorem onRxData_bytes_error {bytes : Bytes} {e : IoError} {l : Link} {d : Connection}
    (hc : m.connections p = some c) (hs : c.state = .connected)
    (hflush : flushPending m.link (c.push bytes) = (.error e, l, d)) :
    onRxData m p (some bytes) = teardown (m.put l p d) p := by
  unfold Connection.push at hflush
  simp only [onRxData, hc]
  rw [if_neg (not_not.mpr hs), hflush]

theorem onRxData_none_ok {l : Link} {d : Connection} (hc : m.connections p = some c)
    (hs : c.state = .connected) (hflush : flushPending m.link c.close = (.ok (), l, d)) :
    onRxData m p none =
      if txDrained d then teardown (m.put (sendTcp l d TcpFlags.rst []).2 p d) p
      else m.put l p d := by
  unfold Connection.close at hflush
  simp only [onRxData, hc]
  rw [if_neg (not_not.mpr hs), hflush]

theorem onRxData_none_error {e : IoError} {l : Link} {d : Connection}
    (hc : m.connections p = some c) (hs : c.state = .connected)
    (hflush : flushPending m.link c.close = (.error e, l, d)) :
    onRxData m p none = teardown (m.put (sendTcp l d TcpFlags.rst []).2 p d) p := by
  unfold Connection.close at hflush
  simp only [onRxData, hc]
  rw [if_neg (not_not.mpr hs), hflush]

end

/-- An entry that client data or a client's close leaves in the map has lost no send. -/
theorem onRxData_kept {m : Mux} {p : UInt16} {payload : Option Bytes} {c c' : Connection}
    (hv : m.link.state.version = 2) (hc : m.connections p = some c)
    (hkept : (onRxData m p payload).connections p = some c') :
    ∃ n, m.link.Sends c.id n (onRxData m p payload).link := by
  have hgone : ∀ (l : Link) (d : Connection),
      (teardown (m.put l p d) p).connections p ≠ some c' := by
    intro l d
    rw [teardown_eq (c := d) (by simp)]
    simp
  by_cases hs : c.state = .connected
  · cases payload with
    | some bytes =>
        by_cases htakes : m.link.Takes (c.push bytes).flushFrames
        · obtain ⟨l, d, heq, hsends, hid, -⟩ := flushPending_ok hv htakes
          rw [onRxData_bytes_ok hc hs heq]
          split
          · have hpause := l.emit_sends c.id (a := .storePause true) rfl
            rw [hid]
            exact ⟨_, hsends.trans hpause⟩
          · exact ⟨_, hsends⟩
        · obtain ⟨e, l, d, acts, heq, -⟩ := flushPending_failed hv htakes
          rw [onRxData_bytes_error hc hs heq] at hkept
          exact absurd hkept (hgone _ _)
    | none =>
        by_cases htakes : m.link.Takes c.close.flushFrames
        · obtain ⟨l, d, heq, hsends, hid, -⟩ := flushPending_ok hv htakes
          rw [onRxData_none_ok hc hs heq] at hkept ⊢
          by_cases hdr : txDrained d = true
          · rw [if_pos hdr] at hkept
            exact absurd hkept (hgone _ _)
          · rw [if_neg hdr]
            exact ⟨_, hsends⟩
        · obtain ⟨e, l, d, acts, heq, -⟩ := flushPending_failed hv htakes
          rw [onRxData_none_error hc hs heq] at hkept
          exact absurd hkept (hgone _ _)
  · have hsame : onRxData m p payload = m := by
      simp only [onRxData, hc, ne_eq, hs, not_false_eq_true, ↓reduceIte]
    rw [hsame]
    exact ⟨0, Link.Sends.refl m.link c.id⟩

theorem onDrained_takes {m : Mux} {p : UInt16} {n : UInt32} {c : Connection}
    (hv : m.link.state.version = 2) (hc : m.connections p = some c)
    (h : c.UpdateDue n → m.link.Takes 1) : ∃ k, m.link.Sends c.id k (onDrained m p n).link := by
  rw [onDrained_eq hc]
  by_cases hdue : c.UpdateDue n
  · obtain ⟨l, hack, hsends⟩ := sendTcp_takes (c.drain n) TcpFlags.ack hv
      empty_fits (h hdue)
    rw [if_pos hdue, hack]
    exact ⟨1, hsends⟩
  · rw [if_neg hdue]
    exact ⟨0, Link.Sends.refl m.link c.id⟩

theorem handleConnecting_takes {m : Mux} {c : Connection} {th : ParsedTcp} (payload : Bytes)
    (hv : m.link.state.version = 2) (hflags : th.flags = synAck) (h : m.link.Takes 1) :
    ∃ n, m.link.Sends c.id n (handleConnecting m (c.hear th) th payload).2.link := by
  obtain ⟨l, hack, hsends⟩ := sendTcp_takes { c.hear th with
    txSeq := (c.hear th).txSeq + 1, txAck := (c.hear th).txAck + 1 } TcpFlags.ack hv empty_fits h
  have hspawn := hsends.trans (l.emit_sends c.id (a := .spawn c.sport) rfl)
  rw [handleConnecting, if_pos (by exact hflags)]
  simp only [hack]
  split
  · exact ⟨_, hspawn.trans (Link.emit_sends _ c.id (a := .reply (.ok ())) rfl)⟩
  · exact ⟨_, hspawn⟩

/-! ### A step -/

/-- An entry that goes leaves no Connect waiting. -/
theorem Reacts.answers {c : Connection} {cev : ConnEvent} {acts : List Act}
    (hr : Reacts c cev acts none) (hreply : c.connectReply = true) :
    ∃ e, Act.reply (.error e) ∈ acts := by
  have htear : ∀ d : Connection, d.connectReply = true →
      Act.reply (.error .refusedOrClosed) ∈ d.tearActs := by
    intro d hd
    simp [Connection.tearActs, hd]
  have hmoves : ∀ {d d' : Connection} {as : List Act}, Moves d as d' → d.connectReply = true →
      d'.connectReply = true := by
    intro d d' as hm hd
    obtain ⟨p, q, b, rfl⟩ := hm.fields
    exact hd
  cases hr with
  | dataFailed _ hm _ => exact ⟨_, List.mem_append_right _ (htear _ (hmoves hm hreply))⟩
  | closeDone _ hm _ _ => exact ⟨_, List.mem_append_right _ (htear _ (hmoves hm hreply))⟩
  | closeFailed _ hm _ _ => exact ⟨_, List.mem_append_right _ (htear _ (hmoves hm hreply))⟩
  | refused =>
      rw [if_pos hreply]
      exact ⟨_, List.mem_append_left _ (List.mem_cons_self ..)⟩
  | reset => exact ⟨_, htear c hreply⟩
  | undelivered => exact ⟨_, List.mem_append_right _ (htear c hreply)⟩
  | ackedDone _ _ _ hm _ _ _ =>
      refine ⟨_, List.mem_append_right _ (htear _ (hmoves hm ?_))⟩
      obtain ⟨t, b, heq⟩ := c.accept_fields _ _
      rw [heq]
      exact hreply
  | closing => exact ⟨_, List.mem_append_right _ (htear c hreply)⟩

theorem Connection.AsBefore.queue {c c' : Connection} (h : c.AsBefore c') :
    c'.pendingTx = c.pendingTx ∧ c'.txPause = c.txPause := by
  unfold Connection.AsBefore at h
  rw [h]
  exact ⟨rfl, rfl⟩

/-- A bare ACK delivers nothing. -/
theorem Reacts.no_chunk {c c' : Connection} {th : ParsedTcp} {alive : Bool} {acts : List Act}
    (hr : Reacts c (.packet th [] alive) acts (some c')) (hs : c.state = .connected) :
    ∀ payload, Act.chunk payload ∉ acts := by
  intro payload hmem
  have hmoves : ∀ {d d' : Connection} {as : List Act}, Moves d as d' →
      Act.chunk payload ∉ chunkActs [] ++ as := by
    intro d d' as hm hin
    rw [chunkActs, if_pos rfl, List.nil_append] at hin
    cases hm.sending _ hin
  cases hr with
  | accepted hs' => rw [hs] at hs'; cases hs'
  | acceptFailed hs' => rw [hs] at hs'; cases hs'
  | acked _ _ _ hm => exact hmoves hm hmem
  | ackedFailed _ _ _ hm => exact hmoves hm hmem
  | unheard hs' => rw [hs] at hs'; cases hs'

/-- Only the entry concerned is at stake, and only if it stays. -/
theorem Outcome.fails_cleanly_iff {live : Prop} {m m' : Mux} {ev : Event} {p : UInt16}
    {c : Connection} {cev : ConnEvent} {acts : List Act} {r : Option Connection}
    (hm : m.Lives live) (hc : m.connections p = some c) (hev : ∀ port, ev ≠ .connect port)
    (hr : Reacts c cev acts r) (hout : Outcome m p c acts r m') :
    FailsCleanly m ev m' ↔ (Failed acts → ∀ c', r = some c' →
      c.AsBefore c' ∧ ∀ payload, Act.chunk payload ∉ acts) := by
  have hfails : SendFails m m' ↔ Failed acts := by
    constructor
    · rintro ⟨new, i, e, hnew, hmem⟩
      rw [hout.link.out] at hnew
      rw [← List.append_cancel_left hnew] at hmem
      obtain ⟨a, ha, heq⟩ := List.mem_map.mp hmem
      cases heq
      exact ⟨e, ha⟩
    · rintro ⟨e, he⟩
      exact ⟨_, c.id, e, hout.link.out, List.mem_map_of_mem he⟩
  have hhere : m'.connections p = r := by
    rw [hout.connections, Function.update_self]
  constructor
  · intro hclean hfail c' hstay
    obtain ⟨new, hnew, hend⟩ := (hclean (hfails.mpr hfail)).listed p c hc
    rw [hout.link.acts_self] at hnew
    rw [← List.append_cancel_left hnew, hhere, hstay] at hend
    rcases hend with ⟨d, hd, hbefore, hchunk⟩ | ⟨hnone, -⟩
    · cases hd
      exact ⟨hbefore, hchunk⟩
    · cases hnone
  · intro hstays hfail
    refine ⟨?_, ?_, fun port h => absurd h (hev port)⟩
    · intro q d hd
      by_cases hq : q = p
      · subst hq
        rw [hc] at hd
        cases hd
        refine ⟨acts, hout.link.acts_self, ?_⟩
        rw [hhere]
        cases r with
        | none => exact Or.inr ⟨rfl, fun hreply => hr.answers hreply⟩
        | some c' => exact Or.inl ⟨c', rfl, hstays (hfails.mp hfail) c' rfl⟩
      · have hne : c.id ≠ d.id := by
          intro hid
          have hentry := hm.ok.entry_of hd
          rw [← hid, hm.ok.entry_of hc] at hentry
          cases hentry
          exact hq ((hm.ok.entry q _ hd).1.symm.trans (hm.ok.entry p _ hc).1)
        refine ⟨[], by rw [hout.link.acts_ne hne, List.append_nil], Or.inl ⟨d, ?_, rfl, by simp⟩⟩
        rw [hout.connections, Function.update_of_ne hq, hd]
    · intro q hq
      rw [hout.connections, Function.update_of_ne, hq]
      intro heq
      rw [heq, hc] at hq
      cases hq

/-- A handled packet, apart from the link-level number recorded first. -/
theorem Mux.Step.packet_handled {m m' : Mux} {pkt : Bytes} {alive : Nat → Bool} {th : ParsedTcp}
    {payload : Bytes} (h : m.Step (.packet pkt alive) m') (hv : m.link.state.version = 2)
    (htcp : tcpOf pkt = some (th, payload)) :
    ∃ s : MuxState, s.version = m.link.state.version ∧
      m' = (handleTcp { m with link := { m.link with state := s } } alive th payload).2 := by
  obtain ⟨-, rfl⟩ := h.eq_handle
  obtain ⟨s, hs, heq⟩ := onPacket_eq m alive pkt
  refine ⟨s, hs, ?_⟩
  show onPacket m alive pkt = _
  rw [heq, handleIncoming]
  simp only [hs, hv, splitTcp_of_tcpOf htcp]

theorem handleTcp_connected {m : Mux} {th : ParsedTcp} {c : Connection} (alive : Nat → Bool)
    (s : MuxState) (payload : Bytes) (hc : m.connections th.dstPort = some c)
    (hs : c.state = .connected) :
    handleTcp { m with link := { m.link with state := s } } alive th payload =
      handleConnected { m with link := { m.link with state := s } } (alive c.id) (c.hear th) th
        payload := by
  simp only [handleTcp, hc, hs, Connection.hear]

/-- A packet for an entry that is being opened. -/
theorem Mux.Lives.syn_cleanly_iff {live : Prop} {m m' : Mux} {pkt : Bytes} {alive : Nat → Bool}
    {th : ParsedTcp} {payload : Bytes} {c : Connection} (hm : m.Lives live)
    (h : m.Step (.packet pkt alive) m') (htcp : tcpOf pkt = some (th, payload))
    (hc : m.connections th.dstPort = some c) (hs : c.state = .connecting) :
    FailsCleanly m (.packet pkt alive) m' ↔ (th.flags = synAck → m.link.Takes 1) := by
  obtain ⟨acts, r, hr, hout⟩ := h.packet_reacts hm.ok.version htcp hc
  rw [hout.fails_cleanly_iff hm hc (by simp) hr]
  have hv := hm.ok.version
  by_cases hflags : th.flags = synAck
  · by_cases htakes : m.link.Takes 1
    · refine iff_of_true (fun hfail => absurd hfail ?_) fun _ => htakes
      obtain ⟨s, hst, rfl⟩ := h.packet_handled hv htcp
      have hbranch : handleTcp { m with link := { m.link with state := s } } alive th payload =
          handleConnecting { m with link := { m.link with state := s } } (c.hear th) th
            payload := by
        simp only [handleTcp, hc, hs, Connection.hear]
      obtain ⟨n, hsends⟩ := handleConnecting_takes payload
        (m := { m with link := { m.link with state := s } }) (c := c) (hst.trans hv) hflags htakes
      rw [← hbranch] at hsends
      exact (hsends.of_state hst).not_failed hout.link
    · refine iff_of_false ?_ fun h => htakes (h hflags)
      rw [Link.takes_one_iff, not_not] at htakes
      intro hstays
      rcases hr.syn hs hflags with ⟨-, a, ha, hacts⟩ | ⟨rfl, e, rfl⟩
      · rw [(hout.link.dead htakes).2 a (by simp [hacts])] at ha
        cases ha
      · -- the counters have been raised for an ACK that was never sent
        have hbefore := (hstays ⟨e, List.mem_singleton_self _⟩ _ rfl).1
        have hseq : c.txSeq + 1 = c.txSeq := congrArg Connection.txSeq hbefore
        have hnat := congrArg UInt32.toNat hseq
        have hlt := c.txSeq.toNat_lt
        rw [UInt32.toNat_add, UInt32.toNat_one] at hnat
        omega
  · refine iff_of_true (fun _ c' hstay => ?_) fun h => absurd h hflags
    subst hstay
    have := (hr.stays (hm.not_dead hc)).2
    rw [if_pos hs] at this
    exact absurd this hflags

/-- A packet for an open entry. -/
theorem Mux.Lives.ack_cleanly_iff {live : Prop} {m m' : Mux} {pkt : Bytes} {alive : Nat → Bool}
    {th : ParsedTcp} {payload : Bytes} {c : Connection} (hm : m.Lives live)
    (h : m.Step (.packet pkt alive) m') (htcp : tcpOf pkt = some (th, payload))
    (hc : m.connections th.dstPort = some c) (hs : c.state = .connected) :
    FailsCleanly m (.packet pkt alive) m' ↔ (th.flags = TcpFlags.ack →
      (payload ≠ [] → (c.rxTx && alive c.id) = true) →
      m.link.Takes (c.ackFrames th payload) ∨
        (payload = [] ∧ c.pendingTx = [] ∧ c.txPause = false)) := by
  obtain ⟨acts, r, hr, hout⟩ := h.packet_reacts hm.ok.version htcp hc
  rw [hout.fails_cleanly_iff hm hc (by simp) hr]
  have hv := hm.ok.version
  by_cases hstay : r = none
  · -- the entry is gone: nothing to show, and it did not go for want of a frame
    subst hstay
    refine iff_of_true (fun _ c' h => by cases h) fun hflags hthere => ?_
    by_contra hne
    obtain ⟨hne, -⟩ := not_or.mp hne
    obtain ⟨s, hst, rfl⟩ := h.packet_handled hv htcp
    have hbranch := handleTcp_connected alive s payload hc hs
    obtain ⟨c', as, hconn, -⟩ := handleConnected_gone (alive c.id)
      (m := { m with link := { m.link with state := s } }) (hst.trans hv) hflags hthere hne
    rw [← hbranch, hout.connections] at hconn
    have := congrFun hconn th.dstPort
    simp at this
  obtain ⟨c', rfl⟩ := Option.ne_none_iff_exists'.mp hstay
  have hflags : th.flags = TcpFlags.ack := by
    have := (hr.stays (hm.not_dead hc)).2
    rwa [if_neg (by simp [hs])] at this
  have hthere : payload ≠ [] → (c.rxTx && alive c.id) = true := by
    cases hr with
    | acked _ _ hthere => exact hthere
    | ackedFailed _ _ hthere => exact hthere
    | accepted hs' => rw [hs] at hs'; cases hs'
    | acceptFailed hs' => rw [hs] at hs'; cases hs'
    | unheard hs' => rw [hs] at hs'; cases hs'
  obtain ⟨s, hst, rfl⟩ := h.packet_handled hv htcp
  have hbranch := handleTcp_connected alive s payload hc hs
  by_cases htakes : m.link.Takes (c.ackFrames th payload)
  · refine iff_of_true (fun hfail => absurd hfail ?_) fun _ _ => Or.inl htakes
    obtain ⟨n, hsends⟩ := handleConnected_takes (alive c.id)
      (m := { m with link := { m.link with state := s } }) (hst.trans hv) hflags hthere htakes
    rw [← hbranch] at hsends
    exact (hsends.of_state hst).not_failed hout.link
  · obtain ⟨d, as, hconn, hafter, hfail, hchunk, hchanged⟩ := handleConnected_gone
      (alive c.id) (m := { m with link := { m.link with state := s } }) (hst.trans hv)
      hflags hthere htakes
    rw [← hbranch] at hconn hafter
    obtain rfl : acts = as := hout.link.unique (hafter.of_state hst)
    obtain rfl : d = c' := by
      rw [hout.connections] at hconn
      have := congrFun hconn th.dstPort
      simpa using this.symm
    constructor
    · intro hstays _ _
      obtain ⟨hbefore, hnone⟩ := hstays hfail _ rfl
      have hempty : payload = [] := by
        by_contra hne
        exact hnone payload (hchunk hne)
      obtain ⟨hpending, hpause⟩ := hbefore.queue
      rcases hchanged hempty with hlt | ⟨hnil, hd⟩
      · rw [hpending] at hlt
        exact absurd hlt (Nat.lt_irrefl _)
      · exact Or.inr ⟨hempty, hnil, by rw [← hpause, hd]⟩
    · intro hafford _ c' hc'
      cases hc'
      obtain ⟨hempty, hnil, hpause⟩ := (hafford hflags hthere).resolve_left htakes
      rcases hchanged hempty with hlt | ⟨-, hd⟩
      · rw [hnil] at hlt
        exact absurd hlt (Nat.not_lt_zero _)
      · subst hempty
        refine ⟨?_, hr.no_chunk hs⟩
        rw [hd]
        simp [Connection.AsBefore, Connection.hear, hpause]

/-- A drain notice for a listed entry. -/
theorem Mux.Lives.drain_cleanly_iff {live : Prop} {m m' : Mux} {p : UInt16} {n : UInt32}
    {c : Connection} (hm : m.Lives live) (h : m.Step (.drained p n) m')
    (hc : m.connections p = some c) :
    FailsCleanly m (.drained p n) m' ↔ (c.UpdateDue n → m.link.Takes 1) := by
  have hv := hm.ok.version
  obtain ⟨-, rfl⟩ := h.eq_handle
  obtain ⟨acts, r, hr, hout⟩ := onDrained_reacts hv hc n
  rw [show m.handle (.drained p n) = onDrained m p n from rfl,
    hout.fails_cleanly_iff hm hc (by simp) hr]
  by_cases hpays : c.UpdateDue n → m.link.Takes 1
  · refine iff_of_true (fun hfail => absurd hfail ?_) hpays
    obtain ⟨k, hsends⟩ := onDrained_takes hv hc hpays
    exact hsends.not_failed hout.link
  · refine iff_of_false ?_ hpays
    obtain ⟨hdue, htakes⟩ := Classical.not_imp.mp hpays
    rw [Link.takes_one_iff, not_not] at htakes
    intro hstays
    cases hr with
    | drained hnot => exact hnot hdue
    | drainedUpdate _ ha =>
        rcases ha with ha | ⟨e, rfl⟩
        · rw [(hout.link.dead htakes).2 _ (by simp)] at ha
          cases ha
        · -- the notice has been booked, but the device never hears of the space
          have hbefore := (hstays ⟨e, by simp⟩ _ rfl).1
          have hfree : (c.drain n).free = c.free := by
            unfold Connection.free
            rw [show (c.drain n).rxBuffered = c.rxBuffered from
              congrArg Connection.rxBuffered hbefore]
          have hlt := UInt32.lt_iff_toNat_lt.mp hdue.2.1
          have hle := UInt32.le_iff_toNat_le.mp hdue.2.2
          rw [hfree] at hle
          omega

/-- A packet for a listed entry. -/
theorem Mux.Lives.packet_cleanly_iff {live : Prop} {m m' : Mux} {pkt : Bytes}
    {alive : Nat → Bool} {th : ParsedTcp} {payload : Bytes} {c : Connection} (hm : m.Lives live)
    (h : m.Step (.packet pkt alive) m') (htcp : tcpOf pkt = some (th, payload))
    (hc : m.connections th.dstPort = some c) :
    FailsCleanly m (.packet pkt alive) m' ↔ Affordable m (.packet pkt alive) := by
  constructor
  · intro hclean th' payload' c' htcp' hc'
    rw [htcp] at htcp'
    cases htcp'
    rw [hc] at hc'
    cases hc'
    exact ⟨fun hs => (hm.syn_cleanly_iff h htcp hc hs).mp hclean,
      fun hs => (hm.ack_cleanly_iff h htcp hc hs).mp hclean⟩
  · intro hafford
    obtain ⟨hsyn, hack⟩ := hafford th payload c htcp hc
    cases hs : c.state with
    | connecting => exact (hm.syn_cleanly_iff h htcp hc hs).mpr (hsyn hs)
    | connected => exact (hm.ack_cleanly_iff h htcp hc hs).mpr (hack hs)
    | dead => exact absurd hs (hm.not_dead hc)

theorem Mux.Lives.fails_cleanly_iff {live : Prop} {m m' : Mux} {ev : Event} (hm : m.Lives live)
    (h : m.Step ev m') : FailsCleanly m ev m' ↔ Affordable m ev := by
  have hv := hm.ok.version
  rcases h.change hv with
    ⟨hev, -, hidle, hconn, hlink, hp, hnext⟩ | ⟨rfl, ha, hconn, hlink, hold, hp, hnext⟩ |
      ⟨rfl, hconn, hlink, hp, hnext⟩ | ⟨hc, htarget, hcev, hr, hout⟩
  · refine iff_of_true (fun _ => ⟨?_, ?_, fun port h => absurd h (hev port)⟩) ?_
    · intro p c hc
      have hpos := (hm.ok.entry p c hc).2.1
      refine ⟨[], by rw [hlink.acts_ne (by omega), List.append_nil], Or.inl ⟨c, ?_, rfl, by simp⟩⟩
      rw [hconn, hc]
    · intro p hnone
      rw [hconn, hnone]
    · cases ev with
      | drained p n =>
          intro c hc
          rw [hidle p rfl] at hc
          cases hc
      | packet pkt alive =>
          intro th payload c htcp hc
          rw [hidle _ (by simp [Event.target, htcp])] at hc
          cases hc
      | _ => trivial
  · rename_i port a l _
    refine iff_of_true (fun hfail => absurd hfail ?_) trivial
    obtain ⟨j, acts, hafter, -, hok⟩ := hold.after
    rintro ⟨new, i, e, hnew, hmem⟩
    rw [hafter.out, hlink.out, List.append_assoc] at hnew
    rw [← List.append_cancel_left hnew] at hmem
    rcases List.mem_append.mp hmem with hsyn | hdrop
    · obtain ⟨b, hb, heq⟩ := List.mem_map.mp hsyn
      cases heq
      rw [← List.mem_singleton.mp hb] at ha
      cases ha
    · obtain ⟨b, hb, heq⟩ := List.mem_map.mp hdrop
      cases heq
      exact hok ⟨e, hb⟩
  · refine iff_of_true (fun _ => ⟨?_, ?_, ?_⟩) trivial
    · intro p c hc
      have hle := hm.ok.id_le hc
      refine ⟨[], by rw [hlink.acts_ne (by omega), List.append_nil], Or.inl ⟨c, ?_, rfl, by simp⟩⟩
      rw [hconn, hc]
    · intro p hnone
      rw [hconn, hnone]
    · intro port _
      rw [hlink.acts_self]
      exact ⟨_, List.mem_append_right _ (List.mem_cons_of_mem _ (List.mem_singleton_self _))⟩
  · rename_i p c cev acts r
    have hquiet : (∀ c', r = some c' → ¬ Failed acts) → (∀ port, ev ≠ .connect port) →
        Affordable m ev → (FailsCleanly m ev m' ↔ Affordable m ev) := by
      intro hkept hev hafford
      refine iff_of_true ?_ hafford
      rw [hout.fails_cleanly_iff hm hc hev hr]
      intro hfail c' hstay
      exact absurd hfail (hkept c' hstay)
    cases ev with
    | connect port => cases htarget
    | stop order => cases htarget
    | drained q n =>
        cases htarget
        rw [hm.drain_cleanly_iff h hc]
        constructor
        · intro hpays c' hc'
          rw [hc] at hc'
          cases hc'
          exact hpays
        · intro hpays
          exact hpays c hc
    | rxData q payload =>
        cases htarget
        refine hquiet ?_ (by simp) trivial
        intro c' hstay
        obtain ⟨-, rfl⟩ := h.eq_handle
        obtain ⟨n, hsends⟩ := onRxData_kept hv hc
          (by
            show (m.handle (.rxData p payload)).connections p = _
            rw [hout.connections, Function.update_self, hstay])
        exact hsends.not_failed hout.link
    | closeNext =>
        refine hquiet ?_ (by simp) trivial
        intro c' hstay
        simp only [Event.forConn, Option.some.injEq] at hcev
        subst hcev hstay
        cases hr
    | packet pkt alive =>
        obtain ⟨⟨th, payload⟩, htcp, rfl⟩ := Option.map_eq_some_iff.mp htarget
        exact hm.packet_cleanly_iff h htcp hc

/-- **When a failed send is clean.**  In every step of every run it is, if and only if the
writer takes all the frames that are sent after an entry has been changed. -/
theorem failed_sends_are_clean {left : Option Nat} {reply : Bytes} {link : Link}
    {tr : List (Mux × Event × Mux)} {m : Mux} (hs : handshake left reply = .ok link)
    (h : Run Mux.Step (Mux.start link) tr m) :
    EveryStep (fun m ev m' => FailsCleanly m ev m' ↔ Affordable m ev) tr := by
  obtain ⟨hfresh, hwriter⟩ := handshake_fresh hs
  refine h.everyStep_of (C := fun _ _ _ => True) (P := Mux.Lives (left = none))
    (Mux.Lives.start hfresh hwriter) (fun _ _ _ hm hstep _ => hm.step hstep) ?_
    (fun _ _ => trivial)
  intro s ev s' hm hstep _
  exact hm.fails_cleanly_iff hstep

/-! ### A writer that dies -/

/-- The link after the handshake, for a writer that takes one more frame. -/
def dyingLink : Link :=
  { freshLink with writeLeft := some 1 }

theorem handshake_dying : handshake (some 3) versionReply = .ok dyingLink := rfl

/-- The device accepts a connection, and there is nobody to send the last ACK. -/
def lastFrame : List Event :=
  [.connect 62078, .packet (packetOf {} ⟨62078, 1, 0, 1, synAck, 512⟩ []) fun _ => true]

/-- **A failed send can leave a half-opened connection.**  The entry is still connecting
and its Connect still waits, but its counters have moved on. -/
theorem failed_send_half_opens : ∃ tr m, Run Mux.Step (Mux.start dyingLink) tr m ∧
    tr.map (fun t => t.2.1) = lastFrame ∧ ¬ EveryStep FailsCleanly tr ∧
    ∃ c, m.connections 1 = some c ∧ c.state = .connecting ∧ c.connectReply = true ∧
      c.txSeq = 1 ∧ c.txAck = 1 := by
  obtain ⟨hfresh, -⟩ := handshake_fresh handshake_dying
  have hstart : (Mux.start dyingLink).Lives False := Mux.Lives.start hfresh fun h => h.elim
  have hstep : (Mux.start dyingLink).Step (.connect 62078)
      (onConnect (Mux.start dyingLink) 62078) := ⟨rfl, trivial⟩
  have hlives := hstart.step hstep
  have hpacket : (onConnect (Mux.start dyingLink) 62078).Step
      (.packet (packetOf {} ⟨62078, 1, 0, 1, synAck, 512⟩ []) fun _ => true) _ := ⟨rfl, trivial⟩
  refine ⟨_, _, (Run.single hstep).snoc hpacket, rfl, ?_, _, rfl, rfl, rfl, rfl, rfl⟩
  rw [everyStep_snoc]
  rintro ⟨-, hclean⟩
  have htakes := (hlives.syn_cleanly_iff hpacket (tcpOf_packetOf _ _ _)
    (c := Connection.new 1 1 62078) rfl rfl).mp hclean rfl
  exact absurd (htakes 0 rfl) (by decide)

/-- The writer dies at the acceptance, and another Connect comes. -/
def afterLastFrame : Mux :=
  (exec Mux.next (Mux.start dyingLink) (lastFrame ++ [.connect 62078])).getD (Mux.start dyingLink)

/-- The first Connect still waits, which is not clean, and the second is answered with an
error. -/
theorem lastFrame_fails : ∃ tr, Run Mux.Step (Mux.start dyingLink) tr afterLastFrame ∧
    tr.map (fun t => t.2.1) = lastFrame ++ [.connect 62078] ∧
    afterLastFrame.link.writeLeft = some 0 ∧
    (∃ c, afterLastFrame.connections 1 = some c ∧ c.connectReply = true) ∧
    (∃ e, Act.reply (.error e) ∈ actsOf 2 afterLastFrame.link.out) ∧
    EveryStep (fun m ev m' => FailsCleanly m ev m' ↔ Affordable m ev) tr := by
  have hexec : exec Mux.next (Mux.start dyingLink) (lastFrame ++ [.connect 62078]) =
      some afterLastFrame := rfl
  obtain ⟨tr, hrun, hmap⟩ := Mux.run_of_exec (by simp [lastFrame]) hexec
  exact ⟨tr, hrun, hmap, rfl, ⟨_, rfl, rfl⟩, ⟨_, List.mem_cons_of_mem _ (List.mem_cons_self ..)⟩,
    failed_sends_are_clean handshake_dying hrun⟩

end Netmuxd
