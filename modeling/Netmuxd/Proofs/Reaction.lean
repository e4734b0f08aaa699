/-
One connection as a machine of its own.

Apart from the link it sends on, a branch of the loop works on a single entry of the
map.  `Reacts c ev acts r` is that machine, stated without the link and without the
map: connection `c` meets the event `ev`, does the acts `acts`, and is afterwards
`r`, with `none` for an entry that has been taken out.  It has one constructor for
each way through the branches of the source, so an argument about all of them is a
case analysis over it.  A send that fails shows up among the acts.

The lemmas at the end say that each branch of the loop is such a reaction of the
entry it looks up.
-/
import Netmuxd.Proofs.Link

namespace Netmuxd

open Lib

/-! ### What the branches do first -/

/-- Acts that only this side of the connection hears of. -/
def Act.isLocal : Act → Bool
  | .spawn _ | .reply _ | .dropRxTx | .dropReply => true
  | _ => false

theorem quiet_of_local {acts : List Act} (h : ∀ a ∈ acts, a.isLocal = true) :
    ∀ a ∈ acts, a.tcp? = none := by
  intro a ha
  have hlocal := h a ha
  cases a <;> first | rfl | cases hlocal

namespace Connection

def push (c : Connection) (bytes : Bytes) : Connection :=
  { c with pendingTx := c.pendingTx ++ bytes }

def close (c : Connection) : Connection :=
  { c with clientClosed := true }

def drain (c : Connection) (n : UInt32) : Connection :=
  { c with rxBuffered := saturatingSub c.rxBuffered n }

/-- The header fields a packet updates, whatever it carries. -/
def hear (c : Connection) (th : ParsedTcp) : Connection :=
  { c with rxSeq := th.seq, rxAck := th.ack, rxWin := th.window.toUInt32 <<< 8 }

def bump (c : Connection) : Connection :=
  { c with txSeq := c.txSeq + 1, txAck := c.txAck + 1 }

def connect (c : Connection) : Connection :=
  { c with state := .connected, rxTx := true, connectReply := false }

def deliver (c : Connection) (payload : Bytes) : Connection :=
  { c with
    rxBuffered := saturatingAdd c.rxBuffered (UInt32.ofNat payload.length)
    txAck := c.txAck + UInt32.ofNat payload.length }

/-- A plain ACK, with its payload if it has one. -/
def accept (c : Connection) (th : ParsedTcp) (payload : Bytes) : Connection :=
  if payload = [] then c.hear th else (c.hear th).deliver payload

/-- What `teardown` does for the other ends. -/
def tearActs (c : Connection) : List Act :=
  (if c.rxTx then [.dropRxTx] else []) ++
    (if c.connectReply then [.reply (.error .refusedOrClosed)] else [])

/-- What dropping a replaced entry does for them. -/
def dropActs (c : Connection) : List Act :=
  (if c.rxTx then [.dropRxTx] else []) ++ (if c.connectReply then [.dropReply] else [])

/-- What letting go of an entry's two ends can consist of. -/
theorem mem_letGo {b b' : Bool} {x y a : Act}
    (h : a ∈ (if b then [x] else []) ++ (if b' then [y] else [])) : a = x ∨ a = y := by
  rcases List.mem_append.mp h with h | h
  · split at h
    · exact Or.inl (List.mem_singleton.mp h)
    · cases h
  · split at h
    · exact Or.inr (List.mem_singleton.mp h)
    · cases h

theorem tearActs_local (c : Connection) : ∀ a ∈ c.tearActs, a.isLocal = true := by
  intro a ha
  rcases mem_letGo ha with rfl | rfl <;> rfl

theorem dropActs_local (c : Connection) : ∀ a ∈ c.dropActs, a.isLocal = true := by
  intro a ha
  rcases mem_letGo ha with rfl | rfl <;> rfl

theorem tearActs_quiet (c : Connection) : ∀ a ∈ c.tearActs, a.tcp? = none :=
  quiet_of_local c.tearActs_local

theorem dropActs_quiet (c : Connection) : ∀ a ∈ c.dropActs, a.tcp? = none :=
  quiet_of_local c.dropActs_local

theorem not_failed_dropActs (c : Connection) : ¬ Failed c.dropActs := by
  rintro ⟨e, he⟩
  rcases mem_letGo he with h | h <;> cases h

end Connection

/-- The chunk a plain ACK hands to the forwarder. -/
def chunkActs (payload : Bytes) : List Act :=
  if payload = [] then [] else [.chunk payload]

/-! ### Reactions -/

/-- An event as the connection it is for meets it. -/
inductive ConnEvent
  | data (bytes : Bytes)
  | close
  | drained (n : UInt32)
  | packet (th : ParsedTcp) (payload : Bytes) (alive : Bool)
  /-- The loop has been left. -/
  | closing

/-- The flags of a SYN/ACK. -/
def synAck : UInt8 := TcpFlags.syn ||| TcpFlags.ack

/-- The connection has reached the point where its window update is due. -/
def Connection.UpdateDue (c : Connection) (n : UInt32) : Prop :=
  c.state = .connected ∧ c.free < UInt32.ofNat maxPayload ∧
    UInt32.ofNat maxPayload ≤ (c.drain n).free

instance (c : Connection) (n : UInt32) : Decidable (c.UpdateDue n) :=
  inferInstanceAs (Decidable (_ ∧ _ ∧ _))

inductive Reacts (c : Connection) : ConnEvent → List Act → Option Connection → Prop
  | ignoredData {bytes : Bytes} (hs : c.state ≠ .connected) : Reacts c (.data bytes) [] (some c)
  | ignoredClose (hs : c.state ≠ .connected) : Reacts c .close [] (some c)
  | data {bytes : Bytes} {acts : List Act} {c' : Connection} (hs : c.state = .connected)
      (hm : Moves (c.push bytes) acts c') (hf : c'.Flushed) (hr : c'.Resumed)
      (hpause : txHighWater < c'.pendingTx.length → c'.txPause = true) :
      Reacts c (.data bytes) acts (some c')
  | dataFailed {bytes : Bytes} {acts : List Act} {c' : Connection} (hs : c.state = .connected)
      (hm : Moves (c.push bytes) acts c') (hfail : Failed acts) :
      Reacts c (.data bytes) (acts ++ c'.tearActs) none
  | closeKept {acts : List Act} {c' : Connection} (hs : c.state = .connected)
      (hm : Moves c.close acts c') (hf : c'.Flushed) (hr : c'.Resumed) (hne : c'.pendingTx ≠ []) :
      Reacts c .close acts (some c')
  | closeDone {acts : List Act} {c' : Connection} {a : Act} (hs : c.state = .connected)
      (hm : Moves c.close acts c') (he : c'.pendingTx = []) (ha : Sent c' TcpFlags.rst a) :
      Reacts c .close (acts ++ [a] ++ c'.tearActs) none
  | closeFailed {acts : List Act} {c' : Connection} {a : Act} (hs : c.state = .connected)
      (hm : Moves c.close acts c') (hfail : Failed acts) (ha : Sent c' TcpFlags.rst a) :
      Reacts c .close (acts ++ [a] ++ c'.tearActs) none
  | drained {n : UInt32} (hdue : ¬ c.UpdateDue n) : Reacts c (.drained n) [] (some (c.drain n))
  | drainedUpdate {n : UInt32} {a : Act} (hdue : c.UpdateDue n)
      (ha : Sent (c.drain n) TcpFlags.ack a) : Reacts c (.drained n) [a] (some (c.drain n))
  | accepted {th : ParsedTcp} {payload : Bytes} {alive : Bool} {a : Act}
      (hs : c.state = .connecting) (hflags : th.flags = synAck)
      (ha : a.tcp? = some (headerOf (c.hear th).bump TcpFlags.ack, [])) :
      Reacts c (.packet th payload alive)
        ([a, .spawn c.sport] ++ (if c.connectReply then [.reply (.ok ())] else []))
        (some (c.hear th).bump.connect)
  | acceptFailed {th : ParsedTcp} {payload : Bytes} {alive : Bool} {e : IoError}
      (hs : c.state = .connecting) (hflags : th.flags = synAck) :
      Reacts c (.packet th payload alive) [.sendFailed e] (some (c.hear th).bump)
  | refused {th : ParsedTcp} {payload : Bytes} {alive : Bool} (hs : c.state = .connecting)
      (hflags : th.flags ≠ synAck) :
      Reacts c (.packet th payload alive)
        ((if c.connectReply then [.reply (.error (.deviceRefused th.flags payload))] else []) ++
          (if c.rxTx then [.dropRxTx] else [])) none
  | reset {th : ParsedTcp} {payload : Bytes} {alive : Bool} (hs : c.state = .connected)
      (hflags : th.flags &&& TcpFlags.rst ≠ 0 ∨ th.flags ≠ TcpFlags.ack) :
      Reacts c (.packet th payload alive) c.tearActs none
  | undelivered {th : ParsedTcp} {payload : Bytes} {alive : Bool} {a : Act}
      (hs : c.state = .connected) (hflags : th.flags = TcpFlags.ack) (hne : payload ≠ [])
      (hgone : (c.rxTx && alive) = false) (ha : Sent (c.hear th) TcpFlags.rst a) :
      Reacts c (.packet th payload alive) ([a] ++ c.tearActs) none
  | acked {th : ParsedTcp} {payload : Bytes} {alive : Bool} {acts : List Act} {c' : Connection}
      (hs : c.state = .connected) (hflags : th.flags = TcpFlags.ack)
      (hthere : payload ≠ [] → (c.rxTx && alive) = true)
      (hm : Moves (c.accept th payload) acts c') (hf : c'.Flushed) (hr : c'.Resumed)
      (hopen : c'.clientClosed = true → c'.pendingTx ≠ []) :
      Reacts c (.packet th payload alive) (chunkActs payload ++ acts) (some c')
  | ackedFailed {th : ParsedTcp} {payload : Bytes} {alive : Bool} {acts : List Act}
      {c' : Connection} (hs : c.state = .connected) (hflags : th.flags = TcpFlags.ack)
      (hthere : payload ≠ [] → (c.rxTx && alive) = true)
      (hm : Moves (c.accept th payload) acts c') (hfail : Failed acts) :
      Reacts c (.packet th payload alive) (chunkActs payload ++ acts) (some c')
  | ackedDone {th : ParsedTcp} {payload : Bytes} {alive : Bool} {acts : List Act}
      {c' : Connection} {a : Act} (hs : c.state = .connected) (hflags : th.flags = TcpFlags.ack)
      (hthere : payload ≠ [] → (c.rxTx && alive) = true)
      (hm : Moves (c.accept th payload) acts c') (hclosed : c'.clientClosed = true)
      (he : c'.pendingTx = []) (ha : a.tcp? = some (headerOf c' TcpFlags.rst, [])) :
      Reacts c (.packet th payload alive) (chunkActs payload ++ acts ++ [a] ++ c'.tearActs) none
  | unheard {th : ParsedTcp} {payload : Bytes} {alive : Bool} (hs : c.state = .dead) :
      Reacts c (.packet th payload alive) [] (some (c.hear th))
  | closing {a : Act} (ha : Sent c TcpFlags.rst a) : Reacts c .closing ([a] ++ c.tearActs) none

/-! ### The map around an entry -/

@[simp] theorem Mux.put_connections (m : Mux) (l : Link) (p : UInt16) (c : Connection) :
    (m.put l p c).connections = Function.update m.connections p (some c) := rfl

/-- `m'` is `m` after the entry `c` at `p` has done `acts` and become `r`. -/
structure Outcome (m : Mux) (p : UInt16) (c : Connection) (acts : List Act)
    (r : Option Connection) (m' : Mux) : Prop where
  connections : m'.connections = Function.update m.connections p r
  link : m.link.After c.id acts m'.link
  ports : m'.ports = m.ports
  nextSport : m'.nextSport = m.nextSport
  phase : m.phase = .running → m'.phase = .running

theorem Outcome.put {m : Mux} {p : UInt16} {c c' : Connection} {acts : List Act} {l : Link}
    (h : m.link.After c.id acts l) : Outcome m p c acts (some c') (m.put l p c') :=
  ⟨rfl, h, rfl, rfl, id⟩

theorem tornDown_after (c : Connection) (l : Link) : l.After c.id c.tearActs (c.tornDown l) :=
  (l.emit_if_after c.id c.rxTx rfl).trans (Link.emit_if_after _ c.id c.connectReply rfl)

theorem dropped_after (c : Connection) (l : Link) : l.After c.id c.dropActs (c.dropped l) :=
  (l.emit_if_after c.id c.rxTx rfl).trans (Link.emit_if_after _ c.id c.connectReply rfl)

theorem teardown_eq {m : Mux} {p : UInt16} {c : Connection} (h : m.connections p = some c) :
    teardown m p = { m with
      link := c.tornDown m.link
      connections := Function.update m.connections p none } := by
  rw [teardown, h]

theorem Outcome.teardown {m : Mux} {p : UInt16} {c : Connection} (c' : Connection)
    {acts : List Act} {l : Link} (h : m.link.After c.id acts l) (hid : c'.id = c.id) :
    Outcome m p c (acts ++ c'.tearActs) none (teardown (m.put l p c') p) := by
  rw [teardown_eq (c := c') (by simp)]
  refine ⟨by simp, h.trans ?_, rfl, rfl, id⟩
  rw [← hid]
  exact tornDown_after c' l

/-! ### Client data and closes -/

theorem onRxData_some {m : Mux} {p : UInt16} {c : Connection} (hv : m.link.state.version = 2)
    (hc : m.connections p = some c) (bytes : Bytes) :
    ∃ acts r, Reacts c (.data bytes) acts r ∧
      Outcome m p c acts r (onRxData m p (some bytes)) := by
  by_cases hs : c.state = .connected
  · obtain ⟨acts, hafter, hm, hend⟩ :=
      flushPending_spec (l := m.link) (c := { c with pendingTx := c.pendingTx ++ bytes }) hv
    simp only [onRxData, hc]
    rw [if_neg (not_not.mpr hs)]
    generalize flushPending m.link { c with pendingTx := c.pendingTx ++ bytes } = res
      at hafter hm hend ⊢
    obtain ⟨r, l, c'⟩ := res
    have hid : c'.id = c.id := hm.same.1
    rcases hend with ⟨hr, hf, hres⟩ | ⟨⟨e, hr⟩, hfail⟩
    · simp only at hr hf hres hafter hm
      subst hr
      by_cases hhigh : txHighWater < c'.pendingTx.length
      · simp only [if_pos hhigh]
        refine ⟨_, _, Reacts.data hs (hm.tail (Move.pause hhigh)) hf ?_ (fun _ => rfl),
          Outcome.put (hafter.trans ?_)⟩
        · intro _
          exact Nat.le_trans (by simp [txLowWater, txHighWater]) (Nat.le_of_lt hhigh)
        · rw [hid]
          exact l.emit_after c.id rfl
      · simp only [if_neg hhigh]
        exact ⟨_, _, Reacts.data hs hm hf hres (fun h => absurd h hhigh), Outcome.put hafter⟩
    · simp only at hr
      subst hr
      exact ⟨_, _, Reacts.dataFailed hs hm hfail, Outcome.teardown c' hafter hid⟩
  · refine ⟨[], some c, Reacts.ignoredData hs, ?_, ?_, ?_, ?_, ?_⟩
    all_goals simp only [onRxData, hc, ne_eq, hs, not_false_eq_true, ↓reduceIte, imp_self]
    · rw [← hc, Function.update_eq_self]
    · exact Link.After.refl _ _

theorem onRxData_none {m : Mux} {p : UInt16} {c : Connection} (hv : m.link.state.version = 2)
    (hc : m.connections p = some c) :
    ∃ acts r, Reacts c .close acts r ∧ Outcome m p c acts r (onRxData m p none) := by
  by_cases hs : c.state = .connected
  · obtain ⟨acts, hafter, hm, hend⟩ :=
      flushPending_spec (l := m.link) (c := { c with clientClosed := true }) hv
    simp only [onRxData, hc]
    rw [if_neg (not_not.mpr hs)]
    generalize flushPending m.link { c with clientClosed := true } = res at hafter hm hend ⊢
    obtain ⟨r, l, c'⟩ := res
    have hid : c'.id = c.id := hm.same.1
    obtain ⟨a, hsent, ha⟩ := sendTcp_sent c' TcpFlags.rst (l := l) (hafter.version.trans hv)
    have hrst : m.link.After c.id (acts ++ [a]) (sendTcp l c' TcpFlags.rst []).2 :=
      hafter.trans (hid ▸ hsent)
    rcases hend with ⟨hr, hf, hres⟩ | ⟨⟨e, hr⟩, hfail⟩
    · simp only at hr hf hres hafter hm
      subst hr
      by_cases hdr : txDrained c' = true
      · simp only [if_pos hdr]
        exact ⟨_, _, Reacts.closeDone hs hm (List.isEmpty_iff.mp hdr) ha,
          Outcome.teardown c' hrst hid⟩
      · simp only [if_neg hdr]
        refine ⟨_, _, Reacts.closeKept hs hm hf hres ?_, Outcome.put hafter⟩
        exact fun he => hdr (List.isEmpty_iff.mpr he)
    · simp only at hr
      subst hr
      exact ⟨_, _, Reacts.closeFailed hs hm hfail ha, Outcome.teardown c' hrst hid⟩
  · refine ⟨[], some c, Reacts.ignoredClose hs, ?_, ?_, ?_, ?_, ?_⟩
    all_goals simp only [onRxData, hc, ne_eq, hs, not_false_eq_true, ↓reduceIte, imp_self]
    · rw [← hc, Function.update_eq_self]
    · exact Link.After.refl _ _

/-! ### Drain notices -/

theorem onDrained_eq {m : Mux} {p : UInt16} {c : Connection} (hc : m.connections p = some c)
    (n : UInt32) :
    onDrained m p n =
      if c.UpdateDue n then
        m.put (sendTcp m.link (c.drain n) TcpFlags.ack []).2 p (c.drain n)
      else m.put m.link p (c.drain n) := by
  simp only [onDrained, hc]
  rfl

theorem onDrained_reacts {m : Mux} {p : UInt16} {c : Connection} (hv : m.link.state.version = 2)
    (hc : m.connections p = some c) (n : UInt32) :
    ∃ acts r, Reacts c (.drained n) acts r ∧ Outcome m p c acts r (onDrained m p n) := by
  rw [onDrained_eq hc]
  by_cases hdue : c.UpdateDue n
  · rw [if_pos hdue]
    obtain ⟨a, hsent, ha⟩ := sendTcp_sent (c.drain n) TcpFlags.ack hv
    exact ⟨_, _, Reacts.drainedUpdate hdue ha, Outcome.put hsent⟩
  · rw [if_neg hdue]
    exact ⟨_, _, Reacts.drained hdue, Outcome.put (Link.After.refl _ _)⟩

/-! ### Packets -/

theorem handleConnecting_reacts {m : Mux} {c : Connection} {th : ParsedTcp} {payload : Bytes}
    {alive : Bool} (hv : m.link.state.version = 2) (hs : c.state = .connecting) :
    ∃ acts r, Reacts c (.packet th payload alive) acts r ∧
      Outcome m th.dstPort c acts r (handleConnecting m (c.hear th) th payload).2 := by
  by_cases hflags : th.flags = synAck
  · rw [handleConnecting, if_pos (by exact hflags)]
    rcases sendTcp_cases { c.hear th with
        txSeq := (c.hear th).txSeq + 1, txAck := (c.hear th).txAck + 1 } TcpFlags.ack hv empty_fits
      with ⟨a, l, heq, h, ha⟩ | ⟨e, l, heq, h⟩
    · simp only [heq]
      refine ⟨_, _, Reacts.accepted hs hflags ha, ?_⟩
      have hspawn := h.trans (l.emit_after c.id (a := .spawn c.sport) rfl)
      by_cases hreply : c.connectReply = true
      · rw [if_pos hreply, if_pos (by exact hreply)]
        refine Outcome.put (Link.After.trans hspawn ?_)
        exact Link.emit_after _ c.id rfl
      · rw [if_neg hreply, if_neg (by exact hreply), List.append_nil]
        have hsame : { (c.hear th).bump with state := ConnState.connected, rxTx := true }
            = (c.hear th).bump.connect := by
          simp only [Bool.not_eq_true] at hreply
          simp [Connection.connect, Connection.bump, Connection.hear, hreply]
        rw [← hsame]
        exact Outcome.put hspawn
    · simp only [heq]
      exact ⟨_, _, Reacts.acceptFailed hs hflags, Outcome.put h⟩
  · have hbranch : handleConnecting m (c.hear th) th payload =
        if c.connectReply then
          (.ok (), teardown (m.put (m.link.emit c.id (.reply (.error (.deviceRefused th.flags
            payload)))) th.dstPort { c.hear th with connectReply := false }) th.dstPort)
        else (.ok (), teardown (m.put m.link th.dstPort (c.hear th)) th.dstPort) := by
      rw [handleConnecting, if_neg (by exact hflags)]
      rfl
    refine ⟨_, _, Reacts.refused hs hflags, ?_⟩
    rw [hbranch]
    cases hreply : c.connectReply with
    | true =>
        simp only [↓reduceIte]
        have h := m.link.emit_after c.id (a := .reply (.error (.deviceRefused th.flags payload)))
          rfl
        have hout := Outcome.teardown (p := th.dstPort)
          { c.hear th with connectReply := false } h rfl
        simp only [Connection.tearActs, Bool.false_eq_true, ↓reduceIte, List.append_nil] at hout
        exact hout
    | false =>
        simp only [Bool.false_eq_true, ↓reduceIte]
        have hout := Outcome.teardown (p := th.dstPort) (c.hear th)
          (Link.After.refl m.link c.id) rfl
        simp only [Connection.tearActs, show (c.hear th).connectReply = false from hreply,
          Bool.false_eq_true, ↓reduceIte, List.append_nil] at hout
        exact hout

theorem flushAndClose_reacts {m : Mux} {l : Link} {c : Connection} {th : ParsedTcp}
    {payload : Bytes} {alive : Bool} {first : List Act} {c₁ : Connection}
    (hv : m.link.state.version = 2) (hs : c.state = .connected) (hflags : th.flags = TcpFlags.ack)
    (hthere : payload ≠ [] → (c.rxTx && alive) = true)
    (hm₁ : Moves (c.accept th payload) first c₁) (hid : c₁.id = c.id)
    (hafter₁ : m.link.After c.id (chunkActs payload ++ first) l) :
    ∃ acts r, Reacts c (.packet th payload alive) acts r ∧
      Outcome m th.dstPort c acts r (flushAndClose m l c₁ th.dstPort).2 := by
  obtain ⟨acts, hafter, hm, hend⟩ := flushPending_spec (l := l) (c := c₁) (hafter₁.version.trans hv)
  unfold flushAndClose
  generalize flushPending l c₁ = res at hafter hm hend ⊢
  obtain ⟨r, l', c'⟩ := res
  have hid' : c'.id = c₁.id := hm.same.1
  have hmoves : Moves (c.accept th payload) (first ++ acts) c' := hm₁.trans hm
  have hall : m.link.After c.id (chunkActs payload ++ (first ++ acts)) l' := by
    rw [← List.append_assoc]
    exact hafter₁.trans (hid ▸ hafter)
  rcases hend with ⟨hr, hf, hres⟩ | ⟨⟨e, hr⟩, hfail⟩
  · simp only at hr hf hres
    subst hr
    by_cases hdone : (c'.clientClosed && txDrained c') = true
    · simp only [if_pos hdone]
      obtain ⟨hclosed, hdr⟩ := Bool.and_eq_true_iff.mp hdone
      rcases sendTcp_cases c' TcpFlags.rst (hall.version.trans hv)
        empty_fits with ⟨a, l'', heq, h, ha⟩ | ⟨e, l'', heq, h⟩
      · simp only [heq]
        refine ⟨_, _, Reacts.ackedDone hs hflags hthere hmoves hclosed
          (List.isEmpty_iff.mp hdr) ha, Outcome.teardown c' ?_ (hid'.trans hid)⟩
        exact hall.trans (hid ▸ hid' ▸ h)
      · simp only [heq]
        refine ⟨_, _, Reacts.ackedFailed hs hflags hthere (hmoves.tail (Move.failed (e := e) 0))
          ?_, Outcome.put ?_⟩
        · exact failed_append.mpr (Or.inr ⟨e, by simp⟩)
        · rw [← List.append_assoc]
          exact hall.trans (hid ▸ hid' ▸ h)
    · simp only [if_neg hdone]
      refine ⟨_, _, Reacts.acked hs hflags hthere hmoves hf hres ?_, Outcome.put hall⟩
      intro hclosed he
      exact hdone (Bool.and_eq_true_iff.mpr ⟨hclosed, List.isEmpty_iff.mpr he⟩)
  · simp only at hr
    subst hr
    exact ⟨_, _, Reacts.ackedFailed hs hflags hthere hmoves
      (failed_append.mpr (Or.inr hfail)), Outcome.put hall⟩

theorem handleConnected_reacts {m : Mux} {c : Connection} {th : ParsedTcp} {payload : Bytes}
    {alive : Bool} (hv : m.link.state.version = 2) (hs : c.state = .connected) :
    ∃ acts r, Reacts c (.packet th payload alive) acts r ∧
      Outcome m th.dstPort c acts r (handleConnected m alive (c.hear th) th payload).2 := by
  have htear : Outcome m th.dstPort c c.tearActs none
      (teardown (m.put m.link th.dstPort (c.hear th)) th.dstPort) :=
    Outcome.teardown (c.hear th) (Link.After.refl m.link c.id) rfl
  unfold handleConnected
  by_cases hrst : th.flags &&& TcpFlags.rst ≠ 0
  · rw [if_pos hrst]
    exact ⟨_, _, Reacts.reset hs (Or.inl hrst), htear⟩
  rw [if_neg hrst]
  by_cases hflags : th.flags = TcpFlags.ack
  · rw [if_neg (not_not.mpr hflags)]
    by_cases hempty : payload = []
    · rw [if_pos (List.isEmpty_iff.mpr hempty)]
      have haccept : c.accept th payload = c.hear th := by rw [Connection.accept, if_pos hempty]
      have hchunk : chunkActs payload = [] := by rw [chunkActs, if_pos hempty]
      have hnone : Moves (c.accept th payload) [] (c.hear th) := haccept ▸ Star.refl
      refine flushAndClose_reacts hv hs hflags (fun h => absurd hempty h) hnone rfl ?_
      rw [hchunk]
      exact Link.After.refl m.link c.id
    · rw [if_neg (fun h => hempty (List.isEmpty_iff.mp h))]
      have haccept : c.accept th payload = (c.hear th).deliver payload := by
        rw [Connection.accept, if_neg hempty]
      have hchunk : chunkActs payload = [.chunk payload] := by rw [chunkActs, if_neg hempty]
      by_cases hthere : (c.rxTx && alive) = true
      · simp only [show ((c.hear th).rxTx && alive) = true from hthere, ↓reduceIte]
        have hput : m.link.After c.id (chunkActs payload)
            (m.link.emit (c.hear th).id (.chunk payload)) := by
          rw [hchunk]
          exact m.link.emit_after c.id rfl
        rcases sendTcp_cases { c.hear th with
            rxBuffered := saturatingAdd (c.hear th).rxBuffered (UInt32.ofNat payload.length)
            txAck := (c.hear th).txAck + UInt32.ofNat payload.length } TcpFlags.ack
          (hput.version.trans hv) empty_fits with ⟨a, l, heq, h, ha⟩ | ⟨e, l, heq, h⟩
        · simp only [heq]
          have hm : Moves (c.accept th payload) [a] ((c.hear th).deliver payload) := by
            rw [haccept]
            exact Star.single (Move.frame ha)
          exact flushAndClose_reacts hv hs hflags (fun _ => hthere) hm rfl (hput.trans h)
        · simp only [heq]
          have hm : Moves (c.accept th payload) [.sendFailed e] ((c.hear th).deliver payload) := by
            rw [haccept]
            exact Star.single (Move.failed (e := e) 0)
          exact ⟨_, _, Reacts.ackedFailed hs hflags (fun _ => hthere) hm ⟨e, by simp⟩,
            Outcome.put (hput.trans h)⟩
      · have hgone : (c.rxTx && alive) = false := by simpa using hthere
        simp only [show ((c.hear th).rxTx && alive) = false from hgone, Bool.false_eq_true,
          ↓reduceIte]
        obtain ⟨a, hsent, ha⟩ := sendTcp_sent (c.hear th) TcpFlags.rst hv
        exact ⟨_, _, Reacts.undelivered hs hflags hempty hgone ha,
          Outcome.teardown (c := c) (c.hear th) hsent rfl⟩
  · rw [if_pos hflags]
    exact ⟨_, _, Reacts.reset hs (Or.inr hflags), htear⟩

theorem handleTcp_reacts {m : Mux} {c : Connection} {th : ParsedTcp} {payload : Bytes}
    (alive : Nat → Bool) (hv : m.link.state.version = 2) (hc : m.connections th.dstPort = some c) :
    ∃ acts r, Reacts c (.packet th payload (alive c.id)) acts r ∧
      Outcome m th.dstPort c acts r (handleTcp m alive th payload).2 := by
  cases hs : c.state with
  | connecting =>
      have hbranch : handleTcp m alive th payload = handleConnecting m (c.hear th) th payload := by
        simp only [handleTcp, hc, hs, Connection.hear]
      rw [hbranch]
      exact handleConnecting_reacts hv hs
  | connected =>
      have hbranch : handleTcp m alive th payload =
          handleConnected m (alive c.id) (c.hear th) th payload := by
        simp only [handleTcp, hc, hs, Connection.hear]
      rw [hbranch]
      exact handleConnected_reacts hv hs
  | dead =>
      have hbranch : handleTcp m alive th payload =
          (.ok (), m.put m.link th.dstPort (c.hear th)) := by
        simp only [handleTcp, hc, hs, Connection.hear]
      rw [hbranch]
      exact ⟨_, _, Reacts.unheard hs, Outcome.put (Link.After.refl _ _)⟩

/-! ### Leaving the loop -/

theorem closeNext_reacts {m : Mux} {p : UInt16} {rest : List UInt16} {c : Connection}
    (hv : m.link.state.version = 2) (hphase : m.phase = .closing (p :: rest))
    (hc : m.connections p = some c) :
    ∃ acts r, Reacts c .closing acts r ∧ Outcome m p c acts r (closeNext m) := by
  obtain ⟨a, hsent, ha⟩ := sendTcp_sent c TcpFlags.rst hv
  refine ⟨_, _, Reacts.closing ha, ?_⟩
  simp only [closeNext, hphase, hc]
  rw [teardown_eq (c := c) (by exact hc)]
  refine ⟨rfl, hsent.trans (tornDown_after c _), rfl, rfl, fun h => ?_⟩
  rw [hphase] at h
  cases h

/-! ### A reaction in parts -/

/-- What an event changes in a connected entry before anything is sent. -/
inductive Intake (c : Connection) : ConnEvent → List Act → Connection → Prop
  | data (bytes : Bytes) : Intake c (.data bytes) [] (c.push bytes)
  | close : Intake c .close [] c.close
  | drain (n : UInt32) : Intake c (.drained n) [] (c.drain n)
  | hear {th : ParsedTcp} {payload : Bytes} (alive : Bool) :
      Intake c (.packet th payload alive) [] (c.hear th)
  | deliver {th : ParsedTcp} {payload : Bytes} {alive : Bool} (hflags : th.flags = TcpFlags.ack)
      (hne : payload ≠ []) (hthere : (c.rxTx && alive) = true) :
      Intake c (.packet th payload alive) [.chunk payload] ((c.hear th).deliver payload)
  | closing : Intake c .closing [] c

theorem Intake.accept {c : Connection} {th : ParsedTcp} {payload : Bytes} {alive : Bool}
    (hflags : th.flags = TcpFlags.ack) (hthere : payload ≠ [] → (c.rxTx && alive) = true) :
    Intake c (.packet th payload alive) (chunkActs payload) (c.accept th payload) := by
  by_cases hp : payload = []
  · rw [chunkActs, if_pos hp, Connection.accept, if_pos hp]
    exact Intake.hear alive
  · rw [chunkActs, if_neg hp, Connection.accept, if_neg hp]
    exact Intake.deliver hflags hp (hthere hp)

theorem Intake.state {c d : Connection} {cev : ConnEvent} {first : List Act}
    (h : Intake c cev first d) : d.state = c.state := by
  cases h <;> rfl

/-- How a connected entry ends a reaction: it stays as `c'`, or goes, with an RST or not. -/
inductive Ending (c' : Connection) : List Act → Option Connection → Prop
  | stays : Ending c' [] (some c')
  | goes : Ending c' c'.tearActs none
  | resets {a : Act} (ha : Sent c' TcpFlags.rst a) : Ending c' (a :: c'.tearActs) none

/-- **A reaction of a connected entry** takes the event in, makes some moves, and ends. -/
theorem Reacts.parts {c : Connection} {cev : ConnEvent} {acts : List Act} {r : Option Connection}
    (hr : Reacts c cev acts r) (hs : c.state = .connected) :
    ∃ first d moves c' last, Intake c cev first d ∧ Moves d moves c' ∧ Ending c' last r ∧
      acts = first ++ moves ++ last := by
  cases hr with
  | ignoredData hs' => exact absurd hs hs'
  | ignoredClose hs' => exact absurd hs hs'
  | data _ hm => exact ⟨_, _, _, _, _, .data _, hm, .stays, by simp⟩
  | dataFailed _ hm => exact ⟨_, _, _, _, _, .data _, hm, .goes, by simp⟩
  | closeKept _ hm => exact ⟨_, _, _, _, _, .close, hm, .stays, by simp⟩
  | closeDone _ hm _ ha => exact ⟨_, _, _, _, _, .close, hm, .resets ha, by simp⟩
  | closeFailed _ hm _ ha => exact ⟨_, _, _, _, _, .close, hm, .resets ha, by simp⟩
  | drained => exact ⟨_, _, _, _, _, .drain _, Star.refl, .stays, rfl⟩
  | drainedUpdate _ ha =>
      rcases ha with ha | ⟨e, rfl⟩
      · exact ⟨_, _, _, _, _, .drain _, Star.single (Move.frame ha), .stays, rfl⟩
      · exact ⟨_, _, _, _, _, .drain _, Star.single (Move.failed (e := e) 0), .stays, rfl⟩
  | accepted hs' => rw [hs] at hs'; cases hs'
  | acceptFailed hs' => rw [hs] at hs'; cases hs'
  | refused hs' => rw [hs] at hs'; cases hs'
  | reset => exact ⟨_, _, _, _, _, .hear _, Star.refl, .goes, rfl⟩
  | undelivered _ _ _ _ ha => exact ⟨_, _, _, _, _, .hear _, Star.refl, .resets ha, rfl⟩
  | acked _ hflags hthere hm =>
      exact ⟨_, _, _, _, _, .accept hflags hthere, hm, .stays, by simp⟩
  | ackedFailed _ hflags hthere hm =>
      exact ⟨_, _, _, _, _, .accept hflags hthere, hm, .stays, by simp⟩
  | ackedDone _ hflags hthere hm _ _ ha =>
      exact ⟨_, _, _, _, _, .accept hflags hthere, hm, .resets (Or.inl ha), by simp⟩
  | unheard hs' => rw [hs] at hs'; cases hs'
  | closing ha => exact ⟨_, _, _, _, _, .closing, Star.refl, .resets ha, rfl⟩

/-- A reaction of an entry that is not connected: it is accepted, stays as it was, goes,
or fails to be accepted. -/
inductive Opening (c : Connection) : ConnEvent → List Act → Option Connection → Prop
  | accepted {th : ParsedTcp} {payload : Bytes} {alive : Bool} {a : Act} {told : List Act}
      (hflags : th.flags = synAck)
      (ha : a.tcp? = some (headerOf (c.hear th).bump TcpFlags.ack, []))
      (htold : ∀ b ∈ told, b.isLocal = true) :
      Opening c (.packet th payload alive) (a :: told) (some (c.hear th).bump.connect)
  | acceptFailed {th : ParsedTcp} {payload : Bytes} {alive : Bool} {e : IoError}
      (hflags : th.flags = synAck) :
      Opening c (.packet th payload alive) [.sendFailed e] (some (c.hear th).bump)
  | drained (n : UInt32) : Opening c (.drained n) [] (some (c.drain n))
  | ignored {cev : ConnEvent} (hcev : ∀ th payload alive, cev ≠ .packet th payload alive) :
      Opening c cev [] (some c)
  | refused {cev : ConnEvent} {told : List Act} (htold : ∀ b ∈ told, b.isLocal = true) :
      Opening c cev told none
  | closing {a : Act} {told : List Act} (ha : Sent c TcpFlags.rst a)
      (htold : ∀ b ∈ told, b.isLocal = true) : Opening c .closing (a :: told) none

theorem Reacts.opening {c : Connection} {cev : ConnEvent} {acts : List Act}
    {r : Option Connection} (hr : Reacts c cev acts r) (hs : c.state = .connecting) :
    Opening c cev acts r := by
  have hno : ∀ {P : Prop}, c.state = .connected → P := by
    intro P hs'
    rw [hs] at hs'
    cases hs'
  cases hr with
  | ignoredData => exact .ignored fun _ _ _ h => by cases h
  | ignoredClose => exact .ignored fun _ _ _ h => by cases h
  | drained => exact .drained _
  | drainedUpdate hdue => exact hno hdue.1
  | accepted _ hflags ha =>
      refine .accepted hflags ha fun b hb => ?_
      rcases List.mem_cons.mp hb with rfl | hb
      · rfl
      · split at hb
        · rw [List.mem_singleton.mp hb]
          rfl
        · cases hb
  | acceptFailed _ hflags => exact .acceptFailed hflags
  | refused =>
      refine .refused fun a ha => ?_
      rcases Connection.mem_letGo ha with rfl | rfl <;> rfl
  | unheard hs' => rw [hs] at hs'; cases hs'
  | closing ha => exact .closing ha c.tearActs_local
  | data hs' => exact hno hs'
  | dataFailed hs' => exact hno hs'
  | closeKept hs' => exact hno hs'
  | closeDone hs' => exact hno hs'
  | closeFailed hs' => exact hno hs'
  | reset hs' => exact hno hs'
  | undelivered hs' => exact hno hs'
  | acked hs' => exact hno hs'
  | ackedFailed hs' => exact hno hs'
  | ackedDone hs' => exact hno hs'

/-- A SYN/ACK opens a connecting entry, or the ACK for it cannot be sent. -/
theorem Reacts.syn {c : Connection} {th : ParsedTcp} {payload : Bytes} {alive : Bool}
    {acts : List Act} {r : Option Connection} (hr : Reacts c (.packet th payload alive) acts r)
    (hs : c.state = .connecting) (hflags : th.flags = synAck) :
    (r = some (c.hear th).bump.connect ∧
        ∃ a, a.tcp? = some (headerOf (c.hear th).bump TcpFlags.ack, []) ∧
          acts = [a, .spawn c.sport] ++ if c.connectReply then [.reply (.ok ())] else []) ∨
      (r = some (c.hear th).bump ∧ ∃ e, acts = [.sendFailed e]) := by
  have hno : ∀ {P : Prop}, c.state = .connected → P := by
    intro P hs'
    rw [hs] at hs'
    cases hs'
  cases hr with
  | accepted _ _ ha => exact Or.inl ⟨rfl, _, ha, rfl⟩
  | acceptFailed => exact Or.inr ⟨rfl, _, rfl⟩
  | refused _ hne => exact absurd hflags hne
  | unheard hs' => rw [hs] at hs'; cases hs'
  | reset hs' => exact hno hs'
  | undelivered hs' => exact hno hs'
  | acked hs' => exact hno hs'
  | ackedFailed hs' => exact hno hs'
  | ackedDone hs' => exact hno hs'

end Netmuxd
