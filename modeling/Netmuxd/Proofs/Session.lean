/-
What the writer is handed over a session.

The link-level counters belong to no connection: every branch that emits a frame
goes through `send_raw`, which numbers it.  `Link.Works` is all a branch can do to
the link, whatever it does to the connections: acts that queue nothing, and TCP
frames that fit.  Along such a chain the counter and the number of frames queued
stay in step as long as the writer takes frames, and once it does not, no further
frame is queued that could carry a wrong number.
-/
import Netmuxd.Proofs.Life
import Netmuxd.Proofs.Codec

namespace Netmuxd

open Lib

/-! ### All a branch does to the link -/

/-- `l'` is `l` after acts that queue nothing and TCP frames that fit the pipe. -/
inductive Link.Works (l : Link) : Link → Prop
  | refl : l.Works l
  | emit {l' : Link} (h : l.Works l') (i : Nat) {a : Act} (ha : a.isWrite = false) :
      l.Works (l'.emit i a)
  | send {l' : Link} (h : l.Works l') (conn : Connection) (flags : UInt8) {payload : Bytes}
      (hp : payload.length ≤ maxPayload) : l.Works (sendTcp l' conn flags payload).2

/-- The same send, by what it returns. -/
theorem Link.Works.sent {l l' l'' : Link} {conn : Connection} {flags : UInt8} {payload : Bytes}
    {r : Except IoError Unit} (h : l.Works l') (hp : payload.length ≤ maxPayload)
    (hs : sendTcp l' conn flags payload = (r, l'')) : l.Works l'' := by
  have hw := h.send conn flags hp
  rwa [hs] at hw

theorem Link.Works.emit_if {l l' : Link} (h : l.Works l') (i : Nat) (b : Bool) {a : Act}
    (ha : a.isWrite = false) : l.Works (if b then l'.emit i a else l') := by
  cases b with
  | true => exact h.emit i ha
  | false => exact h

theorem tornDown_works {l l' : Link} (h : l.Works l') (conn : Connection) :
    l.Works (conn.tornDown l') :=
  (h.emit_if conn.id conn.rxTx rfl).emit_if conn.id conn.connectReply rfl

theorem teardown_works {l : Link} {m : Mux} (h : l.Works m.link) (sport : UInt16) :
    l.Works (teardown m sport).link := by
  unfold teardown
  split
  · exact h
  · exact tornDown_works h _

/-- The entry is put back before it is torn down. -/
theorem put_teardown_works {l l' : Link} (m : Mux) (h : l.Works l') (sport : UInt16)
    (conn : Connection) : l.Works (teardown (m.put l' sport conn) sport).link :=
  teardown_works (m := m.put l' sport conn) h sport

theorem insert_works {l l' : Link} (m : Mux) (h : l.Works l') (sport : UInt16)
    (conn : Connection) : l.Works (m.insert l' sport conn).link := by
  unfold Mux.insert
  split
  · rename_i old _
    exact (h.emit_if old.id old.rxTx rfl).emit_if old.id old.connectReply rfl
  · exact h

/-! ### Flushing -/

theorem flushTurn_again_works {l : Link} {s s' : Link × Connection} (h : l.Works s.1)
    (hturn : flushTurn s = .again s') : l.Works s'.1 := by
  obtain ⟨l₁, c⟩ := s
  simp only [flushTurn] at hturn
  split at hturn
  · cases hturn
  split at hturn
  · cases hturn
  split at hturn
  · cases hturn
  split at hturn
  · cases hturn
  · rename_i l₂ hs
    cases hturn
    refine h.sent ?_ hs
    rw [List.length_take]
    omega

theorem flushTurn_leave_works {l : Link} {s : Link × Connection}
    {r : Except IoError Unit × Link × Connection} (h : l.Works s.1)
    (hturn : flushTurn s = .leave r) : l.Works r.2.1 := by
  obtain ⟨l₁, c⟩ := s
  simp only [flushTurn] at hturn
  split at hturn
  · cases hturn
    exact h
  split at hturn
  · cases hturn
    exact h
  split at hturn
  · cases hturn
    exact h
  split at hturn
  · rename_i l₂ hs
    cases hturn
    refine h.sent ?_ hs
    rw [List.length_take]
    omega
  · cases hturn

theorem flushPending_works {l l' : Link} (h : l.Works l') (conn : Connection) :
    l.Works (flushPending l' conn).2.1 := by
  have hloop : l.Works (flushLoop l' conn).2.1 :=
    whileLoop_induct (P := fun s : Link × Connection => l.Works s.1)
      (Q := fun r : Except IoError Unit × Link × Connection => l.Works r.2.1)
      (fun _ _ => flushTurn_again_works) (fun _ _ => flushTurn_leave_works) h
  unfold flushPending
  split
  · rename_i e l₁ c₁ heq
    rw [heq] at hloop
    exact hloop
  · rename_i l₁ c₁ heq
    rw [heq] at hloop
    split
    · exact (hloop.emit c₁.id rfl).emit c₁.id rfl
    · exact hloop

theorem Link.Works.flushed {l l' l'' : Link} {conn conn' : Connection} {r : Except IoError Unit}
    (h : l.Works l') (hf : flushPending l' conn = (r, l'', conn')) : l.Works l'' := by
  have hw := flushPending_works h conn
  rwa [hf] at hw

/-! ### The branches -/

theorem handleConnecting_works (m : Mux) (conn : Connection) (th : ParsedTcp) (payload : Bytes) :
    m.link.Works (handleConnecting m conn th payload).2.link := by
  unfold handleConnecting
  simp only
  split
  · split
    · rename_i e l hs
      exact Link.Works.refl.sent empty_fits hs
    · rename_i l hs
      have hw := (Link.Works.refl.sent empty_fits hs).emit conn.id (a := .spawn conn.sport) rfl
      split
      · exact hw.emit conn.id rfl
      · exact hw
  · split
    · exact put_teardown_works m (Link.Works.refl.emit conn.id rfl) _ _
    · exact put_teardown_works m Link.Works.refl _ _

theorem flushAndClose_works (m : Mux) {l l' : Link} (h : l.Works l') (conn : Connection)
    (ourSport : UInt16) : l.Works (flushAndClose m l' conn ourSport).2.link := by
  unfold flushAndClose
  split
  · rename_i e l₁ c₁ hf
    exact h.flushed hf
  · rename_i l₁ c₁ hf
    split
    · split
      · rename_i e l₂ hs
        exact (h.flushed hf).sent empty_fits hs
      · rename_i l₂ hs
        exact put_teardown_works m ((h.flushed hf).sent empty_fits hs) _ _
    · exact h.flushed hf

theorem handleConnected_works (m : Mux) (alive : Bool) (conn : Connection) (th : ParsedTcp)
    (payload : Bytes) : m.link.Works (handleConnected m alive conn th payload).2.link := by
  unfold handleConnected
  simp only
  split
  · exact put_teardown_works m Link.Works.refl _ _
  split
  · exact put_teardown_works m Link.Works.refl _ _
  split
  · exact flushAndClose_works m Link.Works.refl conn _
  split
  · have hchunk := Link.Works.refl.emit (l := m.link) conn.id (a := .chunk payload) rfl
    split
    · rename_i e l hs
      exact hchunk.sent empty_fits hs
    · rename_i l hs
      exact flushAndClose_works m (hchunk.sent empty_fits hs) _ _
  · exact put_teardown_works m (Link.Works.refl.send conn TcpFlags.rst empty_fits) _ _

theorem handleTcp_works (m : Mux) (alive : Nat → Bool) (th : ParsedTcp) (payload : Bytes) :
    m.link.Works (handleTcp m alive th payload).2.link := by
  unfold handleTcp
  simp only
  split
  · split
    · exact Link.Works.refl.send _ TcpFlags.rst empty_fits
    · exact Link.Works.refl
  · split
    · exact handleConnecting_works m _ th payload
    · exact handleConnected_works m _ _ th payload
    · exact Link.Works.refl

theorem handleIncoming_works (m : Mux) (alive : Nat → Bool) (pkt : Bytes) :
    m.link.Works (handleIncoming m alive pkt).2.link := by
  unfold handleIncoming
  split
  · exact Link.Works.refl
  · exact Link.Works.refl
  · exact handleTcp_works m alive _ _

theorem onConnect_works (m : Mux) (port : UInt16) : m.link.Works (onConnect m port).link := by
  unfold onConnect
  simp only
  split
  · rename_i e l hs
    exact (Link.Works.refl.sent empty_fits hs).emit _ rfl
  · rename_i l hs
    exact insert_works _ (Link.Works.refl.sent empty_fits hs) _ _

theorem onRxData_works (m : Mux) (sport : UInt16) (payload : Option Bytes) :
    m.link.Works (onRxData m sport payload).link := by
  unfold onRxData
  split
  · exact Link.Works.refl
  split
  · exact Link.Works.refl
  split
  · split
    · rename_i e l c hf
      exact put_teardown_works m (Link.Works.refl.flushed hf) _ _
    · rename_i l c hf
      split
      · exact (Link.Works.refl.flushed hf).emit c.id rfl
      · exact Link.Works.refl.flushed hf
  · split
    · rename_i e l c hf
      exact put_teardown_works m ((Link.Works.refl.flushed hf).send c TcpFlags.rst empty_fits) _ _
    · rename_i l c hf
      split
      · exact put_teardown_works m ((Link.Works.refl.flushed hf).send c TcpFlags.rst empty_fits) _ _
      · exact Link.Works.refl.flushed hf

theorem onDrained_works (m : Mux) (sport : UInt16) (n : UInt32) :
    m.link.Works (onDrained m sport n).link := by
  unfold onDrained
  split
  · exact Link.Works.refl
  · simp only
    split
    · exact Link.Works.refl.send _ TcpFlags.ack empty_fits
    · exact Link.Works.refl

theorem closeNext_works (m : Mux) : m.link.Works (closeNext m).link := by
  unfold closeNext
  split
  · rename_i sport rest _
    simp only
    split
    · rename_i c _
      exact teardown_works
        (m := { m with phase := .closing rest, link := (sendTcp m.link c TcpFlags.rst []).2 })
        (Link.Works.refl.send c TcpFlags.rst empty_fits) _
    · exact teardown_works (m := { m with phase := .closing rest }) Link.Works.refl _
  · exact Link.Works.refl

/-! ### What has been queued -/

def Act.frame? : Act → Option Bytes
  | .frame buf => some buf
  | _ => none

/-- The frames queued to the writer, oldest first. -/
def queued (out : List Effect) : List Bytes :=
  out.filterMap fun e => e.act.frame?

@[simp] theorem queued_append (out out' : List Effect) :
    queued (out ++ out') = queued out ++ queued out' := by
  simp [queued]

theorem queued_emit (l : Link) (i : Nat) {a : Act} (ha : a.isWrite = false) :
    queued (l.emit i a).out = queued l.out := by
  have hnone : a.frame? = none := by
    cases a with
    | frame buf => cases ha
    | _ => rfl
  simp [Link.emit, queued, hnone]

/-- A v2 frame with these numbers, as long as it says. -/
structure V2Frame (proto : Proto) (txSeq rxSeq : UInt16) (f : Bytes) : Prop where
  fits : f.length ≤ usbMtu
  layout : ∃ body, f = toBe32 proto.toU32 ++ toBe32 (UInt32.ofNat f.length) ++ toBe32 muxMagic ++
    toBe16 txSeq ++ toBe16 rxSeq ++ body

theorem packetOf_v2Frame (state : MuxState) (th : ParsedTcp) {payload : Bytes}
    (hp : payload.length ≤ maxPayload) :
    V2Frame .tcp state.txSeq state.rxSeq (packetOf state th payload) := by
  refine ⟨?_, tcpBytes th ++ payload, ?_⟩
  · rw [packetOf_length]
    unfold maxPayload usbMtu v2HeaderSize tcpHeaderSize at *
    omega
  · rw [packetOf_length]
    simp only [packetOf, v2HeaderSize, tcpHeaderSize, List.append_assoc]

/-- The frame `send_version` queues in v1 framing. -/
def versionFrame : Bytes :=
  toBe32 Proto.version.toU32 ++ toBe32 20 ++ (toBe32 2 ++ toBe32 0 ++ toBe32 0)

def setupFrame : Bytes :=
  toBe32 Proto.setup.toU32 ++ toBe32 17 ++ toBe32 muxMagic ++ toBe16 0 ++ toBe16 0xFFFF ++ [0x07]

theorem setupFrame_v2Frame : V2Frame .setup 0 0xFFFF setupFrame :=
  ⟨by simp [setupFrame, usbMtu], [0x07], rfl⟩

/-! ### The counter and the queue -/

/--
The link after the handshake: VERSION and SETUP have been queued, then TCP frames
numbered from 1 on, and the next frame gets the next number.
-/
structure Link.Session (l : Link) : Prop where
  version : l.state.version = 2
  /-- A send to a writer that is gone uses up a number too. -/
  counter : l.writeLeft ≠ some 0 → l.state.txSeq = UInt16.ofNat ((queued l.out).length - 1)
  frames : ∃ tcps, queued l.out = versionFrame :: setupFrame :: tcps ∧
    ∀ k f, tcps[k]? = some f → ∃ rxSeq, V2Frame .tcp (UInt16.ofNat (k + 1)) rxSeq f
  fits : ∀ e ∈ l.out, ∀ total, e.act ≠ .sendFailed (.packetTooLarge total)

theorem Link.Session.length {l : Link} (h : l.Session) : 2 ≤ (queued l.out).length := by
  obtain ⟨tcps, heq, -⟩ := h.frames
  rw [heq]
  simp

/-- What is put on the log is no packet that is too large. -/
theorem Link.Session.fits_snoc {l l' : Link} (h : l.Session) {i : Nat} {a : Act}
    (hout : l'.out = l.out ++ [⟨i, a⟩]) (ha : ∀ total, a ≠ .sendFailed (.packetTooLarge total)) :
    ∀ e ∈ l'.out, ∀ total, e.act ≠ .sendFailed (.packetTooLarge total) := by
  intro e he total
  rw [hout] at he
  rcases List.mem_append.mp he with hold | hnew
  · exact h.fits e hold total
  · rw [List.mem_singleton.mp hnew]
    exact ha total

theorem Link.Session.emit {l : Link} (h : l.Session) (i : Nat) {a : Act}
    (ha : a.isWrite = false) : (l.emit i a).Session where
  version := h.version
  counter := by
    rw [queued_emit l i ha]
    exact h.counter
  frames := by
    rw [queued_emit l i ha]
    exact h.frames
  fits := by
    refine h.fits_snoc rfl fun total => ?_
    rintro rfl
    cases ha

/-- What one TCP send does: the next number goes to the frame, if there is a writer. -/
theorem sendTcp_numbers {l : Link} (conn : Connection) (flags : UInt8) {payload : Bytes}
    (hv : l.state.version = 2) (hp : payload.length ≤ maxPayload) :
    (sendTcp l conn flags payload).2.state = { l.state with txSeq := l.state.txSeq + 1 } ∧
      ((l.writeLeft = some 0 ∧ (sendTcp l conn flags payload).2.writeLeft = some 0 ∧
          (sendTcp l conn flags payload).2.out =
            l.out ++ [⟨conn.id, .sendFailed .writerGone⟩]) ∨
        (l.writeLeft ≠ some 0 ∧ (sendTcp l conn flags payload).2.out =
          l.out ++ [⟨conn.id, .frame (packetOf l.state (headerOf conn flags) payload)⟩])) := by
  rw [sendTcp_eq hv hp]
  unfold writeTx
  split
  · rename_i hw
    refine ⟨rfl, Or.inr ⟨fun h0 => ?_, rfl⟩⟩
    cases hw.symm.trans h0
  · rename_i left hw
    refine ⟨rfl, Or.inr ⟨fun h0 => ?_, rfl⟩⟩
    cases hw.symm.trans h0
  · rename_i hw
    exact ⟨rfl, Or.inl ⟨hw, hw, rfl⟩⟩

theorem Link.Session.send {l : Link} (h : l.Session) (conn : Connection) (flags : UInt8)
    {payload : Bytes} (hp : payload.length ≤ maxPayload) :
    (sendTcp l conn flags payload).2.Session := by
  obtain ⟨hstate, ⟨hw, hw', hout⟩ | ⟨hw, hout⟩⟩ := sendTcp_numbers conn flags h.version hp
  · have hqueued : queued (sendTcp l conn flags payload).2.out = queued l.out := by
      rw [hout, queued_append]
      simp [queued, Act.frame?]
    refine ⟨by rw [hstate]; exact h.version, fun hc => absurd hw' hc, ?_, ?_⟩
    · rw [hqueued]
      exact h.frames
    · exact h.fits_snoc hout fun total hc => by cases hc
  · have hlen := h.length
    have hcount := h.counter hw
    obtain ⟨tcps, hframes, hnum⟩ := h.frames
    have hqueued : queued (sendTcp l conn flags payload).2.out =
        queued l.out ++ [packetOf l.state (headerOf conn flags) payload] := by
      rw [hout, queued_append]
      rfl
    refine ⟨by rw [hstate]; exact h.version, fun _ => ?_,
      ⟨tcps ++ [packetOf l.state (headerOf conn flags) payload], ?_, ?_⟩, ?_⟩
    · rw [hstate, hqueued, List.length_append, List.length_singleton, hcount]
      apply UInt16.toNat_inj.mp
      simp only [UInt16.toNat_add, UInt16.toNat_ofNat', UInt16.toNat_one]
      omega
    · rw [hqueued, hframes]
      rfl
    · intro k f hk
      rcases Nat.lt_or_ge k tcps.length with hlt | hge
      · rw [List.getElem?_append_left hlt] at hk
        exact hnum k f hk
      · rw [List.getElem?_append_right hge, List.getElem?_singleton] at hk
        split at hk
        · rename_i hz
          cases hk
          have hk : k + 1 = (queued l.out).length - 1 := by
            rw [hframes, List.length_cons, List.length_cons]
            omega
          rw [hk, ← hcount]
          exact ⟨l.state.rxSeq, packetOf_v2Frame l.state _ hp⟩
        · cases hk
    · exact h.fits_snoc hout fun total hc => by cases hc

/-- The numbering survives whatever a branch does. -/
theorem Link.Session.works {l l' : Link} (h : l.Session) (hw : l.Works l') : l'.Session := by
  induction hw with
  | refl => exact h
  | emit _ i ha ih => exact ih.emit i ha
  | send _ conn flags hp ih => exact ih.send conn flags hp

/-- Every frame a branch queues carries the number the branch started with. -/
theorem Link.Works.rxSeq {l l' : Link} (hv : l.state.version = 2) (hw : l.Works l') :
    l'.state.version = 2 ∧ l'.state.rxSeq = l.state.rxSeq ∧
      ∃ new, queued l'.out = queued l.out ++ new ∧
        ∀ f ∈ new, ∃ txSeq, V2Frame .tcp txSeq l.state.rxSeq f := by
  induction hw with
  | refl => exact ⟨hv, rfl, [], by simp, by simp⟩
  | emit _ i ha ih =>
      obtain ⟨hv', hrx, new, heq, hnew⟩ := ih
      exact ⟨hv', hrx, new, by rw [queued_emit _ i ha, heq], hnew⟩
  | @send l₁ _ conn flags payload hp ih =>
      obtain ⟨hv', hrx, new, heq, hnew⟩ := ih
      obtain ⟨hstate, ⟨-, -, hout⟩ | ⟨-, hout⟩⟩ := sendTcp_numbers conn flags hv' hp
      · refine ⟨by rw [hstate]; exact hv', by rw [hstate]; exact hrx, new, ?_, hnew⟩
        rw [hout, queued_append, heq]
        simp [queued, Act.frame?]
      · refine ⟨by rw [hstate]; exact hv', by rw [hstate]; exact hrx,
          new ++ [packetOf l₁.state (headerOf conn flags) payload], ?_, ?_⟩
        · rw [hout, queued_append, heq, List.append_assoc]
          rfl
        · intro f hf
          rcases List.mem_append.mp hf with hold | hlast
          · exact hnew f hold
          · rw [List.mem_singleton.mp hlast, ← hrx]
            exact ⟨_, packetOf_v2Frame l₁.state _ hp⟩

/-! ### The handshake -/

theorem sendVersion_eq (left : Option Nat) :
    sendVersion { writeLeft := left } 2 0 = writeTx { writeLeft := left } 0 versionFrame := rfl

theorem sendSetup_eq {l : Link} (hv : l.state.version = 2) :
    sendRaw l 0 .setup [] [0x07] true =
      writeTx { l with state := { l.state with txSeq := 1, rxSeq := 0xFFFF } } 0 setupFrame := by
  obtain ⟨⟨v, t, r⟩, w, o⟩ := l
  simp only at hv
  subst hv
  rfl

theorem writeTx_eq_ok {l l' : Link} {i : Nat} {buf : Bytes}
    (h : writeTx l i buf = (.ok (), l')) :
    l'.state = l.state ∧ l'.out = l.out ++ [⟨i, .frame buf⟩] := by
  unfold writeTx at h
  split at h
  · cases h
    exact ⟨rfl, rfl⟩
  · cases h
    exact ⟨rfl, rfl⟩
  · cases h

/-- What a handshake leaves behind. -/
theorem handshake_link {left : Option Nat} {reply : Bytes} {link : Link}
    (h : handshake left reply = .ok link) :
    link.out = [⟨0, .frame versionFrame⟩, ⟨0, .frame setupFrame⟩] ∧
      link.state = { version := 2, txSeq := 1, rxSeq := 0xFFFF } := by
  simp only [handshake] at h
  generalize hfirst : sendVersion { writeLeft := left } 2 0 = first at h
  obtain ⟨r, l⟩ := first
  cases r with
  | error e => simp at h
  | ok u =>
      simp only at h
      split at h
      · cases h
      split at h
      · cases h
      split at h
      · cases h
      split at h
      · cases h
      generalize hsecond : sendRaw { l with state := { l.state with version := 2 } } 0 .setup []
        [0x07] true = second at h
      obtain ⟨r', l'⟩ := second
      cases r' with
      | error e => cases h
      | ok u' =>
          cases h
          rw [sendVersion_eq] at hfirst
          rw [sendSetup_eq rfl] at hsecond
          obtain ⟨-, hout⟩ := writeTx_eq_ok hfirst
          obtain ⟨hstate, hout'⟩ := writeTx_eq_ok hsecond
          refine ⟨?_, hstate⟩
          rw [hout', show l.out = _ from hout]
          rfl

theorem handshake_session {left : Option Nat} {reply : Bytes} {link : Link}
    (h : handshake left reply = .ok link) : link.Session ∧ link.state.rxSeq = 0xFFFF := by
  obtain ⟨hout, hstate⟩ := handshake_link h
  have hqueued : queued link.out = [versionFrame, setupFrame] := by
    rw [hout]
    rfl
  refine ⟨⟨by rw [hstate], fun _ => ?_, ⟨[], hqueued, by simp⟩, ?_⟩, by rw [hstate]⟩
  · rw [hstate, hqueued]
    rfl
  · intro e he total hc
    rw [hout] at he
    rcases List.mem_cons.mp he with hversion | hsetup
    · rw [hversion] at hc
      cases hc
    · rw [List.mem_singleton.mp hsetup] at hc
      cases hc

/-! ### Whole sessions -/

/-- Bytes 14..16 of a packet long enough for a v2 header. -/
def rxSeqOf (pkt : Bytes) : Option UInt16 :=
  if h : v2HeaderSize ≤ pkt.length then some (u16At pkt 14 h) else none

def Event.heard : Event → Option UInt16
  | .packet pkt _ => rxSeqOf pkt
  | _ => none

/-- The number of the last v2 packet received in these events, 0xFFFF before the first. -/
def lastHeard (evs : List Event) : UInt16 :=
  (evs.filterMap Event.heard).getLast?.getD 0xFFFF

@[simp] theorem lastHeard_nil : lastHeard [] = 0xFFFF := rfl

theorem lastHeard_snoc (evs : List Event) (ev : Event) :
    lastHeard (evs ++ [ev]) = ev.heard.getD (lastHeard evs) := by
  cases h : ev.heard <;> simp [lastHeard, h]

/-- The events of a run, oldest first. -/
def eventsOf (tr : List (Mux × Event × Mux)) : List Event :=
  tr.map fun t => t.2.1

/-- The link a branch starts to work on: for a packet, the one with its number recorded. -/
def Mux.linkFor (m : Mux) (ev : Event) : Link :=
  { m.link with state := { m.link.state with rxSeq := ev.heard.getD m.link.state.rxSeq } }

theorem linkFor_silent {m : Mux} {ev : Event} (h : ev.heard = none) : m.linkFor ev = m.link := by
  rw [Mux.linkFor, h]
  rfl

theorem onPacket_works {m : Mux} (hv : m.link.state.version = 2) (alive : Nat → Bool)
    (pkt : Bytes) : (m.linkFor (.packet pkt alive)).Works (onPacket m alive pkt).link := by
  have hle : (2 : UInt8) ≤ m.link.state.version := by
    rw [hv]
    exact UInt8.le_refl 2
  unfold onPacket
  by_cases h : v2HeaderSize ≤ pkt.length
  · have hheard : (Event.packet pkt alive).heard = some (u16At pkt 14 h) := dif_pos h
    rw [Mux.linkFor, hheard, dif_pos ⟨hle, h⟩]
    exact handleIncoming_works
      { m with link := { m.link with state := { m.link.state with rxSeq := u16At pkt 14 h } } }
      alive pkt
  · have hsilent : (Event.packet pkt alive).heard = none := dif_neg h
    rw [linkFor_silent hsilent, dif_neg fun hc => h hc.2]
    exact handleIncoming_works m alive pkt

theorem Mux.Step.works {m m' : Mux} {ev : Event} (hv : m.link.state.version = 2)
    (h : m.Step ev m') : (m.linkFor ev).Works m'.link := by
  obtain ⟨-, rfl⟩ := h.eq_handle
  cases ev with
  | packet pkt alive => exact onPacket_works hv alive pkt
  | connect port =>
      rw [linkFor_silent rfl]
      exact onConnect_works m port
  | rxData sport payload =>
      rw [linkFor_silent rfl]
      exact onRxData_works m sport payload
  | drained sport n =>
      rw [linkFor_silent rfl]
      exact onDrained_works m sport n
  | stop order =>
      rw [linkFor_silent rfl]
      exact Link.Works.refl
  | closeNext =>
      rw [linkFor_silent rfl]
      exact closeNext_works m

/-- What a device sends touches the number to acknowledge and nothing else of `Session`. -/
theorem Link.Session.hears {m : Mux} (h : m.link.Session) (ev : Event) :
    (m.linkFor ev).Session :=
  ⟨h.version, h.counter, h.frames, h.fits⟩

theorem session_run {left : Option Nat} {reply : Bytes} {link : Link}
    {tr : List (Mux × Event × Mux)} {m : Mux} (hs : handshake left reply = .ok link)
    (h : Run Mux.Step (Mux.start link) tr m) :
    m.link.Session ∧ m.link.state.rxSeq = lastHeard (eventsOf tr) := by
  induction h with
  | nil => exact handshake_session hs
  | @snoc tr m m' ev _ hstep ih =>
      obtain ⟨hsession, hrx⟩ := ih
      have hworks := hstep.works hsession.version
      refine ⟨(hsession.hears ev).works hworks, ?_⟩
      obtain ⟨-, hrx', -⟩ := hworks.rxSeq (hsession.hears ev).version
      rw [hrx', eventsOf, List.map_append, List.map_singleton, lastHeard_snoc, ← eventsOf, ← hrx]
      rfl

/--
**A session's output is well formed.**  What is queued to the writer is the VERSION
frame, the SETUP frame and then TCP frames, the `k`-th v2 frame with number `k`
modulo 2^16; no send fails for its size; and the frames each further step adds
acknowledge the last packet the loop has been given by then.
-/
theorem session_well_formed {left : Option Nat} {reply : Bytes} {link : Link}
    {tr : List (Mux × Event × Mux)} {m : Mux} (hs : handshake left reply = .ok link)
    (h : Run Mux.Step (Mux.start link) tr m) :
    (∃ tcps, queued m.link.out = versionFrame :: setupFrame :: tcps ∧
      V2Frame .setup 0 0xFFFF setupFrame ∧
      ∀ k f, tcps[k]? = some f → ∃ rxSeq, V2Frame .tcp (UInt16.ofNat (k + 1)) rxSeq f) ∧
    (∀ e ∈ m.link.out, ∀ total, e.act ≠ .sendFailed (.packetTooLarge total)) ∧
    ∀ ev m', m.Step ev m' → ∃ new, queued m'.link.out = queued m.link.out ++ new ∧
      ∀ f ∈ new, ∃ txSeq, V2Frame .tcp txSeq (lastHeard (eventsOf tr ++ [ev])) f := by
  obtain ⟨hsession, hrx⟩ := session_run hs h
  refine ⟨?_, hsession.fits, ?_⟩
  · obtain ⟨tcps, heq, hnum⟩ := hsession.frames
    exact ⟨tcps, heq, setupFrame_v2Frame, hnum⟩
  · intro ev m' hstep
    obtain ⟨-, -, new, heq, hnew⟩ :=
      (hstep.works hsession.version).rxSeq (hsession.hears ev).version
    have hheard : (m.linkFor ev).state.rxSeq = lastHeard (eventsOf tr ++ [ev]) := by
      rw [lastHeard_snoc, ← hrx]
      rfl
    exact ⟨new, heq, by rw [← hheard]; exact hnew⟩

/-- The greeting queues the two frames of the handshake, a SYN and two ACKs. -/
theorem greeting_well_formed :
    ∃ tcps, queued greeted.link.out = versionFrame :: setupFrame :: tcps ∧ tcps.length = 3 ∧
      ∀ k f, tcps[k]? = some f → ∃ rxSeq, V2Frame .tcp (UInt16.ofNat (k + 1)) rxSeq f := by
  obtain ⟨tr, hrun, -⟩ := greeted_run
  obtain ⟨⟨tcps, heq, -, hnum⟩, -⟩ := session_well_formed handshake_versionReply hrun
  have hlen : (queued greeted.link.out).length = 5 := rfl
  rw [heq, List.length_cons, List.length_cons] at hlen
  exact ⟨tcps, heq, by omega, hnum⟩

end Netmuxd
