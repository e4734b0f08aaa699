/-
Connections do not depend on each other.

What a branch does for the entry of one sport depends on that entry, the event and whether
the writer task is there, and on nothing else the loop has: `Mux.Twin` runs a branch on two
loops that agree on these and keeps them together.  What it does for other sports is
nothing.  So a loop that is given one sport's own events alone does for that sport what
the whole loop does (`Mux.alone`), and two events for two sports may come in either order.

The link-level counters are the exception, and they are left out of what is compared.  So
is a writer that dies between the two events: it takes the frames of whichever came first.
-/
import Netmuxd.Proofs.Answers
import Netmuxd.Proofs.Lasting
import Mathlib.Data.List.Forall2

namespace Netmuxd

open Lib

/-! ### What can be seen of a sport -/

/-- The source port of a queued TCP frame, and its TCP header and payload. -/
def Act.segment? : Act → Option (UInt16 × Bytes)
  | .frame buf => (tcpOf buf).map fun r => (r.1.srcPort, buf.drop v2HeaderSize)
  | _ => none

def Effect.segmentFrom? (p : UInt16) (e : Effect) : Option Bytes :=
  match e.act.segment? with
  | some (src, segment) => if src = p then some segment else none
  | none => none

/-- The TCP headers and payloads of the frames sent from a sport, oldest first. -/
def segmentsFrom (p : UInt16) (out : List Effect) : List Bytes :=
  out.filterMap (Effect.segmentFrom? p)

/-- What the caller and the tasks of connection `i` get. -/
def toldTo (i : Nat) (out : List Effect) : List Act :=
  (actsOf i out).filter fun a => !a.isWrite

@[simp] theorem segmentsFrom_append (p : UInt16) (out out' : List Effect) :
    segmentsFrom p (out ++ out') = segmentsFrom p out ++ segmentsFrom p out' :=
  List.filterMap_append

@[simp] theorem toldTo_append (i : Nat) (out out' : List Effect) :
    toldTo i (out ++ out') = toldTo i out ++ toldTo i out' := by
  simp [toldTo]

theorem answers_toldTo (i : Nat) (out : List Effect) :
    answers (actsOf i out) = answers (toldTo i out) := by
  unfold answers toldTo
  rw [List.filterMap_filter]
  refine congrArg (fun f => List.filterMap f (actsOf i out)) (funext fun a => ?_)
  cases a <;> rfl

theorem chunks_toldTo (i : Nat) (out : List Effect) :
    chunks (actsOf i out) = chunks (toldTo i out) := by
  unfold chunks toldTo
  rw [List.filterMap_filter]
  refine congrArg (fun f => List.filterMap f (actsOf i out)) (funext fun a => ?_)
  cases a <;> rfl

/-- The two loops are the same to the sport, and to all connections that have been given it. -/
structure SameAt (q : UInt16) (m m' : Mux) : Prop where
  entry : m'.connections q = m.connections q
  segments : segmentsFrom q m'.link.out = segmentsFrom q m.link.out
  told : ∀ i, 0 < i → sportAt (i - 1) = q → toldTo i m'.link.out = toldTo i m.link.out

section
variable {q : UInt16} {m m' m'' : Mux}

theorem SameAt.refl (q : UInt16) (m : Mux) : SameAt q m m :=
  ⟨rfl, rfl, fun _ _ _ => rfl⟩

theorem SameAt.symm (h : SameAt q m m') : SameAt q m' m :=
  ⟨h.entry.symm, h.segments.symm, fun i hi hq => (h.told i hi hq).symm⟩

theorem SameAt.trans (h : SameAt q m m') (h' : SameAt q m' m'') : SameAt q m m'' :=
  ⟨h'.entry.trans h.entry, h'.segments.trans h.segments,
    fun i hi hq => (h'.told i hi hq).trans (h.told i hi hq)⟩

end

/-! ### Effects that differ in the link-level counters only -/

/-- The two are the same but for the link-level counters, and are for the sport. -/
structure Effect.Alike (q : UInt16) (e e' : Effect) : Prop where
  id : e'.id = e.id
  write : e'.act.isWrite = e.act.isWrite
  told : e.act.isWrite = false → e'.act = e.act
  segment : e'.act.segment? = e.act.segment?
  source : ∀ r, e.act.segment? = some r → r.1 = q
  owner : e.id = 0 ∨ sportAt (e.id - 1) = q

section
variable {p q : UInt16} {es es' : List Effect}

theorem segmentsFrom_alike (h : List.Forall₂ (Effect.Alike q) es es') :
    segmentsFrom p es' = segmentsFrom p es ∧ (p ≠ q → segmentsFrom p es = []) := by
  induction h with
  | nil => exact ⟨rfl, fun _ => rfl⟩
  | @cons e e' es es' he _ ih =>
      have hsame : e'.segmentFrom? p = e.segmentFrom? p := by
        unfold Effect.segmentFrom?
        rw [he.segment]
      refine ⟨?_, fun hne => ?_⟩
      · unfold segmentsFrom
        rw [List.filterMap_cons, List.filterMap_cons, hsame]
        unfold segmentsFrom at ih
        rw [ih.1]
      · have hnone : e.segmentFrom? p = none := by
          unfold Effect.segmentFrom?
          cases hseg : e.act.segment? with
          | none => rfl
          | some r =>
              obtain ⟨src, segment⟩ := r
              have hsrc : src = q := he.source _ hseg
              show (if src = p then some segment else none) = none
              rw [if_neg]
              rw [hsrc]
              exact Ne.symm hne
        unfold segmentsFrom
        rw [List.filterMap_cons, hnone]
        exact ih.2 hne

theorem toldTo_alike {i : Nat} (h : List.Forall₂ (Effect.Alike q) es es') :
    toldTo i es' = toldTo i es ∧
      (0 < i → sportAt (i - 1) ≠ q → toldTo i es = []) := by
  have hcons : ∀ (e : Effect) (rest : List Effect), toldTo i (e :: rest) =
      (if e.id = i ∧ e.act.isWrite = false then [e.act] else []) ++ toldTo i rest := by
    intro e rest
    unfold toldTo actsOf
    rw [List.filterMap_cons]
    by_cases hid : e.id = i
    · rw [if_pos hid]
      cases hw : e.act.isWrite with
      | true => simp [hw]
      | false => simp [hw, hid]
    · rw [if_neg hid, if_neg fun h => hid h.1]
      rfl
  induction h with
  | nil => exact ⟨rfl, fun _ _ => rfl⟩
  | @cons e e' es es' he _ ih =>
      refine ⟨?_, fun hi hne => ?_⟩
      · rw [hcons, hcons, ih.1, he.id, he.write]
        by_cases hmine : e.id = i ∧ e.act.isWrite = false
        · rw [if_pos hmine, if_pos hmine, he.told hmine.2]
        · rw [if_neg hmine, if_neg hmine]
      · rw [hcons, ih.2 hi hne, if_neg]
        · rfl
        · rintro ⟨rfl, -⟩
          exact he.owner.elim (fun h0 => absurd h0 (Nat.ne_of_gt hi)) hne

end

/-! ### Two links side by side -/

/-- The connection, or the throwaway one, is at this sport. -/
structure Connection.At (q : UInt16) (c : Connection) : Prop where
  sport : c.sport = q
  owner : c.id = 0 ∨ sportAt (c.id - 1) = q

/-- The writer lives on, or is gone already. -/
def Link.Steady (l : Link) : Prop :=
  l.writeLeft = none ∨ l.writeLeft = some 0

/-- From the logs `b` and `b'` on the two links have been used alike, for the sport. -/
structure Link.Twin (q : UInt16) (b b' : List Effect) (l l' : Link) : Prop where
  version : l.state.version = 2
  version' : l'.state.version = 2
  steady : l.Steady
  writer : l'.writeLeft = l.writeLeft
  log : ∃ es es', l.out = b ++ es ∧ l'.out = b' ++ es' ∧ List.Forall₂ (Effect.Alike q) es es'

section
variable {q : UInt16} {b b' : List Effect} {l l' : Link} {c : Connection} {i : Nat} {a : Act}

theorem Effect.Alike.of_told (ha : a.isWrite = false) (hi : i = 0 ∨ sportAt (i - 1) = q) :
    Effect.Alike q ⟨i, a⟩ ⟨i, a⟩ := by
  refine ⟨rfl, rfl, fun _ => rfl, rfl, fun r hr => ?_, hi⟩
  cases a with
  | frame buf => cases ha
  | _ => cases hr

theorem segment?_frame (buf : Bytes) : (Act.frame buf).segment? =
    (tcpOf buf).map fun r => (r.1.srcPort, buf.drop v2HeaderSize) := rfl

theorem segment?_packetOf (st : MuxState) (th : ParsedTcp) (payload : Bytes) :
    (Act.frame (packetOf st th payload)).segment? = some (th.srcPort, tcpBytes th ++ payload) := by
  have hcut : (packetOf st th payload).drop v2HeaderSize = tcpBytes th ++ payload := by
    simp [packetOf, toBe32, toBe16, v2HeaderSize]
  rw [segment?_frame, tcpOf_packetOf, Option.map_some, hcut]

theorem Link.Twin.add {e e' : Effect} (h : Link.Twin q b b' l l') (he : e.Alike q e') :
    Link.Twin q b b' { l with out := l.out ++ [e] } { l' with out := l'.out ++ [e'] } := by
  obtain ⟨es, es', hout, hout', halike⟩ := h.log
  refine ⟨h.version, h.version', h.steady, h.writer, es ++ [e], es' ++ [e'], ?_, ?_,
    List.rel_append halike (.cons he .nil)⟩
  · show l.out ++ [e] = _
    rw [hout, List.append_assoc]
  · show l'.out ++ [e'] = _
    rw [hout', List.append_assoc]

theorem Link.Twin.emit (h : Link.Twin q b b' l l') (hi : i = 0 ∨ sportAt (i - 1) = q)
    (ha : a.isWrite = false) : Link.Twin q b b' (l.emit i a) (l'.emit i a) :=
  h.add (.of_told ha hi)

theorem Link.Twin.emit_if (h : Link.Twin q b b' l l') (hi : i = 0 ∨ sportAt (i - 1) = q)
    (ha : a.isWrite = false) (cond : Bool) :
    Link.Twin q b b' (if cond then l.emit i a else l) (if cond then l'.emit i a else l') := by
  cases cond with
  | true => exact h.emit hi ha
  | false => exact h

/-- The link-level counters do not matter. -/
theorem Link.Twin.of_state (h : Link.Twin q b b' l l') {st st' : MuxState} (hst : st.version = 2)
    (hst' : st'.version = 2) :
    Link.Twin q b b' { l with state := st } { l' with state := st' } :=
  ⟨hst, hst', h.steady, h.writer, h.log⟩

theorem Link.Twin.writes {buf buf' : Bytes} (h : Link.Twin q b b' l l')
    (he : Effect.Alike q ⟨i, .frame buf⟩ ⟨i, .frame buf'⟩) :
    (writeTx l' i buf').1 = (writeTx l i buf).1 ∧
      Link.Twin q b b' (writeTx l i buf).2 (writeTx l' i buf').2 := by
  have hwriter := h.writer
  rcases h.steady with hlive | hdead
  · rw [hlive] at hwriter
    have hl : writeTx l i buf = (.ok (), l.emit i (.frame buf)) := by
      unfold writeTx
      rw [hlive]
    have hl' : writeTx l' i buf' = (.ok (), l'.emit i (.frame buf')) := by
      unfold writeTx
      rw [hwriter]
    rw [hl, hl']
    exact ⟨rfl, h.add he⟩
  · rw [hdead] at hwriter
    have hl : writeTx l i buf =
        (.error .writerGone, l.emit i (.sendFailed .writerGone)) := by
      unfold writeTx
      rw [hdead]
    have hl' : writeTx l' i buf' =
        (.error .writerGone, l'.emit i (.sendFailed .writerGone)) := by
      unfold writeTx
      rw [hwriter]
    rw [hl, hl']
    refine ⟨rfl, h.add ⟨rfl, rfl, fun _ => rfl, rfl, fun r hr => ?_, he.owner⟩⟩
    cases hr

theorem Link.Twin.sendsSame (h : Link.Twin q b b' l l') (hc : c.At q) (flags : UInt8)
    {payload : Bytes} (hp : payload.length ≤ maxPayload) :
    (sendTcp l' c flags payload).1 = (sendTcp l c flags payload).1 ∧
      Link.Twin q b b' (sendTcp l c flags payload).2 (sendTcp l' c flags payload).2 := by
  rw [sendTcp_eq h.version hp, sendTcp_eq h.version' hp]
  have hnext : Link.Twin q b b' { l with state := { l.state with txSeq := l.state.txSeq + 1 } }
      { l' with state := { l'.state with txSeq := l'.state.txSeq + 1 } } :=
    h.of_state h.version h.version'
  refine hnext.writes ⟨rfl, rfl, fun hw => ?_, ?_, ?_, hc.owner⟩
  · cases hw
  · show (Act.frame _).segment? = (Act.frame _).segment?
    rw [segment?_packetOf, segment?_packetOf]
  · intro r hr
    have hseg : (Act.frame _).segment? = some r := hr
    rw [segment?_packetOf] at hseg
    obtain rfl := Option.some.inj hseg
    exact hc.sport

theorem Connection.At.of_eq {c' : Connection} (h : c.At q) (hsport : c'.sport = c.sport)
    (hid : c'.id = c.id) : c'.At q := by
  refine ⟨hsport.trans h.sport, ?_⟩
  rw [hid]
  exact h.owner

theorem flushTurn_twin {s s' : Link × Connection}
    (h : Link.Twin q b b' s.1 s'.1 ∧ s'.2 = s.2 ∧ s.2.At q) :
    Turn.Related
      (fun s s' : Link × Connection => Link.Twin q b b' s.1 s'.1 ∧ s'.2 = s.2 ∧ s.2.At q)
      (fun r r' : Except IoError Unit × Link × Connection =>
        r'.1 = r.1 ∧ Link.Twin q b b' r.2.1 r'.2.1 ∧ r'.2.2 = r.2.2 ∧ r.2.2.At q)
      (flushTurn s) (flushTurn s') := by
  obtain ⟨l, c⟩ := s
  obtain ⟨l', c'⟩ := s'
  obtain ⟨hl, hsame, hc⟩ := h
  dsimp only at hl hsame hc
  subst hsame
  unfold flushTurn
  dsimp only
  split
  · exact .leave ⟨rfl, hl, rfl, hc⟩
  split
  · exact .leave ⟨rfl, hl, rfl, hc⟩
  split
  · exact .leave ⟨rfl, hl, rfl, hc⟩
  generalize hk : min (min c'.pendingTx.length maxPayload)
    (c'.rxWin - (c'.txSeq - c'.rxAck)).toNat = k
  have hfits : (c'.pendingTx.take k).length ≤ maxPayload := by
    rw [List.length_take]
    omega
  have hd : ({ c' with pendingTx := c'.pendingTx.drop k } : Connection).At q := hc.of_eq rfl rfl
  obtain ⟨hres, hl'⟩ := hl.sendsSame hd TcpFlags.ack hfits
  revert hres hl'
  generalize sendTcp l _ TcpFlags.ack _ = r
  generalize sendTcp l' _ TcpFlags.ack _ = r'
  intro hres hl'
  obtain ⟨res, k⟩ := r
  obtain ⟨res', k'⟩ := r'
  dsimp only at hres
  subst hres
  cases res' with
  | error e => exact .leave ⟨rfl, hl', rfl, hc.of_eq rfl rfl⟩
  | ok => exact .again ⟨hl', rfl, hc.of_eq rfl rfl⟩

theorem Link.Twin.flushesSame (h : Link.Twin q b b' l l') (hc : c.At q) :
    (flushPending l' c).1 = (flushPending l c).1 ∧
      Link.Twin q b b' (flushPending l c).2.1 (flushPending l' c).2.1 ∧
      (flushPending l' c).2.2 = (flushPending l c).2.2 ∧ (flushPending l c).2.2.At q := by
  have hloop : (flushLoop l' c).1 = (flushLoop l c).1 ∧
      Link.Twin q b b' (flushLoop l c).2.1 (flushLoop l' c).2.1 ∧
      (flushLoop l' c).2.2 = (flushLoop l c).2.2 ∧ (flushLoop l c).2.2.At q :=
    whileLoop_related (fun _ _ => flushTurn_twin) ⟨h, rfl, hc⟩ rfl
  unfold flushPending
  revert hloop
  generalize flushLoop l c = r
  generalize flushLoop l' c = r'
  intro hloop
  obtain ⟨res, k, d⟩ := r
  obtain ⟨res', k', d'⟩ := r'
  obtain ⟨hres, hk, hd, hat⟩ := hloop
  dsimp only at hres hk hd hat
  subst hres hd
  cases res' with
  | error e => exact ⟨rfl, hk, rfl, hat⟩
  | ok =>
      dsimp only
      split
      · exact ⟨rfl, (hk.emit hat.owner rfl).emit hat.owner rfl, rfl, hat.of_eq rfl rfl⟩
      · exact ⟨rfl, hk, rfl, hat⟩

end

/-! ### Two loops side by side -/

/-- From `n` and `n'` on the same has been done in two loops, for one sport only. -/
structure Mux.Twin (q : UInt16) (n n' m m' : Mux) : Prop where
  link : Link.Twin q n.link.out n'.link.out m.link m'.link
  entry : m'.connections q = m.connections q
  here : ∀ c, m.connections q = some c → c.At q
  others : ∀ p, p ≠ q → m.connections p = n.connections p

section
variable {q : UInt16} {n n' m m' : Mux} {l l' : Link} {c : Connection}

theorem Mux.Twin.with_link (h : Mux.Twin q n n' m m')
    (hl : Link.Twin q n.link.out n'.link.out l l') :
    Mux.Twin q n n' { m with link := l } { m' with link := l' } :=
  ⟨hl, h.entry, h.here, h.others⟩

theorem Mux.Twin.update (h : Mux.Twin q n n' m m')
    (hl : Link.Twin q n.link.out n'.link.out l l') {r : Option Connection}
    (hr : ∀ c, r = some c → c.At q) :
    Mux.Twin q n n' { m with link := l, connections := Function.update m.connections q r }
      { m' with link := l', connections := Function.update m'.connections q r } where
  link := hl
  entry := by
    show Function.update m'.connections q r q = Function.update m.connections q r q
    rw [Function.update_self, Function.update_self]
  here := by
    intro d hd
    have hself : Function.update m.connections q r q = some d := hd
    rw [Function.update_self] at hself
    exact hr d hself
  others := by
    intro p hp
    show Function.update m.connections q r p = n.connections p
    rw [Function.update_of_ne hp]
    exact h.others p hp

theorem Mux.Twin.put (h : Mux.Twin q n n' m m') (hl : Link.Twin q n.link.out n'.link.out l l')
    (hc : c.At q) : Mux.Twin q n n' (m.put l q c) (m'.put l' q c) :=
  h.update hl fun _ hd => Option.some.inj hd ▸ hc

theorem Link.Twin.tears (hl : Link.Twin q n.link.out n'.link.out l l') (hc : c.At q) :
    Link.Twin q n.link.out n'.link.out (c.tornDown l) (c.tornDown l') :=
  (hl.emit_if hc.owner rfl _).emit_if hc.owner rfl _

theorem Link.Twin.drops (hl : Link.Twin q n.link.out n'.link.out l l') (hc : c.At q) :
    Link.Twin q n.link.out n'.link.out (c.dropped l) (c.dropped l') :=
  (hl.emit_if hc.owner rfl _).emit_if hc.owner rfl _

theorem Mux.Twin.tear (h : Mux.Twin q n n' m m') :
    Mux.Twin q n n' (teardown m q) (teardown m' q) := by
  cases hc : m.connections q with
  | none =>
      have hc' : m'.connections q = none := h.entry.trans hc
      unfold teardown
      rw [hc, hc']
      exact h
  | some c =>
      have hc' : m'.connections q = some c := h.entry.trans hc
      rw [teardown_eq hc, teardown_eq hc']
      exact h.update (h.link.tears (h.here c hc)) fun _ hd => by cases hd

theorem Mux.Twin.insert (h : Mux.Twin q n n' m m')
    (hl : Link.Twin q n.link.out n'.link.out l l') (hc : c.At q) :
    Mux.Twin q n n' (m.insert l q c) (m'.insert l' q c) := by
  unfold Mux.insert
  rw [h.entry]
  cases hold : m.connections q with
  | none => exact h.put hl hc
  | some old => exact h.put (hl.drops (h.here old hold)) hc

/-- How a send goes is the same on both links. -/
theorem Link.Twin.sends {b b' : List Effect} (hl : Link.Twin q b b' l l') (hc : c.At q)
    (flags : UInt8) :
    ∃ res k k', sendTcp l c flags [] = (res, k) ∧ sendTcp l' c flags [] = (res, k') ∧
      Link.Twin q b b' k k' := by
  obtain ⟨hres, hk⟩ := hl.sendsSame hc flags empty_fits
  revert hres hk
  generalize sendTcp l c flags [] = r
  generalize sendTcp l' c flags [] = r'
  intro hres hk
  exact ⟨r.1, r.2, r'.2, rfl, Prod.ext hres rfl, hk⟩

/-- How a flush goes, likewise. -/
theorem Link.Twin.flushes {b b' : List Effect} (hl : Link.Twin q b b' l l') (hc : c.At q) :
    ∃ res k k' d, flushPending l c = (res, k, d) ∧ flushPending l' c = (res, k', d) ∧
      Link.Twin q b b' k k' ∧ d.At q := by
  obtain ⟨hres, hk, hd, hat⟩ := hl.flushesSame hc
  revert hres hk hd hat
  generalize flushPending l c = r
  generalize flushPending l' c = r'
  intro hres hk hd hat
  exact ⟨r.1, r.2.1, r'.2.1, r.2.2, rfl, Prod.ext hres (Prod.ext rfl hd), hk, hat⟩

/-! ### The branches -/

theorem Mux.Twin.connecting (h : Mux.Twin q n n' m m') (hc : c.At q) {th : ParsedTcp}
    (hq : th.dstPort = q) (payload : Bytes) :
    Mux.Twin q n n' (handleConnecting m c th payload).2 (handleConnecting m' c th payload).2 := by
  unfold handleConnecting
  dsimp only
  rw [hq]
  by_cases hflags : th.flags = TcpFlags.syn ||| TcpFlags.ack
  · rw [if_pos hflags, if_pos hflags]
    have hd : ({ c with txSeq := c.txSeq + 1, txAck := c.txAck + 1 } : Connection).At q :=
      hc.of_eq rfl rfl
    obtain ⟨res, k, k', heq, heq', hk⟩ := h.link.sends hd TcpFlags.ack
    rw [heq, heq']
    cases res with
    | error e => exact h.put hk hd
    | ok =>
        have hspawn := hk.emit (a := .spawn c.sport) hc.owner rfl
        dsimp only
        cases c.connectReply with
        | true => exact h.put (hspawn.emit hc.owner rfl) (hc.of_eq rfl rfl)
        | false => exact h.put hspawn (hc.of_eq rfl rfl)
  · rw [if_neg hflags, if_neg hflags]
    cases c.connectReply with
    | true =>
        have hrefused :=
          h.link.emit (a := .reply (.error (.deviceRefused th.flags payload))) hc.owner rfl
        have hd : ({ c with connectReply := false } : Connection).At q := hc.of_eq rfl rfl
        exact (h.put hrefused hd).tear
    | false => exact (h.put h.link hc).tear

theorem Mux.Twin.flushes (h : Mux.Twin q n n' m m')
    (hl : Link.Twin q n.link.out n'.link.out l l') (hc : c.At q) :
    Mux.Twin q n n' (flushAndClose m l c q).2 (flushAndClose m' l' c q).2 := by
  obtain ⟨res, k, k', d, heq, heq', hk, hd⟩ := hl.flushes hc
  unfold flushAndClose
  rw [heq, heq']
  cases res with
  | error e => exact h.put hk hd
  | ok =>
      dsimp only
      by_cases hdone : (d.clientClosed && txDrained d) = true
      · rw [if_pos hdone, if_pos hdone]
        obtain ⟨res, j, j', heq, heq', hj⟩ := hk.sends hd TcpFlags.rst
        rw [heq, heq']
        cases res with
        | error e => exact h.put hj hd
        | ok => exact (h.put hj hd).tear
      · rw [if_neg hdone, if_neg hdone]
        exact h.put hk hd

theorem Mux.Twin.connected (h : Mux.Twin q n n' m m') (hc : c.At q) {th : ParsedTcp}
    (hq : th.dstPort = q) (payload : Bytes) (alive : Bool) :
    Mux.Twin q n n' (handleConnected m alive c th payload).2
      (handleConnected m' alive c th payload).2 := by
  unfold handleConnected
  dsimp only
  rw [hq]
  by_cases hrst : th.flags &&& TcpFlags.rst ≠ 0
  · rw [if_pos hrst, if_pos hrst]
    exact (h.put h.link hc).tear
  rw [if_neg hrst, if_neg hrst]
  by_cases hack : th.flags ≠ TcpFlags.ack
  · rw [if_pos hack, if_pos hack]
    exact (h.put h.link hc).tear
  rw [if_neg hack, if_neg hack]
  cases payload.isEmpty with
  | true => exact h.flushes h.link hc
  | false =>
      simp only [Bool.false_eq_true, if_false]
      cases c.rxTx && alive with
      | true =>
          simp only [if_true]
          have hd : ({ c with
              rxBuffered := saturatingAdd c.rxBuffered (UInt32.ofNat payload.length)
              txAck := c.txAck + UInt32.ofNat payload.length } : Connection).At q :=
            hc.of_eq rfl rfl
          have hchunk := h.link.emit (a := .chunk payload) hc.owner rfl
          obtain ⟨res, k, k', heq, heq', hk⟩ := hchunk.sends hd TcpFlags.ack
          rw [heq, heq']
          cases res with
          | error e => exact h.put hk hd
          | ok => exact h.flushes hk hd
      | false =>
          obtain ⟨res, k, k', heq, heq', hk⟩ := h.link.sends hc TcpFlags.rst
          simp only [Bool.false_eq_true, if_false]
          rw [heq, heq']
          exact (h.put hk hc).tear

/-- The forwarder is alive on both sides, or on neither. -/
theorem Mux.Twin.tcp (h : Mux.Twin q n n' m m') {th : ParsedTcp} (hq : th.dstPort = q)
    (payload : Bytes) {alive alive' : Nat → Bool}
    (halive : ∀ c, m.connections q = some c → alive' c.id = alive c.id) :
    Mux.Twin q n n' (handleTcp m alive th payload).2 (handleTcp m' alive' th payload).2 := by
  unfold handleTcp
  dsimp only
  rw [hq, h.entry]
  cases hc : m.connections q with
  | none =>
      dsimp only
      by_cases hrst : th.flags &&& TcpFlags.rst = 0
      · rw [if_pos hrst, if_pos hrst]
        have hanon : (Connection.anon q th.srcPort th.seq).At q := ⟨rfl, .inl rfl⟩
        obtain ⟨res, k, k', heq, heq', hk⟩ := h.link.sends hanon TcpFlags.rst
        rw [heq, heq']
        exact h.with_link hk
      · rw [if_neg hrst, if_neg hrst]
        exact h
  | some c =>
      have hat := h.here c hc
      dsimp only
      cases c.state with
      | connecting =>
          refine h.connecting ?_ hq payload
          exact hat.of_eq rfl rfl
      | connected =>
          rw [halive c hc]
          refine h.connected ?_ hq payload (alive c.id)
          exact hat.of_eq rfl rfl
      | dead =>
          refine h.put h.link ?_
          exact hat.of_eq rfl rfl

theorem Mux.Twin.rxData (h : Mux.Twin q n n' m m') (payload : Option Bytes) :
    Mux.Twin q n n' (onRxData m q payload) (onRxData m' q payload) := by
  unfold onRxData
  rw [h.entry]
  cases hc : m.connections q with
  | none => exact h
  | some c =>
      have hat := h.here c hc
      dsimp only
      by_cases hs : c.state ≠ .connected
      · rw [if_pos hs, if_pos hs]
        exact h
      rw [if_neg hs, if_neg hs]
      cases payload with
      | some bytes =>
          have hpush : ({ c with pendingTx := c.pendingTx ++ bytes } : Connection).At q :=
            hat.of_eq rfl rfl
          obtain ⟨res, k, k', d, heq, heq', hk, hd⟩ := h.link.flushes hpush
          dsimp only
          rw [heq, heq']
          cases res with
          | error e => exact (h.put hk hd).tear
          | ok =>
              dsimp only
              by_cases hhigh : txHighWater < d.pendingTx.length
              · rw [if_pos hhigh, if_pos hhigh]
                exact h.put (hk.emit hd.owner rfl) (hd.of_eq rfl rfl)
              · rw [if_neg hhigh, if_neg hhigh]
                exact h.put hk hd
      | none =>
          have hclose : ({ c with clientClosed := true } : Connection).At q := hat.of_eq rfl rfl
          obtain ⟨res, k, k', d, heq, heq', hk, hd⟩ := h.link.flushes hclose
          obtain ⟨_, j, j', hrst, hrst', hj⟩ := hk.sends hd TcpFlags.rst
          have hreset : Mux.Twin q n n'
              (teardown (m.put (sendTcp k d TcpFlags.rst []).2 q d) q)
              (teardown (m'.put (sendTcp k' d TcpFlags.rst []).2 q d) q) := by
            rw [hrst, hrst']
            exact (h.put hj hd).tear
          dsimp only
          rw [heq, heq']
          cases res with
          | error e => exact hreset
          | ok =>
              dsimp only
              by_cases hdone : txDrained d = true
              · rw [if_pos hdone, if_pos hdone]
                exact hreset
              · rw [if_neg hdone, if_neg hdone]
                exact h.put hk hd

theorem Mux.Twin.drained (h : Mux.Twin q n n' m m') (k : UInt32) :
    Mux.Twin q n n' (onDrained m q k) (onDrained m' q k) := by
  unfold onDrained
  rw [h.entry]
  cases hc : m.connections q with
  | none => exact h
  | some c =>
      have hd : ({ c with rxBuffered := saturatingSub c.rxBuffered k } : Connection).At q :=
        (h.here c hc).of_eq rfl rfl
      obtain ⟨_, j, j', hack, hack', hj⟩ := h.link.sends hd TcpFlags.ack
      dsimp only
      rw [hack, hack']
      split
      · exact h.put hj hd
      · exact h.put h.link hd

/-! ### A sport's own events -/

end

/-- What happens to a sport: a Connect is given it, or the connection listed at it meets an
event. -/
inductive OwnEvent
  | opened (id : Nat) (port : UInt16)
  | meets (cev : ConnEvent)

/-- The connection listed at the sport, and 0 if there is none. -/
def Mux.idAt (m : Mux) (q : UInt16) : Nat :=
  (m.connections q).elim 0 Connection.id

/-- The event as the sport meets it, if it is one of its own. -/
def Mux.own (m : Mux) (q : UInt16) (ev : Event) : Option OwnEvent :=
  match ev with
  | .connect port => if m.nextSport = q then some (.opened (m.ports.length + 1) port) else none
  | ev => if ev.target m = some q then (ev.forConn (m.idAt q)).map .meets else none

/-- What the loop does for a sport and one of its own events. -/
def Mux.ownStep (m : Mux) (q : UInt16) : OwnEvent → Mux
  | .opened id port =>
    match sendTcp m.link (Connection.new id q port) TcpFlags.syn [] with
    | (.error e, l) => { m with link := l.emit id (.reply (.error e)) }
    | (.ok (), l) => m.insert l q (Connection.new id q port)
  | .meets (.data bytes) => onRxData m q (some bytes)
  | .meets .close => onRxData m q none
  | .meets (.drained n) => onDrained m q n
  | .meets (.packet th payload alive) => (handleTcp m (fun _ => alive) th payload).2
  | .meets .closing =>
    match m.connections q with
    | some conn => teardown { m with link := (sendTcp m.link conn TcpFlags.rst []).2 } q
    | none => teardown m q

section
variable {q : UInt16} {n n' m m' : Mux} {oe : OwnEvent}

/-- What the loop has besides the entry and the link does not matter. -/
theorem Mux.Twin.of_eq {k k' : Mux} (h : Mux.Twin q n n' m m')
    (hconn : k.connections = m.connections) (hlink : k.link = m.link)
    (hconn' : k'.connections = m'.connections) (hlink' : k'.link = m'.link) :
    Mux.Twin q n n' k k' := by
  refine ⟨?_, ?_, ?_, ?_⟩
  · rw [hlink, hlink']
    exact h.link
  · rw [hconn, hconn']
    exact h.entry
  · rw [hconn]
    exact h.here
  · rw [hconn]
    exact h.others

theorem Mux.Twin.opens (h : Mux.Twin q n n' m m') {id : Nat} (port : UInt16)
    (hid : sportAt (id - 1) = q) :
    Mux.Twin q n n' (m.ownStep q (.opened id port)) (m'.ownStep q (.opened id port)) := by
  have hat : (Connection.new id q port).At q := ⟨rfl, .inr hid⟩
  obtain ⟨res, k, k', heq, heq', hk⟩ := h.link.sends hat TcpFlags.syn
  simp only [Mux.ownStep]
  rw [heq, heq']
  cases res with
  | error e => exact h.with_link (hk.emit hat.owner rfl)
  | ok => exact h.insert hk hat

theorem Mux.Twin.parts (h : Mux.Twin q n n' m m') :
    Mux.Twin q n n' (m.ownStep q (.meets .closing)) (m'.ownStep q (.meets .closing)) := by
  simp only [Mux.ownStep]
  rw [h.entry]
  cases hc : m.connections q with
  | none => exact h.tear
  | some c =>
      obtain ⟨_, k, k', heq, heq', hk⟩ := h.link.sends (h.here c hc) TcpFlags.rst
      dsimp only
      rw [heq, heq']
      exact (h.with_link hk).tear

theorem Mux.own_eq {ev : Event} (hev : ∀ port, ev ≠ .connect port) : m.own q ev =
    if ev.target m = some q then (ev.forConn (m.idAt q)).map .meets else none := by
  cases ev with
  | connect port => exact absurd rfl (hev port)
  | _ => rfl

theorem Mux.own_meets {ev : Event} (hev : ∀ port, ev ≠ .connect port)
    (h : m.own q ev = some oe) :
    ev.target m = some q ∧ ∃ cev, ev.forConn (m.idAt q) = some cev ∧ oe = .meets cev := by
  rw [Mux.own_eq hev] at h
  by_cases htarget : ev.target m = some q
  · rw [if_pos htarget] at h
    obtain ⟨cev, hcev, rfl⟩ := Option.map_eq_some_iff.mp h
    exact ⟨htarget, cev, hcev, rfl⟩
  · rw [if_neg htarget] at h
    cases h

theorem Mux.own_opened {port : UInt16} (h : m.own q (.connect port) = some oe) :
    m.nextSport = q ∧ oe = .opened (m.ports.length + 1) port := by
  unfold Mux.own at h
  by_cases hnext : m.nextSport = q
  · simp only [if_pos hnext, Option.some.injEq] at h
    exact ⟨hnext, h.symm⟩
  · simp only [if_neg hnext, reduceCtorEq] at h

theorem handleIncoming_eq (hv : m.link.state.version = 2) {alive : Nat → Bool} {pkt : Bytes}
    {th : ParsedTcp} {payload : Bytes} (h : tcpOf pkt = some (th, payload)) :
    handleIncoming m alive pkt = handleTcp m alive th payload := by
  rw [tcpOf] at h
  rw [handleIncoming, hv]
  split at h
  · rename_i r hr
    rw [hr, h]
  · cases h

theorem handleIncoming_none (hv : m.link.state.version = 2) {alive : Nat → Bool} {pkt : Bytes}
    (h : tcpOf pkt = none) : (handleIncoming m alive pkt).2 = m := by
  rw [tcpOf] at h
  rw [handleIncoming, hv]
  split at h
  · rename_i r hr
    rw [hr, h]
  · rename_i e hr
    rw [hr]

/-- **A branch does for its sport what the sport's own events say**, whatever else the loop
has. -/
theorem Mux.Twin.handles (hok : m.Ok) (h : Mux.Twin q n n' m m') {ev : Event}
    (hown : m.own q ev = some oe) : Mux.Twin q n n' (m.handle ev) (m'.ownStep q oe) := by
  cases ev with
  | connect port =>
      obtain ⟨hnext, rfl⟩ := Mux.own_opened hown
      have hid : sportAt (m.ports.length + 1 - 1) = q := by
        rw [Nat.add_sub_cancel, ← hok.nextSport, hnext]
      have hallocated : Mux.Twin q n n'
          { m with nextSport := max (m.nextSport + 1) 1, ports := m.ports ++ [m.nextSport] } m' :=
        h.of_eq rfl rfl rfl rfl
      have hopened := hallocated.opens port hid
      subst hnext
      exact hopened
  | rxData p payload =>
      obtain ⟨htarget, cev, hcev, rfl⟩ := Mux.own_meets (fun _ h => by cases h) hown
      cases htarget
      cases payload with
      | none => cases hcev; exact h.rxData none
      | some bytes => cases hcev; exact h.rxData (some bytes)
  | drained p k =>
      obtain ⟨htarget, cev, hcev, rfl⟩ := Mux.own_meets (fun _ h => by cases h) hown
      cases htarget
      cases hcev
      exact h.drained k
  | packet pkt alive =>
      obtain ⟨htarget, cev, hcev, rfl⟩ := Mux.own_meets (fun _ h => by cases h) hown
      obtain ⟨⟨th, payload⟩, htcp, hq⟩ := Option.map_eq_some_iff.mp htarget
      simp only [Event.forConn, htcp, Option.map_some, Option.some.injEq] at hcev
      subst hcev
      obtain ⟨st, hst, heq⟩ := onPacket_eq m alive pkt
      have hversion := hst.trans hok.version
      have hnoted : Mux.Twin q n n' { m with link := { m.link with state := st } } m' :=
        ⟨h.link.of_state hversion h.link.version', h.entry, h.here, h.others⟩
      show Mux.Twin q n n' (onPacket m alive pkt) _
      rw [heq, handleIncoming_eq hversion htcp]
      refine hnoted.tcp hq payload fun c hc => ?_
      have hc : m.connections q = some c := hc
      simp [Mux.idAt, hc]
  | stop order =>
      obtain ⟨htarget, -⟩ := Mux.own_meets (fun _ h => by cases h) hown
      cases htarget
  | closeNext =>
      obtain ⟨htarget, cev, hcev, rfl⟩ := Mux.own_meets (fun _ h => by cases h) hown
      cases hcev
      simp only [Event.target] at htarget
      split at htarget
      · rename_i p rest hphase
        cases htarget
        have hleft : Mux.Twin q n n' { m with phase := .closing rest } m' :=
          h.of_eq rfl rfl rfl rfl
        have hparts := hleft.parts
        show Mux.Twin q n n' (closeNext m) _
        unfold closeNext
        rw [hphase]
        exact hparts
      · cases htarget

end

/-! ### Runs -/

/-- What the loop comes to if nothing happens to it but these events of one sport. -/
def Mux.alone (m : Mux) (q : UInt16) (oes : List OwnEvent) : Mux :=
  oes.foldl (fun m oe => m.ownStep q oe) m

/-- The events of a run that are the sport's own. -/
def ownEvents (q : UInt16) (tr : List (Mux × Event × Mux)) : List OwnEvent :=
  tr.filterMap fun t => t.1.own q t.2.1

/-- `m'` has done for the sport what `m` has, and has the same writer. -/
structure Mux.Shadow (q : UInt16) (m m' : Mux) : Prop where
  same : SameAt q m m'
  version : m'.link.state.version = 2
  steady : m.link.Steady
  writer : m'.link.writeLeft = m.link.writeLeft

section
variable {p q : UInt16} {n n' m m' m₁ : Mux} {ev : Event} {oe : OwnEvent}

theorem Mux.Ok.listed_at (hok : m.Ok) {c : Connection} (hc : m.connections q = some c) :
    c.At q := by
  obtain ⟨hsport, -, hport⟩ := hok.entry q c hc
  exact ⟨hsport, .inr (hok.ports _ _ hport).symm⟩

theorem Mux.Shadow.twin (h : Mux.Shadow q m m') (hok : m.Ok) : Mux.Twin q m m' m m' where
  link := ⟨hok.version, h.version, h.steady, h.writer, [], [], by simp, by simp, .nil⟩
  entry := h.same.entry
  here := fun _ hc => hok.listed_at hc
  others := fun _ _ => rfl

/-- Two loops that were the same to the sport stay so. -/
theorem Mux.Twin.same (h : Mux.Twin q n n' m m') (hn : SameAt q n n') : SameAt q m m' := by
  obtain ⟨es, es', hout, hout', halike⟩ := h.link.log
  refine ⟨h.entry, ?_, fun i hi hq => ?_⟩
  · rw [hout, hout', segmentsFrom_append, segmentsFrom_append, hn.segments,
      (segmentsFrom_alike halike).1]
  · rw [hout, hout', toldTo_append, toldTo_append, hn.told i hi hq, (toldTo_alike halike).1]

/-- To the other sports nothing has happened. -/
theorem Mux.Twin.elsewhere (h : Mux.Twin p n n' m m') (hne : q ≠ p) : SameAt q n m := by
  obtain ⟨es, es', hout, -, halike⟩ := h.link.log
  refine ⟨h.others q hne, ?_, fun i hi hq => ?_⟩
  · rw [hout, segmentsFrom_append, (segmentsFrom_alike halike).2 hne, List.append_nil]
  · have hother : sportAt (i - 1) ≠ p := by
      rw [hq]
      exact hne
    rw [hout, toldTo_append, (toldTo_alike halike).2 hi hother, List.append_nil]

theorem Mux.own_target (h : ev.target m = some p) : ∃ oe, m.own p ev = some oe := by
  have hev : ∀ port, ev ≠ .connect port := by
    rintro port rfl
    cases h
  rw [Mux.own_eq hev, if_pos h]
  cases ev with
  | connect port => exact absurd rfl (hev port)
  | rxData p payload => cases payload <;> exact ⟨_, rfl⟩
  | drained p k => exact ⟨_, rfl⟩
  | packet pkt alive =>
      obtain ⟨r, htcp, -⟩ := Option.map_eq_some_iff.mp h
      simp only [Event.forConn, htcp]
      exact ⟨_, rfl⟩
  | stop order => cases h
  | closeNext => exact ⟨_, rfl⟩

/-- An event is some sport's own, or nothing is done for it that a sport could tell. -/
theorem Mux.Step.concerns (hok : m.Ok) (h : m.Step ev m₁) :
    (∃ p oe, m.own p ev = some oe) ∨
      (m₁.connections = m.connections ∧ m₁.link.out = m.link.out) := by
  obtain ⟨hready, rfl⟩ := h.eq_handle
  cases htarget : ev.target m with
  | some p => exact .inl ⟨p, Mux.own_target htarget⟩
  | none =>
      cases ev with
      | connect port =>
          refine .inl ⟨m.nextSport, .opened (m.ports.length + 1) port, ?_⟩
          rw [Mux.own, if_pos rfl]
      | rxData p payload => cases htarget
      | drained p k => cases htarget
      | packet pkt alive =>
          have htcp : tcpOf pkt = none := Option.map_eq_none_iff.mp htarget
          obtain ⟨st, hst, heq⟩ := onPacket_eq m alive pkt
          rw [handleIncoming_none (hst.trans hok.version) htcp] at heq
          rw [show m.handle (.packet pkt alive) = onPacket m alive pkt from rfl, heq]
          exact .inr ⟨rfl, rfl⟩
      | stop order => exact .inr ⟨rfl, rfl⟩
      | closeNext =>
          simp only [Event.ready] at hready
          simp only [Event.target] at htarget
          split at hready
          · rename_i p rest hphase
            rw [hphase] at htarget
            cases htarget
          · cases hready

theorem Mux.Step.shadow_own (hok : m.Ok) (h : m.Step ev m₁) (hsh : Mux.Shadow q m m')
    (hown : m.own q ev = some oe) : Mux.Shadow q m₁ (m'.ownStep q oe) := by
  obtain ⟨-, rfl⟩ := h.eq_handle
  have htwin := (hsh.twin hok).handles hok hown
  exact ⟨htwin.same hsh.same, htwin.link.version', htwin.link.steady, htwin.link.writer⟩

theorem Mux.Step.same_elsewhere (hok : m.Ok) (hst : m.link.Steady) (h : m.Step ev m₁)
    (hown : m.own q ev = none) : SameAt q m m₁ := by
  rcases h.concerns hok with ⟨p, oe, hp⟩ | ⟨hconn, hout⟩
  · have hself : Mux.Shadow p m m := ⟨SameAt.refl p m, hok.version, hst, rfl⟩
    have htwin := (hself.twin hok).handles hok hp
    obtain ⟨-, rfl⟩ := h.eq_handle
    refine htwin.elsewhere ?_
    rintro rfl
    rw [hp] at hown
    cases hown
  · refine ⟨congrFun hconn q, ?_, fun i _ _ => ?_⟩
    · rw [hout]
    · rw [hout]

theorem Mux.Step.steady (hok : m.Ok) (h : m.Step ev m₁) (hst : m.link.Steady) :
    m₁.link.Steady ∧ m₁.link.writeLeft = m.link.writeLeft := by
  rcases hst with hlive | hgone
  · have hkept := (h.kept hok).live hlive
    exact ⟨.inl hkept, hkept.trans hlive.symm⟩
  · have hkept := (h.kept hok).dead hgone
    exact ⟨.inr hkept, hkept.trans hgone.symm⟩

theorem Mux.Step.shadow (hok : m.Ok) (h : m.Step ev m₁) (hsh : Mux.Shadow q m m') :
    Mux.Shadow q m₁ (m'.alone q (m.own q ev).toList) := by
  cases hown : m.own q ev with
  | some oe => exact h.shadow_own hok hsh hown
  | none =>
      obtain ⟨hst, hwriter⟩ := h.steady hok hsh.steady
      have hsame := h.same_elsewhere hok hsh.steady hown
      exact ⟨hsame.symm.trans hsh.same, hsh.version, hst, hsh.writer.trans hwriter.symm⟩

/-- **What a run does for a sport, the sport's own events do alone.** -/
theorem run_shadow {tr : List (Mux × Event × Mux)} (hok : m.Ok) (hst : m.link.Steady)
    (h : Run Mux.Step m tr m₁) (q : UInt16) : Mux.Shadow q m₁ (m.alone q (ownEvents q tr)) := by
  induction h with
  | nil => exact ⟨SameAt.refl q m, hok.version, hst, rfl⟩
  | @snoc tr k k' ev hrun hstep ih =>
      have hok' := hrun.invariant hok (fun _ _ _ hm hs => hm.step hs)
      have hnext := hstep.shadow hok' ih
      have hevents : ownEvents q (tr ++ [(k, ev, k')]) = ownEvents q tr ++ (k.own q ev).toList := by
        unfold ownEvents
        rw [List.filterMap_append]
        cases hown : k.own q ev <;> simp [hown]
      rw [hevents, Mux.alone, List.foldl_append]
      exact hnext

end

/-! ### The order of events -/

/-- The sport a message, a drain notice or a TCP packet is for. -/
def Event.sport? : Event → Option UInt16
  | .rxData sport _ => some sport
  | .drained sport _ => some sport
  | .packet pkt _ => (tcpOf pkt).map fun r => r.1.dstPort
  | _ => none

/-- Two loops with the same map, that have given every caller and every client the same, and
have sent the same from every sport. -/
structure SameToAll (m m' : Mux) : Prop where
  connections : m'.connections = m.connections
  answers : ∀ i, 0 < i → answers (actsOf i m'.link.out) = answers (actsOf i m.link.out)
  delivered : ∀ i, 0 < i → chunks (actsOf i m'.link.out) = chunks (actsOf i m.link.out)
  frames : ∀ p, segmentsFrom p m'.link.out = segmentsFrom p m.link.out

/-- The writer of `m` is gone, or is still there at the end, in both. -/
def Mux.WriterStays (m m₁ m₂ : Mux) : Prop :=
  m.link.writeLeft = some 0 ∨ (m₁.link.writeLeft ≠ some 0 ∧ m₂.link.writeLeft ≠ some 0)

section
variable {p q r : UInt16} {m m' m₁ m₂ : Mux} {ev e₁ e₂ : Event}

theorem SameAt.all (h : ∀ q, SameAt q m m') : SameToAll m m' where
  connections := funext fun p => (h p).entry
  answers := by
    intro i hi
    rw [answers_toldTo, answers_toldTo, (h (sportAt (i - 1))).told i hi rfl]
  delivered := by
    intro i hi
    rw [chunks_toldTo, chunks_toldTo, (h (sportAt (i - 1))).told i hi rfl]
  frames := fun p => (h p).segments

theorem ownEvents_lasting (q : UInt16) (tr : List (Mux × Event × Mux)) :
    ownEvents q (lastingSteps tr) = ownEvents q tr := by
  unfold ownEvents lastingSteps
  rw [List.filterMap_map]
  rfl

/-- **Two runs with the same events for a sport are the same to it.** -/
theorem runs_same {tr₁ tr₂ : List (Mux × Event × Mux)} (hok : m.Ok)
    (h₁ : Run Mux.Step m tr₁ m₁) (h₂ : Run Mux.Step m tr₂ m₂) (hw : m.WriterStays m₁ m₂)
    (hown : ownEvents q tr₁ = ownEvents q tr₂) : SameAt q m₁ m₂ := by
  rcases hw with hgone | ⟨hthere₁, hthere₂⟩
  · have hsame₁ := (run_shadow hok (.inr hgone) h₁ q).same
    have hsame₂ := (run_shadow hok (.inr hgone) h₂ q).same
    rw [hown] at hsame₁
    exact hsame₁.trans hsame₂.symm
  · have hsame₁ := (run_shadow hok.lasting (.inl rfl) (run_lasting hok h₁ hthere₁) q).same
    have hsame₂ := (run_shadow hok.lasting (.inl rfl) (run_lasting hok h₂ hthere₂) q).same
    rw [ownEvents_lasting, hown] at hsame₁
    rw [ownEvents_lasting] at hsame₂
    have hsame := hsame₁.trans hsame₂.symm
    exact ⟨hsame.entry, hsame.segments, hsame.told⟩

theorem Event.target_of_sport (h : ev.sport? = some p) (m : Mux) : ev.target m = some p := by
  cases ev with
  | rxData q payload => exact h
  | drained q n => exact h
  | packet pkt alive => exact h
  | connect port => cases h
  | stop order => cases h
  | closeNext => cases h

theorem Mux.own_of_sport (h : ev.sport? = some p) (m : Mux) (r : UInt16) :
    m.own r ev = if p = r then (ev.forConn (m.idAt r)).map .meets else none := by
  have hev : ∀ port, ev ≠ .connect port := by
    rintro port rfl
    cases h
  rw [Mux.own_eq hev, Event.target_of_sport h]
  by_cases hp : p = r
  · rw [if_pos hp, if_pos (congrArg some hp)]
  · rw [if_neg hp, if_neg fun h => hp (Option.some.inj h)]

/-- An event for one sport leaves the entries of the others. -/
theorem Mux.Step.entry_elsewhere (hok : m.Ok) (h : m.Step ev m₁) (hs : ev.sport? = some p)
    (hne : r ≠ p) : m₁.connections r = m.connections r := by
  rcases h.change hok.version with
    ⟨-, -, -, hconn, -⟩ | ⟨hev, -⟩ | ⟨hev, -⟩ | ⟨-, htarget, -, -, hout⟩
  · rw [hconn]
  · rw [hev] at hs
    cases hs
  · rw [hev] at hs
    cases hs
  · rw [Event.target_of_sport hs] at htarget
    cases htarget
    rw [hout.connections, Function.update_of_ne hne]

/-- What an event for one sport is to any sport does not depend on an event for another one
having come before it. -/
theorem Mux.Step.own_after (hok : m.Ok) (h : m.Step e₁ m₁) (hs₁ : e₁.sport? = some p)
    (hs₂ : e₂.sport? = some q) (hne : p ≠ q) (r : UInt16) : m₁.own r e₂ = m.own r e₂ := by
  rw [Mux.own_of_sport hs₂, Mux.own_of_sport hs₂]
  by_cases hr : q = r
  · rw [if_pos hr, if_pos hr]
    have hentry : m₁.connections r = m.connections r :=
      h.entry_elsewhere hok hs₁ (hr ▸ Ne.symm hne)
    rw [Mux.idAt, Mux.idAt, hentry]
  · rw [if_neg hr, if_neg hr]

theorem Mux.step_of_sport (hrun : m.phase = .running) (hs : ev.sport? = some p) :
    m.Step ev (m.handle ev) := by
  have hready : ev.ready m = true := by
    cases ev with
    | closeNext => cases hs
    | _ => simp [Event.ready, hrun]
  refine ⟨by rw [Mux.next, if_pos hready], ?_⟩
  cases ev with
  | stop order => cases hs
  | _ => trivial

theorem Mux.Step.runs (h : m.Step ev m₁) (hs : ev.sport? = some p) : m.phase = .running := by
  obtain ⟨hready, -⟩ := h.eq_handle
  cases ev with
  | closeNext => cases hs
  | _ => simpa [Event.ready] using hready

theorem ownEvents_pair (r : UInt16) (e₁ e₂ : Event) (m m₁ m₂ : Mux) :
    ownEvents r [(m, e₁, m₁), (m₁, e₂, m₂)] = (m.own r e₁).toList ++ (m₁.own r e₂).toList := by
  unfold ownEvents
  cases h₁ : m.own r e₁ <;> cases h₂ : m₁.own r e₂ <;> simp [h₁, h₂]

/-- **Two events for two sports may come in either order.** -/
theorem Mux.Step.swap {m₁₂ : Mux} (hok : m.Ok) (hne : p ≠ q) (hs₁ : e₁.sport? = some p)
    (hs₂ : e₂.sport? = some q) (h₁ : m.Step e₁ m₁) (h₂ : m₁.Step e₂ m₁₂) :
    ∃ m₂ m₂₁, m.Step e₂ m₂ ∧ m₂.Step e₁ m₂₁ ∧ (m.WriterStays m₁₂ m₂₁ → SameToAll m₁₂ m₂₁) := by
  have hrun := h₁.runs hs₁
  have hfirst := Mux.step_of_sport hrun hs₂
  have hrun₂ := hfirst.running hok hrun (by rintro order rfl; cases hs₂)
  have hsecond := Mux.step_of_sport hrun₂ hs₁
  refine ⟨_, _, hfirst, hsecond, fun hw => SameAt.all fun r => ?_⟩
  refine runs_same hok ((Run.single h₁).trans (Run.single h₂))
    ((Run.single hfirst).trans (Run.single hsecond)) hw ?_
  rw [List.singleton_append, List.singleton_append, ownEvents_pair, ownEvents_pair,
    h₁.own_after hok hs₁ hs₂ hne, hfirst.own_after hok hs₂ hs₁ (Ne.symm hne)]
  -- at most one of the two is for this sport
  by_cases hr : p = r
  · have hnone : m.own r e₂ = none := by
      rw [Mux.own_of_sport hs₂, if_neg]
      rw [← hr]
      exact Ne.symm hne
    rw [hnone, Option.toList_none, List.append_nil, List.nil_append]
  · have hnone : m.own r e₁ = none := by
      rw [Mux.own_of_sport hs₁, if_neg hr]
    rw [hnone, Option.toList_none, List.append_nil, List.nil_append]

end

/-- **Connections are independent.**  In any state of any run, two events for two sports may be
handled in either order, and all that two runs from it have done for a sport is the same if
the sport's own events are; as long as the writer task is there, or once it is gone. -/
theorem connections_are_independent {left : Option Nat} {reply : Bytes} {link : Link}
    {tr : List (Mux × Event × Mux)} {m : Mux} (hs : handshake left reply = .ok link)
    (h : Run Mux.Step (Mux.start link) tr m) :
    (∀ p q e₁ e₂ m₁ m₁₂, p ≠ q → e₁.sport? = some p → e₂.sport? = some q →
      m.Step e₁ m₁ → m₁.Step e₂ m₁₂ → ∃ m₂ m₂₁, m.Step e₂ m₂ ∧ m₂.Step e₁ m₂₁ ∧
        (m.WriterStays m₁₂ m₂₁ → SameToAll m₁₂ m₂₁)) ∧
    ∀ tr₁ m₁ tr₂ m₂, Run Mux.Step m tr₁ m₁ → Run Mux.Step m tr₂ m₂ → m.WriterStays m₁ m₂ →
      ∀ q, ownEvents q tr₁ = ownEvents q tr₂ → SameAt q m₁ m₂ := by
  have hok := (mux_lives hs h).ok
  refine ⟨fun p q e₁ e₂ m₁ m₁₂ hne hs₁ hs₂ h₁ h₂ => h₁.swap hok hne hs₁ hs₂ h₂, ?_⟩
  intro tr₁ m₁ tr₂ m₂ h₁ h₂ hw q hown
  exact runs_same hok h₁ h₂ hw hown

/-- A device accepts two connections. -/
def twoOpened : List Event :=
  [.connect 62078, .connect 62079,
    .packet (packetOf {} ⟨62078, 1, 0, 1, synAck, 512⟩ []) fun _ => true,
    .packet (packetOf {} ⟨62079, 2, 0, 1, synAck, 512⟩ []) fun _ => true]

def twoOpen (link : Link) : Mux :=
  (exec Mux.next (Mux.start link) twoOpened).getD (Mux.start link)

/-- Their clients send a byte each. -/
def firstClient : Event :=
  .rxData 1 (some [65])

def secondClient : Event :=
  .rxData 2 (some [66])

theorem twoOpen_run : ∃ tr, Run Mux.Step (Mux.start freshLink) tr (twoOpen freshLink) ∧
    tr.map (fun t => t.2.1) = twoOpened :=
  Mux.run_of_exec (by simp [twoOpened]) rfl

/-- A writer that takes five more frames after the handshake. -/
def shortLink : Link :=
  { freshLink with writeLeft := some 5 }

example : handshake (some 7) versionReply = .ok shortLink := rfl

theorem twoOpen_short_run : ∃ tr, Run Mux.Step (Mux.start shortLink) tr (twoOpen shortLink) ∧
    tr.map (fun t => t.2.1) = twoOpened :=
  Mux.run_of_exec (by simp [twoOpened]) rfl

/-- **The last frame goes to whoever comes first.**  The writer takes one more when two clients
have sent a byte each; the connection handled second is torn down. -/
theorem last_frame_to_the_first : ∃ tr m m₁ m₁₂ m₂ m₂₁, Run Mux.Step (Mux.start shortLink) tr m ∧
    firstClient.sport? = some 1 ∧ secondClient.sport? = some 2 ∧ m.Step firstClient m₁ ∧
      m₁.Step secondClient m₁₂ ∧ m.Step secondClient m₂ ∧ m₂.Step firstClient m₂₁ ∧
        ¬ SameToAll m₁₂ m₂₁ := by
  obtain ⟨tr, hrun, -⟩ := twoOpen_short_run
  refine ⟨tr, _, _, _, _, _, hrun, rfl, rfl, ⟨rfl, trivial⟩, ⟨rfl, trivial⟩, ⟨rfl, trivial⟩,
    ⟨rfl, trivial⟩, ?_⟩
  intro hsame
  have hentry := congrArg Option.isSome (congrFun hsame.connections 2)
  cases hentry

/-- With a writer that lives on their order does not matter. -/
theorem two_clients_independent : ∃ m₂ m₂₁, (twoOpen freshLink).Step secondClient m₂ ∧
    m₂.Step firstClient m₂₁ ∧
      SameToAll (((twoOpen freshLink).handle firstClient).handle secondClient) m₂₁ := by
  obtain ⟨tr, hrun, -⟩ := twoOpen_run
  obtain ⟨m₂, m₂₁, h₂, h₂₁, hsame⟩ :=
    (connections_are_independent handshake_versionReply hrun).1 1 2 firstClient secondClient _ _
      (by decide) rfl rfl ⟨rfl, trivial⟩ ⟨rfl, trivial⟩
  refine ⟨m₂, m₂₁, h₂, h₂₁, hsame ?_⟩
  obtain ⟨-, rfl⟩ := h₂.eq_handle
  obtain ⟨-, rfl⟩ := h₂₁.eq_handle
  refine .inr ⟨?_, ?_⟩
  · show (none : Option Nat) ≠ some 0
    simp
  · show (none : Option Nat) ≠ some 0
    simp

end Netmuxd
