/-
The device's window is kept.

The counters of a connection are 32 bits wide and wrap, and so do the ACKs of the
device.  Here each listed connection carries the unwrapped number of the last ACK
beside it, for a device whose ACKs are honest.  No more is ever in flight than the
largest window that can be advertised, which is far below 2^32, so the wrapping
difference in `flush_pending` is the true number of bytes in flight, and every data
frame stays inside the window, however often the counters have wrapped.
-/
import Netmuxd.Proofs.Stream

namespace Netmuxd

open Lib

/-! ### Honest devices -/

/-- What the device has said last on a connection: the next byte it expects, counted
without wrapping, and its window in units of 256 bytes. -/
structure Heard where
  ack : Nat := 0
  window : UInt16 := 0

/-- The loop, with what the device has said last on each connection. -/
structure Watched where
  mux : Mux
  heard : Nat → Heard := fun _ => {}

namespace Watched

def acts (w : Watched) (i : Nat) : List Act :=
  actsOf i w.mux.link.out

/-- A step of the loop under a device whose ACKs are honest: unwrapped, an ACK never goes
back and never exceeds one more than the payload bytes sent so far. -/
structure Step (w : Watched) (ev : Event) (w' : Watched) : Prop where
  mux : w.mux.Step ev w'.mux
  honest : ∀ pkt alive c th payload, ev = .packet pkt alive →
    Sys.addressee w.mux pkt = some (c, th, payload) →
      th.ack = UInt32.ofNat (w'.heard c.id).ack ∧ (w'.heard c.id).window = th.window ∧
        (w.heard c.id).ack ≤ (w'.heard c.id).ack ∧
        (w'.heard c.id).ack ≤ 1 + (sentBytes (w.acts c.id)).length
  others : ∀ i, (∀ pkt alive c th payload, ev = .packet pkt alive →
    Sys.addressee w.mux pkt = some (c, th, payload) → c.id ≠ i) → w'.heard i = w.heard i

def start (link : Link) : Watched :=
  { mux := Mux.start link }

end Watched

/--
The frames `new`, sent after `h`, are numbered as their place in the stream says, and the
data frames among them end inside the window: byte positions are counted from 1 and do not
wrap.
-/
def Inside (g : Heard) (h new : List Act) : Prop :=
  ∀ pre a post th payload, new = pre ++ a :: post → a.tcp? = some (th, payload) →
    payload ≠ [] →
      th.seq = UInt32.ofNat (1 + (sentBytes (h ++ pre)).length) ∧
        1 + (sentBytes (h ++ pre)).length + payload.length ≤ g.ack + 256 * g.window.toNat

/-- The data frames a step sends end inside the window last advertised. -/
def WithinWindow (w : Watched) (_ : Event) (w' : Watched) : Prop :=
  ∀ i new, 0 < i → w'.acts i = w.acts i ++ new → Inside (w'.heard i) (w.acts i) new

/-! ### Wrapping counters -/

/-- A wrapping difference of counters less than 2^32 apart is their difference. -/
theorem ofNat_sub_toNat {n a : Nat} (hle : a ≤ n) (hlt : n < a + 4294967296) :
    (UInt32.ofNat n - UInt32.ofNat a).toNat = n - a := by
  rw [UInt32.toNat_sub, UInt32.toNat_ofNat', UInt32.toNat_ofNat']
  omega

theorem window_bytes (window : UInt16) : (window.toUInt32 <<< 8).toNat = 256 * window.toNat := by
  have hlt := window.toNat_lt
  rw [UInt32.toNat_shiftLeft, UInt16.toNat_toUInt32, show (8 : UInt32).toNat % 32 = 8 from rfl,
    Nat.shiftLeft_eq]
  omega

/-! ### Frames inside the window -/

theorem Inside.append {g : Heard} {h as bs : List Act} (ha : Inside g h as)
    (hb : Inside g (h ++ as) bs) : Inside g h (as ++ bs) := by
  intro pre a post th payload heq htcp hne
  rcases List.append_eq_append_iff.mp heq with ⟨mid, rfl, hmid⟩ | ⟨mid, rfl, hmid⟩
  · have hin := hb mid a post th payload hmid htcp hne
    rw [List.append_assoc] at hin
    exact hin
  · cases mid with
    | nil =>
        have hin := hb [] a post th payload hmid.symm htcp hne
        simpa using hin
    | cons x mid' =>
        rw [List.cons_append, List.cons.injEq] at hmid
        exact ha pre a mid' th payload (by rw [hmid.1]) htcp hne

/-- Acts without payload are inside any window. -/
theorem Inside.of_empty {g : Heard} {h acts : List Act} (hq : sentBytes acts = []) :
    Inside g h acts := by
  intro pre a post th payload heq htcp hne
  refine absurd ?_ hne
  rw [heq, ← List.singleton_append, sentBytes_append, sentBytes_append, sentBytes_frame htcp] at hq
  exact (List.append_eq_nil_iff.mp (List.append_eq_nil_iff.mp hq).2).1

/-- What is kept for a listed connection: the counters are the unwrapped ones, and no more
is in flight than the largest window. -/
structure Acked (g : Heard) (h : List Act) (c : Connection) : Prop where
  ack : c.rxAck = UInt32.ofNat g.ack
  window : c.rxWin = g.window.toUInt32 <<< 8
  le : g.ack ≤ 1 + (sentBytes h).length
  bound : 1 + (sentBytes h).length ≤ g.ack + 16776960

/-- The bytes in flight are what the code takes them to be. -/
theorem Acked.inflight {g : Heard} {h : List Act} {c : Connection} (hk : Acked g h c)
    (hc : Counted h c) : (c.txSeq - c.rxAck).toNat = 1 + (sentBytes h).length - g.ack := by
  have hbound := hk.bound
  have hseq : c.txSeq = UInt32.ofNat (1 + (sentBytes h).length) := by
    rw [hc.counter, UInt32.ofNat_add]
    rfl
  rw [hseq, hk.ack, ofNat_sub_toNat hk.le (by omega)]

theorem Acked.quiet {g : Heard} {h acts : List Act} {c c' : Connection} (hk : Acked g h c)
    (hq : sentBytes acts = []) (hack : c'.rxAck = c.rxAck) (hwin : c'.rxWin = c.rxWin) :
    Acked g (h ++ acts) c' := by
  have hsent : sentBytes (h ++ acts) = sentBytes h := by rw [sentBytes_append, hq, List.append_nil]
  exact ⟨hack.trans hk.ack, hwin.trans hk.window, hsent ▸ hk.le, hsent ▸ hk.bound⟩

/-- **A move keeps the window**: what a data frame carries fits behind what is in flight. -/
theorem Acked.move {g : Heard} {h acts : List Act} {c c' : Connection} (hk : Acked g h c)
    (hc : Counted h c) (hm : Move c acts c') : Acked g (h ++ acts) c' ∧ Inside g h acts := by
  cases hm with
  | frame ha => exact ⟨hk.quiet (sentBytes_frame ha) rfl rfl, Inside.of_empty (sentBytes_frame ha)⟩
  | @data k a hpos hlen hmax hopen hwin ha =>
      have hinflight := hk.inflight hc
      have hle := hk.le
      have hk' : (c.pendingTx.take k).length = k := List.length_take_of_le hlen
      have hlt := g.window.toNat_lt
      have hwindow : c.rxWin.toNat = 256 * g.window.toNat := by rw [hk.window, window_bytes]
      have hfits : 1 + (sentBytes h).length + k ≤ g.ack + 256 * g.window.toNat := by
        rw [UInt32.toNat_sub_of_le _ _ (UInt32.le_of_lt hopen), hwindow, hinflight] at hwin
        have hopen' : (c.txSeq - c.rxAck).toNat < c.rxWin.toNat := hopen
        rw [hwindow, hinflight] at hopen'
        omega
      have hsent : (sentBytes (h ++ [a])).length = (sentBytes h).length + k := by
        rw [sentBytes_append, sentBytes_frame ha, List.length_append, hk']
      refine ⟨⟨hk.ack, hk.window, by omega, by omega⟩, ?_⟩
      intro pre b post th payload heq htcp _
      cases pre with
      | cons x pre' =>
          rw [List.cons_append, List.cons.injEq] at heq
          exact absurd heq.2.symm (by simp)
      | nil =>
          rw [List.nil_append, List.cons.injEq] at heq
          rw [← heq.1, ha] at htcp
          cases htcp
          rw [List.append_nil, hk', headerOf_seq, hc.counter, UInt32.ofNat_add]
          exact ⟨rfl, hfits⟩
  | failed k => exact ⟨hk.quiet rfl rfl rfl, Inside.of_empty rfl⟩
  | resume => exact ⟨hk.quiet rfl rfl rfl, Inside.of_empty rfl⟩
  | pause => exact ⟨hk.quiet rfl rfl rfl, Inside.of_empty rfl⟩

theorem Acked.moves {g : Heard} {h acts : List Act} {c c' : Connection} (hk : Acked g h c)
    (hc : Counted h c) (hm : Moves c acts c') : Acked g (h ++ acts) c' ∧ Inside g h acts := by
  obtain ⟨new, heq, hk', -, hin⟩ := hm.preserves
    (P := fun hist d => ∃ new, hist = h ++ new ∧ Acked g hist d ∧ Counted hist d ∧ Inside g h new)
    (by
      rintro hist d os d' ⟨new, rfl, hk, hc, hin⟩ hmove
      obtain ⟨hk', hin'⟩ := hk.move hc hmove
      exact ⟨new ++ os, List.append_assoc .., hk', hc.move hmove, hin.append hin'⟩)
    ⟨[], (List.append_nil h).symm, hk, hc, Inside.of_empty rfl⟩
  exact ⟨hk', (List.append_cancel_left heq) ▸ hin⟩

/-! ### Reactions -/

/-- How an event changes what the device has said last on a connection, whose acts so far
are `h`. -/
inductive Notes (h : List Act) (g : Heard) : ConnEvent → Heard → Prop
  | packet {th : ParsedTcp} {payload : Bytes} {alive : Bool} {g' : Heard}
      (hack : th.ack = UInt32.ofNat g'.ack) (hwin : g'.window = th.window) (hmono : g.ack ≤ g'.ack)
      (hle : g'.ack ≤ 1 + (sentBytes h).length) : Notes h g (.packet th payload alive) g'
  | other {cev : ConnEvent} (hno : ∀ th payload alive, cev ≠ .packet th payload alive) :
      Notes h g cev g

theorem Acked.hear {g g' : Heard} {h : List Act} {c d : Connection} {th : ParsedTcp}
    {payload : Bytes} {alive : Bool} (hk : Acked g h c)
    (hn : Notes h g (.packet th payload alive) g') (hack : d.rxAck = th.ack)
    (hwin : d.rxWin = th.window.toUInt32 <<< 8) : Acked g' h d := by
  cases hn with
  | packet hack' hwin' hmono hle =>
      have hbound := hk.bound
      exact ⟨hack.trans hack', by rw [hwin, hwin'], hle, by omega⟩
  | other hno => exact absurd rfl (hno _ _ _)

theorem Notes.same {h : List Act} {g g' : Heard} {cev : ConnEvent} (hn : Notes h g cev g')
    (hno : ∀ th payload alive, cev ≠ .packet th payload alive) : g' = g := by
  cases hn with
  | packet => exact absurd rfl (hno _ _ _)
  | other => rfl

theorem Acked.intake {g g' : Heard} {h first : List Act} {c d : Connection} {cev : ConnEvent}
    (hk : Acked g h c) (hn : Notes h g cev g') (hi : Intake c cev first d) :
    Acked g' (h ++ first) d := by
  cases hi with
  | hear =>
      rw [List.append_nil]
      exact hk.hear hn rfl rfl
  | @deliver th payload _ _ _ _ =>
      have hheard : Acked g' h (c.hear th) := hk.hear hn rfl rfl
      exact hheard.quiet rfl rfl rfl
  | data =>
      rw [hn.same (by simp)]
      exact hk.quiet rfl rfl rfl
  | close =>
      rw [hn.same (by simp)]
      exact hk.quiet rfl rfl rfl
  | drain =>
      rw [hn.same (by simp)]
      exact hk.quiet rfl rfl rfl
  | closing =>
      rw [hn.same (by simp)]
      exact hk.quiet rfl rfl rfl

theorem Intake.inside {g : Heard} {h first : List Act} {c d : Connection} {cev : ConnEvent}
    (hi : Intake c cev first d) : Inside g h first :=
  Inside.of_empty hi.bytes.1

/-- A connected entry's reaction keeps the window it has been told of. -/
theorem Reacts.within {g g' : Heard} {h acts : List Act} {c : Connection} {cev : ConnEvent}
    {r : Option Connection} (hr : Reacts c cev acts r) (hs : c.state = .connected)
    (hk : Acked g h c) (hc : Counted h c) (hn : Notes h g cev g') :
    (∀ c', r = some c' → Acked g' (h ++ acts) c') ∧ Inside g' h acts := by
  obtain ⟨first, d, moves, c₁, last, hi, hm, he, rfl⟩ := hr.parts hs
  obtain ⟨hk', hin⟩ := (hk.intake hn hi).moves (hc.intake hi) hm
  have hbefore : Inside g' h (first ++ moves) := hi.inside.append hin
  cases he with
  | stays =>
      rw [List.append_nil, ← List.append_assoc]
      refine ⟨?_, hbefore⟩
      intro c' h
      cases h
      exact hk'
  | goes =>
      refine ⟨by simp, hbefore.append (Inside.of_empty ?_)⟩
      exact sentBytes_quiet c₁.tearActs_quiet
  | resets ha =>
      refine ⟨by simp, hbefore.append (Inside.of_empty ?_)⟩
      rw [← List.singleton_append, sentBytes_append_quiet _ c₁.tearActs_quiet, ha.bytes]

theorem Opening.within {g g' : Heard} {h acts : List Act} {c : Connection} {cev : ConnEvent}
    {r : Option Connection} (ho : Opening c cev acts r) (hk : Acked g h c)
    (hn : Notes h g cev g') :
    (∀ c', r = some c' → Acked g' (h ++ acts) c') ∧ Inside g' h acts := by
  have hsilent := ho.bytes.1
  refine ⟨fun c' hc' => ?_, Inside.of_empty hsilent⟩
  subst hc'
  cases ho with
  | @accepted th _ _ _ _ _ _ _ =>
      have hheard : Acked g' h (c.hear th) := hk.hear hn rfl rfl
      exact hheard.quiet hsilent rfl rfl
  | @acceptFailed th _ _ _ _ =>
      have hheard : Acked g' h (c.hear th) := hk.hear hn rfl rfl
      exact hheard.quiet hsilent rfl rfl
  | drained =>
      rw [hn.same (by simp)]
      exact hk.quiet rfl rfl rfl
  | ignored hcev => rw [hn.same hcev]; exact hk.quiet rfl rfl rfl

/-! ### Runs -/

/-- What holds of the watched loop at every step. -/
structure Watched.Sound (live : Prop) (w : Watched) : Prop where
  lives : w.mux.Lives live
  fresh : ∀ i, w.mux.ports.length < i → w.heard i = {}
  acked : ∀ i c, 0 < i → w.mux.entry i = some c → Acked (w.heard i) (w.acts i) c

theorem Watched.Sound.start {live : Prop} {link : Link} (h : link.Fresh)
    (hw : live → link.writeLeft = none) : (Watched.start link).Sound live where
  lives := Mux.Lives.start h hw
  fresh := fun _ _ => rfl
  acked := by
    intro i c hi hc
    rw [(Watched.start link).mux.entry_new hi] at hc
    cases hc

/-- What the device has said for a connection changes only with a packet for it. -/
theorem Watched.Step.notes {w w' : Watched} {ev : Event} (h : w.Step ev w') (hok : w.mux.Ok)
    {i : Nat} {c : Connection} {cev : ConnEvent} (hc : w.mux.entry i = some c)
    (htarget : ev.target w.mux = some c.sport) (hcev : ev.forConn i = some cev) :
    Notes (w.acts i) (w.heard i) cev (w'.heard i) := by
  obtain ⟨hlisted, rfl⟩ := hok.of_entry hc
  by_cases hpacket : ∃ th payload alive, cev = .packet th payload alive
  · obtain ⟨th, payload, alive, rfl⟩ := hpacket
    obtain ⟨pkt, f, rfl, haddr, -⟩ := Event.addressee hlisted htarget hcev
    obtain ⟨hack, hwin, hmono, hle⟩ := h.honest pkt f c th payload rfl haddr
    exact Notes.packet hack hwin hmono hle
  · have hno : ∀ th payload alive, cev ≠ .packet th payload alive :=
      fun th payload alive heq => hpacket ⟨th, payload, alive, heq⟩
    rw [h.others c.id ?_]
    · exact Notes.other hno
    · rintro pkt alive d th payload rfl haddr -
      simp only [Event.forConn, (Sys.addressee_eq_some.mp haddr).1, Option.map_some,
        Option.some.injEq] at hcev
      exact hno _ _ _ hcev.symm

/-- A step that is not for the entry of `i` does not change what is known of it. -/
theorem Watched.Step.unheard {w w' : Watched} {ev : Event} (h : w.Step ev w') (hok : w.mux.Ok)
    {i : Nat} (hidle : ∀ c, w.mux.entry i = some c → ev.target w.mux ≠ some c.sport) :
    w'.heard i = w.heard i := by
  refine h.others i ?_
  rintro pkt alive c th payload rfl haddr rfl
  obtain ⟨htcp, hlisted⟩ := Sys.addressee_eq_some.mp haddr
  refine hidle c (hok.entry_of hlisted) ?_
  rw [(hok.entry _ _ hlisted).1]
  simp [Event.target, htcp]

theorem Watched.Sound.step {live : Prop} {w w' : Watched} {ev : Event} (hw : w.Sound live)
    (h : w.Step ev w') : w'.Sound live ∧ WithinWindow w ev w' := by
  have hok := hw.lives.ok
  have hports := (h.mux.ports hok).1.length_le
  have hlives := hw.lives.step h.mux
  -- what becomes of one connection
  have hone : ∀ i, 0 < i → (∀ c, w'.mux.entry i = some c → Acked (w'.heard i) (w'.acts i) c) ∧
      ∃ new, w'.acts i = w.acts i ++ new ∧ Inside (w'.heard i) (w.acts i) new := by
    intro i hi
    have hconnect : ∀ port, ev = .connect port → w'.heard i = w.heard i := by
      rintro port rfl
      exact h.others i fun pkt alive c th payload heq => by cases heq
    rcases hok.share h.mux hi with
      ⟨hacts, hentry, hidle⟩ | ⟨hopen, hnew, ha, hacts, hentry⟩ |
        ⟨hopen, hnew, -, -, hacts, hentry⟩ | ⟨hc, htarget, hcev, hr, hlink, hentry⟩ |
          ⟨hopen, hc, -, hacts, hentry⟩
    · rw [h.unheard hok hidle, hentry, show w'.acts i = w.acts i from hacts]
      exact ⟨fun c hc => hw.acked i c hi hc, [], (List.append_nil _).symm, Inside.of_empty rfl⟩
    · have hnil : w.acts i = [] := hok.acts_nil (hnew ▸ Nat.lt_succ_self _)
      have hempty := sentBytes_frame ha
      rw [hconnect _ hopen, hw.fresh i (hnew ▸ Nat.lt_succ_self _), hentry,
        show w'.acts i = _ from hacts, hnil]
      refine ⟨fun c hc => ?_, _, (List.nil_append _).symm, Inside.of_empty hempty⟩
      cases hc
      refine ⟨rfl, rfl, Nat.zero_le _, ?_⟩
      rw [hempty]
      exact Nat.le_add_left 1 _
    · have hnil : w.acts i = [] := hok.acts_nil (hnew ▸ Nat.lt_succ_self _)
      rw [hentry, show w'.acts i = _ from hacts, hnil]
      exact ⟨by simp, _, (List.nil_append _).symm, Inside.of_empty rfl⟩
    · rename_i c cev acts r
      have hn := h.notes hok hc htarget hcev
      have hk := hw.acked i c hi hc
      have hlife := hw.lives.life i hi
      rw [hc] at hlife
      have hboth : (∀ c', r = some c' → Acked (w'.heard i) (w.acts i ++ acts) c') ∧
          Inside (w'.heard i) (w.acts i) acts := by
        by_cases hs : c.state = .connected
        · exact hr.within hs hk (hlife.counting.counted c rfl hs) hn
        · exact (hr.opening (hlife.connecting hs)).within hk hn
      rw [hentry, show w'.acts i = w.acts i ++ acts from hlink.acts_self]
      exact ⟨hboth.1, acts, rfl, hboth.2⟩
    · rename_i port c
      rw [hentry, show w'.acts i = w.acts i ++ c.dropActs from hacts]
      exact ⟨by simp, _, rfl, Inside.of_empty (sentBytes_quiet c.dropActs_quiet)⟩
  refine ⟨⟨hlives, fun i hi => ?_, fun i c hi hc => (hone i hi).1 c hc⟩, fun i new hi heq => ?_⟩
  · have hlt : w.mux.ports.length < i := Nat.lt_of_le_of_lt hports hi
    rw [h.unheard hok fun c hc => ?_, hw.fresh i hlt]
    rw [w.mux.entry_new hlt] at hc
    cases hc
  · obtain ⟨new', heq', hin⟩ := (hone i hi).2
    rw [heq'] at heq
    exact List.append_cancel_left heq ▸ hin

/-- A turn of the flush subtracts only where something is left. -/
theorem flushTurn_open {l : Link} {c : Connection}
    (h : flushTurn (l, c) ≠ .leave (.ok (), l, c)) : c.txSeq - c.rxAck < c.rxWin := by
  by_contra hfull
  refine h ?_
  simp only [flushTurn]
  by_cases hnil : c.pendingTx.isEmpty = true
  · rw [if_pos hnil]
  · rw [if_neg hnil, if_pos (UInt32.not_lt.mp hfull)]

/-- **The device's window is kept**, in every run with a device whose ACKs are honest: every
data frame ends inside the window last advertised, and the wrapping counters of a connected
entry tell the bytes in flight exactly.  Every frame fits the pipe and no send fails for its
size; and from any state a flush comes to an end, with no turn of it that subtracts more
than there is. -/
theorem send_window_safe {left : Option Nat} {reply : Bytes} {link : Link}
    {tr : List (Watched × Event × Watched)} {w : Watched} (hs : handshake left reply = .ok link)
    (h : Run Watched.Step (Watched.start link) tr w) :
    EveryStep WithinWindow tr ∧
    (∀ p c, w.mux.connections p = some c → c.state = .connected →
      (w.heard c.id).ack + (c.txSeq - c.rxAck).toNat = 1 + (sentBytes (w.acts c.id)).length) ∧
    (∀ e ∈ w.mux.link.out, e.act.Fits) ∧
    ∀ l c, (∃ fuel, iter flushTurn fuel (l, c) = some (flushLoop l c)) ∧
      (flushTurn (l, c) ≠ .leave (.ok (), l, c) → c.txSeq - c.rxAck < c.rxWin) := by
  obtain ⟨hfresh, hwriter⟩ := handshake_fresh hs
  have hstart : (Watched.start link).Sound (left = none) := Watched.Sound.start hfresh hwriter
  have hw : w.Sound (left = none) :=
    h.invariant hstart (fun _ _ _ hw hstep => (hw.step hstep).1)
  refine ⟨?_, fun p c hc hs => ?_, hw.lives.fits,
    fun l c => ⟨⟨_, iter_whileLoop _ _⟩, flushTurn_open⟩⟩
  · exact h.everyStep_of (P := fun w => w.Sound (left = none)) (C := fun _ _ _ => True) hstart
      (fun _ _ _ hw hstep _ => (hw.step hstep).1) (fun _ _ _ hw hstep _ => (hw.step hstep).2)
      (fun _ _ => trivial)
  · have hpos := (hw.lives.ok.entry p c hc).2.1
    have hk := hw.acked c.id c hpos (hw.lives.ok.entry_of hc)
    have hlife := hw.lives.listed hc
    have hin := hk.inflight (hlife.counting.counted c rfl hs)
    have hle := hk.le
    rw [hin]
    omega

/-! ### A watched run -/

theorem Watched.Step.of_packet {m m' : Mux} {heard : Nat → Heard} {c : Connection}
    {th : ParsedTcp} {payload : Bytes} {alive : Nat → Bool} {a : Nat}
    (hmux : m.Step (.packet (packetOf {} th payload) alive) m')
    (hc : m.connections th.dstPort = some c) (hack : th.ack = UInt32.ofNat a)
    (hmono : (heard c.id).ack ≤ a) (hle : a ≤ 1 + (sentBytes (actsOf c.id m.link.out)).length) :
    Watched.Step ⟨m, heard⟩ (.packet (packetOf {} th payload) alive)
      ⟨m', Function.update heard c.id ⟨a, th.window⟩⟩ := by
  have haddr : Sys.addressee m (packetOf {} th payload) = some (c, th, payload) :=
    Sys.addressee_eq_some.mpr ⟨tcpOf_packetOf _ _ _, hc⟩
  refine ⟨hmux, fun pkt f d th' payload' heq haddr' => ?_, fun i hi => ?_⟩
  · cases heq
    rw [haddr] at haddr'
    cases haddr'
    simp only [Function.update_self]
    exact ⟨hack, trivial, hmono, hle⟩
  · exact Function.update_of_ne (hi _ _ _ _ _ rfl haddr).symm _ _

theorem Watched.Step.of_other {m m' : Mux} {heard : Nat → Heard} {ev : Event} (hmux : m.Step ev m')
    (hev : ∀ pkt alive, ev ≠ .packet pkt alive) : Watched.Step ⟨m, heard⟩ ev ⟨m', heard⟩ :=
  ⟨hmux, fun _ _ _ _ _ heq => absurd heq (hev _ _), fun _ _ => rfl⟩

def dial : Mux :=
  onConnect (Mux.start freshLink) 62078

def dialed : Mux :=
  onPacket dial (fun _ => true) (packetOf {} ⟨62078, 1, 0, 1, synAck, 512⟩ [])

/-- Two bytes sent to a device that offers 512 units of window. -/
theorem dialed_window_safe : ∃ tr w, Run Watched.Step (Watched.start freshLink) tr w ∧
    tr.map (fun t => t.2.1) = [.connect 62078,
      .packet (packetOf {} ⟨62078, 1, 0, 1, synAck, 512⟩ []) fun _ => true,
      .rxData 1 (some [65, 66])] ∧
    EveryStep WithinWindow tr := by
  obtain ⟨c, hc⟩ : ∃ c, dial.connections 1 = some c := Option.isSome_iff_exists.mp rfl
  have hid : c.id = 1 := by
    have hsome : (dial.connections 1).map Connection.id = some 1 := rfl
    rw [hc] at hsome
    exact Option.some.inj hsome
  have h₁ : (Watched.start freshLink).Step (.connect 62078) ⟨dial, fun _ => {}⟩ :=
    Watched.Step.of_other ⟨rfl, trivial⟩ (fun _ _ h => by cases h)
  have h₂ : Watched.Step ⟨dial, fun _ => {}⟩ _ _ := Watched.Step.of_packet (c := c) (a := 1)
    (show dial.Step (.packet (packetOf {} ⟨62078, 1, 0, 1, synAck, 512⟩ []) fun _ => true) dialed
      from ⟨rfl, trivial⟩) hc rfl (Nat.zero_le _) (Nat.le_add_right _ _)
  have h₃ : Watched.Step ⟨dialed, Function.update (fun _ => {}) c.id ⟨1, 512⟩⟩ _ _ :=
    Watched.Step.of_other (show dialed.Step (.rxData 1 (some [65, 66]))
      (onRxData dialed 1 (some [65, 66])) from ⟨rfl, trivial⟩) (by simp)
  have hrun := ((Run.single h₁).snoc h₂).snoc h₃
  exact ⟨_, _, hrun, rfl, (send_window_safe handshake_versionReply hrun).1⟩

end Netmuxd
