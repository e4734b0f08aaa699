/-
The device's bytes on their way to the client.

A payload is handed to the forwarder and counted in `rx_buffered` until the forwarder
reports that the client has it.  Whatever window a frame has ever advertised, its right
edge is at most the receive window beyond what has been reported so far: what a frame
offers is what is free then, and what is reported later only moves the edge on.  So a
device that stays inside any of the windows it was sent, the latest or not, never has more
than the receive window outstanding, and nothing saturates.
-/
import Netmuxd.Proofs.Stream
import Netmuxd.Proofs.Window

namespace Netmuxd

open Lib Relation

/-! ### What has been handed on -/

/-- The bytes put on the forwarder's queue, in order. -/
def delivered (h : List Act) : Bytes :=
  (chunks h).flatten

@[simp] theorem delivered_append (h h' : List Act) :
    delivered (h ++ h') = delivered h ++ delivered h' := by
  simp [delivered]

/-- The payloads of the plain ACKs among these packets, in order. -/
def plainBytes (inbox : List (ParsedTcp × Bytes)) : Bytes :=
  inbox.flatMap fun r => if r.1.flags = TcpFlags.ack then r.2 else []

@[simp] theorem plainBytes_append (inbox inbox' : List (ParsedTcp × Bytes)) :
    plainBytes (inbox ++ inbox') = plainBytes inbox ++ plainBytes inbox' := by
  simp [plainBytes]

/-- The number of bytes these drain notices report. -/
def reported (ns : List UInt32) : Nat :=
  ns.foldr (fun n total => n.toNat + total) 0

@[simp] theorem reported_nil : reported [] = 0 := rfl

@[simp] theorem reported_cons (n : UInt32) (ns : List UInt32) :
    reported (n :: ns) = n.toNat + reported ns := rfl

@[simp] theorem reported_append (ns ns' : List UInt32) :
    reported (ns ++ ns') = reported ns + reported ns' := by
  induction ns with
  | nil => exact (Nat.zero_add _).symm
  | cons n rest ih => rw [List.cons_append, reported_cons, reported_cons, ih, Nat.add_assoc]

/-! ### Statement -/

/-- A frame among these acts lets the device send up to position `top`: unwrapped, its ACK
is at most one more than what had been handed on before it. -/
def Invited (h : List Act) (top : Nat) : Prop :=
  ∃ pre a post hdr body n, h = pre ++ a :: post ∧ a.tcp? = some (hdr, body) ∧
    hdr.ack = UInt32.ofNat n ∧ n ≤ 1 + (delivered pre).length ∧
      top ≤ n + 256 * hdr.window.toNat

/-- The payload of a plain ACK for connection `i` ends inside some window that the device
has been sent; positions are counted from 1 and do not wrap. -/
def Sys.StaysInvited (i : Nat) (s : Sys) (a : Action) (_ : Sys) : Prop :=
  ∀ pkt c th payload, a = .packet pkt → Sys.addressee s.mux pkt = some (c, th, payload) →
    c.id = i → c.state = .connected → th.flags = TcpFlags.ack → payload ≠ [] →
      Invited (s.acts i)
        (1 + (plainBytes (packetsOf i s.inbox)).length + payload.length)

/-- No frame sent for connection `i` in this step offers more than the receive window less
what has been handed on and not been reported. -/
def Sys.OffersFree (i : Nat) (s : Sys) (_ : Action) (s' : Sys) : Prop :=
  ∀ new, s'.acts i = s.acts i ++ new → ∀ a ∈ new, ∀ hdr body, a.tcp? = some (hdr, body) →
    256 * hdr.window.toNat + (delivered (s'.acts i)).length ≤
      rxWindow.toNat + reported (amountsOf i s'.settled)

/-- The receiving side of the connected entry `c` of connection `i`. -/
structure Sys.ReceivesWhole (i : Nat) (s : Sys) (c : Connection) : Prop where
  /-- What the forwarder has been handed is what plain ACKs have carried, in order. -/
  inOrder : delivered (s.acts i) = plainBytes (packetsOf i s.inbox)
  ack : c.txAck = 1 + UInt32.ofNat (delivered (s.acts i)).length
  /-- `rx_buffered` counts what has been handed over and not been reported as drained. -/
  outstanding :
    c.rxBuffered.toNat + reported (amountsOf i s.settled) = (delivered (s.acts i)).length
  bounded : c.rxBuffered.toNat ≤ rxWindow.toNat

/-- What the loop may take up on a connection whose device stays inside its windows. -/
def MeetsInvited (v : View) (cev : ConnEvent) : Prop :=
  ∀ th payload alive c, cev = .packet th payload alive → v.entry = some c →
    c.state = .connected → th.flags = TcpFlags.ack → payload ≠ [] →
      Invited v.acts (1 + (plainBytes v.inbox).length + payload.length)

theorem meets_invited {i : Nat} {s s' : Sys} {a : Action} (hok : s.mux.Ok)
    (h : s.StaysInvited i a s') : s.Meets (fun j v cev => j = i → MeetsInvited v cev) a s' := by
  intro ev hev p c cev hc htarget hcev hid
  subst hid
  rintro th payload alive d rfl hentry hs
  have hd : d = c := Option.some.inj (hentry.symm.trans (hok.entry_of hc))
  subst hd
  obtain ⟨pkt, rfl, haddr, -⟩ := Sys.event_packet hev hc htarget hcev
  exact h pkt d th payload rfl haddr rfl hs

/-! ### The forwarder's account -/

/-- The size of the chunk a forwarder is busy with. -/
def Forwarder.inHand : Forwarder → Nat
  | .writing n _ => n.toNat
  | .reporting n => n.toNat
  | _ => 0

/-- What has been reported, what is on the way and what the forwarder is busy with is no
more than what it has taken off its queue. -/
def Accounted (h : List Act) (t : Task) (total : Nat) : Prop :=
  total + t.forwarder.inHand ≤ ((chunks h).take t.received).flatten.length

theorem Accounted.le {h : List Act} {t : Task} {total : Nat} (ha : Accounted h t total) :
    total + t.forwarder.inHand ≤ (delivered h).length := by
  have hsplit := congrArg List.length
    (congrArg List.flatten (List.take_append_drop t.received (chunks h)))
  rw [List.flatten_append, List.length_append] at hsplit
  unfold Accounted at ha
  unfold delivered
  omega

theorem Accounted.grow {h : List Act} {t : Task} {total : Nat} (ha : Accounted h t total)
    (acts : List Act) : Accounted (h ++ acts) t total := by
  rw [Accounted, chunks_append, List.take_append, List.flatten_append, List.length_append]
  unfold Accounted at ha
  omega

theorem Accounted.task {h : List Act} {gone : Prop} {t t' : Task} {total : Nat}
    {msgs : List (Option Bytes)} {ns : List UInt32} (ha : Accounted h t total)
    (ht : TaskStep h gone t t' msgs ns) : Accounted h t' (total + reported ns) := by
  have hsame : ∀ {u : Task}, u.forwarder = t.forwarder → u.received = t.received →
      Accounted h u total := by
    intro u hf hr
    rw [Accounted, hf, hr]
    exact ha
  -- a forwarder that is through with a chunk, or gives it up
  have hless : ∀ {f : Forwarder} {n : Nat}, f.inHand + n ≤ t.forwarder.inHand →
      Accounted h { t with forwarder := f } (total + n) := by
    intro f n hle
    rw [Accounted] at ha ⊢
    show total + n + f.inHand ≤ ((chunks h).take t.received).flatten.length
    omega
  cases ht with
  | @take chunk hf hc =>
      have hlen : (UInt32.ofNat chunk.length).toNat ≤ chunk.length := by
        rw [UInt32.toNat_ofNat']
        exact Nat.mod_le _ _
      rw [Accounted, hf] at ha
      show total + 0 + (UInt32.ofNat chunk.length).toNat ≤
        ((chunks h).take (t.received + 1)).flatten.length
      rw [List.take_add_one, hc, List.flatten_append, List.length_append]
      simp only [Option.toList_some, List.flatten_cons, List.flatten_nil, List.append_nil]
      have hzero : Forwarder.receiving.inHand = 0 := rfl
      omega
  | finish hf => exact hless (f := .done) (n := 0) (Nat.zero_le _)
  | written hf => exact hless (n := 0) (by rw [hf]; exact Nat.le_refl _)
  | fail hf => exact hless (f := .done) (n := 0) (Nat.zero_le _)
  | write k hf =>
      rw [Accounted, hf] at ha
      exact ha
  | giveUp hf => exact hless (f := .done) (n := 0) (Nat.zero_le _)
  | @report n hf =>
      refine hless (f := .receiving) (n := reported [n]) ?_
      rw [hf, reported_cons]
      exact Nat.le_of_eq (Nat.zero_add _)
  | _ => exact hsame rfl rfl

/-! ### Windows on offer -/

/-- The windows these frames advertise are at most `n` bytes. -/
def Offers (n : Nat) (acts : List Act) : Prop :=
  ∀ a ∈ acts, ∀ hdr body, a.tcp? = some (hdr, body) → 256 * hdr.window.toNat ≤ n

theorem Offers.append {n : Nat} {as bs : List Act} (ha : Offers n as) (hb : Offers n bs) :
    Offers n (as ++ bs) := by
  intro a hmem
  rcases List.mem_append.mp hmem with hmem | hmem
  · exact ha a hmem
  · exact hb a hmem

theorem Offers.of_quiet {n : Nat} {acts : List Act} (hq : ∀ a ∈ acts, a.tcp? = none) :
    Offers n acts := by
  intro a hmem hdr body ha
  rw [hq a hmem] at ha
  cases ha

theorem Offers.frame {c : Connection} {flags : UInt8} {payload : Bytes} {a : Act}
    (ha : a.tcp? = some (headerOf c flags, payload)) : Offers c.free.toNat [a] := by
  intro b hb hdr body htcp
  rw [List.mem_singleton.mp hb, ha] at htcp
  cases htcp
  rw [window_toNat]
  omega

theorem Offers.sent {c : Connection} {flags : UInt8} {a : Act} (ha : Sent c flags a) :
    Offers c.free.toNat [a] := by
  rcases ha with ha | ⟨e, rfl⟩
  · exact Offers.frame ha
  · exact Offers.of_quiet (by simp [Act.tcp?])

theorem Moves.rxBuffered {c c' : Connection} {acts : List Act} (h : Moves c acts c') :
    c'.rxBuffered = c.rxBuffered ∧ c'.txAck = c.txAck := by
  obtain ⟨p, q, b, rfl⟩ := h.fields
  exact ⟨rfl, rfl⟩

theorem Moves.offers {d c' : Connection} {moves : List Act} (h : Moves d moves c') :
    Offers d.free.toNat moves := by
  have hboth := h.output (P := fun hist c => c.free = d.free ∧ Offers d.free.toNat hist)
    ⟨rfl, Offers.of_quiet (by simp)⟩ (by
      rintro hist c os c' ⟨hfree, hin⟩ hm
      have hfree' : c'.free = d.free := by
        rw [← hfree]
        cases hm <;> rfl
      refine ⟨hfree', hin.append ?_⟩
      rw [← hfree]
      cases hm with
      | frame ha => exact Offers.frame ha
      | data _ _ _ _ _ ha => exact Offers.frame ha
      | failed => exact Offers.of_quiet (by simp [Act.tcp?])
      | resume => exact Offers.of_quiet (by simp [Act.tcp?])
      | pause => exact Offers.of_quiet (by simp [Act.tcp?]))
  exact hboth.2

/-- The right edge of every frame's window is at most `top`. -/
def Edges (top : Nat) (h : List Act) : Prop :=
  ∀ pre a post hdr body, h = pre ++ a :: post → a.tcp? = some (hdr, body) →
    (delivered pre).length + 256 * hdr.window.toNat ≤ top

theorem Edges.mono {top top' : Nat} {h : List Act} (he : Edges top h) (hle : top ≤ top') :
    Edges top' h :=
  fun pre a post hdr body heq ha => Nat.le_trans (he pre a post hdr body heq ha) hle

theorem Edges.append {top : Nat} {h acts : List Act} (he : Edges top h)
    (ho : ∀ a ∈ acts, ∀ hdr body, a.tcp? = some (hdr, body) →
      256 * hdr.window.toNat + (delivered (h ++ acts)).length ≤ top) : Edges top (h ++ acts) := by
  intro pre a post hdr body heq ha
  -- a frame among the new acts comes before no more than all of them
  have hnew : a ∈ acts → (delivered pre).length + 256 * hdr.window.toNat ≤ top := by
    intro hmem
    have hoffer := ho a hmem hdr body ha
    rw [heq, delivered_append, List.length_append] at hoffer
    omega
  rcases List.append_eq_append_iff.mp heq with ⟨mid, rfl, hmid⟩ | ⟨mid, rfl, hmid⟩
  · exact hnew (by rw [hmid]; simp)
  · cases mid with
    | nil => exact hnew (by rw [← List.nil_append acts, ← hmid]; simp)
    | cons x mid' =>
        rw [List.cons_append, List.cons.injEq] at hmid
        exact he pre a mid' hdr body (by rw [hmid.1]) ha

/-- A device that was invited that far is inside the edges. -/
theorem Invited.le {h : List Act} {top edge : Nat} (hi : Invited h top) (he : Edges edge h) :
    top ≤ 1 + edge := by
  obtain ⟨pre, a, post, hdr, body, n, heq, ha, -, hn, htop⟩ := hi
  have := he pre a post hdr body heq ha
  omega

/-! ### Reactions -/

/-- The payload a packet hands on, if its entry stays. -/
def ConnEvent.payload : ConnEvent → Bytes
  | .packet _ payload _ => payload
  | _ => []

/-- The bytes a drain notice reports. -/
def ConnEvent.report : ConnEvent → List UInt32
  | .drained n => [n]
  | _ => []

/-- What a listed connection has outstanding: all that has been handed on and not been
reported, counted without clipping. -/
structure Buffered (h : List Act) (total : Nat) (c : Connection) : Prop where
  account : c.rxBuffered.toNat + total = (delivered h).length
  le : c.rxBuffered.toNat ≤ rxWindow.toNat

theorem rxWindow_toNat : rxWindow.toNat = 131072 := rfl

theorem Buffered.free {h : List Act} {total : Nat} {c : Connection} (hb : Buffered h total c) :
    (delivered h).length + c.free.toNat = rxWindow.toNat + total := by
  have hexact := hb.account
  have hle := hb.le
  rw [rxWindow_toNat] at hle ⊢
  rw [c.free_toNat]
  omega

theorem Buffered.same {h acts : List Act} {total : Nat} {c c' : Connection}
    (hb : Buffered h total c) (hd : delivered acts = []) (hr : c'.rxBuffered = c.rxBuffered) :
    Buffered (h ++ acts) total c' := by
  refine ⟨?_, hr ▸ hb.le⟩
  rw [hr, delivered_append, hd, List.append_nil]
  exact hb.account

/-- **Taking an event in keeps the account**, for a payload that fits what is free and a
report of bytes that are outstanding. -/
theorem Buffered.intake {h first : List Act} {total : Nat} {c d : Connection} {cev : ConnEvent}
    (hb : Buffered h total c) (hi : Intake c cev first d)
    (hfits : first ≠ [] → c.rxBuffered.toNat + cev.payload.length ≤ rxWindow.toNat)
    (hout : total + reported cev.report ≤ (delivered h).length) :
    Buffered (h ++ first) (total + reported cev.report) d := by
  have hexact := hb.account
  have hle := hb.le
  cases hi with
  | drain n =>
      have hn : reported (ConnEvent.drained n).report = n.toNat := by
        simp [ConnEvent.report]
      have hd : (c.drain n).rxBuffered.toNat = c.rxBuffered.toNat - n.toNat :=
        saturatingSub_toNat c.rxBuffered n
      rw [hn] at hout ⊢
      refine ⟨?_, ?_⟩
      · rw [hd, List.append_nil]
        omega
      · rw [hd]
        omega
  | @deliver th payload alive _ _ _ =>
      have hlen := hfits (by simp)
      rw [rxWindow_toNat] at hlen hle
      have hof : (UInt32.ofNat payload.length).toNat = payload.length := by
        rw [UInt32.toNat_ofNat', Nat.mod_eq_of_lt]
        simp only [ConnEvent.payload] at hlen
        omega
      have hd : ((c.hear th).deliver payload).rxBuffered.toNat =
          c.rxBuffered.toNat + payload.length := by
        show (saturatingAdd c.rxBuffered (UInt32.ofNat payload.length)).toNat = _
        rw [saturatingAdd_toNat, hof]
        simp only [ConnEvent.payload] at hlen
        omega
      refine ⟨?_, ?_⟩
      · rw [hd, delivered_append, List.length_append]
        simp only [ConnEvent.report, reported_nil, delivered, chunks,
          List.filterMap_cons, Act.chunk?, List.filterMap_nil, List.flatten_cons,
          List.flatten_nil, List.append_nil] at hexact ⊢
        omega
      · rw [hd, rxWindow_toNat]
        exact hlen
  | data => exact hb.same rfl rfl
  | close => exact hb.same rfl rfl
  | hear => exact hb.same rfl rfl
  | closing => exact hb.same rfl rfl

theorem delivered_nil_of_chunks {acts : List Act} (h : chunks acts = []) : delivered acts = [] := by
  rw [delivered, h]
  rfl

/-- What a connected entry's reaction hands on, and what it offers. -/
theorem Reacts.offers {c : Connection} {cev : ConnEvent} {acts : List Act} {r : Option Connection}
    (hr : Reacts c cev acts r) (hs : c.state = .connected) :
    ∃ first d, Intake c cev first d ∧ delivered acts = delivered first ∧
      Offers d.free.toNat acts ∧
      ∀ c', r = some c' → c'.rxBuffered = d.rxBuffered ∧ c'.txAck = d.txAck := by
  obtain ⟨first, d, moves, c₁, last, hi, hm, he, rfl⟩ := hr.parts hs
  have hsame := hm.rxBuffered
  have hfree : c₁.free = d.free := by rw [Connection.free, Connection.free, hsame.1]
  have hlast : delivered last = [] ∧ Offers d.free.toNat last := by
    cases he with
    | stays => exact ⟨rfl, Offers.of_quiet (by simp)⟩
    | goes =>
        exact ⟨delivered_nil_of_chunks (tearActs_log c₁).2.1, Offers.of_quiet c₁.tearActs_quiet⟩
    | @resets a ha =>
        rw [← List.singleton_append, delivered_append, delivered_nil_of_chunks ha.log.2.1,
          delivered_nil_of_chunks (tearActs_log c₁).2.1]
        refine ⟨rfl, Offers.append ?_ (Offers.of_quiet c₁.tearActs_quiet)⟩
        rw [← hfree]
        exact Offers.sent ha
  have hfirst : ∀ a ∈ first, a.tcp? = none := by
    cases hi with
    | deliver => simp [Act.tcp?]
    | _ => simp
  refine ⟨first, d, hi, ?_, ((Offers.of_quiet hfirst).append hm.offers).append hlast.2, ?_⟩
  · rw [delivered_append, delivered_append, delivered_nil_of_chunks hm.log.2.1, hlast.1,
      List.append_nil, List.append_nil]
  · intro c' hr'
    cases he with
    | stays =>
        cases hr'
        exact hsame
    | goes => cases hr'
    | resets => cases hr'

theorem Intake.txAck {c d : Connection} {cev : ConnEvent} {first : List Act}
    (h : Intake c cev first d) : d.txAck = c.txAck + UInt32.ofNat (delivered first).length := by
  have hzero : c.txAck = c.txAck + UInt32.ofNat 0 := (UInt32.add_zero c.txAck).symm
  cases h with
  | @deliver th payload _ _ _ _ =>
      have hd : delivered [.chunk payload] = payload := List.append_nil payload
      rw [hd]
      rfl
  | _ => exact hzero

/-- The packet an event is, if it is one. -/
def ConnEvent.arrived : ConnEvent → List (ParsedTcp × Bytes)
  | .packet th payload _ => [(th, payload)]
  | _ => []

theorem View.Takes.histories {v u : View} {cev : ConnEvent} (h : v.Takes cev u) :
    u.settled = v.settled ++ cev.report ∧ u.inbox = v.inbox ++ cev.arrived := by
  cases h with
  | @message body rest hq =>
      cases body <;> exact ⟨(List.append_nil _).symm, (List.append_nil _).symm⟩
  | notice => exact ⟨rfl, (List.append_nil _).symm⟩
  | packet => exact ⟨(List.append_nil _).symm, rfl⟩
  | closing => exact ⟨(List.append_nil _).symm, (List.append_nil _).symm⟩

/-- A connected entry that stays has handed on exactly what a plain ACK carried. -/
theorem Reacts.plain {c c' : Connection} {cev : ConnEvent} {acts : List Act}
    (hr : Reacts c cev acts (some c')) (hs : c.state = .connected) :
    delivered acts = plainBytes cev.arrived := by
  have hno : ∀ {P : Prop}, c.state ≠ .connected → P := fun hne => absurd hs hne
  have hack : ∀ {th : ParsedTcp} {payload : Bytes} {moves : List Act}, th.flags = TcpFlags.ack →
      chunks moves = [] → delivered (chunkActs payload ++ moves) = plainBytes [(th, payload)] := by
    intro th payload moves hflags hm
    rw [delivered_append, delivered_nil_of_chunks hm, List.append_nil]
    simp only [plainBytes, List.flatMap_cons, hflags, ↓reduceIte, List.flatMap_nil, List.append_nil]
    exact (chunkActs_log payload).2.1
  cases hr with
  | ignoredData hs' => exact hno hs'
  | ignoredClose hs' => exact hno hs'
  | data _ hm => exact delivered_nil_of_chunks hm.log.2.1
  | closeKept _ hm => exact delivered_nil_of_chunks hm.log.2.1
  | drained => rfl
  | drainedUpdate _ ha => exact delivered_nil_of_chunks ha.log.2.1
  | accepted hs' => exact hno (by rw [hs']; simp)
  | acceptFailed hs' => exact hno (by rw [hs']; simp)
  | acked _ hflags _ hm => exact hack hflags hm.log.2.1
  | ackedFailed _ hflags _ hm => exact hack hflags hm.log.2.1
  | unheard hs' => exact hno (by rw [hs']; simp)

theorem delivered_local {acts : List Act} (h : ∀ a ∈ acts, a.isLocal = true) :
    delivered acts = [] := by
  refine delivered_nil_of_chunks (List.filterMap_eq_nil_iff.mpr fun a ha => ?_)
  have hlocal := h a ha
  cases a <;> first | rfl | cases hlocal

theorem Offers.of_local {n : Nat} {acts : List Act} (h : ∀ a ∈ acts, a.isLocal = true) :
    Offers n acts :=
  Offers.of_quiet (quiet_of_local h)

/-- A connecting entry hands nothing on, and offers what is free. -/
theorem Opening.offers {c : Connection} {cev : ConnEvent} {acts : List Act} {r : Option Connection}
    (h : Opening c cev acts r) (hunused : c.rxBuffered = 0) :
    delivered acts = [] ∧ Offers c.free.toNat acts ∧
      ∀ c', r = some c' → c'.rxBuffered = 0 ∧ plainBytes cev.arrived = [] := by
  have hsyn : ∀ {th : ParsedTcp} (payload : Bytes), th.flags = synAck →
      plainBytes [(th, payload)] = [] := by
    intro th payload hflags
    have hne : synAck ≠ TcpFlags.ack := by decide
    simp only [plainBytes, List.flatMap_cons, hflags, if_neg hne, List.flatMap_nil, List.append_nil]
  refine ⟨?_, ?_, ?_⟩
  · cases h with
    | accepted _ ha htold =>
        have hframe := delivered_nil_of_chunks (Sent.log (Or.inl ha)).2.1
        rw [← List.singleton_append, delivered_append, hframe, delivered_local htold]
        rfl
    | acceptFailed => rfl
    | drained n => rfl
    | ignored => rfl
    | refused htold => exact delivered_local htold
    | closing ha htold =>
        rw [← List.singleton_append, delivered_append, delivered_nil_of_chunks ha.log.2.1,
          delivered_local htold]
        rfl
  · cases h with
    | @accepted th _ _ a _ _ ha htold =>
        have hoffer : Offers (c.hear th).bump.free.toNat [a] := Offers.frame ha
        exact hoffer.append (Offers.of_local htold)
    | acceptFailed => exact Offers.of_quiet (by simp [Act.tcp?])
    | drained n => exact Offers.of_quiet (by simp)
    | ignored => exact Offers.of_quiet (by simp)
    | refused htold => exact Offers.of_local htold
    | closing ha htold => exact (Offers.sent ha).append (Offers.of_local htold)
  · intro c' hc'
    subst hc'
    cases h with
    | @accepted _ payload _ _ _ hflags => exact ⟨hunused, hsyn payload hflags⟩
    | @acceptFailed _ payload _ _ hflags => exact ⟨hunused, hsyn payload hflags⟩
    | drained n => exact ⟨drain_zero hunused n, rfl⟩
    | ignored hcev =>
        cases cev with
        | packet th payload alive => exact absurd rfl (hcev th payload alive)
        | _ => exact ⟨hunused, rfl⟩

theorem Opening.txAck_accepted {c c' : Connection} {cev : ConnEvent} {acts : List Act}
    (h : Opening c cev acts (some c')) (hs : c'.state = .connected) (hs' : c.state = .connecting) :
    c'.txAck = c.txAck + 1 := by
  cases h with
  | accepted => rfl
  | acceptFailed => rfl
  | drained n => exact absurd (hs'.symm.trans hs) (by simp)
  | ignored => exact absurd (hs'.symm.trans hs) (by simp)

theorem Opening.txAck_kept {c c' : Connection} {cev : ConnEvent} {acts : List Act}
    (h : Opening c cev acts (some c')) (hs : c'.state ≠ .connected) (hok : ¬ Failed acts) :
    c'.txAck = c.txAck := by
  cases h with
  | accepted => exact absurd rfl hs
  | acceptFailed => exact absurd ⟨_, List.mem_singleton.mpr rfl⟩ hok
  | drained n => rfl
  | ignored => rfl

/-! ### Along a run -/

/-- What is known of a listed connection's receiving side. -/
structure View.Receiving (v : View) (c : Connection) : Prop where
  buffered : Buffered v.acts (reported v.settled) c
  whole : delivered v.acts = plainBytes v.inbox
  ack : c.state = .connected → c.txAck = 1 + UInt32.ofNat (delivered v.acts).length
  young : c.state ≠ .connected → c.rxBuffered = 0 ∧ delivered v.acts = [] ∧
    (¬ Failed v.acts → c.txAck = 0)

/-- What is known of every connection's receiving side. -/
structure View.Holding (v : View) : Prop where
  account : Accounted v.acts v.task (reported (v.settled ++ v.owed))
  edges : Edges (rxWindow.toNat + reported v.settled) v.acts
  unborn : v.acts = [] → v.inbox = []
  listed : ∀ c, v.entry = some c → v.Receiving c

/-- What the frames of a step offer, given what has been handed on after it. -/
def View.OffersFree (v v' : View) : Prop :=
  ∀ new, v'.acts = v.acts ++ new → ∀ a ∈ new, ∀ hdr body, a.tcp? = some (hdr, body) →
    256 * hdr.window.toNat + (delivered v'.acts).length ≤ rxWindow.toNat + reported v'.settled

theorem View.OffersFree.of_offers {v v' : View} {acts : List Act} {n : Nat}
    (hacts : v'.acts = v.acts ++ acts) (ho : Offers n acts)
    (hn : (delivered v'.acts).length + n ≤ rxWindow.toNat + reported v'.settled) :
    v.OffersFree v' := by
  intro new hnew a hmem hdr body ha
  rw [hacts] at hnew
  rw [← List.append_cancel_left hnew] at hmem
  have := ho a hmem hdr body ha
  omega

theorem View.OffersFree.of_quiet {v v' : View} {acts : List Act}
    (hacts : v'.acts = v.acts ++ acts) (hq : ∀ a ∈ acts, a.tcp? = none) : v.OffersFree v' := by
  intro new hnew a hmem hdr body ha
  rw [hacts] at hnew
  rw [← List.append_cancel_left hnew] at hmem
  rw [hq a hmem] at ha
  cases ha

theorem View.OffersFree.edges {v v' : View} {acts : List Act} (ho : v.OffersFree v')
    (hacts : v'.acts = v.acts ++ acts) (he : Edges (rxWindow.toNat + reported v.settled) v.acts)
    (hle : reported v.settled ≤ reported v'.settled) :
    Edges (rxWindow.toNat + reported v'.settled) v'.acts := by
  have hoffer := ho acts hacts
  rw [hacts] at hoffer ⊢
  exact (he.mono (by omega)).append hoffer

theorem Life.born {live : Prop} {i : Nat} {h : List Act} {o : Option Connection}
    (hl : Life live i h o) : ∀ c, o = some c → h ≠ [] := by
  induction hl with
  | unborn => intro c hc; cases hc
  | opened => intro c hc; simp
  | openFailed => intro c hc; cases hc
  | reacts _ _ _ _ ih => exact fun c hc hnil => ih _ rfl (List.append_eq_nil_iff.mp hnil).1
  | dropped => intro c hc; cases hc

/-- A payload of a device that stays inside its windows fits what is free, and a notice
reports bytes that are outstanding. -/
theorem View.Holding.fits {v u : View} {c d : Connection} {cev : ConnEvent} {first : List Act}
    (hv : v.Holding) (hc : v.entry = some c) (hs : c.state = .connected)
    (hQ : MeetsInvited v cev) (ht : v.Takes cev u) (hi : Intake c cev first d) :
    (first ≠ [] → c.rxBuffered.toNat + cev.payload.length ≤ rxWindow.toNat) ∧
      reported v.settled + reported cev.report ≤ (delivered v.acts).length := by
  obtain ⟨hbuffered, hwhole, -, -⟩ := hv.listed c hc
  refine ⟨fun hne => ?_, ?_⟩
  · cases hi with
    | @deliver th payload alive hflags hp _ =>
        have hinvited := (hQ th payload alive c rfl hc hs hflags hp).le hv.edges
        have haccount := hbuffered.account
        rw [hwhole] at haccount
        show c.rxBuffered.toNat + payload.length ≤ rxWindow.toNat
        omega
    | _ => exact absurd rfl hne
  · have hle := hv.account.le
    rw [← ht.keeps.2.2, ht.histories.1, reported_append, reported_append] at hle
    omega

/-- The receiving side is in order after a reaction, `u` being what the loop has taken up. -/
structure View.Receives (u : View) (acts new : List Act) (r : Option Connection) : Prop where
  offers : ∃ n, Offers n new ∧
    (delivered (acts ++ new)).length + n = rxWindow.toNat + reported u.settled
  listed : ∀ c', r = some c' → View.Receiving { u with acts := acts ++ new, entry := some c' } c'

/-- Connected: the books follow what is handed on. -/
theorem View.Holding.connected {v u : View} {c : Connection} {cev : ConnEvent} {acts : List Act}
    {r : Option Connection} (hv : v.Holding) (hc : v.entry = some c) (hs : c.state = .connected)
    (hQ : MeetsInvited v cev) (ht : v.Takes cev u) (hr : Reacts c cev acts r) :
    u.Receives v.acts acts r := by
  obtain ⟨hbuffered, hwhole, hack, hyoung⟩ := hv.listed c hc
  obtain ⟨hsettled, hinbox⟩ := ht.histories
  obtain ⟨first, d, hi, hdel, hoffers, hsame⟩ := hr.offers hs
  obtain ⟨hfits, hout⟩ := hv.fits hc hs hQ ht hi
  have hd := hbuffered.intake hi hfits hout
  rw [← reported_append, ← hsettled] at hd
  have hall : delivered (v.acts ++ acts) = delivered (v.acts ++ first) := by
    rw [delivered_append, delivered_append, hdel]
  refine ⟨⟨d.free.toNat, hoffers, hall ▸ hd.free⟩, fun c' hr' => ?_⟩
  subst hr'
  have hs' : c'.state = .connected := by
    rcases hr.spawned with ⟨-, hs', -⟩ | ⟨-, hkeep⟩
    · exact absurd (hs.symm.trans hs') (by simp)
    · exact (hkeep c' rfl).1.trans hs
  refine ⟨⟨?_, ?_⟩, ?_, fun _ => ?_, fun hne => absurd hs' hne⟩
  · rw [(hsame c' rfl).1]
    exact hall ▸ hd.account
  · rw [(hsame c' rfl).1]
    exact hd.le
  · show delivered (v.acts ++ acts) = plainBytes u.inbox
    rw [delivered_append, hr.plain hs, hwhole, hinbox, plainBytes_append]
  · show c'.txAck = 1 + UInt32.ofNat (delivered (v.acts ++ acts)).length
    rw [(hsame c' rfl).2, hi.txAck, hack hs, hall, delivered_append, List.length_append,
      UInt32.ofNat_add, UInt32.add_assoc]

/-- Connecting: nothing has been handed on, and there is no forwarder that could report
anything. -/
theorem View.Holding.connecting {live : Prop} {i : Nat} {v u : View} {c : Connection}
    {cev : ConnEvent} {acts : List Act} {r : Option Connection} (hv : v.Holding)
    (hplain : v.Plain live i) (hc : v.entry = some c) (hs : c.state = .connecting)
    (ht : v.Takes cev u) (hr : Reacts c cev acts r)
    (hdead : Failed v.acts → ∀ a ∈ acts, a.tcp? = none) : u.Receives v.acts acts r := by
  obtain ⟨hbuffered, hwhole, -, hyoung⟩ := hv.listed c hc
  obtain ⟨hsettled, hinbox⟩ := ht.histories
  obtain ⟨hunused, hnothing, hzero⟩ := hyoung (by rw [hs]; simp)
  have ho := hr.opening hs
  obtain ⟨hdel, hoffers, hkeep⟩ := ho.offers hunused
  have hreport : cev.report = [] := by
    have hspawn : spawnedAs v.acts = none := by
      by_contra hne
      rw [(hplain.life.linked.listed c hc).2.1.mpr hne] at hs
      cases hs
    have hnil := (hplain.orderly.unspawned hspawn).2.2
    rw [← ht.keeps.2.2, hsettled] at hnil
    exact (List.append_eq_nil_iff.mp (List.append_eq_nil_iff.mp hnil).1).2
  have hsame : u.settled = v.settled := by rw [hsettled, hreport, List.append_nil]
  have hall : delivered (v.acts ++ acts) = delivered v.acts := by
    rw [delivered_append, hdel, List.append_nil]
  refine ⟨⟨c.free.toNat, hoffers, ?_⟩, fun c' hr' => ?_⟩
  · rw [hall, hsame]
    exact hbuffered.free
  subst hr'
  obtain ⟨hunused', hplain'⟩ := hkeep c' rfl
  refine ⟨⟨?_, ?_⟩, ?_, fun hs' => ?_, fun hs' => ⟨hunused', hall.trans hnothing, ?_⟩⟩
  · show c'.rxBuffered.toNat + reported u.settled = (delivered (v.acts ++ acts)).length
    rw [hunused', ← hunused, hsame, hall]
    exact hbuffered.account
  · rw [hunused']
    exact Nat.zero_le _
  · show delivered (v.acts ++ acts) = plainBytes u.inbox
    rw [hall, hwhole, hinbox, plainBytes_append, hplain', List.append_nil]
  · have hok := ho.not_failed hs' hs hdead
    show c'.txAck = 1 + UInt32.ofNat (delivered (v.acts ++ acts)).length
    rw [hall, hnothing, ho.txAck_accepted hs' hs, hzero hok]
    rfl
  · intro hok
    rw [failed_append, not_or] at hok
    rw [ho.txAck_kept hs' hok.2]
    exact hzero hok.1

theorem View.Holding.reacts {live : Prop} {i : Nat} {v u : View} {c : Connection}
    {cev : ConnEvent} {acts : List Act} {r : Option Connection} (hv : v.Holding)
    (hplain : v.Plain live i) (hc : v.entry = some c) (hQ : MeetsInvited v cev)
    (ht : v.Takes cev u) (hr : Reacts c cev acts r)
    (hdead : Failed v.acts → ∀ a ∈ acts, a.tcp? = none) : u.Receives v.acts acts r := by
  by_cases hs : c.state = .connected
  · exact hv.connected hc hs hQ ht hr
  · have hlife := hplain.life
    rw [hc] at hlife
    exact hv.connecting hplain hc (hlife.connecting hs) ht hr hdead

theorem View.Holding.offersFree {live : Prop} {i : Nat} {v v' : View} (hv : v.Holding)
    (hplain : v.Plain live i) (h : v.Step live MeetsInvited i v') : v.OffersFree v' := by
  cases h with
  | @opened dport a hacts hentry ha =>
      have hfree : (Connection.new i (sportAt (i - 1)) dport).free.toNat = rxWindow.toNat := by
        rw [Connection.free_toNat, rxWindow_toNat]
        rfl
      refine View.OffersFree.of_offers (by rw [hacts]; rfl) (Offers.frame ha) ?_
      rw [hfree, delivered_nil_of_chunks (Sent.log (Or.inl ha)).2.1]
      exact Nat.add_le_add_left (Nat.zero_le _) _
  | openFailed hacts hentry hlive =>
      exact View.OffersFree.of_quiet (by rw [hacts]; rfl) (by simp [Act.tcp?])
  | reacts hc hQ ht hr hlive hdead =>
      obtain ⟨⟨n, hoffers, hn⟩, -⟩ := hv.reacts hplain hc hQ ht hr hdead
      exact View.OffersFree.of_offers rfl hoffers (Nat.le_of_eq hn)
  | late hc ht hbox =>
      exact View.OffersFree.of_quiet (ht.acts.1.trans (List.append_nil _).symm) (by simp)
  | @dropped c hc => exact View.OffersFree.of_quiet rfl c.dropActs_quiet
  | task => exact View.OffersFree.of_quiet (List.append_nil _).symm (by simp)

theorem View.Holding.step {live : Prop} {i : Nat} {v v' : View} (hv : v.Holding)
    (hplain : v.Plain live i) (h : v.Step live MeetsInvited i v') : v'.Holding := by
  have hoffers := hv.offersFree hplain h
  cases h with
  | @opened dport a hacts hentry ha =>
      have hnone := hplain.orderly.unspawned (by rw [hacts]; rfl)
      have hsettled := (List.append_eq_nil_iff.mp hnone.2.2).1
      have hdel : delivered [a] = [] := delivered_nil_of_chunks (Sent.log (Or.inl ha)).2.1
      refine ⟨?_, hoffers.edges (by rw [hacts]; rfl) hv.edges (Nat.le_refl _), ?_, ?_⟩
      · have haccount := hv.account
        rw [hacts] at haccount
        exact haccount.grow [a]
      · intro hnil
        cases hnil
      · intro c' hc'
        cases hc'
        refine ⟨⟨?_, Nat.zero_le _⟩, ?_, ?_, ?_⟩
        · show 0 + reported v.settled = (delivered [a]).length
          rw [hsettled, hdel]
          rfl
        · show delivered [a] = plainBytes v.inbox
          rw [hdel, hv.unborn hacts]
          rfl
        · intro hs
          cases hs
        · intro _
          exact ⟨rfl, hdel, fun _ => rfl⟩
  | openFailed hacts hentry hlive =>
      refine ⟨?_, hoffers.edges (by rw [hacts]; rfl) hv.edges (Nat.le_refl _), ?_, ?_⟩
      · have haccount := hv.account
        rw [hacts] at haccount
        exact haccount.grow _
      · intro hnil
        cases hnil
      · intro c hc
        rw [hentry] at hc
        cases hc
  | @reacts c cev u acts r hc hQ ht hr hlive hdead =>
      obtain ⟨htask, -, hns⟩ := ht.keeps
      refine ⟨?_, hoffers.edges rfl hv.edges ?_, ?_, ?_⟩
      · show Accounted (v.acts ++ acts) u.task (reported (u.settled ++ u.owed))
        rw [htask, hns]
        exact hv.account.grow acts
      · show reported v.settled ≤ reported u.settled
        rw [ht.histories.1, reported_append]
        omega
      · intro hnil
        exact absurd (List.append_eq_nil_iff.mp hnil).1 (hplain.life.born c hc)
      · intro c' hc'
        simp only at hc'
        subst hc'
        exact (hv.reacts hplain hc hQ ht hr hdead).2 c' rfl
  | late hc ht hbox =>
      obtain ⟨htask, -, hns⟩ := ht.keeps
      refine ⟨?_, hoffers.edges (ht.acts.1.trans (List.append_nil _).symm) hv.edges ?_, ?_, ?_⟩
      · rw [ht.acts.1, htask, hns]
        exact hv.account
      · rw [ht.histories.1, reported_append]
        omega
      · rw [hbox, ht.acts.1]
        exact hv.unborn
      · intro c' hc'
        rw [ht.acts.2, hc] at hc'
        cases hc'
  | @dropped c hc =>
      refine ⟨hv.account.grow c.dropActs, hoffers.edges rfl hv.edges (Nat.le_refl _), ?_, ?_⟩
      · intro hnil
        exact absurd (List.append_eq_nil_iff.mp hnil).1 (hplain.life.born c hc)
      · intro c' hc'
        cases hc'
  | @task t msgs ns hspawn ht =>
      refine ⟨?_, hv.edges, hv.unborn, fun c hc => { hv.listed c hc with }⟩
      show Accounted v.acts t (reported (v.settled ++ (v.owed ++ ns)))
      rw [← List.append_assoc, reported_append]
      exact hv.account.task ht

theorem View.Holding.start : View.Holding {} where
  account := Nat.le_refl _
  edges := by
    intro pre a post hdr body heq
    cases List.append_eq_nil_iff.mp heq.symm |>.2
  unborn := fun _ => rfl
  listed := fun c hc => by cases hc

/-- **The receiving side keeps its books.**  In a run that hands out no sport twice, on a
connection whose device stays inside the windows it has been sent, any of them: the
forwarder is handed the device's payloads in order, `tx_ack` is one more than their length,
`rx_buffered` is exactly what has not been drained, and never more than the receive window;
and no frame offers more than what is then left of that window. -/
theorem receives_whole {left : Option Nat} {reply : Bytes} {link : Link}
    {tr : List (Sys × Action × Sys)} {s : Sys} {i : Nat} (hs : handshake left reply = .ok link)
    (h : Run Sys.Step (Sys.start link) tr s) (hports : s.mux.ports.Nodup) (hi : 0 < i)
    (hinvited : EveryStep (Sys.StaysInvited i) tr) :
    (∀ p c, s.mux.connections p = some c → c.id = i → c.state = .connected →
      s.ReceivesWhole i c) ∧ EveryStep (Sys.OffersFree i) tr := by
  have htidy := tidy_of_nodup hs h hports
  have hmeets : EveryStep (Sys.Meets fun j v cev => j = i → MeetsInvited v cev) tr :=
    everyStep_meets hs h (fun s a s' hok hC => meets_invited hok hC) hinvited
  have hkeep : ∀ v v' : View, v.Plain (left = none) i → v.Holding →
      v.Step (left = none) (fun v cev => i = i → MeetsInvited v cev) i v' → v'.Holding :=
    fun _ _ hplain hv hstep => hv.step hplain (hstep.weaken fun _ _ hQ => hQ rfl)
  refine ⟨?_, ?_⟩
  · rintro p c hc rfl hstate
    have hinv := (view_invariant hs h htidy hmeets hi View.Holding.start hkeep).2
    obtain ⟨tr', hrun'⟩ := Sys.mux_run h
    obtain ⟨hbuffered, hwhole, hack, -⟩ :=
      hinv.listed c ((mux_lives hs hrun').ok.entry_of hc)
    exact ⟨hwhole, hack hstate, hbuffered.account, hbuffered.le⟩
  · refine view_everyStep hs h htidy hmeets hi (R := View.OffersFree) View.Holding.start hkeep ?_
    rintro v v' hplain hv (rfl | hstep)
    · exact View.OffersFree.of_quiet (List.append_nil _).symm (by simp)
    · exact hv.offersFree hplain (hstep.weaken fun _ _ hQ => hQ rfl)

/-! ### Three bytes received -/

def callUp : List Action :=
  [.connect 62078, .packet (packetOf {} ⟨62078, 1, 0, 1, synAck, 512⟩ [])]

/-- The device sends three bytes, which its ACK of the SYN leaves room for. -/
def threeBytes : Action :=
  .packet (packetOf {} ⟨62078, 1, 1, 1, TcpFlags.ack, 512⟩ [1, 2, 3])

/-- The forwarder hands them to the client and says so. -/
def passOn : List Action :=
  [.forwarder 1, .forwarder 1, .forwarder 1, .forwarder 1, .takeDrained]

def calledUp : Sys :=
  (exec Sys.next (Sys.start freshLink) callUp).getD (Sys.start freshLink)

def handedOver : Sys :=
  (calledUp.next threeBytes).getD (Sys.start freshLink)

def passedOn : Sys :=
  (exec Sys.next handedOver passOn).getD (Sys.start freshLink)

/-- The SYN itself offers the whole receive window. -/
theorem calledUp_invited : Invited (calledUp.acts 1) 4 := by
  have hframe : ((calledUp.acts 1).head?.bind Act.tcp?).map (fun r => (r.1.ack, r.1.window)) =
      some (0, 512) := rfl
  obtain ⟨⟨hdr, body⟩, hr, heq⟩ := Option.map_eq_some_iff.mp hframe
  obtain ⟨a, hhead, ha⟩ := Option.bind_eq_some_iff.mp hr
  obtain ⟨post, hacts⟩ := List.head?_eq_some_iff.mp hhead
  obtain ⟨hack, hwindow⟩ := Prod.mk.inj heq
  refine ⟨[], a, post, hdr, body, 0, hacts, ha, hack, Nat.zero_le _, ?_⟩
  rw [show hdr.window = 512 from hwindow]
  decide

/-- A packet that is no plain ACK needs no invitation, and nothing else does. -/
theorem staysInvited_of {i : Nat} {s s' : Sys} {a : Action}
    (h : ∀ pkt th payload, a = .packet pkt → tcpOf pkt = some (th, payload) →
      th.flags ≠ TcpFlags.ack) : s.StaysInvited i a s' := by
  intro pkt c th payload ha haddr _ _ hflags
  exact absurd hflags (h pkt th payload ha (Sys.addressee_eq_some.mp haddr).1)

theorem passedOn_receives_whole : ∃ tr c, Run Sys.Step (Sys.start freshLink) tr passedOn ∧
    passedOn.mux.connections 1 = some c ∧ passedOn.ReceivesWhole 1 c ∧
    EveryStep (Sys.OffersFree 1) tr := by
  obtain ⟨tr, hrun, hmap⟩ : ∃ tr, Run Sys.Step (Sys.start freshLink) tr calledUp ∧
      tr.map (fun t => t.2.1) = callUp := Sys.run_of_exec (by simp [callUp]) rfl
  have hstep : calledUp.Step threeBytes handedOver := ⟨rfl, fun ev hev => by cases hev; trivial⟩
  obtain ⟨tr', hrun', hmap'⟩ : ∃ tr, Run Sys.Step handedOver tr passedOn ∧
      tr.map (fun t => t.2.1) = passOn := Sys.run_of_exec (by simp [passOn]) rfl
  have hinvited : EveryStep (Sys.StaysInvited 1)
      (tr ++ [(calledUp, threeBytes, handedOver)] ++ tr') := by
    refine EveryStep.append (everyStep_snoc.mpr ⟨?_, ?_⟩) ?_
    · refine everyStep_of_actions hmap fun s a s' ha => staysInvited_of ?_
      intro pkt th payload hpkt htcp
      subst hpkt
      have hpkt : pkt = packetOf {} ⟨62078, 1, 0, 1, synAck, 512⟩ [] := by simpa [callUp] using ha
      rw [hpkt, tcpOf_packetOf] at htcp
      cases htcp
      decide
    · intro pkt c th payload hpkt haddr _ _ _ _
      cases hpkt
      have htcp := (Sys.addressee_eq_some.mp haddr).1
      rw [tcpOf_packetOf] at htcp
      cases htcp
      exact calledUp_invited
    · refine everyStep_of_actions hmap' fun s a s' ha => staysInvited_of ?_
      intro pkt th payload hpkt _
      subst hpkt
      simp [passOn] at ha
  have hall := (hrun.snoc hstep).trans hrun'
  obtain ⟨c, hc⟩ : ∃ c, passedOn.mux.connections 1 = some c := Option.isSome_iff_exists.mp rfl
  have hc' : (passedOn.mux.connections 1).map (fun c => (c.id, c.state)) = some (1, .connected) :=
    rfl
  rw [hc] at hc'
  obtain ⟨hid, hstate⟩ := Prod.mk.inj (Option.some.inj hc')
  have h := receives_whole handshake_versionReply hall
    (show [(1 : UInt16)].Nodup from List.nodup_cons.mpr ⟨by simp, List.nodup_nil⟩)
    Nat.one_pos hinvited
  exact ⟨_, c, hall, hc, h.1 1 c hc hid hstate, h.2⟩

example : delivered (passedOn.acts 1) = [1, 2, 3] := rfl

end Netmuxd
