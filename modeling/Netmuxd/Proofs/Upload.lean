/-
A client's bytes in the frames of its sport.

A device tells connections apart by the source ports of the frames it gets.  Every frame that is
queued for a connection carries that connection's sport, and a frame that is queued for none
carries no bytes.  So as long as no sport has been handed out twice, what a device can read of
one sport is what the connection has sent, and that is how the client's bytes begin: a pump loses
nothing on the way to the loop but at the end, when it is abandoned.
-/
import Netmuxd.Proofs.Addressing
import Netmuxd.Proofs.Closing
import Netmuxd.Proofs.Crosstalk
import Netmuxd.Proofs.Independence
import Netmuxd.Proofs.Session
import Netmuxd.Usb.Pipeline
import Mathlib.Data.List.Nodup

namespace Netmuxd

open Lib

/-! ### The frames of a connection -/

/-- Every frame among these acts has this source port. -/
def SentFrom (p : UInt16) (acts : List Act) : Prop :=
  ∀ a ∈ acts, ∀ th payload, a.tcp? = some (th, payload) → th.srcPort = p

section
variable {p : UInt16} {c : Connection} {a : Act} {acts acts' : List Act}

theorem SentFrom.append (h : SentFrom p acts) (h' : SentFrom p acts') :
    SentFrom p (acts ++ acts') := by
  intro a ha
  rcases List.mem_append.mp ha with ha | ha
  · exact h a ha
  · exact h' a ha

theorem sentFrom_of_quiet (hq : ∀ a ∈ acts, a.tcp? = none) : SentFrom p acts := by
  intro a ha th payload htcp
  rw [hq a ha] at htcp
  cases htcp

theorem sentFrom_nil : SentFrom p [] := by
  intro a ha
  simp at ha

theorem sentFrom_frame {flags : UInt8} {payload : Bytes} (hc : c.sport = p)
    (ha : a.tcp? = some (headerOf c flags, payload)) : SentFrom p [a] := by
  intro b hb th payload' htcp
  rw [List.mem_singleton.mp hb, ha] at htcp
  cases htcp
  exact hc

theorem Sent.sentFrom {flags : UInt8} (hc : c.sport = p) (h : Sent c flags a) : SentFrom p [a] := by
  rcases h with ha | ⟨e, rfl⟩
  · exact sentFrom_frame hc ha
  · exact sentFrom_of_quiet (by simp [Act.tcp?])

theorem Moves.sentFrom {c' : Connection} (hc : c.sport = p) (h : Moves c acts c') :
    SentFrom p acts := by
  refine (h.output (P := fun hist d => d.sport = p ∧ SentFrom p hist) ⟨hc, sentFrom_nil⟩ ?_).2
  intro hist d os d' ⟨hd, hhist⟩ hm
  cases hm with
  | frame ha => exact ⟨hd, hhist.append (sentFrom_frame hd ha)⟩
  | data _ _ _ _ _ ha => exact ⟨hd, hhist.append (sentFrom_frame hd ha)⟩
  | failed => exact ⟨hd, hhist.append (sentFrom_of_quiet (by simp [Act.tcp?]))⟩
  | resume => exact ⟨hd, hhist.append (sentFrom_of_quiet (by simp [Act.tcp?]))⟩
  | pause => exact ⟨hd, hhist.append (sentFrom_of_quiet (by simp [Act.tcp?]))⟩

theorem Intake.sentFrom {d : Connection} {cev : ConnEvent} (h : Intake c cev acts d) :
    SentFrom p acts ∧ d.sport = c.sport := by
  cases h with
  | deliver => exact ⟨sentFrom_of_quiet (by simp [Act.tcp?]), rfl⟩
  | _ => exact ⟨sentFrom_nil, rfl⟩

theorem Ending.sentFrom {r : Option Connection} (hc : c.sport = p) (h : Ending c acts r) :
    SentFrom p acts := by
  cases h with
  | stays => exact sentFrom_nil
  | goes => exact sentFrom_of_quiet c.tearActs_quiet
  | @resets a ha =>
      rw [← List.singleton_append]
      exact (ha.sentFrom hc).append (sentFrom_of_quiet c.tearActs_quiet)

theorem Opening.sentFrom {cev : ConnEvent} {r : Option Connection} (hc : c.sport = p)
    (h : Opening c cev acts r) : SentFrom p acts := by
  cases h with
  | accepted _ ha htold =>
      rw [← List.singleton_append]
      exact (sentFrom_frame (c := (c.hear _).bump) hc ha).append
        (sentFrom_of_quiet (quiet_of_local htold))
  | acceptFailed => exact sentFrom_of_quiet (by simp [Act.tcp?])
  | drained n => exact sentFrom_nil
  | ignored => exact sentFrom_nil
  | refused htold => exact sentFrom_of_quiet (quiet_of_local htold)
  | closing ha htold =>
      rw [← List.singleton_append]
      exact (ha.sentFrom hc).append (sentFrom_of_quiet (quiet_of_local htold))

/-- Whatever becomes of a Connect, its frames carry its sport. -/
theorem Life.sentFrom {live : Prop} {i : Nat} {o : Option Connection} (h : Life live i acts o) :
    SentFrom (sportAt (i - 1)) acts := by
  induction h with
  | unborn => exact sentFrom_nil
  | opened ha => exact sentFrom_frame rfl ha
  | openFailed => exact sentFrom_of_quiet (by simp [Act.tcp?])
  | dropped _ ih => exact ih.append (sentFrom_of_quiet (Connection.dropActs_quiet _))
  | @reacts h acts c ev r hl hr _ _ ih =>
      obtain ⟨hsport, -⟩ := hl.linked.listed c rfl
      refine ih.append ?_
      by_cases hs : c.state = .connected
      · obtain ⟨first, d, moves, c', last, hi, hm, he, rfl⟩ := hr.parts hs
        have hd : d.sport = sportAt (i - 1) := (hi.sentFrom (p := c.sport)).2.trans hsport
        have hc' : c'.sport = sportAt (i - 1) := hm.same.2.1.trans hd
        exact ((hi.sentFrom).1.append (hm.sentFrom hd)).append (he.sentFrom hc')
      · exact (hr.opening (hl.connecting hs)).sentFrom hsport

end

/-! ### The frames of nobody -/

/-- No frame among these acts carries bytes. -/
def Bare (acts : List Act) : Prop :=
  ∀ a ∈ acts, ∀ th payload, a.tcp? = some (th, payload) → payload = []

theorem bare_nil : Bare [] := by
  intro a ha
  simp at ha

/-- A packet that finds no entry is answered without a payload, if at all. -/
theorem onPacket_bare {m : Mux} {pkt : Bytes} (alive : Nat → Bool)
    (hv : m.link.state.version = 2)
    (hidle : ∀ p, (Event.packet pkt alive).target m = some p → m.connections p = none) :
    ∃ acts, (onPacket m alive pkt).link.out = m.link.out ++ acts.map (Effect.mk 0) ∧ Bare acts := by
  cases htcp : tcpOf pkt with
  | none =>
      obtain ⟨s, hs, heq⟩ := onPacket_eq m alive pkt
      refine ⟨[], ?_, bare_nil⟩
      have hv' : (Mux.link { m with link := { m.link with state := s } }).state.version = 2 :=
        hs.trans hv
      rw [heq, handleIncoming_none hv' htcp]
      simp
  | some r =>
      obtain ⟨th, payload⟩ := r
      have hnone : m.connections th.dstPort = none := by
        apply hidle
        simp [Event.target, htcp]
      obtain ⟨-, hrst, hanswer⟩ := onPacket_stray alive hv htcp hnone
      by_cases hisRst : th.IsRst
      · refine ⟨[], ?_, bare_nil⟩
        simpa using hrst hisRst
      · obtain ⟨a, hout, ha⟩ := hanswer hisRst
        refine ⟨[a], hout, ?_⟩
        intro b hb th' payload' hth'
        rw [List.mem_singleton.mp hb] at hth'
        rcases ha with ha | ⟨-, e, ha⟩
        · rw [ha] at hth'
          cases hth'
          rfl
        · rw [ha] at hth'
          cases hth'

theorem closeNext_absent {m : Mux}
    (hidle : ∀ p, Event.closeNext.target m = some p → m.connections p = none) :
    (closeNext m).link = m.link := by
  unfold closeNext
  split
  · next p rest hphase =>
      have hnone : m.connections p = none := by
        apply hidle
        simp [Event.target, hphase]
      simp only [hnone, teardown]
  · rfl

/-- What is done for nobody sends no bytes. -/
theorem Mux.Step.nobody {m m' : Mux} {ev : Event} (hok : m.Ok) (h : m.Step ev m') :
    ∃ acts, actsOf 0 m'.link.out = actsOf 0 m.link.out ++ acts ∧ Bare acts := by
  have hsame : actsOf 0 m'.link.out = actsOf 0 m.link.out →
      ∃ acts, actsOf 0 m'.link.out = actsOf 0 m.link.out ++ acts ∧ Bare acts :=
    fun heq => ⟨[], by rw [heq, List.append_nil], bare_nil⟩
  rcases h.change hok.version with
    ⟨hev, -, hidle, -⟩ | ⟨-, -, -, hlink, hold, -⟩ | ⟨-, -, hlink, -⟩ | ⟨hc, -, -, -, hout⟩
  · obtain ⟨-, rfl⟩ := h.eq_handle
    cases ev with
    | connect port => exact absurd rfl (hev port)
    | rxData p payload =>
        apply hsame
        show actsOf 0 (onRxData m p payload).link.out = _
        rw [onRxData_absent (hidle p rfl)]
    | drained p n =>
        apply hsame
        show actsOf 0 (onDrained m p n).link.out = _
        rw [onDrained_absent (hidle p rfl)]
    | packet pkt alive =>
        obtain ⟨acts, hout, hbare⟩ := onPacket_bare alive hok.version hidle
        refine ⟨acts, ?_, hbare⟩
        show actsOf 0 (onPacket m alive pkt).link.out = _
        rw [hout, actsOf_append, actsOf_map_self]
    | stop order => exact hsame rfl
    | closeNext =>
        apply hsame
        show actsOf 0 (closeNext m).link.out = _
        rw [closeNext_absent hidle]
  · apply hsame
    rw [hold.acts_ne ?_, hlink.acts_ne (Nat.succ_ne_zero _)]
    intro old hc hzero
    have hpos := (hok.entry _ _ hc).2.1
    omega
  · exact hsame (hlink.acts_ne (Nat.succ_ne_zero _))
  · apply hsame
    have hpos := (hok.entry _ _ hc).2.1
    exact hout.link.acts_ne (by omega)

theorem nobody_run {left : Option Nat} {reply : Bytes} {link : Link}
    {tr : List (Mux × Event × Mux)} {m : Mux} (hs : handshake left reply = .ok link)
    (h : Run Mux.Step (Mux.start link) tr m) : Bare (actsOf 0 m.link.out) := by
  induction h with
  | nil =>
      show Bare (actsOf 0 link.out)
      rw [(handshake_link hs).1]
      intro a ha th payload htcp
      simp [actsOf] at ha
      rcases ha with rfl | rfl
      · cases htcp
      · cases htcp
  | snoc hrun hstep ih =>
      obtain ⟨acts, hacts, hbare⟩ := hstep.nobody (mux_lives hs hrun).ok
      rw [hacts]
      intro a ha
      rcases List.mem_append.mp ha with ha | ha
      · exact ih a ha
      · exact hbare a ha

/-! ### What a device reads of a sport -/

theorem carried_queued (p : UInt16) (out : List Effect) :
    carried p (queued out) = out.flatMap fun e => carries p e.act.tcp? := by
  induction out with
  | nil => rfl
  | cons e out ih =>
      have hcons : queued (e :: out) = e.act.frame?.toList ++ queued out := by
        unfold queued
        cases hframe : e.act.frame? <;> simp [hframe]
      rw [hcons, List.flatMap_cons, ← ih]
      cases hact : e.act <;> simp [carried, carries, Act.frame?, Act.tcp?]

theorem carried_mono {p : UInt16} {frames frames' : List Bytes} (h : frames <+: frames') :
    carried p frames <+: carried p frames' := by
  obtain ⟨rest, rfl⟩ := h
  unfold carried
  rw [List.flatMap_append]
  exact List.prefix_append _ _

theorem sentBytes_cons (a : Act) (acts : List Act) :
    sentBytes (a :: acts) = (a.tcp?.map Prod.snd).getD [] ++ sentBytes acts := by
  unfold sentBytes
  cases htcp : a.tcp? <;> simp [htcp]

/-- What is read of a sport is what one connection has sent, if every other is read as
nothing. -/
theorem carried_of_owner {p : UInt16} {i : Nat} {out : List Effect}
    (hown : SentFrom p (actsOf i out))
    (hothers : ∀ e ∈ out, e.id ≠ i → carries p e.act.tcp? = []) :
    carried p (queued out) = sentBytes (actsOf i out) := by
  rw [carried_queued]
  induction out with
  | nil => rfl
  | cons e out ih =>
      have hrest : ∀ e' ∈ out, e'.id ≠ i → carries p e'.act.tcp? = [] :=
        fun e' he' => hothers e' (List.mem_cons_of_mem _ he')
      rw [List.flatMap_cons]
      by_cases hid : e.id = i
      · have hacts : actsOf i (e :: out) = e.act :: actsOf i out := by
          simp [actsOf, hid]
        rw [hacts] at hown ⊢
        rw [sentBytes_cons, ih (fun a ha => hown a (List.mem_cons_of_mem _ ha)) hrest]
        congr 1
        unfold carries
        cases htcp : e.act.tcp? with
        | none => rfl
        | some r =>
            obtain ⟨th, payload⟩ := r
            have hsrc := hown e.act List.mem_cons_self th payload htcp
            simp [hsrc]
      · have hacts : actsOf i (e :: out) = actsOf i out := by
          simp [actsOf, hid]
        rw [hacts] at hown ⊢
        rw [hothers e List.mem_cons_self hid, List.nil_append]
        exact ih hown hrest

/-- **A device can tell connections apart:** as long as no sport has been handed out twice, the
bytes it reads of a connection's sport are those the connection has sent. -/
theorem carried_eq_sentBytes {left : Option Nat} {reply : Bytes} {link : Link}
    {tr : List (Mux × Event × Mux)} {m : Mux} (hs : handshake left reply = .ok link)
    (h : Run Mux.Step (Mux.start link) tr m) (hports : m.ports.Nodup) {i : Nat} (hi : 0 < i)
    (hle : i ≤ m.ports.length) :
    carried (sportAt (i - 1)) (queued m.link.out) = sentBytes (actsOf i m.link.out) := by
  have hlives := mux_lives hs h
  refine carried_of_owner (hlives.life i hi).sentFrom ?_
  intro e he hid
  have hmem : e.act ∈ actsOf e.id m.link.out := by
    unfold actsOf
    rw [List.mem_filterMap]
    exact ⟨e, he, by simp⟩
  unfold carries
  cases htcp : e.act.tcp? with
  | none => rfl
  | some r =>
      obtain ⟨th, payload⟩ := r
      by_cases hzero : e.id = 0
      · rw [hzero] at hmem
        have hnil := nobody_run hs h e.act hmem th payload htcp
        simp [hnil]
      · have hpos : 0 < e.id := Nat.pos_of_ne_zero hzero
        have hsrc := (hlives.life e.id hpos).sentFrom e.act hmem th payload htcp
        have hother : th.srcPort ≠ sportAt (i - 1) := by
          rw [hsrc]
          intro hsame
          have hlt : i - 1 < m.ports.length := by omega
          have hlt' : e.id - 1 < m.ports.length := by
            have := hlives.ok.ids e he
            omega
          have hget := hlives.ok.ports _ _ (List.getElem?_eq_getElem hlt)
          have hget' := hlives.ok.ports _ _ (List.getElem?_eq_getElem hlt')
          have hidx := (List.Nodup.getElem_inj_iff hports).mp
            (show m.ports[e.id - 1] = m.ports[i - 1] by rw [hget, hget', hsame])
          omega
        simp [hother]

/-! ### What the client has written -/

/-- The client's bytes begin with those in its pump's messages.  As long as the pump goes on, the
others are in its hand and in the pipe. -/
def Handed (bodies : List (Option Bytes)) (t : Task) : Prop :=
  ∃ rest, t.written = handed bodies ++ rest ∧
    (t.pump ≠ .done → rest = t.pump.inHand ++ t.toMux)

section
variable {bodies msgs : List (Option Bytes)} {t t' : Task} {acts : List Act}

/-- A step that leaves the pump and what the client wrote alone. -/
theorem Handed.aside (h : Handed bodies t) (hw : t'.written = t.written)
    (hm : t'.toMux = t.toMux) (hp : t'.pump = t.pump) : Handed (bodies ++ []) t' := by
  obtain ⟨rest, hwritten, hrest⟩ := h
  rw [List.append_nil]
  refine ⟨rest, hw.trans hwritten, ?_⟩
  rw [hp, hm]
  exact hrest

theorem Handed.task {gone : Prop} {ns : List UInt32} (h : Handed bodies t)
    (ht : TaskStep acts gone t t' msgs ns) : Handed (bodies ++ msgs) t' := by
  obtain ⟨rest, hwritten, hrest⟩ := h
  cases ht with
  | look hp =>
      rw [List.append_nil]
      refine ⟨rest, hwritten, fun _ => ?_⟩
      rw [hrest (by simp [hp]), hp]
      by_cases hb : pauseFlag acts = true
      · simp [hb, Pump.inHand]
      · simp [hb, Pump.inHand]
  | wake hp _ =>
      rw [List.append_nil]
      refine ⟨rest, hwritten, fun _ => ?_⟩
      rw [hrest (by simp [hp]), hp]
      rfl
  | read hp _ heq =>
      rw [List.append_nil]
      refine ⟨rest, hwritten, fun _ => ?_⟩
      rw [hrest (by simp [hp]), hp, heq]
      rfl
  | eof hp _ _ =>
      rw [List.append_nil]
      refine ⟨rest, hwritten, fun _ => ?_⟩
      rw [hrest (by simp [hp]), hp]
      rfl
  | @send msg hp =>
      refine ⟨t.toMux, ?_, fun _ => ?_⟩
      · show t.written = _
        rw [hwritten, hrest (by simp [hp]), hp, handed_append, handed_singleton]
        cases msg <;> simp [Pump.inHand]
      · cases msg <;> rfl
  | abandon hp _ =>
      rw [List.append_nil]
      exact ⟨rest, hwritten, fun hne => absurd rfl hne⟩
  | clientWrite data _ =>
      rw [List.append_nil]
      refine ⟨rest ++ data, ?_, fun hne => ?_⟩
      · show t.written ++ data = _
        rw [hwritten, List.append_assoc]
      · show rest ++ data = t.pump.inHand ++ (t.toMux ++ data)
        rw [hrest hne, List.append_assoc]
  | _ => exact Handed.aside ⟨rest, hwritten, hrest⟩ rfl rfl rfl

end

/-- A reaction sends what is queued, as far as it goes. -/
theorem Reacts.sends_queued {c : Connection} {cev : ConnEvent} {acts : List Act}
    {r : Option Connection} (hr : Reacts c cev acts r) (hs : c.state = .connected)
    (hok : ¬ Failed acts) : sentBytes acts <+: c.pendingTx ++ cev.bytes := by
  obtain ⟨first, d, moves, c', last, hi, hm, he, rfl⟩ := hr.parts hs
  rw [failed_append, failed_append, not_or, not_or] at hok
  have hlast : sentBytes last = [] := by
    cases he with
    | stays => rfl
    | goes => exact sentBytes_quiet c'.tearActs_quiet
    | @resets a ha =>
        rw [← List.singleton_append, sentBytes_append_quiet _ c'.tearActs_quiet]
        exact ha.bytes
  rw [sentBytes_append, sentBytes_append, hlast, List.append_nil, hi.bytes.1, List.nil_append,
    ← hi.bytes.2, ← hm.bytes hok.1.2]
  exact List.prefix_append _ _

/-- What has become of a client's bytes, while the writer task lives on. -/
structure View.Uploads (v : View) : Prop where
  streamed : v.Streamed
  unfailed : ¬ Failed v.acts
  sent : sentBytes v.acts <+: handed v.taken
  written : Handed (v.taken ++ v.queued) v.task

theorem View.Uploads.start : View.Uploads {} where
  streamed := by
    intro c hc
    simp at hc
  unfailed := not_failed_nil
  sent := List.nil_prefix
  written := ⟨[], rfl, fun _ => rfl⟩

theorem View.Uploads.step {Q : View → ConnEvent → Prop} {i : Nat} {v v' : View}
    (hplain : v.Plain True i) (hv : v.Uploads) (h : v.Step True Q i v') : v'.Uploads := by
  have hstreamed := hv.streamed.step hplain h
  cases h with
  | opened hacts _ ha =>
      refine ⟨hstreamed, ?_, ?_, hv.written⟩
      · rintro ⟨e, he⟩
        rw [← List.mem_singleton.mp he] at ha
        cases ha
      · show sentBytes [_] <+: handed v.taken
        rw [sentBytes_frame ha]
        exact List.nil_prefix
  | openFailed _ _ hlive => exact absurd trivial hlive
  | @reacts c cev u acts r hc _ ht hr hlive _ =>
      have hok := hlive trivial
      have hlife := hplain.life
      rw [hc] at hlife
      obtain ⟨htask, hmsgs, -⟩ := ht.keeps
      refine ⟨hstreamed, fun hf => hok ((failed_append.mp hf).resolve_left hv.unfailed), ?_, ?_⟩
      · have hprefix : sentBytes acts <+: c.pendingTx ++ cev.bytes := by
          by_cases hs : c.state = .connected
          · exact hr.sends_queued hs hok
          · rw [(hr.opening (hlife.connecting hs)).bytes.1]
            exact List.nil_prefix
        show sentBytes (v.acts ++ acts) <+: handed u.taken
        rw [sentBytes_append, ht.handed, ← hv.streamed c hc hv.unfailed, List.append_assoc]
        exact (List.prefix_append_right_inj _).mpr hprefix
      · show Handed (u.taken ++ u.queued) u.task
        rw [htask, hmsgs]
        exact hv.written
  | late _ ht _ =>
      obtain ⟨htask, hmsgs, -⟩ := ht.keeps
      refine ⟨hstreamed, ?_, ?_, ?_⟩
      · rw [ht.acts.1]
        exact hv.unfailed
      · rw [ht.acts.1, ht.handed]
        exact hv.sent.trans (List.prefix_append _ _)
      · rw [htask, hmsgs]
        exact hv.written
  | @dropped c _ =>
      refine ⟨hstreamed, ?_, ?_, hv.written⟩
      · exact fun hf => c.not_failed_dropActs ((failed_append.mp hf).resolve_left hv.unfailed)
      · show sentBytes (v.acts ++ c.dropActs) <+: handed v.taken
        rw [sentBytes_append_quiet _ c.dropActs_quiet]
        exact hv.sent
  | @task t msgs ns _ ht =>
      refine ⟨hstreamed, hv.unfailed, hv.sent, ?_⟩
      show Handed (v.taken ++ (v.queued ++ msgs)) t
      rw [← List.append_assoc]
      exact hv.written.task ht

theorem View.Uploads.sent_of_written {v : View} (hv : v.Uploads) :
    sentBytes v.acts <+: v.task.written := by
  obtain ⟨rest, hwritten, -⟩ := hv.written
  rw [hwritten, handed_append, List.append_assoc]
  exact hv.sent.trans (List.prefix_append _ _)

/-- Once nothing is left on the way, all that was written has been sent. -/
theorem View.Uploads.sent_all {v : View} {c : Connection} (hv : v.Uploads) (hw : v.Whole c)
    (hc : v.entry = some c) (hn : v.NothingLeft c) : sentBytes v.acts = v.task.written := by
  obtain ⟨hpending, hqueued, hhand, hpipe⟩ := hn
  rw [hw.traced.written, hhand, hpipe, handed_append, hqueued, ← hv.streamed c hc hv.unfailed,
    hpending]
  simp

/-- **What a device reads of a sport is how its client's bytes begin,** and all of them once
nothing is left on the way. -/
theorem sport_carries_written {reply : Bytes} {link : Link} {tr : List (Sys × Action × Sys)}
    {s : Sys} {i : Nat} (hs : handshake none reply = .ok link)
    (h : Run Sys.Step (Sys.start link) tr s) (hports : s.mux.ports.Nodup)
    (hspawn : spawnedAs (s.acts i) ≠ none) :
    carried (sportAt (i - 1)) (queued s.mux.link.out) <+: (s.tasks i).written ∧
      ∀ c, s.mux.entry i = some c → (s.view i).NothingLeft c →
        carried (sportAt (i - 1)) (queued s.mux.link.out) = (s.tasks i).written := by
  have htidy := tidy_of_nodup hs h hports
  have hmeets := meets_anything tr
  obtain ⟨p, hp⟩ := Option.ne_none_iff_exists'.mp hspawn
  have hsound := (sys_views hs h htidy hmeets).1
  have hi := (hsound.spawned_sport hp).1
  obtain ⟨-, huploads, hwhole⟩ := view_invariant hs h htidy hmeets hi
    (P := fun v => v.Uploads ∧ ∀ c, v.entry = some c → v.Whole c)
    ⟨View.Uploads.start, fun c hc => (by cases hc)⟩
    (by
      rw [eq_true (rfl : (none : Option Nat) = none)]
      intro v v' hplain hv hstep
      exact ⟨hv.1.step hplain hstep, View.Whole.step hplain hv.2 hstep⟩)
  obtain ⟨tr', hmux⟩ := Sys.mux_run h
  have hle : i ≤ s.mux.ports.length := by
    by_contra hlt
    exact hspawn (by rw [Sys.acts, hsound.lives.ok.acts_nil (Nat.lt_of_not_le hlt)]; rfl)
  rw [carried_eq_sentBytes hs hmux hports hi hle]
  exact ⟨huploads.sent_of_written, fun c hc hn => huploads.sent_all (hwhole c hc) hc hn⟩

end Netmuxd
