/-
What has been sent when the loop closes a connection.

A client's bytes are in one of five places: in its pipe, in the pump's hand, on the
pump's channel, in `pending_tx`, or in frames.  Where the loop closes because the client
has, the first four are empty by the time the RST goes out.  Where it closes because a
payload finds the forwarder gone they need not be, and this branch does not look.
-/
import Netmuxd.Proofs.Stall
import Netmuxd.Proofs.Parting
import Netmuxd.Proofs.Window

namespace Netmuxd

open Lib Relation

/-! ### Statement -/

/-- What a pump has read and not yet sent on. -/
def Pump.inHand : Pump → Bytes
  | .sending (some bytes) => bytes
  | _ => []

/-- Nothing the client of this connection has written is still on its way to the device. -/
def View.NothingLeft (v : View) (c : Connection) : Prop :=
  c.pendingTx = [] ∧ handed v.queued = [] ∧ v.task.pump.inHand = [] ∧ v.task.toMux = []

namespace Sys

/-- The loop is not left, and the device sends connection `i` plain ACKs only once it is
connected. -/
def KeptOpen (i : Nat) (s : Sys) (a : Action) (_ : Sys) : Prop :=
  (∀ order, a ≠ .stop order) ∧ a ≠ .closeNext ∧
    ∀ pkt c th payload, a = .packet pkt → addressee s.mux pkt = some (c, th, payload) →
      c.id = i → c.state = .connected → th.flags = TcpFlags.ack

/-- A payload for connection `i` finds its forwarder, or nothing left to send. -/
def PayloadWelcome (i : Nat) (s : Sys) (a : Action) (_ : Sys) : Prop :=
  ∀ pkt c th payload, a = .packet pkt → addressee s.mux pkt = some (c, th, payload) →
    c.id = i → c.state = .connected → payload ≠ [] → s.alive i = true ∨ (s.view i).NothingLeft c

/-- When an RST was sent for the accepted connection `i`, all that its client ever wrote
had been sent. -/
def ClosedWhole (i : Nat) (s : Sys) : Prop :=
  spawnedAs (s.acts i) ≠ none → ∀ pre a post th payload, s.acts i = pre ++ a :: post →
    a.tcp? = some (th, payload) → th.IsRst → sentBytes pre = (s.tasks i).written

end Sys

/-- What the loop may take up on a connection that is kept open. -/
def MeetsOpenly (v : View) (cev : ConnEvent) : Prop :=
  cev ≠ .closing ∧ ∀ th payload alive c, cev = .packet th payload alive → v.entry = some c →
    c.state = .connected →
      th.flags = TcpFlags.ack ∧ (payload ≠ [] → alive = true ∨ v.NothingLeft c)

theorem meets_openly {i : Nat} {s s' : Sys} {a : Action} (hok : s.mux.Ok)
    (hopen : s.KeptOpen i a s') (hwelcome : s.PayloadWelcome i a s') :
    s.Meets (fun j v cev => j = i → MeetsOpenly v cev) a s' := by
  intro ev hev p c cev hc htarget hcev hid
  subst hid
  refine ⟨?_, ?_⟩
  · rintro rfl
    exact hopen.2.1 (Sys.event_closing hev hcev)
  · rintro th payload alive d rfl hentry hs
    have hd : d = c := Option.some.inj (hentry.symm.trans (hok.entry_of hc))
    subst hd
    obtain ⟨pkt, rfl, haddr, rfl⟩ := Sys.event_packet hev hc htarget hcev
    exact ⟨hopen.2.2 pkt d th payload rfl haddr rfl hs,
      hwelcome pkt d th payload rfl haddr rfl hs⟩

/-! ### Where a client's bytes are -/

/-- Every byte the client has written is in the messages of its pump, in the pump's hand or
in the pipe; and after the end of its stream there is nothing more. -/
structure Traced (bodies : List (Option Bytes)) (t : Task) : Prop where
  written : t.written = handed bodies ++ t.pump.inHand ++ t.toMux
  eof : none ∈ bodies ∨ t.pump = .sending none → t.toMux = [] ∧ t.clientShut = true

theorem Traced.start : Traced [] {} :=
  ⟨rfl, by simp⟩

/-- A step that leaves the pump and what the client wrote alone. -/
theorem Traced.aside {bodies : List (Option Bytes)} {t t' : Task} (hv : Traced bodies t)
    (hw : t'.written = t.written) (hm : t'.toMux = t.toMux) (hp : t'.pump = t.pump)
    (hshut : t.clientShut = true → t'.clientShut = true) : Traced (bodies ++ []) t' := by
  rw [List.append_nil]
  refine ⟨by rw [hw, hm, hp]; exact hv.written, fun h => ?_⟩
  obtain ⟨hnil, hs⟩ := hv.eof (h.imp id fun h => hp.symm.trans h)
  exact ⟨hm.trans hnil, hshut hs⟩

theorem Traced.task {acts : List Act} {bodies : List (Option Bytes)} {t t' : Task}
    {msgs : List (Option Bytes)} {ns : List UInt32} (hv : Traced bodies t)
    (hdone : none ∈ bodies → t.pump = .done) (ht : TaskStep acts False t t' msgs ns) :
    Traced (bodies ++ msgs) t' := by
  have hwritten := hv.written
  -- a pump that is not done has not sent the end of the stream
  have hnot : ∀ {pump : Pump}, t.pump = pump → pump ≠ .done → none ∉ bodies := by
    intro pump hp hne hmem
    exact hne (hp.symm.trans (hdone hmem))
  cases ht with
  | look hp =>
      rw [List.append_nil]
      rw [hp] at hwritten
      refine ⟨?_, fun h => ?_⟩
      · by_cases hb : pauseFlag acts = true
        · simp only [hb, ↓reduceIte]
          exact hwritten
        · simp only [hb, Bool.false_eq_true, ↓reduceIte]
          exact hwritten
      · rcases h with h | h
        · exact absurd h (hnot hp (by simp))
        · simp only at h
          split at h <;> cases h
  | wake hp _ =>
      rw [List.append_nil]
      rw [hp] at hwritten
      refine ⟨hwritten, fun h => ?_⟩
      rcases h with h | h
      · exact absurd h (hnot hp (by simp))
      · cases h
  | read hp hne heq =>
      rw [List.append_nil]
      rw [hp, heq] at hwritten
      refine ⟨?_, fun h => ?_⟩
      · simpa [Pump.inHand] using hwritten
      · rcases h with h | h
        · exact absurd h (hnot hp (by simp))
        · cases h
  | eof hp hnil hshut =>
      rw [List.append_nil]
      rw [hp] at hwritten
      exact ⟨hwritten, fun _ => ⟨hnil, hshut⟩⟩
  | @send msg hp =>
      rw [hp] at hwritten
      refine ⟨?_, fun h => ?_⟩
      · rw [handed_append, handed_singleton]
        cases msg <;> simpa [Pump.inHand] using hwritten
      · cases msg with
        | none => exact hv.eof (Or.inr hp)
        | some bytes =>
            rcases h with h | h
            · rw [List.mem_append, List.mem_singleton] at h
              rcases h with h | h
              · exact absurd h (hnot hp (by simp))
              · cases h
            · cases h
  | abandon _ hgone => exact hgone.elim
  | giveUp _ hgone => exact hgone.elim
  | clientWrite data hopen =>
      rw [List.append_nil]
      refine ⟨?_, fun h => ?_⟩
      · rw [hwritten]
        simp
      · rw [(hv.eof h).2] at hopen
        cases hopen
  | clientShutdown => exact hv.aside rfl rfl rfl (fun _ => rfl)
  | clientDrop => exact hv.aside rfl rfl rfl (fun _ => rfl)
  | _ => exact hv.aside rfl rfl rfl id

/-- A client whose forwarder has ended has closed its end before. -/
structure ShutFirst (t : Task) : Prop where
  forwarder : t.forwarder = .done → t.clientShut = true
  dropped : t.clientDropped = true → t.clientShut = true

theorem ShutFirst.of_running {t : Task} (hforwarder : t.forwarder ≠ .done)
    (hdropped : t.clientDropped = true → t.clientShut = true) : ShutFirst t := by
  refine ⟨?_, hdropped⟩
  intro hdone
  exact absurd hdone hforwarder

theorem ShutFirst.task {acts : List Act} {t t' : Task} {msgs : List (Option Bytes)}
    {ns : List UInt32} (hv : ShutFirst t) (hlisted : rxTxDropped acts = false)
    (ht : TaskStep acts False t t' msgs ns) : ShutFirst t' := by
  cases ht with
  | finish _ _ hdrop =>
      rw [hlisted] at hdrop
      cases hdrop
  | fail _ hclient => exact ⟨fun _ => hv.dropped hclient, hv.dropped⟩
  | take => exact .of_running (by simp) hv.dropped
  | written => exact .of_running (by simp) hv.dropped
  | write => exact .of_running (by simp) hv.dropped
  | report => exact .of_running (by simp) hv.dropped
  | giveUp _ hgone => exact hgone.elim
  | clientShutdown => exact ⟨fun _ => rfl, fun _ => rfl⟩
  | clientDrop => exact ⟨fun _ => rfl, fun _ => rfl⟩
  | _ => exact ⟨hv.forwarder, hv.dropped⟩

/-! ### Frames that are not an RST -/

/-- No frame among these acts carries RST. -/
def NoRst (h : List Act) : Prop :=
  ∀ a ∈ h, ∀ th payload, a.tcp? = some (th, payload) → ¬ th.IsRst

theorem NoRst.append {h h' : List Act} (hn : NoRst h) (hn' : NoRst h') : NoRst (h ++ h') := by
  intro a ha
  rcases List.mem_append.mp ha with ha | ha
  · exact hn a ha
  · exact hn' a ha

theorem noRst_of_quiet {h : List Act} (hq : ∀ a ∈ h, a.tcp? = none) : NoRst h := by
  intro a ha th payload htcp
  rw [hq a ha] at htcp
  cases htcp

theorem noRst_frame {c : Connection} {flags : UInt8} {payload : Bytes} {a : Act}
    (ha : a.tcp? = some (headerOf c flags, payload)) (hflags : flags &&& TcpFlags.rst = 0) :
    NoRst [a] := by
  intro b hb th p htcp
  rw [List.mem_singleton.mp hb, ha] at htcp
  cases htcp
  exact not_not.mpr hflags

theorem Moves.noRst {c c' : Connection} {acts : List Act} (h : Moves c acts c') : NoRst acts := by
  refine h.output (P := fun hist _ => NoRst hist) (fun a ha => by cases ha) ?_
  intro hist d os d' hn hm
  cases hm with
  | frame ha => exact hn.append (noRst_frame ha (by decide))
  | data _ _ _ _ _ ha => exact hn.append (noRst_frame ha (by decide))
  | failed => exact hn.append (noRst_of_quiet (by simp [Act.tcp?]))
  | resume => exact hn.append (noRst_of_quiet (by simp [Act.tcp?]))
  | pause => exact hn.append (noRst_of_quiet (by simp [Act.tcp?]))

theorem Intake.noRst {c d : Connection} {cev : ConnEvent} {first : List Act}
    (h : Intake c cev first d) : NoRst first := by
  cases h with
  | deliver => exact noRst_of_quiet (by simp [Act.tcp?])
  | _ => exact noRst_of_quiet (by simp)

/-- An RST is sent for an accepted connection only as its entry goes. -/
theorem Reacts.noRst {c c' : Connection} {cev : ConnEvent} {acts : List Act}
    (hr : Reacts c cev acts (some c')) (hs : c.state ≠ .dead) : NoRst acts := by
  by_cases hconn : c.state = .connected
  · obtain ⟨first, d, moves, c₁, last, hi, hm, he, rfl⟩ := hr.parts hconn
    cases he
    exact (hi.noRst.append hm.noRst).append (noRst_of_quiet (by simp))
  · have hs' : c.state = .connecting := by
      cases hc : c.state with
      | connecting => rfl
      | connected => exact absurd hc hconn
      | dead => exact absurd hc hs
    cases hr.opening hs' with
    | accepted _ ha htold =>
        exact NoRst.append (h := [_]) (noRst_frame ha (by decide))
          (noRst_of_quiet (quiet_of_local htold))
    | acceptFailed => exact noRst_of_quiet (by simp [Act.tcp?])
    | drained n => exact noRst_of_quiet (by simp)
    | ignored => exact noRst_of_quiet (by simp)

/-- Where the one RST among these acts is. -/
theorem rst_split {h pre post rest : List Act} {a b : Act} {th : ParsedTcp} {payload : Bytes}
    (heq : h ++ a :: rest = pre ++ b :: post) (hn : NoRst h) (hn' : NoRst rest)
    (hb : b.tcp? = some (th, payload)) (hrst : th.IsRst) : pre = h := by
  rcases List.append_eq_append_iff.mp heq with ⟨mid, rfl, hmid⟩ | ⟨mid, rfl, hmid⟩
  · cases mid with
    | nil => exact List.append_nil h
    | cons x mid' =>
        rw [List.cons_append, List.cons.injEq] at hmid
        exact absurd hrst (hn' b (by rw [hmid.2]; simp) th payload hb)
  · cases mid with
    | nil => exact (List.append_nil pre).symm
    | cons x mid' =>
        rw [List.cons_append, List.cons.injEq] at hmid
        exact absurd hrst (hn b (by rw [hmid.1]; simp) th payload hb)

/-! ### The step that closes -/

/-- Nothing follows the end of the client's stream. -/
theorem View.Orderly.queued_nil {v : View} (hv : v.Orderly) (h : none ∈ v.taken) :
    v.queued = [] := by
  by_contra hne
  refine hv.last ?_
  rw [List.dropLast_append_of_ne_nil hne]
  exact List.mem_append_left _ h

theorem View.Orderly.closes {v u : View} (hv : v.Orderly) (h : v.Takes .close u) :
    v.queued = [none] := by
  obtain ⟨rest, hq, -⟩ := View.Takes.of_message (b := none) h
  have hlast := hv.last
  rw [hq, List.dropLast_append_of_ne_nil (by simp)] at hlast
  cases rest with
  | nil => exact hq
  | cons x rest => exact absurd (by simp) hlast

/-- Once the end of its stream is known, all the client wrote is in its pump's messages. -/
theorem Traced.ended {bodies : List (Option Bytes)} {t : Task} (ht : Traced bodies t)
    (h : none ∈ bodies) (hdone : t.pump = .done) :
    handed bodies = t.written ∧ t.clientShut = true := by
  obtain ⟨hnil, hshut⟩ := ht.eof (Or.inl h)
  rw [ht.written, hdone, hnil]
  exact ⟨by simp [Pump.inHand], hshut⟩

/-- What is known of a listed connection that is kept open. -/
structure View.Whole (v : View) (c : Connection) : Prop where
  noRst : NoRst v.acts
  traced : Traced (v.taken ++ v.queued) v.task
  shutFirst : ShutFirst v.task

/-- Once its end has come, a client's last bytes are in `pending_tx`. -/
theorem View.Whole.all_pending {i : Nat} {v : View} {c : Connection} (hv : v.Whole c)
    (hplain : v.Plain True i) (hstreamed : sentBytes v.acts ++ c.pendingTx = handed v.taken)
    (hmem : none ∈ v.taken ++ v.queued) (hqueued : handed v.queued = []) :
    sentBytes v.acts ++ c.pendingTx = v.task.written ∧ v.task.clientShut = true := by
  obtain ⟨hall, hshut⟩ := hv.traced.ended hmem (hplain.orderly.closed hmem)
  rw [hstreamed, ← hall, handed_append, hqueued, List.append_nil]
  exact ⟨rfl, hshut⟩

/-- A packet that the forwarder is told not to be there for finds it ended. -/
theorem View.Takes.alive {v u : View} {th : ParsedTcp} {payload : Bytes} {alive : Bool}
    (h : v.Takes (.packet th payload alive) u) : alive = decide (v.task.forwarder ≠ .done) := by
  generalize hcev : ConnEvent.packet th payload alive = cev at h
  cases h with
  | packet =>
      cases hcev
      rfl
  | @message body rest hq => cases body <;> cases hcev
  | notice => cases hcev
  | closing => cases hcev

/-- A payload that finds its forwarder gone finds nothing left to send. -/
theorem View.Whole.undelivered {i : Nat} {v u : View} {c : Connection} {th : ParsedTcp}
    {payload : Bytes} {alive : Bool} (hv : v.Whole c) (hplain : v.Plain True i)
    (hstreamed : sentBytes v.acts ++ c.pendingTx = handed v.taken) (hc : v.entry = some c)
    (hs : c.state = .connected) (hQ : MeetsOpenly v (.packet th payload alive))
    (ht : v.Takes (.packet th payload alive) u) (hne : payload ≠ [])
    (hgone : (c.rxTx && alive) = false) :
    sentBytes v.acts = v.task.written ∧ v.task.clientShut = true := by
  have hrx : c.rxTx = true := by
    obtain ⟨-, hstate, hrx, -⟩ := hplain.life.linked.listed c hc
    rw [hrx, Option.isSome_iff_ne_none]
    exact hstate.mp hs
  rw [hrx, Bool.true_and] at hgone
  have hdone : v.task.forwarder = .done := by
    have halive := ht.alive
    rw [hgone] at halive
    simpa using halive
  obtain ⟨-, hwelcome⟩ := hQ.2 _ _ _ c rfl hc hs
  obtain ⟨hpending, hqueued, hhand, hpipe⟩ :=
    (hwelcome hne).resolve_left (by rw [hgone]; exact Bool.false_ne_true)
  refine ⟨?_, hv.shutFirst.forwarder hdone⟩
  rw [hpending, List.append_nil] at hstreamed
  rw [hv.traced.written, handed_append, ← hstreamed, hqueued, hhand, hpipe]
  simp

/-- **The close comes last**: an RST leaves nothing unsent behind. -/
theorem View.Whole.closes {i : Nat} {v u : View} {c : Connection} {cev : ConnEvent}
    {acts : List Act} (hv : v.Whole c) (hplain : v.Plain True i) (hstream : v.Streamed)
    (hflow : v.Flowing c) (hc : v.entry = some c) (hs : c.state = .connected)
    (hQ : MeetsOpenly v cev) (ht : v.Takes cev u) (hr : Reacts c cev acts none)
    (hold : ¬ Failed v.acts) (hok : ¬ Failed acts) {pre post : List Act} {a : Act}
    {th : ParsedTcp} {payload : Bytes} (heq : v.acts ++ acts = pre ++ a :: post)
    (ha : a.tcp? = some (th, payload)) (hrst : th.IsRst) :
    sentBytes pre = v.task.written ∧ v.task.clientShut = true := by
  have hstreamed := hstream c hc hold
  -- the frames before the RST, in a reaction that sends one
  have hpre : ∀ (before : List Act) {rest : List Act} {b : Act}, acts = before ++ b :: rest →
      NoRst before → NoRst rest → pre = v.acts ++ before := by
    intro before rest b hacts hn hn'
    rw [hacts, ← List.append_assoc] at heq
    exact rst_split heq (hv.noRst.append hn) hn' ha hrst
  cases hr with
  | dataFailed _ _ hfail => exact absurd (failed_append.mpr (Or.inl hfail)) hok
  | closeFailed _ _ hfail =>
      exact absurd (failed_append.mpr (Or.inl (failed_append.mpr (Or.inl hfail)))) hok
  | @closeDone before c' b _ hm he hb =>
      have hbefore := hpre _ (List.append_assoc ..) hm.noRst (noRst_of_quiet c'.tearActs_quiet)
      rw [failed_append, failed_append, not_or, not_or] at hok
      have hsent : sentBytes before = c.pendingTx := by
        have hall := hm.bytes hok.1.1
        rw [he, List.append_nil] at hall
        exact hall
      have hqueued := hplain.orderly.closes ht
      rw [hbefore, sentBytes_append, hsent]
      refine hv.all_pending hplain hstreamed ?_ ?_
      · rw [hqueued]
        simp
      · rw [hqueued]
        simp
  | refused hs' => rw [hs] at hs'; cases hs'
  | reset _ hflags =>
      obtain ⟨hack, -⟩ := hQ.2 _ _ _ c rfl hc hs
      exact absurd hflags (not_or.mpr ⟨ack_not_rst hack, not_not.mpr hack⟩)
  | undelivered _ _ hne hgone _ =>
      have hbefore := hpre [] rfl (noRst_of_quiet (by simp)) (noRst_of_quiet c.tearActs_quiet)
      rw [hbefore, List.append_nil]
      exact hv.undelivered hplain hstreamed hc hs hQ ht hne hgone
  | @ackedDone th' payload' alive before c' b _ _ _ hm hclosed he hb =>
      have hchunk : NoRst (chunkActs payload') := noRst_of_quiet (chunkActs_quiet payload')
      have hbefore := hpre _ (List.append_assoc ..) (hchunk.append hm.noRst)
        (noRst_of_quiet c'.tearActs_quiet)
      rw [failed_append, failed_append, failed_append, not_or, not_or, not_or] at hok
      obtain ⟨t, b, hacc⟩ := c.accept_fields th' payload'
      have hsent : sentBytes before = c.pendingTx := by
        have hall := hm.bytes hok.1.1.2
        rw [he, List.append_nil, hacc] at hall
        exact hall
      have hmem : none ∈ v.taken := by
        refine hflow.heard ?_
        rw [hm.clientClosed, hacc] at hclosed
        exact hclosed
      rw [hbefore, sentBytes_append, sentBytes_append, sentBytes_quiet (chunkActs_quiet payload'),
        List.nil_append, hsent]
      refine hv.all_pending hplain hstreamed (List.mem_append_left v.queued hmem) ?_
      rw [hplain.orderly.queued_nil hmem]
      rfl
  | closing => exact absurd rfl hQ.1

/-- All that the client wrote had been sent when an RST was. -/
def View.SentBeforeRst (v : View) : Prop :=
  spawnedAs v.acts ≠ none → ∀ pre a post th payload, v.acts = pre ++ a :: post →
    a.tcp? = some (th, payload) → th.IsRst →
      sentBytes pre = v.task.written ∧ v.task.clientShut = true

theorem NoRst.sentBeforeRst {v : View} (h : NoRst v.acts) : v.SentBeforeRst := by
  intro _ pre a post th payload heq ha hrst
  exact absurd hrst (h a (by rw [heq]; simp) th payload ha)

/-- A client that has shut its end down writes nothing more. -/
theorem TaskStep.shut {acts : List Act} {gone : Prop} {t t' : Task} {msgs : List (Option Bytes)}
    {ns : List UInt32} (h : TaskStep acts gone t t' msgs ns) (hs : t.clientShut = true) :
    t'.written = t.written ∧ t'.clientShut = true := by
  cases h with
  | clientWrite data hopen =>
      rw [hs] at hopen
      cases hopen
  | clientShutdown => exact ⟨rfl, rfl⟩
  | clientDrop => exact ⟨rfl, rfl⟩
  | _ => exact ⟨rfl, hs⟩

/-- Everything known of a connection that is kept open. -/
structure View.KeptWhole (v : View) : Prop where
  streamed : v.Streamed
  flowing : ∀ c, v.entry = some c → v.Flowing c
  whole : ∀ c, v.entry = some c → v.Whole c
  unfailed : ¬ Failed v.acts
  sent : v.SentBeforeRst

theorem View.KeptWhole.start : View.KeptWhole {} where
  streamed := by
    intro c hc
    cases hc
  flowing := by simp
  whole := by simp
  unfailed := not_failed_nil
  sent := fun hne => absurd rfl hne

theorem View.Whole.step {Q : View → ConnEvent → Prop} {i : Nat} {v v' : View}
    (hplain : v.Plain True i) (hv : ∀ c, v.entry = some c → v.Whole c) (h : v.Step True Q i v') :
    ∀ c, v'.entry = some c → v'.Whole c := by
  intro c' hc'
  cases h with
  | opened hacts _ ha =>
      obtain ⟨htask, hmsgs, -⟩ := hplain.orderly.unspawned (by rw [hacts]; rfl)
      refine ⟨noRst_frame ha (by decide), ?_, ?_⟩
      · show Traced (v.taken ++ v.queued) v.task
        rw [htask, hmsgs]
        exact Traced.start
      · show ShutFirst v.task
        rw [htask]
        exact .of_running (by simp) (by simp)
  | openFailed _ _ hlive => exact absurd trivial hlive
  | @reacts c cev u acts r hc _ ht hr _ _ =>
      simp only at hc'
      subst hc'
      obtain ⟨hno, htraced, hshut⟩ := hv c hc
      obtain ⟨htask, hmsgs, -⟩ := ht.keeps
      refine ⟨hno.append (hr.noRst (hplain.life.not_dead c hc)), ?_, ?_⟩
      · show Traced (u.taken ++ u.queued) u.task
        rw [htask, hmsgs]
        exact htraced
      · show ShutFirst u.task
        rw [htask]
        exact hshut
  | late hc ht _ =>
      rw [ht.acts.2, hc] at hc'
      cases hc'
  | dropped => cases hc'
  | task _ ht =>
      obtain ⟨hno, htraced, hshut⟩ := hv c' hc'
      have ht : TaskStep v.acts False v.task _ _ _ :=
        ht.mono fun hnone => absurd (hnone.symm.trans hc') (by simp)
      have hlisted := (hplain.life.linked.listed c' hc').2.2.2
      refine ⟨hno, ?_, hshut.task hlisted ht⟩
      show Traced (v.taken ++ (v.queued ++ _)) _
      rw [← List.append_assoc]
      exact htraced.task hplain.orderly.closed ht

theorem View.KeptWhole.step {i : Nat} {v v' : View} (hplain : v.Plain True i)
    (hv : v.KeptWhole) (h : v.Step True MeetsOpenly i v') : v'.KeptWhole := by
  have hwhole := View.Whole.step hplain hv.whole h
  refine ⟨hv.streamed.step hplain h, View.flowing_step hplain hv.flowing h, hwhole, ?_, ?_⟩
  · cases h with
    | opened _ _ ha =>
        rintro ⟨e, he⟩
        rw [← List.mem_singleton.mp he] at ha
        cases ha
    | openFailed _ _ hlive => exact absurd trivial hlive
    | reacts _ _ _ _ hlive _ =>
        exact fun hf => hlive trivial ((failed_append.mp hf).resolve_left hv.unfailed)
    | late _ ht _ => rw [ht.acts.1]; exact hv.unfailed
    | @dropped c _ =>
        exact fun hf => c.not_failed_dropActs ((failed_append.mp hf).resolve_left hv.unfailed)
    | task => exact hv.unfailed
  · cases h with
    | opened => exact (hwhole _ rfl).noRst.sentBeforeRst
    | openFailed _ _ hlive => exact absurd trivial hlive
    | @reacts c cev u acts r hc hQ ht hr hlive _ =>
        cases r with
        | some c' => exact (hwhole c' rfl).noRst.sentBeforeRst
        | none =>
            intro hspawn pre a post th payload heq ha hrst
            have hs : c.state = .connected := by
              rcases hr.spawned with ⟨-, -, c', hr', -⟩ | ⟨hnone, -⟩
              · cases hr'
              · refine (hplain.life.linked.listed c hc).2.1.mpr fun hold => hspawn ?_
                show spawnedAs (v.acts ++ acts) = none
                rw [spawnedAs_append, hold, hnone]
                rfl
            show sentBytes pre = u.task.written ∧ u.task.clientShut = true
            rw [ht.keeps.1]
            exact (hv.whole c hc).closes hplain hv.streamed (hv.flowing c hc) hc hs hQ ht hr
              hv.unfailed (hlive trivial) heq ha hrst
    | late _ ht _ =>
        rw [View.SentBeforeRst, ht.acts.1, ht.keeps.1]
        exact hv.sent
    | @dropped c hc =>
        exact NoRst.sentBeforeRst
          ((hv.whole c hc).noRst.append (noRst_of_quiet c.dropActs_quiet))
    | task hspawn ht =>
        intro _ pre a post th payload heq ha hrst
        obtain ⟨hsent, hshut⟩ := hv.sent hspawn pre a post th payload heq ha hrst
        obtain ⟨hw, hshut'⟩ := ht.shut hshut
        exact ⟨hsent.trans hw.symm, hshut'⟩

/-- **Closing loses no client data**, where a payload that finds its forwarder gone finds
nothing left to send either: with a writer that lives on, a device that keeps the
connection open and no sport handed out too early, an RST is sent on an accepted
connection only after every byte its client wrote. -/
theorem closing_keeps_data {reply : Bytes} {link : Link} {tr : List (Sys × Action × Sys)} {s : Sys}
    {i : Nat} (hs : handshake none reply = .ok link) (h : Run Sys.Step (Sys.start link) tr s)
    (hopen : EveryStep (Sys.KeptOpen i) tr) (htidy : EveryStep Sys.Tidy tr)
    (hwelcome : EveryStep (Sys.PayloadWelcome i) tr) : s.ClosedWhole i := by
  intro hspawn pre a post th payload heq ha hrst
  have hlive : ((none : Option Nat) = none) = True := eq_true rfl
  have hmeets : EveryStep (Sys.Meets fun j v cev => j = i → MeetsOpenly v cev) tr := by
    refine everyStep_meets (C := fun s a s' => s.KeptOpen i a s' ∧ s.PayloadWelcome i a s') hs h
      ?_ (fun t ht => ⟨hopen t ht, hwelcome t ht⟩)
    intro s a s' hok hC
    exact meets_openly hok hC.1 hC.2
  obtain ⟨p, hp⟩ := Option.ne_none_iff_exists'.mp hspawn
  have hsound := (sys_views hs h htidy hmeets).1
  have hinv := view_invariant hs h htidy hmeets (hsound.spawned_sport hp).1 (P := View.KeptWhole)
    View.KeptWhole.start
    (by
      rw [hlive]
      intro v v' hplain hv hstep
      exact hv.step hplain (hstep.weaken fun _ _ hQ => hQ rfl))
  exact (hinv.2.sent hspawn pre a post th payload heq ha hrst).1

/-! ### Two closes -/

/-- A plain ACK from the device to the first connection. -/
def ackPacket (window : UInt16) (payload : Bytes) : Bytes :=
  packetOf {} ⟨62078, 1, 1, 1, TcpFlags.ack, window⟩ payload

/-- The device accepts the first connection, with this window. -/
def acceptance (window : UInt16) : List Action :=
  [.connect 62078, .packet (packetOf {} ⟨62078, 1, 0, 1, synAck, window⟩ [])]

/-- In the run that accepts a connection nothing is sent to a connected one. -/
theorem acceptance_keptOpen {window : UInt16} {s s' : Sys}
    (hconnect : (Sys.start freshLink).next (.connect 62078) = some s)
    (hpacket : s.next (.packet (packetOf {} ⟨62078, 1, 0, 1, synAck, window⟩ [])) = some s')
    (hconnecting : (s.mux.connections 1).map Connection.state = some .connecting) :
    ∃ tr, Run Sys.Step (Sys.start freshLink) tr s' ∧
      tr.map (fun t => t.2.1) = acceptance window ∧ EveryStep (Sys.KeptOpen 1) tr := by
  have hstep : (Sys.start freshLink).Step (.connect 62078) s :=
    ⟨hconnect, fun ev hev => by cases hev; trivial⟩
  have hstep' : s.Step (.packet (packetOf {} ⟨62078, 1, 0, 1, synAck, window⟩ [])) s' :=
    ⟨hpacket, fun ev hev => by cases hev; trivial⟩
  refine ⟨_, (Run.single hstep).snoc hstep', rfl, everyStep_snoc.mpr ⟨?_, ?_⟩⟩
  · have hmap : [(Sys.start freshLink, Action.connect 62078, s)].map (fun t => t.2.1) =
        [.connect 62078] := rfl
    refine everyStep_of_actions hmap fun s a s' ha => ?_
    rw [List.mem_singleton.mp ha]
    refine ⟨by simp, by simp, ?_⟩
    intro pkt c th payload h
    cases h
  · refine ⟨by simp, by simp, ?_⟩
    intro pkt c th payload h haddr _ hs
    cases h
    obtain ⟨htcp, hlisted⟩ := Sys.addressee_eq_some.mp haddr
    rw [tcpOf_packetOf] at htcp
    cases htcp
    rw [hlisted, Option.map_some, hs] at hconnecting
    cases hconnecting

/-- Actions of the tasks and the client, and plain ACKs. -/
def Action.isOpen : Action → Bool
  | .stop _ | .closeNext | .connect _ => false
  | .packet pkt => ((tcpOf pkt).map fun r => r.1.flags) = some TcpFlags.ack
  | _ => true

theorem keptOpen_of_isOpen {i : Nat} {s s' : Sys} {a : Action} (h : a.isOpen = true) :
    s.KeptOpen i a s' := by
  refine ⟨?_, ?_, ?_⟩
  · intro order ha
    subst ha
    cases h
  · intro ha
    subst ha
    cases h
  · intro pkt c th payload ha haddr _ _
    subst ha
    have hflags := of_decide_eq_true h
    rw [(Sys.addressee_eq_some.mp haddr).1] at hflags
    exact Option.some.inj hflags

/-- A computed run in which the device keeps the first connection open. -/
theorem exec_keptOpen (window : UInt16) (as : List Action) (s₂ s : Sys) {s₁ : Sys}
    (hconnect : (Sys.start freshLink).next (.connect 62078) = some s₁)
    (hpacket : s₁.next (.packet (packetOf {} ⟨62078, 1, 0, 1, synAck, window⟩ [])) = some s₂)
    (hconnecting : (s₁.mux.connections 1).map Connection.state = some .connecting)
    (has : ∀ a ∈ as, a.isOpen = true) (h : exec Sys.next s₂ as = some s) :
    ∃ tr, Run Sys.Step (Sys.start freshLink) tr s ∧
      tr.map (fun t => t.2.1) = acceptance window ++ as ∧ EveryStep (Sys.KeptOpen 1) tr := by
  obtain ⟨tr, hrun, hmap, hopen⟩ := acceptance_keptOpen hconnect hpacket hconnecting
  obtain ⟨tr', hrun', hmap'⟩ := Sys.run_of_exec (fun order hmem => by cases has _ hmem) h
  refine ⟨tr ++ tr', hrun.trans hrun', by rw [List.map_append, hmap, hmap'], hopen.append ?_⟩
  exact everyStep_of_actions hmap' fun s a s' ha => keptOpen_of_isOpen (has a ha)

/-- The device offers no window and sends two payloads; the client writes one byte and drops
its end, which its forwarder notices at the first payload. -/
def dropEarly : List Action :=
  [.pump 1, .clientWrite 1 [65], .pump 1, .pump 1, .takeData, .clientDrop 1,
    .packet (ackPacket 0 [7]), .forwarder 1, .forwarder 1, .packet (ackPacket 0 [8])]

def accepted (window : UInt16) : Sys :=
  (exec Sys.next (Sys.start freshLink) (acceptance window)).getD (Sys.start freshLink)

def afterDropEarly : Sys :=
  (exec Sys.next (accepted 0) dropEarly).getD (Sys.start freshLink)

/-- **A payload can cut the client's stream short**: the second one is answered with an RST
while the client's byte still waits for the window. -/
theorem close_drops_data : ∃ tr s, Run Sys.Step (Sys.start freshLink) tr s ∧
    tr.map (fun t => t.2.1) = acceptance 0 ++ dropEarly ∧ EveryStep (Sys.KeptOpen 1) tr ∧
    s.mux.ports.Nodup ∧ ¬ s.ClosedWhole 1 := by
  obtain ⟨tr, hrun, hmap, hopen⟩ := exec_keptOpen 0 dropEarly (accepted 0) afterDropEarly
    rfl rfl rfl (by decide) rfl
  refine ⟨tr, afterDropEarly, hrun, hmap, hopen,
    List.nodup_cons.mpr ⟨by simp, List.nodup_nil⟩, fun hwhole => ?_⟩
  have hrst : (((afterDropEarly.acts 1)[6]?).bind Act.tcp?).map (fun r => r.1.flags) =
      some TcpFlags.rst := by decide +kernel
  obtain ⟨⟨th, payload⟩, htcp, hflags⟩ := Option.map_eq_some_iff.mp hrst
  obtain ⟨a, hget, ha⟩ := Option.bind_eq_some_iff.mp htcp
  have hsplit : afterDropEarly.acts 1 =
      (afterDropEarly.acts 1).take 6 ++ a :: (afterDropEarly.acts 1).drop 7 := by
    obtain ⟨hlt, rfl⟩ := List.getElem?_eq_some_iff.mp hget
    rw [← List.drop_eq_getElem_cons hlt, List.take_append_drop]
  have hsent := hwhole (fun hn => by cases hn) _ _ _ th payload hsplit ha (by
    rw [ParsedTcp.IsRst, show th.flags = TcpFlags.rst from hflags]
    decide)
  have hnone : sentBytes ((afterDropEarly.acts 1).take 6) = [] := by decide +kernel
  rw [hnone] at hsent
  cases hsent

/-- The client writes two bytes and shuts its end down, with room in the window. -/
def hangUp : List Action :=
  [.clientWrite 1 [65, 66], .clientShutdown 1, .pump 1, .pump 1, .pump 1, .takeData,
    .pump 1, .pump 1, .pump 1, .takeData]

def afterHangUp : Sys :=
  (exec Sys.next (accepted 512) hangUp).getD (Sys.start freshLink)

/-- This close sends both bytes, and then the RST. -/
theorem hangUp_keeps_data : ∃ tr, Run Sys.Step (Sys.start freshLink) tr afterHangUp ∧
    afterHangUp.ClosedWhole 1 := by
  obtain ⟨tr, hrun, hmap, hopen⟩ := exec_keptOpen 512 hangUp (accepted 512) afterHangUp
    rfl rfl rfl (by decide) rfl
  have hports : afterHangUp.mux.ports.Nodup := List.nodup_cons.mpr ⟨by simp, List.nodup_nil⟩
  refine ⟨tr, hrun, closing_keeps_data handshake_versionReply hrun hopen
    (tidy_of_nodup handshake_versionReply hrun hports) ?_⟩
  refine everyStep_of_actions hmap fun s a s' ha pkt c th payload hpkt haddr _ _ hne => ?_
  subst hpkt
  have hpkt : pkt = packetOf {} ⟨62078, 1, 0, 1, synAck, 512⟩ [] := by
    simpa [acceptance, hangUp] using ha
  have htcp := (Sys.addressee_eq_some.mp haddr).1
  rw [hpkt, tcpOf_packetOf] at htcp
  cases htcp
  exact absurd rfl hne

example : sentBytes (afterHangUp.acts 1) = [65, 66] := rfl

end Netmuxd
