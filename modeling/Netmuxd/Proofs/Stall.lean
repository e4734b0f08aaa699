/-
Nothing withheld is forgotten.

Bytes stay in `pending_tx` only while the device's window is full, a pump is held back
only while there are many of them, and a half-closed entry is kept only while there are
any.  So there is always something a later ACK will flush.  Every branch that changes one
of these flushes and checks the watermark again, and the one message that could come in
between, client data after the end of the stream, is never sent.
-/
import Netmuxd.Proofs.Stream

namespace Netmuxd

open Lib Relation

/-! ### Flags and permits in the log -/

/-- Acts that touch neither the pause flag nor the permits. -/
def Act.isThrottle : Act → Bool
  | .storePause _ | .notifyOne => true
  | _ => false

theorem throttle_log {acts : List Act} (hq : ∀ a ∈ acts, a.isThrottle = false) (h : List Act) :
    pauseFlag (h ++ acts) = pauseFlag h ∧ notifyCount (h ++ acts) = notifyCount h := by
  have hact : ∀ {a : Act}, a.isThrottle = false → a.pause? = none ∧ a.isNotify = false := by
    intro a ha
    cases a <;> first | exact ⟨rfl, rfl⟩ | cases ha
  constructor
  · have hnil : acts.filterMap Act.pause? = [] :=
      List.filterMap_eq_nil_iff.mpr fun a ha => (hact (hq a ha)).1
    rw [pauseFlag_append, hnil]
    rfl
  · have hzero : notifyCount acts = 0 :=
      List.countP_eq_zero.mpr fun a ha => by rw [(hact (hq a ha)).2]; exact Bool.false_ne_true
    rw [notifyCount_append, hzero, Nat.add_zero]

theorem Act.isThrottle_of_tcp? {a : Act} {r : ParsedTcp × Bytes} (h : a.tcp? = some r) :
    a.isThrottle = false := by
  obtain ⟨buf, rfl, -⟩ := Act.eq_frame_of_tcp? h
  rfl

theorem unthrottled_of_local {acts : List Act} (h : ∀ a ∈ acts, a.isLocal = true) :
    ∀ a ∈ acts, a.isThrottle = false := by
  intro a ha
  have hlocal := h a ha
  cases a <;> first | rfl | cases hlocal

/-- A pump waits without a permit only while the flag is set. -/
structure Waits (h : List Act) (t : Task) : Prop where
  permits : t.notified ≤ notifyCount h
  flagged : t.pump = .waiting → notifyCount h ≤ t.notified → pauseFlag h = true

theorem Waits.fresh (h : List Act) : Waits h {} :=
  ⟨Nat.zero_le _, fun hw => by cases hw⟩

theorem Waits.quiet {h acts : List Act} {t : Task} (hv : Waits h t)
    (hq : ∀ a ∈ acts, a.isThrottle = false) : Waits (h ++ acts) t := by
  obtain ⟨hflag, hcount⟩ := throttle_log hq h
  refine ⟨?_, ?_⟩
  · rw [hcount]
    exact hv.permits
  · rw [hcount, hflag]
    exact hv.flagged

theorem Waits.task {h : List Act} {gone : Prop} {t t' : Task} {msgs : List (Option Bytes)}
    {ns : List UInt32} (hv : Waits h t) (ht : TaskStep h gone t t' msgs ns) : Waits h t' := by
  have hidle : ∀ {u : Task}, u.notified = t.notified → (u.pump = .waiting → t.pump = .waiting) →
      Waits h u := by
    intro u hn hp
    exact ⟨hn ▸ hv.permits, fun hw hle => hv.flagged (hp hw) (hn ▸ hle)⟩
  cases ht with
  | look hp =>
      refine ⟨hv.permits, fun hw _ => ?_⟩
      by_contra hc
      simp only [hc, ↓reduceIte] at hw
      cases hw
  | wake => exact ⟨Nat.le_refl _, fun hw => by cases hw⟩
  | read => exact hidle rfl (fun hw => by cases hw)
  | eof => exact hidle rfl (fun hw => by cases hw)
  | @send msg hp =>
      refine hidle rfl (fun hw => ?_)
      by_cases hm : msg.isNone = true
      · simp only [hm, ↓reduceIte] at hw
        cases hw
      · simp only [hm, Bool.false_eq_true, ↓reduceIte] at hw
        cases hw
  | abandon => exact hidle rfl (fun hw => by cases hw)
  | _ => exact hidle rfl id

/-- For a listed connection, the flag is the one its entry thinks it is. -/
structure Gated (h : List Act) (t : Task) (c : Connection) : Prop extends Waits h t where
  flag : pauseFlag h = c.txPause

theorem Gated.quiet {h acts : List Act} {t : Task} {c c' : Connection} (hg : Gated h t c)
    (hq : ∀ a ∈ acts, a.isThrottle = false) (hp : c'.txPause = c.txPause) :
    Gated (h ++ acts) t c' := by
  refine ⟨hg.toWaits.quiet hq, ?_⟩
  rw [(throttle_log hq h).1, hp]
  exact hg.flag

theorem Gated.move {h acts : List Act} {t : Task} {c c' : Connection} (hg : Gated h t c)
    (hm : Move c acts c') : Gated (h ++ acts) t c' := by
  cases hm with
  | frame ha =>
      refine hg.quiet (fun a h => ?_) rfl
      rw [List.mem_singleton.mp h]
      exact Act.isThrottle_of_tcp? ha
  | data _ _ _ _ _ ha =>
      refine hg.quiet (fun a h => ?_) rfl
      rw [List.mem_singleton.mp h]
      exact Act.isThrottle_of_tcp? ha
  | failed k => exact hg.quiet (by simp [Act.isThrottle]) rfl
  | resume =>
      -- the permit outlives the flag
      have hcount : notifyCount [Act.storePause false, Act.notifyOne] = 1 := rfl
      have hpermits := hg.permits
      refine ⟨⟨?_, fun _ hle => ?_⟩, by rw [pauseFlag_append]; rfl⟩
      · rw [notifyCount_append, hcount]
        omega
      · rw [notifyCount_append, hcount] at hle
        omega
  | pause =>
      have hcount : notifyCount [Act.storePause true] = 0 := rfl
      have hset : pauseFlag (h ++ [Act.storePause true]) = true := by
        rw [pauseFlag_append]
        rfl
      refine ⟨⟨?_, fun _ _ => hset⟩, hset⟩
      rw [notifyCount_append, hcount]
      exact hg.permits

theorem Gated.moves {h acts : List Act} {t : Task} {c c' : Connection} (hg : Gated h t c)
    (hm : Moves c acts c') : Gated (h ++ acts) t c' :=
  hm.preserves (P := fun h c => Gated h t c) (fun _ _ _ _ hg hm => hg.move hm) hg

/-! ### An entry that does not stall -/

/-- What is known of a listed connection between two steps. -/
structure View.Flowing (v : View) (c : Connection) : Prop where
  flushed : c.Flushed
  resumed : c.Resumed
  closing : c.clientClosed = true → c.pendingTx ≠ []
  /-- The end of the client's stream has been taken. -/
  heard : c.clientClosed = true → none ∈ v.taken
  gated : Gated v.acts v.task c
  young : c.state ≠ .connected → c.pendingTx = [] ∧ c.txPause = false ∧ c.clientClosed = false

/-- An entry with nothing queued. -/
theorem Connection.idle {c : Connection}
    (h : c.pendingTx = [] ∧ c.txPause = false ∧ c.clientClosed = false) :
    c.Flushed ∧ c.Resumed ∧ (c.clientClosed = true → c.pendingTx ≠ []) := by
  obtain ⟨hnil, hpause, hopen⟩ := h
  refine ⟨Or.inl hnil, fun hp => ?_, fun hc => ?_⟩
  · rw [hpause] at hp
    cases hp
  · rw [hopen] at hc
    cases hc

theorem Moves.clientClosed {c c' : Connection} {acts : List Act} (h : Moves c acts c') :
    c'.clientClosed = c.clientClosed := by
  obtain ⟨p, q, b, rfl⟩ := h.fields
  rfl

theorem Intake.quiet {c d : Connection} {cev : ConnEvent} {first : List Act}
    (h : Intake c cev first d) :
    (∀ a ∈ first, a.isThrottle = false) ∧ d.txPause = c.txPause := by
  cases h with
  | deliver => exact ⟨by simp [Act.isThrottle], rfl⟩
  | _ => exact ⟨by simp, rfl⟩

/-- Client data is never taken after the end of the client's stream. -/
theorem View.Orderly.open {v u : View} {bytes : Bytes} (hv : v.Orderly)
    (h : v.Takes (.data bytes) u) : none ∉ v.taken := by
  intro hmem
  obtain ⟨rest, hq, -⟩ := View.Takes.of_message (b := some bytes) h
  refine hv.last ?_
  rw [hq, List.dropLast_append_of_ne_nil (by simp)]
  exact List.mem_append_left _ hmem

/-- **Every branch flushes again**: what a reaction of a connected entry leaves queued is
what the window holds back. -/
theorem Reacts.flows {c c' : Connection} {cev : ConnEvent} {acts : List Act}
    (hr : Reacts c cev acts (some c')) (hs : c.state = .connected) (hok : ¬ Failed acts)
    (hf : c.Flushed) (hres : c.Resumed) (hclosing : c.clientClosed = true → c.pendingTx ≠ [])
    (hopen : ∀ bytes, cev = .data bytes → c.clientClosed = false) :
    c'.Flushed ∧ c'.Resumed ∧ (c'.clientClosed = true → c'.pendingTx ≠ []) ∧
      (c'.clientClosed = true → c.clientClosed = true ∨ cev = .close) := by
  cases hr with
  | ignoredData hs' => exact absurd hs hs'
  | ignoredClose hs' => exact absurd hs hs'
  | data _ hm hf' hr' _ =>
      have hstill : c'.clientClosed = false := hm.clientClosed.trans (hopen _ rfl)
      refine ⟨hf', hr', fun hc => ?_, fun hc => ?_⟩
      · rw [hstill] at hc
        cases hc
      · rw [hstill] at hc
        cases hc
  | closeKept _ hm hf' hr' hne => exact ⟨hf', hr', fun _ => hne, fun _ => Or.inr rfl⟩
  | drained => exact ⟨hf, hres, hclosing, Or.inl⟩
  | drainedUpdate => exact ⟨hf, hres, hclosing, Or.inl⟩
  | accepted hs' => rw [hs] at hs'; cases hs'
  | acceptFailed hs' => rw [hs] at hs'; cases hs'
  | @acked th payload _ _ _ _ _ _ hm hf' hr' hopen' =>
      refine ⟨hf', hr', hopen', fun hc => Or.inl ?_⟩
      obtain ⟨t, b, heq⟩ := c.accept_fields th payload
      rw [hm.clientClosed, heq] at hc
      exact hc
  | ackedFailed _ _ _ _ hfail => exact absurd (failed_append.mpr (Or.inr hfail)) hok
  | unheard hs' => rw [hs] at hs'; cases hs'

theorem View.Flowing.reacts {v u : View} {c c' : Connection} {cev : ConnEvent} {acts : List Act}
    (hv : v.Flowing c) (horderly : v.Orderly) (ht : v.Takes cev u)
    (hr : Reacts c cev acts (some c')) (hs : c.state = .connected) (hok : ¬ Failed acts) :
    View.Flowing { u with acts := v.acts ++ acts, entry := some c' } c' := by
  have hopen : ∀ bytes, cev = .data bytes → c.clientClosed = false := by
    rintro bytes rfl
    by_contra hc
    exact horderly.open ht (hv.heard (by simpa using hc))
  obtain ⟨hf, hres, hclosing, hwhy⟩ := hr.flows hs hok hv.flushed hv.resumed hv.closing hopen
  have hs' : c'.state = .connected := by
    rcases hr.spawned with ⟨-, hs', -⟩ | ⟨-, hkeep⟩
    · rw [hs] at hs'
      cases hs'
    · exact (hkeep c' rfl).1.trans hs
  refine ⟨hf, hres, hclosing, fun hc => ?_, ?_, fun hne => absurd hs' hne⟩
  · rcases hwhy hc with hold | rfl
    · exact ht.taken_mono (hv.heard hold)
    · obtain ⟨rest, -, rfl⟩ := View.Takes.of_message (b := none) ht
      simp
  · obtain ⟨first, d, moves, c₁, last, hi, hm, he, rfl⟩ := hr.parts hs
    cases he
    rw [List.append_nil, ← List.append_assoc]
    have hg := (hv.gated.quiet hi.quiet.1 hi.quiet.2).moves hm
    rw [show u.task = v.task from ht.keeps.1]
    exact hg

theorem Opening.unthrottled {c c' : Connection} {cev : ConnEvent} {acts : List Act}
    (h : Opening c cev acts (some c')) : ∀ a ∈ acts, a.isThrottle = false := by
  cases h with
  | accepted _ ha htold =>
      intro b hb
      rcases List.mem_cons.mp hb with rfl | hb
      · exact Act.isThrottle_of_tcp? ha
      · exact unthrottled_of_local htold b hb
  | acceptFailed => simp [Act.isThrottle]
  | drained n => simp
  | ignored => simp

/-- A connecting entry has nothing queued, and none of its reactions queues anything. -/
theorem View.Flowing.opening {v u : View} {c c' : Connection} {cev : ConnEvent} {acts : List Act}
    (hv : v.Flowing c) (ht : v.Takes cev u) (ho : Opening c cev acts (some c'))
    (hs : c.state ≠ .connected) :
    View.Flowing { u with acts := v.acts ++ acts, entry := some c' } c' := by
  have hyoung := hv.young hs
  have hsame : c'.pendingTx = c.pendingTx ∧ c'.txPause = c.txPause ∧
      c'.clientClosed = c.clientClosed := by
    cases ho <;> exact ⟨rfl, rfl, rfl⟩
  have hidle : c'.pendingTx = [] ∧ c'.txPause = false ∧ c'.clientClosed = false := by
    rw [hsame.1, hsame.2.1, hsame.2.2]
    exact hyoung
  obtain ⟨hf, hres, hclosing⟩ := Connection.idle hidle
  refine ⟨hf, hres, hclosing, fun hc => ?_, ?_, fun _ => hidle⟩
  · rw [hidle.2.2] at hc
    cases hc
  · rw [show u.task = v.task from ht.keeps.1]
    exact hv.gated.quiet ho.unthrottled hsame.2.1

/-- The SYN of a connection leaves its flag and its permits alone. -/
theorem View.Plain.opened_gated {live : Prop} {i : Nat} {v : View} {dport : UInt16} {a : Act}
    (hplain : v.Plain live i) (hacts : v.acts = [])
    (ha : a.tcp? = some (headerOf (Connection.new i (sportAt (i - 1)) dport) TcpFlags.syn, [])) :
    Gated [a] v.task (Connection.new i (sportAt (i - 1)) dport) := by
  have htask := (hplain.orderly.unspawned (by rw [hacts]; rfl)).1
  have hnil : Gated [] v.task (Connection.new i (sportAt (i - 1)) dport) := by
    rw [htask]
    exact ⟨Waits.fresh [], rfl⟩
  show Gated ([] ++ [a]) v.task _
  refine hnil.quiet (fun b hb => ?_) rfl
  rw [List.mem_singleton.mp hb]
  exact Act.isThrottle_of_tcp? ha

/-- A new entry has nothing queued. -/
theorem View.Plain.opened_flowing {live : Prop} {i : Nat} {v u : View} {dport : UInt16} {a : Act}
    (hplain : v.Plain live i) (hacts : v.acts = [])
    (ha : a.tcp? = some (headerOf (Connection.new i (sportAt (i - 1)) dport) TcpFlags.syn, []))
    (hu : u.acts = [a]) (htask : u.task = v.task) :
    u.Flowing (Connection.new i (sportAt (i - 1)) dport) := by
  have hidle : (Connection.new i (sportAt (i - 1)) dport).pendingTx = [] ∧
      (Connection.new i (sportAt (i - 1)) dport).txPause = false ∧
      (Connection.new i (sportAt (i - 1)) dport).clientClosed = false := ⟨rfl, rfl, rfl⟩
  obtain ⟨hflushed, hresumed, hclosing⟩ := Connection.idle hidle
  refine ⟨hflushed, hresumed, hclosing, ?_, ?_, ?_⟩
  · intro hclosed
    cases hclosed
  · rw [hu, htask]
    exact hplain.opened_gated hacts ha
  · intro _
    exact hidle

theorem View.flowing_step {Q : View → ConnEvent → Prop} {i : Nat} {v v' : View}
    (hplain : v.Plain True i) (hv : ∀ c, v.entry = some c → v.Flowing c)
    (h : v.Step True Q i v') : ∀ c, v'.entry = some c → v'.Flowing c := by
  intro c' hc'
  cases h with
  | opened hacts _ ha =>
      cases hc'
      exact hplain.opened_flowing hacts ha rfl rfl
  | openFailed _ _ hlive => exact absurd trivial hlive
  | @reacts c cev u acts r hc _ ht hr hlive _ =>
      have hlife := hplain.life
      rw [hc] at hlife
      simp only at hc'
      subst hc'
      by_cases hs : c.state = .connected
      · exact (hv c hc).reacts hplain.orderly ht hr hs (hlive trivial)
      · exact (hv c hc).opening ht (hr.opening (hlife.connecting hs)) hs
  | late hc ht _ =>
      rw [ht.acts.2, hc] at hc'
      cases hc'
  | dropped => cases hc'
  | task _ ht =>
      obtain ⟨hflushed, hresumed, hclosing, hheard, hgated, hyoung⟩ := hv c' hc'
      exact ⟨hflushed, hresumed, hclosing, hheard, ⟨hgated.toWaits.task ht, hgated.flag⟩, hyoung⟩

/-- **No transmit stall.**  With a writer that lives on and no sport handed out twice,
between any two steps and for every listed entry: bytes are withheld only while the
device's window is full; a pump is held back only while at least `TX_LOW_WATER` bytes
are queued, and one that waits without being held back has a permit; and a client's close
is put off only while there are bytes to send. -/
theorem no_transmit_stall {reply : Bytes} {link : Link} {tr : List (Sys × Action × Sys)} {s : Sys}
    (hs : handshake none reply = .ok link) (h : Run Sys.Step (Sys.start link) tr s)
    (hports : s.mux.ports.Nodup) {p : UInt16} {c : Connection}
    (hc : s.mux.connections p = some c) :
    (c.pendingTx ≠ [] → c.rxWin ≤ c.txSeq - c.rxAck) ∧
      (c.txPause = true → txLowWater ≤ c.pendingTx.length) ∧
      ((s.tasks c.id).pump = .waiting → notifyCount (s.acts c.id) ≤ (s.tasks c.id).notified →
        c.txPause = true) ∧
      (c.clientClosed = true → c.pendingTx ≠ []) := by
  have htidy := tidy_of_nodup hs h hports
  obtain ⟨tr', hrun'⟩ := Sys.mux_run h
  have hok := (mux_lives hs hrun').ok
  have hlive : ((none : Option Nat) = none) = True := eq_true rfl
  have hinv := view_invariant hs h htidy (meets_anything tr) (hok.entry p c hc).2.1
    (P := fun v => ∀ c, v.entry = some c → v.Flowing c) (fun c hc => by cases hc)
    (by rw [hlive]; exact fun _ _ hplain hv hstep => View.flowing_step hplain hv hstep)
  have hflow := hinv.2 c (hok.entry_of hc)
  exact ⟨fun hne => hflow.flushed.resolve_left hne, hflow.resumed,
    fun hw hle => hflow.gated.flag ▸ hflow.gated.flagged hw hle, hflow.closing⟩

/-- The device offers a window of 0, so the client's two bytes stay queued. -/
def withheld : List Action :=
  [.connect 62078, .packet (packetOf {} ⟨62078, 1, 0, 1, synAck, 0⟩ []),
    .clientWrite 1 [65, 66], .clientShutdown 1, .pump 1, .pump 1, .pump 1, .takeData,
    .pump 1, .pump 1, .pump 1, .takeData]

def afterWithheld : Sys :=
  (exec Sys.next (Sys.start freshLink) withheld).getD (Sys.start freshLink)

theorem withheld_run : ∃ tr, Run Sys.Step (Sys.start freshLink) tr afterWithheld ∧
    tr.map (fun t => t.2.1) = withheld :=
  Sys.run_of_exec (by simp [withheld]) rfl

theorem withheld_no_stall : ∃ c, afterWithheld.mux.connections 1 = some c ∧
    (c.pendingTx ≠ [] → c.rxWin ≤ c.txSeq - c.rxAck) ∧
      (c.txPause = true → txLowWater ≤ c.pendingTx.length) ∧
      ((afterWithheld.tasks c.id).pump = .waiting →
        notifyCount (afterWithheld.acts c.id) ≤ (afterWithheld.tasks c.id).notified →
          c.txPause = true) ∧
      (c.clientClosed = true → c.pendingTx ≠ []) := by
  obtain ⟨tr, hrun, -⟩ := withheld_run
  obtain ⟨c, hc⟩ : ∃ c, afterWithheld.mux.connections 1 = some c := Option.isSome_iff_exists.mp rfl
  exact ⟨c, hc, no_transmit_stall handshake_versionReply hrun
    (show [(1 : UInt16)].Nodup from List.nodup_cons.mpr ⟨by simp, List.nodup_nil⟩) hc⟩

example : (afterWithheld.mux.connections 1).map (fun c => (c.pendingTx, c.clientClosed)) =
    some ([65, 66], true) := rfl

end Netmuxd
