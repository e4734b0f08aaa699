/-
The client's bytes on their way to the device.

What the pump hands to the loop is queued in `pending_tx` and leaves it in frames, from
three branches and in pieces the device's window decides on.  Two invariants follow a
connection through all of that: the bytes in its frames and those still queued are the
bytes handed over, and its sequence counter is one more than the bytes in its frames.
-/
import Netmuxd.Proofs.View

namespace Netmuxd

open Lib Relation

/-! ### Bytes in frames -/

/-- The payloads of the frames among these acts, one after the other. -/
def sentBytes (h : List Act) : Bytes :=
  (h.filterMap Act.tcp?).flatMap Prod.snd

@[simp] theorem sentBytes_append (h h' : List Act) :
    sentBytes (h ++ h') = sentBytes h ++ sentBytes h' := by
  simp [sentBytes]

theorem sentBytes_quiet {acts : List Act} (hq : ∀ a ∈ acts, a.tcp? = none) :
    sentBytes acts = [] := by
  have hnil : acts.filterMap Act.tcp? = [] := List.filterMap_eq_nil_iff.mpr hq
  rw [sentBytes, hnil, List.flatMap_nil]

theorem sentBytes_append_quiet (h : List Act) {acts : List Act}
    (hq : ∀ a ∈ acts, a.tcp? = none) : sentBytes (h ++ acts) = sentBytes h := by
  rw [sentBytes_append, sentBytes_quiet hq, List.append_nil]

theorem sentBytes_frame {a : Act} {th : ParsedTcp} {payload : Bytes}
    (ha : a.tcp? = some (th, payload)) : sentBytes [a] = payload := by
  simp [sentBytes, ha]

theorem Sent.bytes {c : Connection} {flags : UInt8} {a : Act} (h : Sent c flags a) :
    sentBytes [a] = [] := by
  rcases h with h | ⟨e, rfl⟩
  · exact sentBytes_frame h
  · rfl

/-- The bytes in a pump's messages, one after the other. -/
def handed (bodies : List (Option Bytes)) : Bytes :=
  bodies.flatMap fun body => body.getD []

@[simp] theorem handed_append (bodies bodies' : List (Option Bytes)) :
    handed (bodies ++ bodies') = handed bodies ++ handed bodies' := by
  simp [handed]

@[simp] theorem handed_singleton (body : Option Bytes) : handed [body] = body.getD [] := by
  simp [handed]

/-! ### Sequence numbers -/

/-- Every frame but the first is numbered one more than the payload bytes sent before it. -/
def Numbered (h : List Act) : Prop :=
  ∀ pre a post th payload, h = pre ++ a :: post → a.tcp? = some (th, payload) → pre ≠ [] →
    th.seq = 1 + UInt32.ofNat (sentBytes pre).length

theorem Numbered.single (a : Act) : Numbered [a] := by
  intro pre b post th payload heq _ hne
  cases pre with
  | nil => exact absurd rfl hne
  | cons x rest =>
      rw [List.cons_append, List.cons.injEq] at heq
      exact absurd heq.2.symm (by simp)

theorem Numbered.snoc {h : List Act} {a : Act} (hn : Numbered h)
    (ha : ∀ th payload, a.tcp? = some (th, payload) →
      th.seq = 1 + UInt32.ofNat (sentBytes h).length) : Numbered (h ++ [a]) := by
  intro pre b post th payload heq hb hne
  rcases List.eq_nil_or_concat post with rfl | ⟨post', z, rfl⟩
  · obtain ⟨rfl, hab⟩ := List.append_inj' heq rfl
    rw [List.cons.injEq] at hab
    exact ha th payload (hab.1 ▸ hb)
  · refine hn pre b post' th payload ?_ hb hne
    rw [List.concat_eq_append, ← List.cons_append, ← List.append_assoc] at heq
    exact (List.append_inj' heq rfl).1

theorem Numbered.quiet {h acts : List Act} (hn : Numbered h) (hq : ∀ a ∈ acts, a.tcp? = none) :
    Numbered (h ++ acts) := by
  induction acts generalizing h with
  | nil => rwa [List.append_nil]
  | cons a rest ih =>
      rw [← List.singleton_append, ← List.append_assoc]
      refine ih (hn.snoc fun th payload ha => ?_) (fun b hb => hq b (List.mem_cons_of_mem _ hb))
      rw [hq a List.mem_cons_self] at ha
      cases ha

/-- The sequence counter stands where the next byte goes. -/
structure Counted (h : List Act) (c : Connection) : Prop where
  numbered : Numbered h
  counter : c.txSeq = 1 + UInt32.ofNat (sentBytes h).length

/-- Acts without a frame, on an entry that counts as before. -/
theorem Counted.quiet {h acts : List Act} {c c' : Connection} (hc : Counted h c)
    (hq : ∀ a ∈ acts, a.tcp? = none) (hseq : c'.txSeq = c.txSeq) : Counted (h ++ acts) c' := by
  refine ⟨hc.numbered.quiet hq, ?_⟩
  rw [hseq, hc.counter, sentBytes_append_quiet h hq]

theorem Counted.sent {h : List Act} {c : Connection} {flags : UInt8} {a : Act} (hc : Counted h c)
    (ha : Sent c flags a) : Counted (h ++ [a]) c := by
  refine ⟨hc.numbered.snoc fun th payload hth => ?_, ?_⟩
  · rcases ha with ha | ⟨e, rfl⟩
    · rw [ha] at hth
      cases hth
      exact hc.counter
    · cases hth
  · rw [sentBytes_append, ha.bytes, List.append_nil]
    exact hc.counter

theorem Counted.move {h acts : List Act} {c c' : Connection} (hc : Counted h c)
    (hm : Move c acts c') : Counted (h ++ acts) c' := by
  cases hm with
  | frame ha => exact hc.sent (Or.inl ha)
  | @data k a _ hlen _ _ _ ha =>
      refine ⟨hc.numbered.snoc fun th payload hth => ?_, ?_⟩
      · rw [ha] at hth
        cases hth
        exact hc.counter
      · have hk : (c.pendingTx.take k).length = k := List.length_take_of_le hlen
        rw [sentBytes_append, sentBytes_frame ha, List.length_append, hk, UInt32.ofNat_add,
          ← UInt32.add_assoc, ← hc.counter]
  | failed k => exact hc.quiet (by simp [Act.tcp?]) rfl
  | resume => exact hc.quiet (by simp [Act.tcp?]) rfl
  | pause => exact hc.quiet (by simp [Act.tcp?]) rfl

theorem Counted.moves {h acts : List Act} {c c' : Connection} (hc : Counted h c)
    (hm : Moves c acts c') : Counted (h ++ acts) c' :=
  hm.preserves (P := Counted) (fun _ _ _ _ hc hm => hc.move hm) hc

theorem Counted.intake {h first : List Act} {c d : Connection} {cev : ConnEvent}
    (hc : Counted h c) (hi : Intake c cev first d) : Counted (h ++ first) d := by
  cases hi with
  | deliver => exact hc.quiet (by simp [Act.tcp?]) rfl
  | _ => exact hc.quiet (by simp) rfl

theorem Ending.numbered {h last : List Act} {c : Connection} {r : Option Connection}
    (he : Ending c last r) (hc : Counted h c) :
    Numbered (h ++ last) ∧ ∀ c', r = some c' → Counted (h ++ last) c' := by
  cases he with
  | stays =>
      rw [List.append_nil]
      refine ⟨hc.numbered, ?_⟩
      intro c' h
      cases h
      exact hc
  | goes =>
      refine ⟨hc.numbered.quiet c.tearActs_quiet, ?_⟩
      intro c' h
      cases h
  | resets ha =>
      rw [← List.singleton_append, ← List.append_assoc]
      refine ⟨(hc.sent ha).numbered.quiet c.tearActs_quiet, ?_⟩
      intro c' h
      cases h

/-- The entry of a connection that has just been opened. -/
structure Young (h : List Act) (c : Connection) : Prop where
  single : ∃ a, h = [a]
  nothing : sentBytes h = []
  counter : c.txSeq = 0

/-- What is known of the frames and the counter along a life. -/
structure Counting (h : List Act) (o : Option Connection) : Prop where
  young : ∀ c, o = some c → c.state = .connecting → ¬ Failed h → Young h c
  counted : ∀ c, o = some c → c.state = .connected → Counted h c
  numbered : spawnedAs h ≠ none → Numbered h

theorem Young.opening {h acts : List Act} {c c' : Connection} {cev : ConnEvent} (hy : Young h c)
    (ho : Opening c cev acts (some c')) (hs : c'.state = .connecting) (hok : ¬ Failed acts) :
    Young (h ++ acts) c' := by
  cases ho with
  | accepted => cases hs
  | acceptFailed => exact absurd ⟨_, List.mem_singleton.mpr rfl⟩ hok
  | drained n =>
      rw [List.append_nil]
      exact ⟨hy.single, hy.nothing, hy.counter⟩
  | ignored => rwa [List.append_nil]

/-- The first acknowledgement is numbered 1, and with it everything after. -/
theorem Young.accepted {h acts : List Act} {c c' : Connection} {cev : ConnEvent} (hy : Young h c)
    (ho : Opening c cev acts (some c')) (hs : c'.state = .connected) (hs' : c.state = .connecting) :
    Counted (h ++ acts) c' := by
  cases ho with
  | @accepted th _ _ a told _ ha htold =>
      obtain ⟨⟨b, rfl⟩, hnothing, hzero⟩ := hy
      have hcounter : (c.hear th).bump.txSeq = 1 := by
        show c.txSeq + 1 = 1
        rw [hzero]
        rfl
      have hcounted : Counted ([b] ++ [a]) (c.hear th).bump := by
        refine ⟨(Numbered.single b).snoc fun th' payload hth => ?_, ?_⟩
        · rw [ha] at hth
          cases hth
          rw [hnothing]
          exact hcounter
        · rw [sentBytes_append, hnothing, sentBytes_frame ha, hcounter]
          rfl
      rw [List.append_cons [b] a told]
      exact hcounted.quiet (quiet_of_local htold) rfl
  | acceptFailed => exact absurd (hs'.symm.trans hs) (by simp)
  | drained n => exact absurd (hs'.symm.trans hs) (by simp)
  | ignored => exact absurd (hs'.symm.trans hs) (by simp)

/-- An entry is accepted only as long as no send has failed. -/
theorem Opening.not_failed {h acts : List Act} {c c' : Connection} {cev : ConnEvent}
    (ho : Opening c cev acts (some c'))
    (hs : c'.state = .connected) (hs' : c.state = .connecting)
    (hdead : Failed h → ∀ a ∈ acts, a.tcp? = none) : ¬ Failed h := by
  intro hf
  cases ho with
  | accepted _ ha _ =>
      rw [hdead hf _ (by simp)] at ha
      cases ha
  | acceptFailed => exact absurd (hs'.symm.trans hs) (by simp)
  | drained n => exact absurd (hs'.symm.trans hs) (by simp)
  | ignored => exact absurd (hs'.symm.trans hs) (by simp)

/-- Without an entry, and without a pump ever, there is nothing to count. -/
theorem Counting.unspawned {h : List Act} (hnone : spawnedAs h = none) : Counting h none := by
  refine ⟨?_, ?_, ?_⟩
  · intro c hc
    cases hc
  · intro c hc
    cases hc
  · intro hne
    exact absurd hnone hne

/-- The SYN is out, and nothing else. -/
theorem Counting.opened {i : Nat} {dport : UInt16} {a : Act}
    (ha : a.tcp? = some (headerOf (Connection.new i (sportAt (i - 1)) dport) TcpFlags.syn, [])) :
    Counting [a] (some (Connection.new i (sportAt (i - 1)) dport)) := by
  refine ⟨?_, ?_, ?_⟩
  · intro c hc _ _
    cases hc
    exact ⟨⟨a, rfl⟩, sentBytes_frame ha, rfl⟩
  · intro c hc hs
    cases hc
    cases hs
  · intro hne
    exact absurd (Sent.log (Or.inl ha)).1 hne

/-- The loop is left, and the entry goes. -/
theorem Counting.dropped {h : List Act} {c : Connection} (hc : Counting h (some c)) :
    Counting (h ++ c.dropActs) none := by
  refine ⟨?_, ?_, ?_⟩
  · intro d hd
    cases hd
  · intro d hd
    cases hd
  · intro hne
    rw [spawnedAs_append, (dropActs_log c).1, Option.or_none] at hne
    exact (hc.numbered hne).quiet c.dropActs_quiet

/-- A connected entry goes on counting. -/
theorem Counting.connected {h acts : List Act} {c : Connection} {cev : ConnEvent}
    {r : Option Connection} (hc : Counting h (some c)) (hr : Reacts c cev acts r)
    (hs : c.state = .connected) : Counting (h ++ acts) r := by
  obtain ⟨first, d, moves, c', last, hi, hm, he, rfl⟩ := hr.parts hs
  obtain ⟨hnumbered, hcounted⟩ := he.numbered (((hc.counted c rfl hs).intake hi).moves hm)
  rw [← List.append_assoc, ← List.append_assoc]
  refine ⟨?_, ?_, ?_⟩
  · intro c'' hc'' hs''
    subst hc''
    cases he
    have hstate : c'.state = c.state := hm.state.1.trans hi.state
    rw [hstate, hs] at hs''
    cases hs''
  · intro c'' hc'' _
    exact hcounted c'' hc''
  · intro _
    exact hnumbered

/-- A connecting entry is accepted, or has still sent nothing but its SYN. -/
theorem Counting.connecting {h acts : List Act} {c : Connection} {cev : ConnEvent}
    {r : Option Connection} (hc : Counting h (some c)) (hr : Reacts c cev acts r)
    (hs : c.state = .connecting) (hold : spawnedAs h = none)
    (hdead : Failed h → ∀ a ∈ acts, a.tcp? = none) : Counting (h ++ acts) r := by
  have ho := hr.opening hs
  rcases hr.spawned with ⟨-, -, c', rfl, hs', -⟩ | ⟨hspawn, hkeep⟩
  · have hyoung := hc.young c rfl hs (ho.not_failed hs' hs hdead)
    have hcounted := hyoung.accepted ho hs' hs
    refine ⟨?_, ?_, ?_⟩
    · intro c'' hc'' hs''
      cases hc''
      rw [hs'] at hs''
      cases hs''
    · intro c'' hc'' _
      cases hc''
      exact hcounted
    · intro _
      exact hcounted.numbered
  · refine ⟨?_, ?_, ?_⟩
    · intro c' hc' hs' hok
      subst hc'
      rw [failed_append, not_or] at hok
      exact (hc.young c rfl hs hok.1).opening ho hs' hok.2
    · intro c' hc' hs'
      rw [(hkeep c' hc').1, hs] at hs'
      cases hs'
    · intro hne
      rw [spawnedAs_append, hold, hspawn] at hne
      exact absurd rfl hne

theorem Life.counting {live : Prop} {i : Nat} {h : List Act} {o : Option Connection}
    (hl : Life live i h o) : Counting h o := by
  induction hl with
  | unborn => exact .unspawned rfl
  | opened ha => exact .opened ha
  | openFailed => exact .unspawned rfl
  | dropped hl ih => exact ih.dropped
  | @reacts h acts c ev r hl hr _ hdead ih =>
      by_cases hs : c.state = .connected
      · exact ih.connected hr hs
      · have hold : spawnedAs h = none := by
          by_contra hne
          exact hs ((hl.linked.listed c rfl).2.1.mpr hne)
        exact ih.connecting hr (hl.connecting hs) hold hdead

/-! ### Bytes along a run -/

/-- The client's bytes an event brings. -/
def ConnEvent.bytes : ConnEvent → Bytes
  | .data bytes => bytes
  | _ => []

theorem Intake.bytes {c d : Connection} {cev : ConnEvent} {first : List Act}
    (h : Intake c cev first d) :
    sentBytes first = [] ∧ d.pendingTx = c.pendingTx ++ cev.bytes := by
  cases h with
  | data bytes => exact ⟨rfl, rfl⟩
  | deliver => exact ⟨rfl, (List.append_nil _).symm⟩
  | _ => exact ⟨rfl, (List.append_nil _).symm⟩

/-- Moves lose nothing and repeat nothing, as long as no send fails. -/
theorem Moves.bytes {d c' : Connection} {moves : List Act} (h : Moves d moves c')
    (hok : ¬ Failed moves) : sentBytes moves ++ c'.pendingTx = d.pendingTx := by
  refine h.output (P := fun hist c => ¬ Failed hist → sentBytes hist ++ c.pendingTx = d.pendingTx)
    (fun _ => rfl) ?_ hok
  intro hist c os c' ih hm hok
  rw [failed_append, not_or] at hok
  cases hm with
  | frame ha => rw [sentBytes_append, sentBytes_frame ha, List.append_nil]; exact ih hok.1
  | data _ _ _ _ _ ha =>
      rw [sentBytes_append, sentBytes_frame ha, List.append_assoc, List.take_append_drop]
      exact ih hok.1
  | failed k => exact absurd ⟨_, List.mem_singleton.mpr rfl⟩ hok.2
  | resume =>
      rw [sentBytes_append_quiet hist (by simp [Act.tcp?])]
      exact ih hok.1
  | pause =>
      rw [sentBytes_append_quiet hist (by simp [Act.tcp?])]
      exact ih hok.1

theorem Reacts.bytes {c c' : Connection} {cev : ConnEvent} {acts : List Act}
    (hr : Reacts c cev acts (some c')) (hs : c.state = .connected) (hok : ¬ Failed acts) :
    sentBytes acts ++ c'.pendingTx = c.pendingTx ++ cev.bytes := by
  obtain ⟨first, d, moves, c₁, last, hi, hm, he, rfl⟩ := hr.parts hs
  cases he
  rw [List.append_nil, failed_append, not_or] at hok
  rw [List.append_nil, sentBytes_append, hi.bytes.1, List.nil_append, hm.bytes hok.2, hi.bytes.2]

theorem Opening.bytes {c : Connection} {cev : ConnEvent} {acts : List Act} {r : Option Connection}
    (h : Opening c cev acts r) :
    sentBytes acts = [] ∧ ∀ c', r = some c' → c'.pendingTx = c.pendingTx := by
  constructor
  · cases h with
    | accepted _ ha htold =>
        rw [← List.singleton_append, sentBytes_append_quiet _ (quiet_of_local htold),
          sentBytes_frame ha]
    | acceptFailed => rfl
    | drained n => rfl
    | ignored => rfl
    | refused htold => exact sentBytes_quiet (quiet_of_local htold)
    | closing ha htold =>
        rw [← List.singleton_append, sentBytes_append_quiet _ (quiet_of_local htold), ha.bytes]
  · intro c' hr
    subst hr
    cases h <;> rfl

theorem View.Takes.handed {v u : View} {cev : ConnEvent} (h : v.Takes cev u) :
    Netmuxd.handed u.taken = Netmuxd.handed v.taken ++ cev.bytes := by
  cases h with
  | @message body rest hq =>
      rw [handed_append, handed_singleton]
      cases body <;> rfl
  | notice => exact (List.append_nil _).symm
  | packet => exact (List.append_nil _).symm
  | closing => exact (List.append_nil _).symm

/-- Nothing reaches a connection that has no pump yet. -/
theorem View.Plain.no_bytes {live : Prop} {i : Nat} {v u : View} {cev : ConnEvent} {c : Connection}
    (hv : v.Plain live i) (hc : v.entry = some c) (hs : c.state ≠ .connected)
    (h : v.Takes cev u) : cev.bytes = [] := by
  cases h with
  | message hq =>
      have hspawn : spawnedAs v.acts = none := by
        by_contra hne
        exact hs (((hv.life.linked.listed c hc).2.1).mpr hne)
      have hnil := (List.append_eq_nil_iff.mp (hv.orderly.unspawned hspawn).2.1).2
      rw [hq] at hnil
      cases hnil
  | _ => rfl

/-- The bytes in frames and those still queued are the bytes the pump has handed over. -/
def View.Streamed (v : View) : Prop :=
  ∀ c, v.entry = some c → ¬ Failed v.acts → sentBytes v.acts ++ c.pendingTx = handed v.taken

theorem View.Streamed.step {live : Prop} {Q : View → ConnEvent → Prop} {i : Nat} {v v' : View}
    (hplain : v.Plain live i) (hv : v.Streamed) (h : v.Step live Q i v') : v'.Streamed := by
  intro c' hc' hok
  cases h with
  | opened hacts _ ha =>
      cases hc'
      have hspawn : spawnedAs v.acts = none := by rw [hacts]; rfl
      have htaken := (List.append_eq_nil_iff.mp (hplain.orderly.unspawned hspawn).2.1).1
      show sentBytes [_] ++ [] = handed v.taken
      rw [sentBytes_frame ha, htaken]
      rfl
  | openFailed => exact absurd (failed_append.mpr (Or.inl ⟨_, List.mem_singleton.mpr rfl⟩)) hok
  | @reacts c cev u acts r hc _ ht hr =>
      have hlife := hplain.life
      rw [hc] at hlife
      simp only at hc'
      subst hc'
      rw [failed_append, not_or] at hok
      have hbytes : sentBytes acts ++ c'.pendingTx = c.pendingTx ++ cev.bytes := by
        by_cases hs : c.state = .connected
        · exact hr.bytes hs hok.2
        · have ho := (hr.opening (hlife.connecting hs)).bytes
          rw [ho.1, ho.2 c' rfl, hplain.no_bytes hc hs ht, List.append_nil, List.nil_append]
      show sentBytes (v.acts ++ acts) ++ c'.pendingTx = handed u.taken
      rw [sentBytes_append, List.append_assoc, hbytes, ← List.append_assoc, hv c hc hok.1,
        ht.handed]
  | late hc ht _ =>
      rw [ht.acts.2, hc] at hc'
      cases hc'
  | dropped => cases hc'
  | task => exact hv c' hc' hok

/-- **The client's stream arrives whole.**  In a run that hands out no sport twice: as long
as no send of a listed entry has failed, the payloads of its frames followed by
`pending_tx` are the bytes its pump has handed to the loop; and every frame of an accepted
connection but the SYN is numbered one more than the bytes sent before it. -/
theorem client_stream {left : Option Nat} {reply : Bytes} {link : Link}
    {tr : List (Sys × Action × Sys)} {s : Sys} (hs : handshake left reply = .ok link)
    (h : Run Sys.Step (Sys.start link) tr s) (hports : s.mux.ports.Nodup) :
    (∀ p c, s.mux.connections p = some c → ¬ Failed (s.acts c.id) →
      sentBytes (s.acts c.id) ++ c.pendingTx = handed (bodiesOf c.id s.taken)) ∧
    ∀ i, spawnedAs (s.acts i) ≠ none → Numbered (s.acts i) := by
  have htidy := tidy_of_nodup hs h hports
  obtain ⟨tr', hrun'⟩ := Sys.mux_run h
  have hlives := mux_lives hs hrun'
  have hsound := (sys_views hs h htidy (meets_anything tr)).1
  refine ⟨fun p c hc hok => ?_, fun i hi => ?_⟩
  · have hpos := (hlives.ok.entry p c hc).2.1
    have hstreamed := (view_invariant hs h htidy (meets_anything tr) hpos (P := View.Streamed)
      (fun c hc => by cases hc) (fun _ _ hplain hv hstep => hv.step hplain hstep)).2
    exact hstreamed c (hlives.ok.entry_of hc) hok
  · obtain ⟨q, hq⟩ := Option.ne_none_iff_exists'.mp hi
    exact (hlives.life i (hsound.spawned_sport hq).1).counting.numbered hi

/-- A client writes two bytes, and its pump brings them to the loop. -/
def chat : List Action :=
  [.connect 62078, .packet (packetOf {} ⟨62078, 1, 0, 1, synAck, 512⟩ []),
    .clientWrite 1 [65, 66], .pump 1, .pump 1, .pump 1, .takeData]

def afterChat : Sys :=
  (exec Sys.next (Sys.start freshLink) chat).getD (Sys.start freshLink)

theorem chat_run : ∃ tr, Run Sys.Step (Sys.start freshLink) tr afterChat ∧
    tr.map (fun t => t.2.1) = chat :=
  Sys.run_of_exec (by simp [chat]) rfl

/-- The two bytes are in a frame numbered 1, and nothing is left of them. -/
theorem chat_stream : ∃ tr, Run Sys.Step (Sys.start freshLink) tr afterChat ∧
    (∀ c, afterChat.mux.connections 1 = some c → ¬ Failed (afterChat.acts c.id) →
      sentBytes (afterChat.acts c.id) ++ c.pendingTx = handed (bodiesOf c.id afterChat.taken)) ∧
    Numbered (afterChat.acts 1) := by
  obtain ⟨tr, hrun, -⟩ := chat_run
  have h := client_stream handshake_versionReply hrun
    (show [(1 : UInt16)].Nodup from List.nodup_cons.mpr ⟨by simp, List.nodup_nil⟩)
  exact ⟨tr, hrun, h.1 1, h.2 1 (fun hn => by cases hn)⟩

example : sentBytes (afterChat.acts 1) = [65, 66] := rfl

end Netmuxd
