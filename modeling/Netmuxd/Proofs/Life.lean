/-
The loop as a product of connections.

`Life` is everything that can become of one Connect: what has been done for it so
far, and its entry if it still has one.  `mux_lives` says that a run of the loop,
looked at from any one connection, is such a life.  So a fact about a single
connection is proved by induction on its life, and neither the map nor the other
connections appear in the argument.
-/
import Netmuxd.Proofs.Change
import Netmuxd.Lib.Run

namespace Netmuxd

open Lib

/-! ### The handshake -/

/-- The link as the handshake leaves it. -/
structure Link.Fresh (l : Link) : Prop where
  version : l.state.version = 2
  ids : ∀ e ∈ l.out, e.id = 0
  fits : ∀ e ∈ l.out, e.act.Fits
  writes : ∀ e ∈ l.out, e.act.isWrite = true

theorem sendRaw_after {l : Link} (i : Nat) (proto : Proto) {header payload : Bytes}
    (resetSeq : Bool)
    (hsize : muxHeaderSize l.state.version + header.length + payload.length ≤ usbMtu) :
    ∃ a, a.isWrite = true ∧ l.After i [a] (sendRaw l i proto header payload resetSeq).2 := by
  have hafter : ∀ (s : MuxState) (buf : Bytes), s.version = l.state.version →
      buf.length ≤ muxHeaderSize l.state.version →
      ∃ a, a.isWrite = true ∧
        l.After i [a] (writeTx { l with state := s } i (buf ++ header ++ payload)).2 := by
    intro s buf hs hbuf
    have hlen : (buf ++ header ++ payload).length ≤ usbMtu := by
      rw [List.length_append, List.length_append]
      omega
    rcases writeTx_cases { l with state := s } i hlen with ⟨l', heq, h⟩ | ⟨e, l', heq, h⟩
    · exact ⟨_, rfl, by rw [heq]; exact h.of_state hs⟩
    · exact ⟨_, rfl, by rw [heq]; exact h.of_state hs⟩
  simp only [sendRaw, if_neg (Nat.not_lt.mpr hsize)]
  by_cases hv : 2 ≤ l.state.version
  · have hlt : ¬ l.state.version < 2 := UInt8.not_lt.mpr hv
    simp only [if_pos hv]
    refine hafter _ _ ?_ ?_
    · split <;> rfl
    · simp [muxHeaderSize, hlt, v2HeaderSize]
  · simp only [if_neg hv]
    refine hafter _ _ ?_ ?_
    · split <;> rfl
    · simpa using v1HeaderSize_le l.state.version

theorem handshake_fresh {left : Option Nat} {pkt : Bytes} {link : Link}
    (h : handshake left pkt = .ok link) : link.Fresh ∧ (left = none → link.writeLeft = none) := by
  have hsmall : (12 : Nat) ≤ usbMtu ∧ (20 : Nat) ≤ usbMtu := by
    simp [usbMtu]
  have hversion : muxHeaderSize (Link.state { writeLeft := left }).version +
      (toBe32 2 ++ toBe32 0 ++ toBe32 0).length + ([] : Bytes).length ≤ usbMtu := hsmall.2
  obtain ⟨a, ha, hfirst⟩ := sendRaw_after 0 .version false hversion
  simp only [handshake, sendVersion] at h
  generalize sendRaw { writeLeft := left } 0 .version (toBe32 2 ++ toBe32 0 ++ toBe32 0) [] false
    = first at h hfirst
  obtain ⟨r, l⟩ := first
  cases r with
  | error e => simp at h
  | ok u =>
      simp only at h hfirst
      split at h
      · cases h
      split at h
      · cases h
      split at h
      · cases h
      split at h
      · cases h
      have hsetup :
          muxHeaderSize (Link.state { l with state := { l.state with version := 2 } }).version
            + ([] : Bytes).length + ([0x07] : Bytes).length ≤ usbMtu := by
        simp [muxHeaderSize, v2HeaderSize, usbMtu]
      obtain ⟨b, hb, hsecond⟩ := sendRaw_after 0 .setup true hsetup
      generalize sendRaw { l with state := { l.state with version := 2 } } 0 .setup [] [0x07] true
        = second at h hsecond
      obtain ⟨r', l'⟩ := second
      cases r' with
      | error e => cases h
      | ok u' =>
          cases h
          have hout : ∀ e ∈ link.out, e = ⟨0, a⟩ ∨ e = ⟨0, b⟩ := by
            intro e he
            rw [hsecond.out] at he
            simpa [hfirst.out] using he
          refine ⟨⟨hsecond.version, ?_, ?_, ?_⟩, ?_⟩
          · intro e he
            rcases hout e he with rfl | rfl <;> rfl
          · intro e he
            rcases hout e he with rfl | rfl
            · exact hfirst.fits a (List.mem_singleton.mpr rfl)
            · exact hsecond.fits b (List.mem_singleton.mpr rfl)
          · intro e he
            rcases hout e he with rfl | rfl
            · exact ha
            · exact hb
          · intro hleft
            exact (hsecond.live (hfirst.live hleft).1).1

/-- A device's answer to the VERSION frame: version 2.0. -/
def versionReply : Bytes :=
  toBe32 Proto.version.toU32 ++ toBe32 20 ++ toBe32 2 ++ toBe32 0 ++ toBe32 0

/-- The link after a handshake with that answer, for a writer that lives on. -/
def freshLink : Link :=
  { state := { version := 2, txSeq := 1, rxSeq := 0xFFFF }
    writeLeft := none
    out :=
      [⟨0, .frame (toBe32 Proto.version.toU32 ++ toBe32 20 ++ toBe32 2 ++ toBe32 0 ++ toBe32 0)⟩,
        ⟨0, .frame (toBe32 Proto.setup.toU32 ++ toBe32 17 ++ toBe32 muxMagic ++ toBe16 0 ++
          toBe16 0xFFFF ++ [0x07])⟩] }

theorem handshake_versionReply : handshake none versionReply = .ok freshLink := rfl

theorem Mux.Ok.start {link : Link} (h : link.Fresh) : (Mux.start link).Ok where
  version := h.version
  nextSport := rfl
  ports := by intro k p hk; cases hk
  entry := by intro p c hc; cases hc
  ids := by intro e he; rw [h.ids e he]; exact Nat.zero_le _

/-! ### One connection's entry -/

/-- The entry of connection `i`, if it is listed. -/
def Mux.entry (m : Mux) (i : Nat) : Option Connection :=
  match m.ports[i - 1]? with
  | none => none
  | some p => (m.connections p).filter fun c => c.id = i

theorem Mux.entry_eq {m : Mux} {i : Nat} {p : UInt16} (h : m.ports[i - 1]? = some p) :
    m.entry i = (m.connections p).filter fun c => c.id = i := by
  rw [Mux.entry, h]

theorem Mux.Ok.entry_of {m : Mux} (hok : m.Ok) {p : UInt16} {c : Connection}
    (hc : m.connections p = some c) : m.entry c.id = some c := by
  rw [m.entry_eq (hok.entry p c hc).2.2, hc]
  simp

theorem Mux.Ok.of_entry {m : Mux} (hok : m.Ok) {i : Nat} {c : Connection}
    (h : m.entry i = some c) : m.connections c.sport = some c ∧ c.id = i := by
  unfold Mux.entry at h
  split at h
  · cases h
  · rename_i p hp
    obtain ⟨hc, hid⟩ := Option.filter_eq_some_iff.mp h
    rw [(hok.entry p c hc).1]
    exact ⟨hc, by simpa using hid⟩

/-- An entry is looked up in the same place as long as the map and its sport stay. -/
theorem Mux.entry_congr {m m' : Mux} {i : Nat} (hports : m'.ports[i - 1]? = m.ports[i - 1]?)
    (hconn : ∀ p, m.ports[i - 1]? = some p → m'.connections p = m.connections p) :
    m'.entry i = m.entry i := by
  rw [Mux.entry, Mux.entry, hports]
  split
  · rfl
  · rename_i p hp
    rw [hconn p hp]

/-- An entry other than the one a reaction is about. -/
theorem Mux.entry_other {m m' : Mux} {i : Nat} {p : UInt16} {r : Option Connection}
    (hports : m'.ports[i - 1]? = m.ports[i - 1]?)
    (hconn : m'.connections = Function.update m.connections p r)
    (hold : ∀ c, m.connections p = some c → c.id ≠ i) (hnew : ∀ c, r = some c → c.id ≠ i) :
    m'.entry i = m.entry i := by
  rw [Mux.entry, Mux.entry, hports]
  split
  · rfl
  · rename_i q hq
    rw [hconn, Function.update_apply]
    split
    · rename_i hqp
      have hnone : ∀ {o : Option Connection}, (∀ c, o = some c → c.id ≠ i) →
          (o.filter fun c => decide (c.id = i)) = none := by
        intro o ho
        cases o with
        | none => rfl
        | some c => simp [ho c rfl]
      rw [hqp, hnone hnew, hnone hold]
    · rfl

/-! ### One connection's share of a step -/

/-- What a step of the loop comes to for connection `i`. -/
inductive Share (m : Mux) (ev : Event) (i : Nat) (m' : Mux) : Prop
  | untouched (hacts : actsOf i m'.link.out = actsOf i m.link.out) (hentry : m'.entry i = m.entry i)
      (hidle : ∀ c, m.entry i = some c → ev.target m ≠ some c.sport)
  | opened {port : UInt16} {a : Act} (hev : ev = .connect port) (hnew : i = m.ports.length + 1)
      (ha : a.tcp? = some (headerOf (Connection.new i (sportAt (i - 1)) port) TcpFlags.syn, []))
      (hacts : actsOf i m'.link.out = [a])
      (hentry : m'.entry i = some (Connection.new i (sportAt (i - 1)) port))
  | openFailed {port : UInt16} {e : IoError} (hev : ev = .connect port)
      (hnew : i = m.ports.length + 1) (hlive : m.link.writeLeft ≠ none)
      (hdead : m'.link.writeLeft = some 0)
      (hacts : actsOf i m'.link.out = [.sendFailed e, .reply (.error e)])
      (hentry : m'.entry i = none)
  | reacts {c : Connection} {cev : ConnEvent} {acts : List Act} {r : Option Connection}
      (hc : m.entry i = some c) (htarget : ev.target m = some c.sport)
      (hcev : ev.forConn i = some cev) (hr : Reacts c cev acts r)
      (hlink : m.link.After i acts m'.link) (hentry : m'.entry i = r)
  /-- A later Connect is given the same sport. -/
  | dropped {port : UInt16} {c : Connection} (hev : ev = .connect port) (hc : m.entry i = some c)
      (hsport : c.sport = m.nextSport)
      (hacts : actsOf i m'.link.out = actsOf i m.link.out ++ c.dropActs)
      (hentry : m'.entry i = none)

/-- Nothing is listed for a connection still to come. -/
theorem Mux.entry_new {m : Mux} {i : Nat} (hi : m.ports.length < i) : m.entry i = none := by
  rw [Mux.entry, List.getElem?_eq_none (by omega)]

/-- Handing out another sport concerns its own connection only. -/
theorem getElem?_snoc {ports : List UInt16} {q : UInt16} {i : Nat} (hi : 0 < i)
    (hne : i ≠ ports.length + 1) : (ports ++ [q])[i - 1]? = ports[i - 1]? := by
  rcases Nat.lt_or_ge (i - 1) ports.length with hlt | hge
  · rw [List.getElem?_append_left hlt]
  · rw [List.getElem?_eq_none hge, List.getElem?_eq_none (by simp; omega)]

/-- What replacing an entry does, as far as the other connections can tell. -/
theorem Mux.Replaced.acts_ne {m : Mux} {p : UInt16} {l l' : Link} {i : Nat}
    (h : m.Replaced p l l') (hi : ∀ old, m.connections p = some old → old.id ≠ i) :
    actsOf i l'.out = actsOf i l.out := by
  unfold Mux.Replaced at h
  split at h
  · rw [h]
  · rename_i old hc
    exact Link.After.acts_ne h (hi old hc)

theorem Mux.Ok.share_opened {m m' : Mux} {port : UInt16} {a : Act} {l : Link} {i : Nat}
    (hok : m.Ok) (hok' : m'.Ok) (hi : 0 < i)
    (ha : a.tcp? = some (headerOf (m.newConn port) TcpFlags.syn, []))
    (hconn : m'.connections = Function.update m.connections m.nextSport (some (m.newConn port)))
    (hlink : m.link.After (m.ports.length + 1) [a] l) (hold : m.Replaced m.nextSport l m'.link)
    (hp : m'.ports = m.ports ++ [m.nextSport]) : Share m (.connect port) i m' := by
  by_cases hnew : i = m.ports.length + 1
  · -- the connection this step opens
    have hsport : m.nextSport = sportAt (i - 1) := by
      rw [hok.nextSport, hnew, Nat.add_sub_cancel]
    have hconn' : m.newConn port = Connection.new i (sportAt (i - 1)) port := by
      rw [Mux.newConn, ← hnew, hsport]
    refine Share.opened rfl hnew (hconn' ▸ ha) ?_ ?_
    · rw [hold.acts_ne ?_, hnew, hlink.acts_self, hok.acts_nil (Nat.lt_succ_self _),
        List.nil_append]
      intro old hc
      have := hok.id_le hc
      omega
    · have hget : m'.connections m.nextSport = some (m.newConn port) := by
        rw [hconn, Function.update_self]
      have hid : (m.newConn port).id = i := hnew.symm
      rw [← hconn', ← hok'.entry_of hget, hid]
  by_cases hdrop : ∃ old, m.connections m.nextSport = some old ∧ old.id = i
  · -- the connection whose entry it replaces
    obtain ⟨old, hc, hid⟩ := hdrop
    simp only [Mux.Replaced, hc] at hold
    refine Share.dropped rfl (hid ▸ hok.entry_of hc) (hok.entry _ _ hc).1 ?_ ?_
    · rw [← hid, hold.acts_self, hlink.acts_ne (by omega)]
    · have hport := (hok.entry _ _ hc).2.2
      rw [hid] at hport
      have hne : ¬ (m.newConn port).id = i := fun h => hnew h.symm
      rw [m'.entry_eq (by rw [hp, getElem?_snoc hi hnew]; exact hport), hconn,
        Function.update_self]
      simp [hne]
  · refine Share.untouched ?_ ?_ (by simp [Event.target])
    · rw [hold.acts_ne (fun old hc hid => hdrop ⟨old, hc, hid⟩),
        hlink.acts_ne (fun h => hnew h.symm)]
    · refine m.entry_other (by rw [hp, getElem?_snoc hi hnew]) hconn
        (fun c hc hid => hdrop ⟨c, hc, hid⟩) (fun c hc hid => hnew ?_)
      cases hc
      exact hid.symm

theorem Mux.Ok.share_openFailed {m m' : Mux} {port : UInt16} {e : IoError} {i : Nat}
    (hok : m.Ok) (hi : 0 < i) (hconn : m'.connections = m.connections)
    (hlink : m.link.After (m.ports.length + 1) [.sendFailed e, .reply (.error e)] m'.link)
    (hp : m'.ports = m.ports ++ [m.nextSport]) : Share m (.connect port) i m' := by
  by_cases hnew : i = m.ports.length + 1
  · refine Share.openFailed (e := e) rfl hnew (fun hl => (hlink.live hl).2 ⟨e, by simp⟩)
      (hlink.fails ⟨e, by simp⟩) ?_ ?_
    · rw [hnew, hlink.acts_self, hok.acts_nil (Nat.lt_succ_self _), List.nil_append]
    · have hport : m'.ports[i - 1]? = some m.nextSport := by rw [hp, hnew]; simp
      rw [m'.entry_eq hport, hconn]
      cases hc : m.connections m.nextSport with
      | none => rfl
      | some d =>
          have := hok.id_le hc
          have hne : ¬ d.id = i := by omega
          simp [hne]
  · refine Share.untouched (hlink.acts_ne (fun h => hnew h.symm)) ?_ (by simp [Event.target])
    exact m.entry_congr (by rw [hp, getElem?_snoc hi hnew]) (fun _ _ => by rw [hconn])

/-- **Every connection's share of a step.** -/
theorem Mux.Ok.share {m m' : Mux} {ev : Event} (hok : m.Ok) (h : m.Step ev m') {i : Nat}
    (hi : 0 < i) : Share m ev i m' := by
  rcases h.change hok.version with
    ⟨hev, -, hidle, hconn, hlink, hp, hnext⟩ | ⟨rfl, ha, hconn, hlink, hold, hp, hnext⟩ |
      ⟨rfl, hconn, hlink, hp, hnext⟩ | ⟨hc, htarget, hcev, hr, hout⟩
  · refine Share.untouched (hlink.acts_ne (by omega))
      (m.entry_congr (by rw [hp]) (fun _ _ => by rw [hconn])) ?_
    intro c hentry htarget
    have hnone := hidle _ htarget
    rw [(hok.of_entry hentry).1] at hnone
    cases hnone
  · exact hok.share_opened (hok.step h) hi ha hconn hlink hold hp
  · exact hok.share_openFailed hi hconn hlink hp
  · rename_i p c cev acts r
    by_cases hid : c.id = i
    · subst hid
      refine Share.reacts (hok.entry_of hc) ((hok.entry p c hc).1 ▸ htarget) hcev hr hout.link ?_
      rw [m'.entry_eq (by rw [hout.ports]; exact (hok.entry p c hc).2.2), hout.connections,
        Function.update_self]
      cases r with
      | none => rfl
      | some c' => simp [hr.same.1]
    · refine Share.untouched (hout.link.acts_ne hid) ?_ ?_
      · refine m.entry_other (by rw [hout.ports]) hout.connections ?_ ?_
        · intro d hd
          rw [hc] at hd
          cases hd
          exact hid
        · intro d hd
          subst hd
          rw [hr.same.1]
          exact hid
      · intro d hd htarget'
        rw [htarget] at htarget'
        obtain ⟨hd, hdid⟩ := hok.of_entry hd
        rw [← Option.some.inj htarget', hc] at hd
        cases hd
        exact hid hdid

/-- What holds of the link across a step, whoever it was for. -/
structure Link.Kept (l l' : Link) : Prop where
  live : l.writeLeft = none → l'.writeLeft = none
  dead : l.writeLeft = some 0 → l'.writeLeft = some 0
  fits : (∀ e ∈ l.out, e.act.Fits) → ∀ e ∈ l'.out, e.act.Fits
  grows : ∀ i, actsOf i l.out <+: actsOf i l'.out

theorem Link.After.kept {l l' : Link} {i : Nat} {acts : List Act} (h : l.After i acts l') :
    l.Kept l' where
  live := fun hl => (h.live hl).1
  dead := fun hl => (h.dead hl).1
  fits := by
    intro hold e he
    rw [h.out] at he
    rcases List.mem_append.mp he with he | he
    · exact hold e he
    · obtain ⟨a, ha, rfl⟩ := List.mem_map.mp he
      exact h.fits a ha
  grows := by
    intro j
    rw [h.out, actsOf_append]
    exact List.prefix_append _ _

theorem Mux.Step.kept {m m' : Mux} {ev : Event} (hok : m.Ok) (h : m.Step ev m') :
    m.link.Kept m'.link := by
  rcases h.change hok.version with
    ⟨hev, -, hidle, hconn, hlink, hp, hnext⟩ | ⟨hev, ha, hconn, hlink, hold, hp, hnext⟩ |
      ⟨hev, hconn, hlink, hp, hnext⟩ | ⟨hc, htarget, hcev, hr, hout⟩
  · exact hlink.kept
  · obtain ⟨j, acts, hold, -⟩ := hold.after
    exact ⟨fun hl => hold.kept.live (hlink.kept.live hl),
      fun hl => hold.kept.dead (hlink.kept.dead hl), fun hf => hold.kept.fits (hlink.kept.fits hf),
      fun i => (hlink.kept.grows i).trans (hold.kept.grows i)⟩
  · exact hlink.kept
  · exact hout.link.kept

/-! ### Lives -/

/--
What can become of Connect number `i`: the acts done for it, and its entry.  When
`live` holds the writer outlives the run and no send fails; in any case a frame is
queued only as long as no send has failed.
-/
inductive Life (live : Prop) (i : Nat) : List Act → Option Connection → Prop
  | unborn : Life live i [] none
  | opened {dport : UInt16} {a : Act}
      (ha : a.tcp? = some (headerOf (Connection.new i (sportAt (i - 1)) dport) TcpFlags.syn, [])) :
      Life live i [a] (some (Connection.new i (sportAt (i - 1)) dport))
  | openFailed {e : IoError} (hlive : ¬ live) :
      Life live i [.sendFailed e, .reply (.error e)] none
  | reacts {h acts : List Act} {c : Connection} {ev : ConnEvent} {r : Option Connection}
      (hl : Life live i h (some c)) (hr : Reacts c ev acts r) (hlive : live → ¬ Failed acts)
      (hdead : Failed h → ∀ a ∈ acts, a.tcp? = none) : Life live i (h ++ acts) r
  /-- A later Connect was given the same sport. -/
  | dropped {h : List Act} {c : Connection} (hl : Life live i h (some c)) :
      Life live i (h ++ c.dropActs) none

/-- Every connection of the loop leads a life. -/
structure Mux.Lives (live : Prop) (m : Mux) : Prop where
  ok : m.Ok
  writer : live → m.link.writeLeft = none
  fits : ∀ e ∈ m.link.out, e.act.Fits
  /-- A send fails only once the writer is gone. -/
  failed : ∀ i, 0 < i → Failed (actsOf i m.link.out) → m.link.writeLeft = some 0
  life : ∀ i, 0 < i → Life live i (actsOf i m.link.out) (m.entry i)

theorem Link.Fresh.acts_nil {link : Link} (h : link.Fresh) {i : Nat} (hi : 0 < i) :
    actsOf i link.out = [] := by
  rw [actsOf, List.filterMap_eq_nil_iff]
  intro e he
  rw [if_neg]
  rw [h.ids e he]
  omega

theorem Mux.Lives.start {live : Prop} {link : Link} (h : link.Fresh)
    (hw : live → link.writeLeft = none) : (Mux.start link).Lives live where
  ok := Mux.Ok.start h
  writer := hw
  fits := h.fits
  failed := by
    intro i hi hf
    rw [show (Mux.start link).link = link from rfl, h.acts_nil hi] at hf
    exact absurd hf not_failed_nil
  life := by
    intro i hi
    rw [show (Mux.start link).link = link from rfl, h.acts_nil hi]
    exact Life.unborn

/-- A failed send among a connection's acts, traced to the step it was made in. -/
theorem Share.failed {m m' : Mux} {ev : Event} {i : Nat} (hok : m.Ok) (h : m.Step ev m')
    (hs : Share m ev i m') (hold : Failed (actsOf i m.link.out) → m.link.writeLeft = some 0)
    (hf : Failed (actsOf i m'.link.out)) : m'.link.writeLeft = some 0 := by
  have hkeep := (h.kept hok).dead
  cases hs with
  | untouched hacts _ _ => exact hkeep (hold (hacts ▸ hf))
  | opened _ _ ha hacts _ =>
      rw [hacts] at hf
      obtain ⟨e, he⟩ := hf
      rw [← List.mem_singleton.mp he] at ha
      cases ha
  | openFailed _ _ _ hdead _ _ => exact hdead
  | reacts hc htarget hcev hr hlink hentry =>
      rw [hlink.acts_self, failed_append] at hf
      rcases hf with hf | hf
      · exact hkeep (hold hf)
      · exact hlink.fails hf
  | dropped _ _ _ hacts _ =>
      rw [hacts, failed_append] at hf
      exact hkeep (hold (hf.resolve_right (Connection.not_failed_dropActs _)))

theorem Mux.Lives.step {live : Prop} {m m' : Mux} {ev : Event} (hm : m.Lives live)
    (h : m.Step ev m') : m'.Lives live := by
  refine ⟨hm.ok.step h, fun hl => (h.kept hm.ok).live (hm.writer hl), (h.kept hm.ok).fits hm.fits,
    ?_, ?_⟩
  · intro i hi
    exact (hm.ok.share h hi).failed hm.ok h (hm.failed i hi)
  · intro i hi
    have hlife := hm.life i hi
    rcases hm.ok.share h hi with ⟨hacts, hentry, -⟩ | ⟨-, -, ha, hacts, hentry⟩ |
      ⟨-, -, hlive, -, hacts, hentry⟩ | ⟨hc, -, -, hr, hlink, hentry⟩ | ⟨-, hc, -, hacts, hentry⟩
    · rw [hacts, hentry]
      exact hlife
    · rw [hacts, hentry]
      exact Life.opened ha
    · rw [hacts, hentry]
      exact Life.openFailed fun hl => hlive (hm.writer hl)
    · rw [hlink.acts_self, hentry]
      rw [hc] at hlife
      exact Life.reacts hlife hr (fun hl => (hlink.live (hm.writer hl)).2)
        (fun hf => (hlink.dead (hm.failed i hi hf)).2)
    · rw [hacts, hentry]
      rw [hc] at hlife
      exact Life.dropped hlife

/-- **The loop is a product of connections.**  After any run from a handshake, what has
been done for a connection and what its entry holds is one of its lives. -/
theorem mux_lives {left : Option Nat} {reply : Bytes} {link : Link}
    {tr : List (Mux × Event × Mux)} {m : Mux} (hs : handshake left reply = .ok link)
    (h : Run Mux.Step (Mux.start link) tr m) : m.Lives (left = none) := by
  obtain ⟨hfresh, hwriter⟩ := handshake_fresh hs
  exact h.invariant (Mux.Lives.start hfresh hwriter) (fun _ _ _ hm hstep => hm.step hstep)

/-- A run that is computed; only leaving the loop has a condition of its own. -/
theorem Mux.run_of_exec {m m' : Mux} {evs : List Event} (hstop : ∀ order, Event.stop order ∉ evs)
    (h : exec Mux.next m evs = some m') :
    ∃ tr, Run Mux.Step m tr m' ∧ tr.map (fun t => t.2.1) = evs := by
  refine Run.of_exec (fun s ev s' hev hnext => ⟨hnext, ?_⟩) h
  cases ev with
  | stop order => exact absurd hev (hstop order)
  | _ => trivial

/-- A device accepts the first connection and sends it three bytes. -/
def greeting : List Event :=
  [.connect 62078, .packet (packetOf {} ⟨62078, 1, 0, 1, synAck, 512⟩ []) fun _ => true,
    .packet (packetOf {} ⟨62078, 1, 1, 1, TcpFlags.ack, 512⟩ [1, 2, 3]) fun _ => true]

def greeted : Mux :=
  (exec Mux.next (Mux.start freshLink) greeting).getD (Mux.start freshLink)

theorem greeted_run :
    ∃ tr, Run Mux.Step (Mux.start freshLink) tr greeted ∧ tr.map (fun t => t.2.1) = greeting :=
  Mux.run_of_exec (by simp [greeting]) rfl

/-- The life of a listed connection. -/
theorem Mux.Lives.listed {live : Prop} {m : Mux} (hm : m.Lives live) {p : UInt16} {c : Connection}
    (hc : m.connections p = some c) : Life live c.id (actsOf c.id m.link.out) (some c) := by
  rw [← hm.ok.entry_of hc]
  exact hm.life c.id (hm.ok.entry p c hc).2.1

end Netmuxd
