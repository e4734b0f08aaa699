/-
Hotplug bookkeeping and the manager agree.

A connection is known by a UDID from the moment `connect_device` has decided on one until
the removal has been sent (`Names`), whichever party holds the UDID meanwhile.  What the
manager's table will be once everything sent has been served (`settled`) follows the
names, provided that no other connection goes by a UDID that is being registered, that a
pairing task still finds its key when it is done, and that a removal does not overtake
the registration of its own connection.
-/
import Netmuxd.Proofs.UsbTable

namespace Netmuxd

open Lib

/-! ### Who goes by which UDID -/

/-- The connection is known by this UDID, to `known` or to the party that has just looked. -/
inductive Hotplug.Names (s : Hotplug) (k : Nat) (udid : String) : Prop
  | known (h : s.known k = some udid)
  | recording (h : s.loop = .recording k udid)
  | leaving (h : s.loop = .removing k udid)
  | watched (h : (s.plug k).watcher = .removing udid)

/-- The connection is known by this UDID, or is about to be registered under it. -/
def Hotplug.GoesBy (s : Hotplug) (k : Nat) (udid : String) : Prop :=
  s.Names k udid ∨ (s.plug k).pairing = .registering udid

/-- No other connection goes by this UDID. -/
def Hotplug.Alone (s : Hotplug) (k : Nat) (udid : String) : Prop :=
  ∀ j, j ≠ k → ¬ s.GoesBy j udid

/-- The table once the manager has been served all that was sent to it. -/
def Hotplug.settled (s : Hotplug) : String → Option UsbMuxHandle :=
  replay ((s.served ++ s.queue).map UsbMessage.edit)

/-- The connection may have its removal sent: it is not being registered, and no other is
registered under its UDID. -/
def Hotplug.Leaves (s : Hotplug) (k : Nat) (udid : String) : Prop :=
  (∀ v, (s.plug k).pairing ≠ .registering v) ∧ ∀ j, s.settled udid = some j → j = k

/-- A step that does not entangle two connections, or a connection with itself. -/
def Untangled (s : Hotplug) : HotplugStep → Hotplug → Prop
  | .paired udid, _ => ∀ k, s.loop = .connecting k → s.Alone k udid
  | .pairs k udid, _ => (s.known k).isSome = true ∨ s.loop = .recording k udid
  | .pairSend k, _ => ∀ udid, (s.plug k).pairing = .registering udid → s.Alone k udid
  | .sendRemove, _ => ∀ k udid, s.loop = .removing k udid → s.Leaves k udid
  | .watchSend k, _ => ∀ udid, (s.plug k).watcher = .removing udid → s.Leaves k udid
  | .serve _, s' => s.mgr.lastIndex ≤ s'.mgr.lastIndex
  | _, _ => True

/-! ### What is to agree -/

/-- No event and no task of the connection is outstanding. -/
structure Plug.Settled (p : Plug) : Prop where
  taken : p.notice ≠ .due
  gone : p.connected = false → p.notice = .left
  asking : p.pairing ≠ .asking
  registering : ∀ udid, p.pairing ≠ .registering udid
  /-- A mux task that was told to shut down has. -/
  shutDown : p.pairing = .failed → p.mux = false
  /-- The exit of a mux task has been noticed. -/
  noticed : p.mux = false → p.watcher ≠ .waiting
  removing : ∀ udid, p.watcher ≠ .removing udid

/-- No event, task or message is outstanding. -/
structure Hotplug.Quiet (s : Hotplug) : Prop where
  queue : s.queue = []
  loop : s.loop = .idle
  plugs : ∀ k, (s.plug k).Settled

/-- The manager has a USB entry for this UDID with this handle. -/
def Manager.HasUsb (m : Manager) (udid : String) (handle : UsbMuxHandle) : Prop :=
  ∃ id dev, m.devices id = some dev ∧ dev.Matches udid "USB" ∧ m.usbHandles id = some handle

/-- The USB entries are those of the connections that are known and still there, each with
the handle that was made for its connection. -/
structure Hotplug.Agrees (s : Hotplug) : Prop where
  listed : ∀ udid, Lists s.mgr.devices udid "USB" ↔
    ∃ k, s.known k = some udid ∧ (s.plug k).connected = true
  handle : ∀ k udid, s.known k = some udid → (s.plug k).connected = true → s.mgr.HasUsb udid k
  own : ∀ id dev h, s.mgr.devices id = some dev → dev.connectionType = "USB" →
    s.mgr.usbHandles id = some h →
    s.known h = some dev.serialNumber ∧ (s.plug h).connected = true

/-- A removal that is served takes away the entry of its own connection only. -/
def RemovesOwn (s : Hotplug) : HotplugStep → Hotplug → Prop
  | .serve _, _ => ∀ k udid rest, s.queue = .removed k udid :: rest →
      ∀ h, s.mgr.HasUsb udid h → h = k
  | _, _ => True

/-! ### The inversion -/

inductive Hotplug.Stepped (cfg : Config) (s : Hotplug) : HotplugStep → Hotplug → Prop
  | plug {raw : String} {info : DeviceMeta} :
      Stepped cfg s (.plug raw info) { s.set s.count { raw, info } with count := s.count + 1 }
  | unplug {k : Nat} (hk : k < s.count) :
      Stepped cfg s (.unplug k) (s.set k { s.plug k with connected := false })
  | take {k : Nat} (hloop : s.loop = .idle) (hdue : (s.plug k).notice = .due) :
      Stepped cfg s (.take k)
        { s.set k { s.plug k with notice := .taken, mux := true } with loop := .connecting k }
  | skip {k : Nat} (hloop : s.loop = .idle) (hdue : (s.plug k).notice = .due) :
      Stepped cfg s (.skip k) (s.set k { s.plug k with notice := .taken })
  | paired {k : Nat} {udid : String} (hloop : s.loop = .connecting k) :
      Stepped cfg s (.paired udid)
        { s.send (.discovered k udid (s.plug k).info) with loop := .recording k udid }
  | unpaired {k : Nat} (hloop : s.loop = .connecting k) :
      Stepped cfg s .unpaired
        { s.set k { s.plug k with pairing := .asking } with
          loop := .recording k (s.plug k).raw }
  | record {k : Nat} {udid : String} (hloop : s.loop = .recording k udid) :
      Stepped cfg s .record
        { (s.learn k (some udid)).set k { s.plug k with watcher := .waiting } with
          loop := .idle }
  | drop {k : Nat} (hloop : s.loop = .idle) (htaken : (s.plug k).notice = .taken)
      (hgone : (s.plug k).connected = false) :
      Stepped cfg s (.drop k)
        { (s.learn k none).set k { s.plug k with notice := .left } with
          loop := match s.known k with
            | some udid => .removing k udid
            | none => .idle }
  | sendRemove {k : Nat} {udid : String} (hloop : s.loop = .removing k udid) :
      Stepped cfg s .sendRemove { s.send (.removed k udid) with loop := .idle }
  | exits {k : Nat} (hmux : (s.plug k).mux = true) :
      Stepped cfg s (.exits k) (s.set k { s.plug k with mux := false })
  | watch {k : Nat} (hwaiting : (s.plug k).watcher = .waiting) (hmux : (s.plug k).mux = false) :
      Stepped cfg s (.watch k)
        ((s.learn k none).set k
          { s.plug k with
            watcher := match s.known k with
              | some udid => .removing udid
              | none => .over })
  | watchSend {k : Nat} {udid : String} (hremoving : (s.plug k).watcher = .removing udid) :
      Stepped cfg s (.watchSend k)
        ((s.send (.removed k udid)).set k { s.plug k with watcher := .over })
  | pairs {k : Nat} {udid : String} (hasking : (s.plug k).pairing = .asking) :
      Stepped cfg s (.pairs k udid)
        ((s.learn k ((s.known k).map fun _ => udid)).set k
          { s.plug k with pairing := .registering udid })
  | pairSend {k : Nat} {udid : String} (hregistering : (s.plug k).pairing = .registering udid) :
      Stepped cfg s (.pairSend k)
        ((s.send (.discovered k udid (s.plug k).info)).set k
          { s.plug k with pairing := .registered })
  | pairFails {k : Nat} (hasking : (s.plug k).pairing = .asking) :
      Stepped cfg s (.pairFails k) (s.set k { s.plug k with pairing := .failed })
  | serve {order : List UInt64} {message : UsbMessage} {rest : List UsbMessage} {m : Manager}
      (hqueue : s.queue = message :: rest)
      (hserved : Served cfg (Hotplug.surroundings order) s.mgr message.request m) :
      Stepped cfg s (.serve order)
        { s with mgr := m, served := s.served ++ [message], queue := rest }

section
variable {cfg : Config} {s s' : Hotplug} {a : HotplugStep}

theorem Hotplug.Step.stepped (h : Hotplug.Step cfg s a s') : Hotplug.Stepped cfg s a s' := by
  obtain ⟨hnext, hvalid⟩ := h
  cases a with
  | plug =>
      cases hnext
      exact .plug
  | unplug =>
      simp only [Hotplug.next] at hnext
      split at hnext
      · rename_i hk
        cases hnext
        exact .unplug hk
      · cases hnext
  | take =>
      simp only [Hotplug.next] at hnext
      split at hnext
      · rename_i hloop hdue
        cases hnext
        exact .take hloop hdue
      · cases hnext
  | skip =>
      simp only [Hotplug.next] at hnext
      split at hnext
      · rename_i hloop hdue
        cases hnext
        exact .skip hloop hdue
      · cases hnext
  | paired =>
      simp only [Hotplug.next] at hnext
      split at hnext
      · rename_i k hloop
        split at hnext
        · cases hnext
          exact .paired hloop
        · cases hnext
      · cases hnext
  | unpaired =>
      simp only [Hotplug.next] at hnext
      split at hnext
      · rename_i k hloop
        cases hnext
        exact .unpaired hloop
      · cases hnext
  | record =>
      simp only [Hotplug.next] at hnext
      split at hnext
      · rename_i k udid hloop
        cases hnext
        exact .record hloop
      · cases hnext
  | drop =>
      simp only [Hotplug.next] at hnext
      split at hnext
      · rename_i hloop htaken hgone
        cases hnext
        exact .drop hloop htaken hgone
      · cases hnext
  | sendRemove =>
      simp only [Hotplug.next] at hnext
      split at hnext
      · rename_i k udid hloop
        cases hnext
        exact .sendRemove hloop
      · cases hnext
  | exits =>
      simp only [Hotplug.next] at hnext
      split at hnext
      · rename_i hmux
        cases hnext
        exact .exits hmux
      · cases hnext
  | watch =>
      simp only [Hotplug.next] at hnext
      split at hnext
      · rename_i hwaiting hmux
        cases hnext
        exact .watch hwaiting hmux
      · cases hnext
  | watchSend =>
      simp only [Hotplug.next] at hnext
      split at hnext
      · rename_i udid hremoving
        cases hnext
        exact .watchSend hremoving
      · cases hnext
  | pairs =>
      simp only [Hotplug.next] at hnext
      split at hnext
      · rename_i hasking
        cases hnext
        exact .pairs hasking
      · cases hnext
  | pairSend =>
      simp only [Hotplug.next] at hnext
      split at hnext
      · rename_i udid hregistering
        cases hnext
        exact .pairSend hregistering
      · cases hnext
  | pairFails =>
      simp only [Hotplug.next] at hnext
      split at hnext
      · rename_i hasking
        cases hnext
        exact .pairFails hasking
      · cases hnext
  | serve =>
      simp only [Hotplug.next] at hnext
      split at hnext
      · cases hnext
      · rename_i message rest hqueue
        obtain ⟨m, hm, rfl⟩ := Option.map_eq_some_iff.mp hnext
        exact .serve hqueue (Manager.handle_served hvalid hm)

end

/-! ### The parties among themselves -/

/-- Alike in what the loop, the pairing task and the watcher are at. -/
structure Plug.Alike (p q : Plug) : Prop where
  notice : p.notice = q.notice
  pairing : p.pairing = q.pairing
  watcher : p.watcher = q.watcher

theorem Plug.Alike.refl (p : Plug) : p.Alike p :=
  ⟨rfl, rfl, rfl⟩

/-- The connection that the loop is busy with. -/
def LoopAt.on : LoopAt → Option Nat
  | .idle => none
  | .connecting k | .recording k _ | .removing k _ => some k

/-- What `known`, the loop and the tasks of a connection say of each other. -/
structure Hotplug.SaneAt (s : Hotplug) (k : Nat) : Prop where
  waiting : ∀ udid, s.known k = some udid → (s.plug k).watcher = .waiting
  unknown : (s.plug k).notice ≠ .taken → s.known k = none
  handled : (s.loop = .connecting k ∨ ∃ udid, s.loop = .recording k udid) →
    (s.plug k).watcher = .unborn ∧ (s.plug k).notice = .taken
  connecting : s.loop = .connecting k → (s.plug k).pairing = .idle
  leaving : ∀ udid, s.loop = .removing k udid →
    s.known k = none ∧ ((s.plug k).watcher = .waiting ∨ (s.plug k).watcher = .over)
  due : (s.plug k).notice = .due → (s.plug k).watcher = .unborn ∧ (s.plug k).pairing = .idle
  later : s.count ≤ k →
    (s.plug k).notice = .left ∧ (s.plug k).watcher = .unborn ∧ (s.plug k).pairing = .idle

def Hotplug.Sane (s : Hotplug) : Prop :=
  ∀ k, s.SaneAt k

theorem Hotplug.sane_start (cfg : Config) : (Hotplug.start cfg).Sane := by
  intro k
  constructor <;> simp [Hotplug.start]

section
variable {cfg : Config} {s s' : Hotplug} {a : HotplugStep} {k : Nat}

/-- A step that neither touches the connection nor has the loop turn to it. -/
theorem Hotplug.SaneAt.frame (h : s.SaneAt k) (hknown : s'.known k = s.known k)
    (hplug : (s'.plug k).Alike (s.plug k)) (hloop : s'.loop = s.loop ∨ s'.loop.on ≠ some k)
    (hcount : s.count ≤ s'.count) : s'.SaneAt k := by
  obtain ⟨hnotice, hpairing, hwatcher⟩ := hplug
  have hstill : ∀ l : LoopAt, l.on = some k → s'.loop = l → s.loop = l := by
    intro l hon hl
    rcases hloop with hsame | hoff
    · rw [← hsame, hl]
    · rw [hl] at hoff
      exact absurd hon hoff
  constructor
  · rw [hknown, hwatcher]
    exact h.waiting
  · rw [hknown, hnotice]
    exact h.unknown
  · rw [hwatcher, hnotice]
    rintro (hl | ⟨udid, hl⟩)
    · exact h.handled (Or.inl (hstill _ rfl hl))
    · exact h.handled (Or.inr ⟨udid, hstill _ rfl hl⟩)
  · rw [hpairing]
    intro hl
    exact h.connecting (hstill _ rfl hl)
  · rw [hknown, hwatcher]
    intro udid hl
    exact h.leaving udid (hstill _ rfl hl)
  · rw [hnotice, hwatcher, hpairing]
    exact h.due
  · rw [hnotice, hwatcher, hpairing]
    intro hk
    exact h.later (Nat.le_trans hcount hk)

/-- A step that touches one connection only. -/
theorem Hotplug.Sane.touch (hs : s.Sane) (hat : s'.SaneAt k)
    (hknown : ∀ j, j ≠ k → s'.known j = s.known j) (hplug : ∀ j, j ≠ k → s'.plug j = s.plug j)
    (hloop : s'.loop = s.loop ∨ ∀ j, j ≠ k → s'.loop.on ≠ some j) (hcount : s.count ≤ s'.count) :
    s'.Sane := by
  intro j
  by_cases hj : j = k
  · subst hj
    exact hat
  · refine (hs j).frame (hknown j hj) ?_ (hloop.imp_right fun hoff => hoff j hj) hcount
    rw [hplug j hj]
    exact Plug.Alike.refl _

/-- The loop is done with its connection, or goes on with it. -/
theorem LoopAt.on_ne {l : LoopAt} (hl : l = .idle ∨ l.on = some k) {j : Nat} (hj : j ≠ k) :
    l.on ≠ some j := by
  rcases hl with rfl | hl
  · simp [LoopAt.on]
  · rw [hl]
    exact fun h => hj (Option.some.inj h).symm

/-- The connection is one that has been plugged in. -/
theorem Hotplug.SaneAt.lt_count (h : s.SaneAt k) (hnotice : (s.plug k).notice ≠ .left) :
    k < s.count := by
  by_contra hk
  exact hnotice (h.later (Nat.le_of_not_lt hk)).1

/-- The loop has taken the connect event, and not the disconnect event. -/
theorem Hotplug.SaneAt.of_taken (htaken : (s.plug k).notice = .taken) (hk : k < s.count)
    (hwaiting : ∀ udid, s.known k = some udid → (s.plug k).watcher = .waiting)
    (hhandled : (s.loop = .connecting k ∨ ∃ udid, s.loop = .recording k udid) →
      (s.plug k).watcher = .unborn)
    (hconnecting : s.loop = .connecting k → (s.plug k).pairing = .idle)
    (hleaving : ∀ udid, s.loop ≠ .removing k udid) : s.SaneAt k where
  waiting := hwaiting
  unknown := fun hnot => absurd htaken hnot
  handled := fun hl => ⟨hhandled hl, htaken⟩
  connecting := hconnecting
  leaving := fun udid hl => absurd hl (hleaving udid)
  due := by simp [htaken]
  later := fun hle => absurd hk (Nat.not_lt_of_le hle)

/-- The pairing task of the connection, which is under way, gets on. -/
theorem Hotplug.SaneAt.pairs (h : s.SaneAt k) (hunder : (s.plug k).pairing ≠ .idle)
    (hknown : (s'.known k).isSome = (s.known k).isSome)
    (hnotice : (s'.plug k).notice = (s.plug k).notice)
    (hwatcher : (s'.plug k).watcher = (s.plug k).watcher) (hloop : s'.loop = s.loop)
    (hcount : s'.count = s.count) : s'.SaneAt k := by
  have hnone : s.known k = none → s'.known k = none := by
    intro hs
    rw [hs] at hknown
    simpa using hknown
  constructor
  · intro udid hs'
    rw [hs', Option.isSome_some, eq_comm, Option.isSome_iff_exists] at hknown
    obtain ⟨udid', hs⟩ := hknown
    rw [hwatcher]
    exact h.waiting udid' hs
  · rw [hnotice]
    intro htaken
    exact hnone (h.unknown htaken)
  · rw [hloop, hwatcher, hnotice]
    exact h.handled
  · rw [hloop]
    intro hl
    exact absurd (h.connecting hl) hunder
  · rw [hloop, hwatcher]
    intro udid hl
    exact ⟨hnone (h.leaving udid hl).1, (h.leaving udid hl).2⟩
  · rw [hnotice]
    intro hdue
    exact absurd (h.due hdue).2 hunder
  · rw [hcount]
    intro hk
    exact absurd (h.later hk).2.2 hunder

/-- The watcher of the connection, which is there, gets on, with its key gone. -/
theorem Hotplug.SaneAt.watches (h : s.SaneAt k) (hborn : (s.plug k).watcher ≠ .unborn)
    (hknown : s'.known k = none) (hnotice : (s'.plug k).notice = (s.plug k).notice)
    (hleaving : ∀ udid, s.loop = .removing k udid → (s'.plug k).watcher = .over)
    (hloop : s'.loop = s.loop) (hcount : s'.count = s.count) : s'.SaneAt k := by
  constructor
  · simp [hknown]
  · exact fun _ => hknown
  · rw [hloop]
    intro hl
    exact absurd (h.handled hl).1 hborn
  · rw [hloop]
    intro hl
    exact absurd (h.handled (Or.inl hl)).1 hborn
  · rw [hloop]
    intro udid hl
    exact ⟨hknown, Or.inr (hleaving udid hl)⟩
  · rw [hnotice]
    intro hdue
    exact absurd (h.due hdue).1 hborn
  · rw [hcount]
    intro hk
    exact absurd (h.later hk).2.1 hborn

/-- A new connection has yet to be taken. -/
theorem Hotplug.Sane.plugged (hs : s.Sane) (raw : String) (info : DeviceMeta) :
    Hotplug.Sane { s.set s.count { raw, info } with count := s.count + 1 } := by
  obtain ⟨hleft, hunborn, -⟩ := (hs s.count).later (Nat.le_refl _)
  have hnone : s.known s.count = none := (hs s.count).unknown (by simp [hleft])
  have hoff : ¬ (s.loop = .connecting s.count ∨ ∃ udid, s.loop = .recording s.count udid) := by
    intro hl
    have htaken := ((hs s.count).handled hl).2
    simp [hleft] at htaken
  refine hs.touch (k := s.count) ?_ (fun _ _ => rfl) (fun j hj => Function.update_of_ne hj _ _)
    (Or.inl rfl) (Nat.le_succ _)
  constructor
  · simp [Hotplug.set, hnone]
  · intro _
    exact hnone
  · intro hl
    exact absurd hl hoff
  · intro hl
    exact absurd (Or.inl hl) hoff
  · intro udid hl
    -- what the loop has taken a key of has been plugged in
    have hwatcher := ((hs s.count).leaving udid hl).2
    simp [hunborn] at hwatcher
  · simp [Hotplug.set]
  · intro hle
    exact absurd hle (Nat.not_succ_le_self _)

/-- The loop turns to a connection that is due. -/
theorem Hotplug.Sane.taken (hs : s.Sane) (hdue : (s.plug k).notice = .due) :
    Hotplug.Sane { s.set k { s.plug k with notice := .taken, mux := true } with
      loop := .connecting k } := by
  obtain ⟨hunborn, hidle⟩ := (hs k).due hdue
  have hnone : s.known k = none := (hs k).unknown (by simp [hdue])
  have hk : k < s.count := (hs k).lt_count (by simp [hdue])
  refine hs.touch (k := k) ?_ (fun _ _ => rfl) (fun j hj => Function.update_of_ne hj _ _)
    (Or.inr fun j hj => LoopAt.on_ne (Or.inr rfl) hj) (Nat.le_refl _)
  refine .of_taken (by simp [Hotplug.set]) hk ?_ ?_ ?_ ?_
  · simp [Hotplug.set, hnone]
  · simp [Hotplug.set, hunborn]
  · simp [Hotplug.set, hidle]
  · simp

/-- The loop takes the key of a connection, if it is there. -/
theorem Hotplug.Sane.dropped (hs : s.Sane) (htaken : (s.plug k).notice = .taken) {l : LoopAt}
    (hl : l = .idle ∨ ∃ udid, l = .removing k udid ∧ (s.plug k).watcher = .waiting) :
    Hotplug.Sane { (s.learn k none).set k { s.plug k with notice := .left } with
      loop := l } := by
  have hk : k < s.count := (hs k).lt_count (by simp [htaken])
  refine hs.touch (k := k) ?_ (fun j hj => Function.update_of_ne hj _ _)
    (fun j hj => Function.update_of_ne hj _ _)
    (Or.inr fun j hj => LoopAt.on_ne (k := k) ?_ hj) (Nat.le_refl _)
  · constructor
    · simp [Hotplug.set, Hotplug.learn]
    · simp [Hotplug.set, Hotplug.learn]
    · rcases hl with rfl | ⟨udid, rfl, -⟩
      · simp
      · simp
    · rcases hl with rfl | ⟨udid, rfl, -⟩
      · simp
      · simp
    · rcases hl with rfl | ⟨udid, rfl, hwaiting⟩
      · simp
      · simp [Hotplug.set, Hotplug.learn, hwaiting]
    · simp [Hotplug.set]
    · intro hle
      exact absurd hk (Nat.not_lt_of_le hle)
  · rcases hl with rfl | ⟨udid, rfl, -⟩
    · exact Or.inl rfl
    · exact Or.inr rfl

theorem Hotplug.Stepped.sane (h : s.Stepped cfg a s') (hs : s.Sane) : s'.Sane := by
  cases h with
  | plug => exact hs.plugged _ _
  | @unplug k hk =>
      refine hs.touch (k := k) ((hs k).frame rfl ?_ (Or.inl rfl) (Nat.le_refl _)) (fun _ _ => rfl)
        (fun j hj => Function.update_of_ne hj _ _) (Or.inl rfl) (Nat.le_refl _)
      simp only [Hotplug.set, Function.update_self]
      exact ⟨rfl, rfl, rfl⟩
  | take hloop hdue => exact hs.taken hdue
  | @skip k hloop hdue =>
      have hnone : s.known k = none := (hs k).unknown (by simp [hdue])
      have hk : k < s.count := (hs k).lt_count (by simp [hdue])
      refine hs.touch (k := k) ?_ (fun _ _ => rfl) (fun j hj => Function.update_of_ne hj _ _)
        (Or.inl rfl) (Nat.le_refl _)
      refine .of_taken (by simp [Hotplug.set]) hk ?_ ?_ ?_ ?_
      · simp [Hotplug.set, hnone]
      · simp [Hotplug.set, hloop]
      · simp [Hotplug.set, hloop]
      · simp [Hotplug.set, hloop]
  | @paired k udid hloop =>
      obtain ⟨hunborn, htaken⟩ := (hs k).handled (Or.inl hloop)
      refine hs.touch (k := k) ?_ (fun _ _ => rfl) (fun _ _ => rfl)
        (Or.inr fun j hj => LoopAt.on_ne (Or.inr rfl) hj) (Nat.le_refl _)
      exact .of_taken htaken ((hs k).lt_count (by simp [htaken])) (hs k).waiting
        (fun _ => hunborn) (by simp) (by simp)
  | @unpaired k hloop =>
      obtain ⟨hunborn, htaken⟩ := (hs k).handled (Or.inl hloop)
      refine hs.touch (k := k) ?_ (fun _ _ => rfl) (fun j hj => Function.update_of_ne hj _ _)
        (Or.inr fun j hj => LoopAt.on_ne (Or.inr rfl) hj) (Nat.le_refl _)
      refine .of_taken ?_ ((hs k).lt_count (by simp [htaken])) ?_ ?_ ?_ ?_
      · simp [Hotplug.set, htaken]
      · simpa [Hotplug.set] using (hs k).waiting
      · simp [Hotplug.set, hunborn]
      · simp
      · simp
  | @record k udid hloop =>
      obtain ⟨hunborn, htaken⟩ := (hs k).handled (Or.inr ⟨udid, hloop⟩)
      refine hs.touch (k := k) ?_ (fun j hj => Function.update_of_ne hj _ _)
        (fun j hj => Function.update_of_ne hj _ _)
        (Or.inr fun j hj => LoopAt.on_ne (k := k) (Or.inl rfl) hj) (Nat.le_refl _)
      refine .of_taken ?_ ((hs k).lt_count (by simp [htaken])) ?_ ?_ ?_ ?_
      · simp [Hotplug.set, Hotplug.learn, htaken]
      · simp [Hotplug.set, Hotplug.learn]
      · simp
      · simp
      · simp
  | @drop k hloop htaken hgone =>
      refine hs.dropped htaken ?_
      cases hknown : s.known k with
      | none => exact Or.inl rfl
      | some udid => exact Or.inr ⟨udid, rfl, (hs k).waiting udid hknown⟩
  | @sendRemove k udid hloop =>
      intro j
      exact (hs j).frame rfl (Plug.Alike.refl _) (Or.inr (by simp [LoopAt.on])) (Nat.le_refl _)
  | @exits k hmux =>
      refine hs.touch (k := k) ((hs k).frame rfl ?_ (Or.inl rfl) (Nat.le_refl _)) (fun _ _ => rfl)
        (fun j hj => Function.update_of_ne hj _ _) (Or.inl rfl) (Nat.le_refl _)
      simp only [Hotplug.set, Function.update_self]
      exact ⟨rfl, rfl, rfl⟩
  | @watch k hwaiting hmux =>
      refine hs.touch (k := k) ?_ (fun j hj => Function.update_of_ne hj _ _)
        (fun j hj => Function.update_of_ne hj _ _) (Or.inl rfl) (Nat.le_refl _)
      refine (hs k).watches (by simp [hwaiting]) ?_ ?_ ?_ rfl rfl
      · simp [Hotplug.set, Hotplug.learn]
      · simp [Hotplug.set, Hotplug.learn]
      · -- the loop has taken the key already
        intro udid hl
        simp [Hotplug.set, Hotplug.learn, ((hs k).leaving udid hl).1]
  | @watchSend k udid hremoving =>
      have hnone : s.known k = none := by
        cases hk : s.known k with
        | none => rfl
        | some udid' => simp [(hs k).waiting udid' hk] at hremoving
      refine hs.touch (k := k) ?_ (fun _ _ => rfl)
        (fun j hj => Function.update_of_ne hj _ _) (Or.inl rfl) (Nat.le_refl _)
      refine (hs k).watches (by simp [hremoving]) hnone ?_ ?_ rfl rfl
      · simp [Hotplug.set, Hotplug.send]
      · simp [Hotplug.set]
  | @pairs k udid hasking =>
      refine hs.touch (k := k) ?_ (fun j hj => Function.update_of_ne hj _ _)
        (fun j hj => Function.update_of_ne hj _ _) (Or.inl rfl) (Nat.le_refl _)
      refine (hs k).pairs (by simp [hasking]) ?_ ?_ ?_ rfl rfl
      · simp [Hotplug.set, Hotplug.learn]
      · simp [Hotplug.set, Hotplug.learn]
      · simp [Hotplug.set, Hotplug.learn]
  | @pairSend k udid hregistering =>
      refine hs.touch (k := k) ?_ (fun _ _ => rfl) (fun j hj => Function.update_of_ne hj _ _)
        (Or.inl rfl) (Nat.le_refl _)
      refine (hs k).pairs (by simp [hregistering]) rfl ?_ ?_ rfl rfl
      · simp [Hotplug.set, Hotplug.send]
      · simp [Hotplug.set, Hotplug.send]
  | @pairFails k hasking =>
      refine hs.touch (k := k) ?_ (fun _ _ => rfl) (fun j hj => Function.update_of_ne hj _ _)
        (Or.inl rfl) (Nat.le_refl _)
      refine (hs k).pairs (by simp [hasking]) rfl ?_ ?_ rfl rfl
      · simp [Hotplug.set]
      · simp [Hotplug.set]
  | serve =>
      intro j
      exact (hs j).frame rfl (Plug.Alike.refl _) (Or.inl rfl) (Nat.le_refl _)

theorem names_iff {k : Nat} {udid : String} :
    s.Names k udid ↔ s.known k = some udid ∨ s.loop = .recording k udid ∨
      s.loop = .removing k udid ∨ (s.plug k).watcher = .removing udid := by
  constructor
  · intro h
    cases h with
    | known h => exact Or.inl h
    | recording h => exact Or.inr (Or.inl h)
    | leaving h => exact Or.inr (Or.inr (Or.inl h))
    | watched h => exact Or.inr (Or.inr (Or.inr h))
  · rintro (h | h | h | h)
    · exact .known h
    · exact .recording h
    · exact .leaving h
    · exact .watched h

/-- A connection has one name. -/
theorem Hotplug.Sane.name_unique (hs : s.Sane) {k : Nat} {udid udid' : String}
    (h : s.Names k udid) (h' : s.Names k udid') : udid = udid' := by
  rw [names_iff] at h h'
  have hwaiting := (hs k).waiting
  have hhandled := (hs k).handled
  have hleaving := (hs k).leaving
  grind

/-- A connection whose mux task has just been spawned has no name yet. -/
theorem Hotplug.Sane.nameless (hs : s.Sane) {k : Nat} {udid : String}
    (hloop : s.loop = .connecting k) : ¬ s.Names k udid := by
  rw [names_iff]
  have hwaiting := (hs k).waiting udid
  have hunborn := ((hs k).handled (Or.inl hloop)).1
  grind

end

/-! ### The names and the table -/

/-- The connection is on record, or about to be. -/
def Hotplug.OnRecord (s : Hotplug) (k : Nat) (udid : String) : Prop :=
  s.known k = some udid ∨ s.loop = .recording k udid

/-- The settled table follows the names. -/
structure Hotplug.Tracks (s : Hotplug) : Prop where
  named : ∀ udid k, s.settled udid = some k → s.Names k udid
  /-- What is on record is registered, or its pairing is under way or has failed. -/
  recorded : ∀ k udid, s.OnRecord k udid → s.settled udid = some k ∨
    (s.plug k).pairing = .asking ∨ (s.plug k).pairing = .failed ∨
      (s.plug k).pairing = .registering udid
  registering : ∀ k udid, (s.plug k).pairing = .registering udid → s.Names k udid
  /-- A connection that is being paired is not registered. -/
  paired : ∀ udid k, s.settled udid = some k →
    (s.plug k).pairing = .idle ∨ (s.plug k).pairing = .registered

section
variable {cfg : Config} {s s' : Hotplug} {a : HotplugStep} {k : Nat} {udid : String}

theorem settled_discovered {info : DeviceMeta}
    (hsent : s'.served ++ s'.queue = s.served ++ s.queue ++ [.discovered k udid info]) :
    s'.settled = Function.update s.settled udid (some k) := by
  unfold Hotplug.settled
  rw [hsent, List.map_append]
  exact replay_put

theorem settled_removed
    (hsent : s'.served ++ s'.queue = s.served ++ s.queue ++ [.removed k udid]) :
    s'.settled = Function.update s.settled udid none := by
  unfold Hotplug.settled
  rw [hsent, List.map_append]
  exact replay_drop

/-- A step that sends nothing: names are kept, and nothing new is on record but what is
being paired. -/
theorem Hotplug.Tracks.frame (ht : s.Tracks)
    (hsent : s'.served ++ s'.queue = s.served ++ s.queue)
    (hnames : ∀ k udid, s.Names k udid → s'.Names k udid)
    (hpairing : ∀ k, ((s'.plug k).pairing = (s.plug k).pairing ∧
        ∀ udid, s'.OnRecord k udid → s.OnRecord k udid) ∨
      (((s'.plug k).pairing = .asking ∨ (s'.plug k).pairing = .failed) ∧
        ∀ udid, s.settled udid ≠ some k)) : s'.Tracks := by
  have hsettled : s'.settled = s.settled := by
    unfold Hotplug.settled
    rw [hsent]
  refine ⟨?_, ?_, ?_, ?_⟩
  · intro udid k h
    rw [hsettled] at h
    exact hnames k udid (ht.named udid k h)
  · intro k udid hrec
    rcases hpairing k with ⟨hsame, hold⟩ | ⟨hasking | hfailed, -⟩
    · rw [hsettled, hsame]
      exact ht.recorded k udid (hold udid hrec)
    · exact Or.inr (Or.inl hasking)
    · exact Or.inr (Or.inr (Or.inl hfailed))
  · intro k udid h
    rcases hpairing k with ⟨hsame, -⟩ | ⟨hasking | hfailed, -⟩
    · rw [hsame] at h
      exact hnames k udid (ht.registering k udid h)
    · rw [hasking] at h
      cases h
    · rw [hfailed] at h
      cases h
  · intro udid k h
    rw [hsettled] at h
    rcases hpairing k with ⟨hsame, -⟩ | ⟨-, hnone⟩
    · rw [hsame]
      exact ht.paired udid k h
    · exact absurd h (hnone udid)

/-- A step that is not about names or pairing at all. -/
theorem Hotplug.Tracks.touch (ht : s.Tracks)
    (hsent : s'.served ++ s'.queue = s.served ++ s.queue) (hknown : s'.known = s.known)
    (hloop : ∀ j v, (s'.loop = .recording j v ↔ s.loop = .recording j v) ∧
      (s'.loop = .removing j v ↔ s.loop = .removing j v))
    (hplug : ∀ j, (s'.plug j).watcher = (s.plug j).watcher ∧
      (s'.plug j).pairing = (s.plug j).pairing) : s'.Tracks := by
  refine ht.frame hsent ?_ ?_
  · intro j v hj
    rw [names_iff] at hj ⊢
    rw [hknown, (hloop j v).1, (hloop j v).2, (hplug j).1]
    exact hj
  · intro j
    refine Or.inl ⟨(hplug j).2, fun v hrec => ?_⟩
    unfold Hotplug.OnRecord at hrec ⊢
    rwa [hknown, (hloop j v).1] at hrec

theorem Hotplug.set_plug {p : Plug} (hwatcher : p.watcher = (s.plug k).watcher)
    (hpairing : p.pairing = (s.plug k).pairing) (j : Nat) :
    ((s.set k p).plug j).watcher = (s.plug j).watcher ∧
      ((s.set k p).plug j).pairing = (s.plug j).pairing := by
  unfold Hotplug.set
  by_cases hj : j = k
  · subst hj
    simp [hwatcher, hpairing]
  · simp [hj]

/-- A step by which a connection's name is handed on from one party to another: whoever had
it, somebody has it now, and nobody puts the connection on record who did not before. -/
theorem Hotplug.Tracks.hand (ht : s.Tracks) {o : Option String} {p : Plug} {l : LoopAt}
    (hpairing : p.pairing = (s.plug k).pairing)
    (hloop : ∀ j v, j ≠ k → (l = .recording j v ↔ s.loop = .recording j v) ∧
      (l = .removing j v ↔ s.loop = .removing j v))
    (hname : ∀ v, s.Names k v →
      o = some v ∨ l = .recording k v ∨ l = .removing k v ∨ p.watcher = .removing v)
    (hrecord : ∀ v, o = some v ∨ l = .recording k v → s.OnRecord k v) :
    Hotplug.Tracks { (s.learn k o).set k p with loop := l } := by
  refine ht.frame rfl ?_ ?_
  · intro j v hj
    rw [names_iff]
    by_cases hjk : j = k
    · subst hjk
      simpa [Hotplug.set, Hotplug.learn] using hname v hj
    · rw [names_iff] at hj
      simp only [Hotplug.set, Hotplug.learn, Function.update_of_ne hjk]
      rw [(hloop j v hjk).1, (hloop j v hjk).2]
      exact hj
  · intro j
    left
    unfold Hotplug.OnRecord
    by_cases hjk : j = k
    · subst hjk
      simp only [Hotplug.set, Hotplug.learn, Function.update_self]
      exact ⟨hpairing, hrecord⟩
    · simp only [Hotplug.set, Hotplug.learn, Function.update_of_ne hjk]
      exact ⟨trivial, fun v hv => by rwa [(hloop j v hjk).1] at hv⟩

/-- A connection is registered under its name, which no other goes by. -/
theorem Hotplug.Tracks.register (ht : s.Tracks) (info : DeviceMeta)
    (hsent : s'.served ++ s'.queue = s.served ++ s.queue ++ [.discovered k udid info])
    (halone : s.Alone k udid) (hname : s'.Names k udid)
    (hnames : ∀ j v, s.Names j v → s'.Names j v)
    (hself : (s'.plug k).pairing = .idle ∨ (s'.plug k).pairing = .registered)
    (hown : ∀ v, s'.OnRecord k v → v = udid)
    (hother : ∀ j, j ≠ k → (s'.plug j).pairing = (s.plug j).pairing ∧
      ∀ v, s'.OnRecord j v → s.OnRecord j v) : s'.Tracks := by
  have hsettled := settled_discovered hsent
  refine ⟨?_, ?_, ?_, ?_⟩
  · intro v j h
    rw [hsettled] at h
    by_cases hv : v = udid
    · rw [hv, Function.update_self] at h
      cases h
      rw [hv]
      exact hname
    · rw [Function.update_of_ne hv] at h
      exact hnames j v (ht.named v j h)
  · intro j v hrec
    rw [hsettled]
    by_cases hj : j = k
    · left
      rw [hj] at hrec ⊢
      rw [hown v hrec, Function.update_self]
    · obtain ⟨hsame, hold⟩ := hother j hj
      rw [hsame]
      rcases ht.recorded j v (hold v hrec) with hin | hpairing
      · left
        have hv : v ≠ udid := by
          rintro rfl
          exact halone j hj (Or.inl (ht.named v j hin))
        rw [Function.update_of_ne hv]
        exact hin
      · exact Or.inr hpairing
  · intro j v h
    by_cases hj : j = k
    · rw [hj] at h
      rcases hself with hidle | hregistered
      · rw [hidle] at h
        cases h
      · rw [hregistered] at h
        cases h
    · rw [(hother j hj).1] at h
      exact hnames j v (ht.registering j v h)
  · intro v j h
    by_cases hj : j = k
    · rw [hj]
      exact hself
    · rw [(hother j hj).1]
      rw [hsettled] at h
      by_cases hv : v = udid
      · rw [hv, Function.update_self] at h
        cases h
        exact absurd rfl hj
      · rw [Function.update_of_ne hv] at h
        exact ht.paired v j h

/-- A connection's removal is sent, and with it its name goes. -/
theorem Hotplug.Tracks.remove (ht : s.Tracks)
    (hsent : s'.served ++ s'.queue = s.served ++ s.queue ++ [.removed k udid])
    (hleaves : s.Leaves k udid)
    (hnames : ∀ j v, s.Names j v → s'.Names j v ∨ (j = k ∧ v = udid))
    (hgone : ∀ v, ¬ s'.OnRecord k v)
    (hpairing : ∀ j, (s'.plug j).pairing = (s.plug j).pairing)
    (hrecord : ∀ j v, s'.OnRecord j v → s.OnRecord j v) : s'.Tracks := by
  have hsettled := settled_removed hsent
  have hstill : ∀ v j, s'.settled v = some j → s.settled v = some j ∧ v ≠ udid := by
    intro v j h
    rw [hsettled] at h
    by_cases hv : v = udid
    · rw [hv, Function.update_self] at h
      cases h
    · rw [Function.update_of_ne hv] at h
      exact ⟨h, hv⟩
  refine ⟨?_, ?_, ?_, ?_⟩
  · intro v j h
    obtain ⟨hin, hv⟩ := hstill v j h
    rcases hnames j v (ht.named v j hin) with hkept | ⟨-, hbad⟩
    · exact hkept
    · exact absurd hbad hv
  · intro j v hrec
    rw [hpairing]
    rcases ht.recorded j v (hrecord j v hrec) with hin | hpair
    · left
      rw [hsettled]
      by_cases hv : v = udid
      · subst hv
        have hj := hleaves.2 j hin
        rw [hj] at hrec
        exact absurd hrec (hgone v)
      · rw [Function.update_of_ne hv]
        exact hin
    · exact Or.inr hpair
  · intro j v h
    rw [hpairing] at h
    rcases hnames j v (ht.registering j v h) with hkept | ⟨hj, -⟩
    · exact hkept
    · rw [hj] at h
      exact absurd h (hleaves.1 v)
  · intro v j h
    rw [hpairing]
    exact ht.paired v j (hstill v j h).1

/-- A pairing task comes back, and finds its connection on record. -/
theorem Hotplug.Tracks.pairs (ht : s.Tracks) (hs : s.Sane) (hasking : (s.plug k).pairing = .asking)
    (hfound : (s.known k).isSome = true ∨ s.loop = .recording k udid) :
    ((s.learn k ((s.known k).map fun _ => udid)).set k
      { s.plug k with pairing := .registering udid }).Tracks := by
  have hnot : ∀ v, s.settled v ≠ some k := by
    intro v hv
    have := ht.paired v k hv
    grind
  have hplug : ∀ j, j ≠ k → ((s.learn k ((s.known k).map fun _ => udid)).set k
      { s.plug k with pairing := .registering udid }).plug j = s.plug j :=
    fun j hj => Function.update_of_ne hj ..
  have hnames : ∀ j v, j ≠ k → s.Names j v →
      ((s.learn k ((s.known k).map fun _ => udid)).set k
        { s.plug k with pairing := .registering udid }).Names j v := by
    intro j v hj h
    rw [names_iff] at h ⊢
    simp only [Hotplug.set, Hotplug.learn, Function.update_of_ne hj]
    exact h
  refine ⟨?_, ?_, ?_, ?_⟩
  · intro v j h
    have hj : j ≠ k := fun heq => hnot v (heq ▸ h)
    exact hnames j v hj (ht.named v j h)
  · intro j v hrec
    by_cases hj : j = k
    · subst hj
      right; right; right
      simp only [Hotplug.OnRecord, Hotplug.set, Hotplug.learn, Function.update_self] at hrec ⊢
      rcases hrec with hmap | hloop
      · obtain ⟨w, -, hw⟩ := Option.map_eq_some_iff.mp hmap
        rw [hw]
      · rcases hfound with hsome | hloop'
        · -- what is being recorded is not on record yet
          obtain ⟨w, hw⟩ := Option.isSome_iff_exists.mp hsome
          have hunborn := ((hs j).handled (Or.inr ⟨v, hloop⟩)).1
          rw [(hs j).waiting w hw] at hunborn
          cases hunborn
        · rw [hloop] at hloop'
          cases hloop'
          rfl
    · rw [hplug j hj]
      simp only [Hotplug.OnRecord, Hotplug.set, Hotplug.learn, Function.update_of_ne hj] at hrec
      exact ht.recorded j v hrec
  · intro j v h
    by_cases hj : j = k
    · subst hj
      simp only [Hotplug.set, Function.update_self] at h
      cases h
      rw [names_iff]
      simp only [Hotplug.set, Hotplug.learn, Function.update_self]
      rcases hfound with hsome | hloop
      · obtain ⟨w, hw⟩ := Option.isSome_iff_exists.mp hsome
        left
        rw [hw]
        rfl
      · exact Or.inr (Or.inl hloop)
    · rw [hplug j hj] at h
      exact hnames j v hj (ht.registering j v h)
  · intro v j h
    have hj : j ≠ k := fun heq => hnot v (heq ▸ h)
    rw [hplug j hj]
    exact ht.paired v j h

theorem Hotplug.Stepped.tracks (h : s.Stepped cfg a s') (hs : s.Sane) (ht : s.Tracks)
    (hC : Untangled s a s') : s'.Tracks := by
  cases h with
  | plug =>
      have hlater := (hs s.count).later (Nat.le_refl _)
      exact ht.touch rfl rfl (fun _ _ => ⟨Iff.rfl, Iff.rfl⟩)
        (Hotplug.set_plug hlater.2.1.symm hlater.2.2.symm)
  | unplug =>
      exact ht.touch rfl rfl (fun _ _ => ⟨Iff.rfl, Iff.rfl⟩) (Hotplug.set_plug rfl rfl)
  | take hloop =>
      exact ht.touch rfl rfl (fun _ _ => by simp [hloop]) (Hotplug.set_plug rfl rfl)
  | skip =>
      exact ht.touch rfl rfl (fun _ _ => ⟨Iff.rfl, Iff.rfl⟩) (Hotplug.set_plug rfl rfl)
  | paired hloop =>
      rename_i k udid
      have hidle := (hs k).connecting hloop
      have hnone : s.known k = none := by
        cases hk : s.known k with
        | none => rfl
        | some v => exact absurd (.known hk) (hs.nameless hloop)
      refine ht.register (s.plug k).info (by simp [Hotplug.send]) (hC k hloop) (.recording rfl) ?_
        (Or.inl hidle) ?_ ?_
      · intro j v hj
        rw [names_iff] at hj ⊢
        simp only [Hotplug.send]
        grind
      · intro v hv
        simp only [Hotplug.OnRecord, Hotplug.send] at hv
        grind
      · intro j hj
        simp only [Hotplug.OnRecord, Hotplug.send]
        grind
  | unpaired hloop =>
      rename_i k
      refine ht.frame rfl ?_ ?_
      · intro j v hj
        rw [names_iff] at hj ⊢
        simp only [Hotplug.set, Function.update_apply]
        grind
      · intro j
        by_cases hj : j = k
        · subst hj
          refine Or.inr ⟨?_, fun v hv => hs.nameless hloop (ht.named v j hv)⟩
          simp [Hotplug.set]
        · simp only [Hotplug.OnRecord, Hotplug.set, Function.update_apply]
          grind
  | record hloop =>
      rename_i k udid
      refine ht.hand rfl ?_ ?_ ?_
      · intro j v hj
        simp [hloop, Ne.symm hj]
      · intro v hv
        left
        rw [hs.name_unique hv (.recording hloop)]
      · rintro v (hv | hv)
        · cases hv
          exact Or.inr hloop
        · cases hv
  | drop hloop =>
      rename_i k _ _
      refine ht.hand rfl ?_ ?_ ?_
      · intro j v hj
        rw [hloop]
        cases s.known k <;> simp [Ne.symm hj]
      · intro v hv
        cases hv with
        | known h => simp [h]
        | recording h => simp [hloop] at h
        | leaving h => simp [hloop] at h
        | watched h => exact Or.inr (Or.inr (Or.inr h))
      · intro v hv
        cases hk : s.known k <;> simp [hk] at hv
  | sendRemove hloop =>
      rename_i k udid
      have hnone := ((hs k).leaving udid hloop).1
      refine ht.remove (by simp [Hotplug.send]) (hC k udid hloop) ?_ ?_ (fun j => rfl) ?_
      · intro j v hj
        rw [names_iff] at hj
        rw [names_iff]
        simp only [Hotplug.send]
        grind
      · intro v
        simp only [Hotplug.OnRecord, Hotplug.send]
        grind
      · intro j v
        simp only [Hotplug.OnRecord, Hotplug.send]
        grind
  | exits =>
      exact ht.touch rfl rfl (fun _ _ => ⟨Iff.rfl, Iff.rfl⟩) (Hotplug.set_plug rfl rfl)
  | watch hwaiting =>
      refine ht.hand rfl (fun _ _ _ => ⟨Iff.rfl, Iff.rfl⟩) ?_ ?_
      · intro v hv
        cases hv with
        | known h => simp [h]
        | recording h => exact Or.inr (Or.inl h)
        | leaving h => exact Or.inr (Or.inr (Or.inl h))
        | watched h => simp [hwaiting] at h
      · rintro v (hv | hv)
        · cases hv
        · exact Or.inr hv
  | watchSend hremoving =>
      rename_i k udid
      have hwaiting := (hs k).waiting
      have hhandled := (hs k).handled
      refine ht.remove (by simp [Hotplug.send, Hotplug.set]) (hC udid hremoving) ?_ ?_ ?_ ?_
      · intro j v hj
        rw [names_iff] at hj
        rw [names_iff]
        simp only [Hotplug.send, Hotplug.set, Function.update_apply]
        grind
      · intro v
        simp only [Hotplug.OnRecord, Hotplug.send, Hotplug.set]
        grind
      · intro j
        simp only [Hotplug.send, Hotplug.set, Function.update_apply]
        grind
      · intro j v hrec
        exact hrec
  | pairs hasking => exact ht.pairs hs hasking hC
  | pairSend hregistering =>
      rename_i k udid
      have hname := ht.registering k udid hregistering
      have hunique : ∀ v, s.Names k v → v = udid := fun v h => hs.name_unique h hname
      refine ht.register (s.plug k).info (by simp [Hotplug.send, Hotplug.set])
        (hC udid hregistering) ?_ ?_ ?_ ?_ ?_
      · rw [names_iff] at hname ⊢
        simp only [Hotplug.send, Hotplug.set, Function.update_apply]
        grind
      · intro j v hj
        rw [names_iff] at hj ⊢
        simp only [Hotplug.send, Hotplug.set, Function.update_apply]
        grind
      · right
        simp [Hotplug.set]
      · intro v hv
        rcases hv with hv | hv
        · exact hunique v (.known hv)
        · exact hunique v (.recording hv)
      · intro j hj
        simp only [Hotplug.OnRecord, Hotplug.send, Hotplug.set, Function.update_apply]
        grind
  | pairFails hasking =>
      rename_i k
      refine ht.frame rfl ?_ ?_
      · intro j v hj
        rw [names_iff] at hj ⊢
        simp only [Hotplug.set, Function.update_apply]
        grind
      · intro j
        by_cases hj : j = k
        · subst hj
          refine Or.inr ⟨by simp [Hotplug.set], fun v hv => ?_⟩
          have := ht.paired v j hv
          grind
        · simp only [Hotplug.OnRecord, Hotplug.set, Function.update_apply]
          grind
  | serve hqueue =>
      refine ht.touch ?_ rfl (fun _ _ => ⟨Iff.rfl, Iff.rfl⟩) fun _ => ⟨rfl, rfl⟩
      dsimp only
      rw [hqueue, List.append_assoc, List.singleton_append]

end

/-! ### What the manager has been told -/

/-- The manager shows the table of what it has been served, and no removal that was ever sent
meets another connection's entry. -/
structure Hotplug.Delivered (s : Hotplug) : Prop where
  shows : s.mgr.Shows (replay (s.served.map UsbMessage.edit))
  removals : ∀ pre k udid post, s.served ++ s.queue = pre ++ .removed k udid :: post →
    ∀ j, replay (pre.map UsbMessage.edit) udid = some j → j = k

section
variable {cfg : Config} {s s' : Hotplug} {a : HotplugStep}

theorem Hotplug.Delivered.send (hd : s.Delivered) {message : UsbMessage}
    (hmgr : s'.mgr = s.mgr) (hserved : s'.served = s.served)
    (hqueue : s'.queue = s.queue ++ [message])
    (hown : ∀ k udid, message = .removed k udid → ∀ j, s.settled udid = some j → j = k) :
    s'.Delivered where
  shows := by
    rw [hmgr, hserved]
    exact hd.shows
  removals := by
    intro pre k udid post heq
    rw [hserved, hqueue, ← List.append_assoc] at heq
    rcases snoc_eq_append_cons heq with ⟨hpre, hlast⟩ | ⟨post', hold⟩
    · rw [hpre]
      exact hown k udid hlast.symm
    · exact hd.removals pre k udid post' hold

theorem Hotplug.Stepped.delivered (h : s.Stepped cfg a s') (hd : s.Delivered)
    (hC : Untangled s a s') : s'.Delivered := by
  cases h with
  | paired hloop =>
      refine hd.send rfl rfl rfl ?_
      intro k udid heq
      cases heq
  | pairSend hregistering =>
      refine hd.send rfl rfl rfl ?_
      intro k udid heq
      cases heq
  | sendRemove hloop =>
      refine hd.send rfl rfl rfl ?_
      intro k udid heq
      cases heq
      exact (hC _ _ hloop).2
  | watchSend hremoving =>
      refine hd.send rfl rfl rfl ?_
      intro k udid heq
      cases heq
      exact (hC _ hremoving).2
  | serve hqueue hserved =>
      refine ⟨?_, ?_⟩
      · dsimp only
        have hshow := hd.shows.serve hserved hC
        unfold replay at hshow ⊢
        rw [List.map_append, List.foldl_append]
        exact hshow
      · intro pre k udid post heq
        refine hd.removals pre k udid post ?_
        rw [hqueue, ← heq, List.append_assoc, List.singleton_append]
  | _ => exact ⟨hd.shows, hd.removals⟩

/-! ### Agreement -/

theorem Hotplug.tracks_start (cfg : Config) : (Hotplug.start cfg).Tracks := by
  refine ⟨?_, ?_, ?_, ?_⟩
  · intro udid k h
    cases h
  · rintro k udid (h | h)
    · cases h
    · cases h
  · intro k udid h
    cases h
  · intro udid k h
    cases h

theorem Hotplug.delivered_start (cfg : Config) : (Hotplug.start cfg).Delivered where
  shows := shows_start cfg
  removals := by
    intro pre k udid post heq
    simp [Hotplug.start] at heq

/-- The table and the entries are the same thing. -/
theorem Manager.Shows.hasUsb_iff {m : Manager} {table : String → Option UsbMuxHandle}
    (h : m.Shows table) {udid : String} {handle : UsbMuxHandle} :
    m.HasUsb udid handle ↔ table udid = some handle := by
  constructor
  · rintro ⟨id, dev, hdev, ⟨hserial, -⟩, hhandle⟩
    obtain ⟨-, g, hg, htable⟩ := h.sound id dev hdev
    rw [hg] at hhandle
    cases hhandle
    rw [← hserial]
    exact htable
  · intro htable
    obtain ⟨id, dev, hdev, hserial⟩ := h.complete udid handle htable
    obtain ⟨husb, g, hg, htable'⟩ := h.sound id dev hdev
    rw [hserial, htable] at htable'
    cases htable'
    exact ⟨id, dev, hdev, ⟨hserial, husb⟩, hg⟩

theorem Hotplug.Quiet.agrees (hq : s.Quiet) (hs : s.Sane) (ht : s.Tracks) (hd : s.Delivered) :
    s.Agrees := by
  have hsettled : s.settled = replay (s.served.map UsbMessage.edit) := by
    unfold Hotplug.settled
    rw [hq.queue, List.append_nil]
  have hentry : ∀ udid h, s.mgr.HasUsb udid h ↔ s.settled udid = some h := by
    intro udid h
    rw [hsettled]
    exact hd.shows.hasUsb_iff
  have hknown : ∀ k udid, s.known k = some udid → s.settled udid = some k := by
    intro k udid hk
    rcases ht.recorded k udid (Or.inl hk) with h | h | h | h
    · exact h
    · exact absurd h (hq.plugs k).asking
    · -- its mux task has been shut down, which has been noticed
      exact absurd ((hs k).waiting udid hk) ((hq.plugs k).noticed ((hq.plugs k).shutDown h))
    · exact absurd h ((hq.plugs k).registering udid)
  have hown : ∀ udid h, s.settled udid = some h →
      s.known h = some udid ∧ (s.plug h).connected = true := by
    intro udid h hin
    have hk : s.known h = some udid := by
      cases ht.named udid h hin with
      | known hk => exact hk
      | recording hloop => rw [hq.loop] at hloop; cases hloop
      | leaving hloop => rw [hq.loop] at hloop; cases hloop
      | watched hw => exact absurd hw ((hq.plugs h).removing udid)
    refine ⟨hk, ?_⟩
    by_contra hconn
    have hleft := (hq.plugs h).gone (by simpa using hconn)
    have hnone := (hs h).unknown (by rw [hleft]; decide)
    rw [hk] at hnone
    cases hnone
  refine ⟨?_, ?_, ?_⟩
  · intro udid
    constructor
    · rintro ⟨id, dev, hdev, hserial, hct⟩
      obtain ⟨-, h, hh, -⟩ := hd.shows.sound id dev hdev
      exact ⟨h, hown udid h ((hentry udid h).mp ⟨id, dev, hdev, ⟨hserial, hct⟩, hh⟩)⟩
    · rintro ⟨k, hk, -⟩
      obtain ⟨id, dev, hdev, hm, -⟩ := (hentry udid k).mpr (hknown k udid hk)
      exact ⟨id, dev, hdev, hm⟩
  · intro k udid hk _
    exact (hentry udid k).mpr (hknown k udid hk)
  · intro id dev h hdev hct hh
    exact hown _ h ((hentry _ h).mp ⟨id, dev, hdev, ⟨rfl, hct⟩, hh⟩)

theorem Hotplug.Delivered.removesOwn (hd : s.Delivered) : RemovesOwn s a s' := by
  cases a with
  | serve order =>
      intro k udid rest hqueue h hentry
      rw [hd.shows.hasUsb_iff] at hentry
      exact hd.removals s.served k udid rest (by rw [hqueue]) h hentry
  | _ => trivial

/-- **Hotplug bookkeeping and the manager agree.**  In every run without entanglements the
manager's USB entries are those of the known connections whenever nothing is outstanding,
and no removal takes away the entry of another connection. -/
theorem hotplug_agrees {tr : List (Hotplug × HotplugStep × Hotplug)}
    (hrun : Run (Hotplug.Step cfg) (Hotplug.start cfg) tr s) (hC : EveryStep Untangled tr) :
    (s.Quiet → s.Agrees) ∧ EveryStep RemovesOwn tr := by
  have hinit : (Hotplug.start cfg).Sane ∧ (Hotplug.start cfg).Tracks ∧
      (Hotplug.start cfg).Delivered :=
    ⟨Hotplug.sane_start cfg, Hotplug.tracks_start cfg, Hotplug.delivered_start cfg⟩
  have hstep : ∀ s a s', s.Sane ∧ s.Tracks ∧ s.Delivered → Hotplug.Step cfg s a s' →
      Untangled s a s' → s'.Sane ∧ s'.Tracks ∧ s'.Delivered := by
    rintro s a s' ⟨hs, ht, hd⟩ hstep hC
    exact ⟨hstep.stepped.sane hs, hstep.stepped.tracks hs ht hC, hstep.stepped.delivered hd hC⟩
  constructor
  · intro hq
    obtain ⟨hs, ht, hd⟩ := Run.invariant_of
      (P := fun s : Hotplug => s.Sane ∧ s.Tracks ∧ s.Delivered) hinit hstep hrun hC
    exact hq.agrees hs ht hd
  · refine Run.everyStep_of (P := fun s : Hotplug => s.Sane ∧ s.Tracks ∧ s.Delivered) hinit hstep
      ?_ hrun hC
    rintro s a s' ⟨-, -, hd⟩ - -
    exact hd.removesOwn

end

/-! ### Two runs -/

/-- The steps of a list, taken in order, with `C` checked at each. -/
def Hotplug.Plays (cfg : Config) (C : Hotplug → HotplugStep → Hotplug → Prop)
    (as : List HotplugStep) (s : Hotplug) : Prop :=
  Lib.Plays (Hotplug.next cfg) (fun s a s' => a.Valid s ∧ C s a s') (Hotplug.start cfg) as s

theorem Hotplug.Plays.run {cfg : Config} {C : Hotplug → HotplugStep → Hotplug → Prop}
    {as : List HotplugStep} {s : Hotplug} (h : Hotplug.Plays cfg C as s) :
    ∃ tr, Run (Hotplug.Step cfg) (Hotplug.start cfg) tr s ∧ EveryStep C tr := by
  obtain ⟨tr, hrun, hall, -⟩ := Run.of_plays
    (fun s a s' hnext hC => show Hotplug.Step cfg s a s' from ⟨hnext, hC.1⟩) h
  exact ⟨tr, hrun, hall.imp fun _ _ _ hC => hC.2⟩

/-- What is not plugged in is settled. -/
theorem settled_unplugged : Plug.Settled { raw := "", info := ⟨0, 0, 0⟩, notice := .left } := by
  constructor <;> simp

/-- A device that has a pairing record is plugged in. -/
theorem paired_device_agrees :
    ∃ s tr, Run (Hotplug.Step ⟨false, false, false⟩) (Hotplug.start ⟨false, false, false⟩) tr s ∧
      EveryStep Untangled tr ∧ s.Quiet ∧ s.Agrees ∧ s.mgr.HasUsb "u" 0 := by
  have hplays : Hotplug.Plays ⟨false, false, false⟩ Untangled
      [.plug "u" ⟨1, 2, 3⟩, .take 0, .paired "u", .record, .serve []] _ :=
    ⟨_, rfl, ⟨trivial, trivial⟩, _, rfl, ⟨trivial, trivial⟩,
      _, rfl, ⟨trivial, fun k hk j hj h => by
        cases hk
        simp [Hotplug.GoesBy, names_iff, Hotplug.set, Hotplug.start, hj] at h⟩,
      _, rfl, ⟨trivial, trivial⟩, _, rfl, ⟨orderOf_nil, show (1 : UInt64) ≤ 2 by decide⟩, rfl⟩
  obtain ⟨tr, hrun, hC⟩ := hplays.run
  refine ⟨_, tr, hrun, hC, ?_⟩
  have hagrees := (hotplug_agrees hrun hC).1
  suffices hquiet : Hotplug.Quiet _ from
    ⟨hquiet, hagrees hquiet, (hagrees hquiet).handle 0 "u" rfl rfl⟩
  refine ⟨rfl, rfl, fun k => ?_⟩
  by_cases hk : k = 0
  · subst hk
    constructor <;> simp [Hotplug.set, Hotplug.learn, Hotplug.send, Hotplug.start]
  · simp only [Hotplug.set, Hotplug.learn, Hotplug.send, Hotplug.start, Function.update_of_ne hk]
    exact settled_unplugged

/-- A device is unplugged while the user is asked to trust this host, and the answer is
already on its way: the device is listed after it has gone, and stays so. -/
theorem late_pairing_stays_listed :
    ∃ s tr, Run (Hotplug.Step ⟨false, false, false⟩) (Hotplug.start ⟨false, false, false⟩) tr s ∧
      s.Quiet ∧ ¬ s.Agrees := by
  have hplays : Hotplug.Plays ⟨false, false, false⟩ (fun _ _ _ => True)
      [.plug "u" ⟨1, 2, 3⟩, .take 0, .unpaired, .record, .unplug 0, .drop 0, .sendRemove, .exits 0,
        .watch 0, .pairs 0 "u", .pairSend 0, .serve [], .serve []] _ :=
    ⟨_, rfl, ⟨trivial, trivial⟩, _, rfl, ⟨trivial, trivial⟩, _, rfl, ⟨trivial, trivial⟩,
      _, rfl, ⟨trivial, trivial⟩, _, rfl, ⟨trivial, trivial⟩, _, rfl, ⟨trivial, trivial⟩,
      _, rfl, ⟨trivial, trivial⟩, _, rfl, ⟨trivial, trivial⟩, _, rfl, ⟨trivial, trivial⟩,
      _, rfl, ⟨trivial, trivial⟩, _, rfl, ⟨trivial, trivial⟩, _, rfl, ⟨orderOf_nil, trivial⟩,
      _, rfl, ⟨orderOf_nil, trivial⟩, rfl⟩
  obtain ⟨tr, hrun, -⟩ := hplays.run
  refine ⟨_, tr, hrun, ⟨rfl, rfl, fun k => ?_⟩, fun hagree => ?_⟩
  · by_cases hk : k = 0
    · subst hk
      exact ⟨nofun, fun _ => rfl, nofun, nofun, nofun, nofun, nofun⟩
    · simp only [Hotplug.set, Hotplug.learn, Hotplug.send, Hotplug.start, Function.update_of_ne hk]
      exact settled_unplugged
  · obtain ⟨k, hk, -⟩ := (hagree.listed "u").mp ⟨1, _, rfl, rfl, rfl⟩
    simp [Hotplug.set, Hotplug.learn, Hotplug.send, Hotplug.start] at hk

end Netmuxd
