/-
The polling loop is the hotplug loop.

A session's own entry is the one under its key, as long as no later session has the key.
Where no task acts on the entry of a later session, each session is a connection of
`Netmuxd.Daemon.Hotplug` that is plugged in when it is opened and unplugged when a scan no
longer finds it, and the manager cannot tell the two loops apart.
-/
import Netmuxd.Proofs.Polling

namespace Netmuxd

open Lib

/-! ### The hotplug loop -/

/-- No later session has the key of this one. -/
def Polling.Newest (s : Polling) (j : Nat) : Prop :=
  ∀ i, j < i → i < s.count → (s.session i).key ≠ (s.session j).key

/-- The task of a session acts on no entry of a later one. -/
def ActsOnOwn (s : Polling) : PollingStep → Polling → Prop
  | .watch j, _ | .pairs j _, _ => s.known (s.session j).key = none ∨ s.Newest j
  | _, _ => True

/-- A session as a connection of the hotplug loop. -/
structure MuxSession.IsPlug (p : MuxSession) (q : Plug) : Prop where
  raw : q.raw = p.raw
  info : q.info = p.info
  mux : q.mux = p.mux
  pairing : q.pairing = p.pairing
  watcher : q.watcher = p.watcher

/-- Where the hotplug loop is meanwhile. -/
def PollingAt.Seen : PollingAt → LoopAt → Prop
  | .connecting _ _ j, l => l = .connecting j
  | .recording _ _ j udid, l => l = .recording j udid
  | .removing _ _ udid, l => ∃ k, l = .removing k udid
  | _, l => l = .idle

/-- The same manager, the same requests, and each session a connection that is known by the
entry under its key. -/
structure Polling.Matches (s : Polling) (h : Hotplug) : Prop where
  mgr : h.mgr = s.mgr
  served : h.served.map UsbMessage.request = s.served
  queue : h.queue.map UsbMessage.request = s.queue
  count : h.count = s.count
  plug : ∀ j, j < s.count → (s.session j).IsPlug (h.plug j)
  known : ∀ j udid, h.known j = some udid ↔
    j < s.count ∧ s.Newest j ∧ s.known (s.session j).key = some udid
  loop : s.loop.Seen h.loop
  taken : ∀ j, (h.known j).isSome = true ∨ s.loop.entering = some j → (h.plug j).notice = .taken

section
variable {cfg : Config} {s s' : Polling} {h : Hotplug} {a : PollingStep}

theorem Polling.matches_start (cfg : Config) : (Polling.start cfg).Matches (Hotplug.start cfg) := by
  constructor <;> simp [Polling.start, Hotplug.start, PollingAt.Seen, PollingAt.entering]

theorem Polling.Matches.move (hm : s.Matches h) {l : PollingAt} {l' : LoopAt} (hseen : l.Seen l')
    (htaken : ∀ j, l.entering = some j → (h.plug j).notice = .taken) :
    Polling.Matches { s with loop := l } { h with loop := l' } where
  mgr := hm.mgr
  served := hm.served
  queue := hm.queue
  count := hm.count
  plug := hm.plug
  known := hm.known
  loop := hseen
  taken := fun j hj => hj.elim (fun hknown => hm.taken j (.inl hknown)) (htaken j)

theorem Polling.Matches.send (hm : s.Matches h) (message : UsbMessage) :
    (s.send message.request).Matches (h.send message) :=
  { hm with
    queue := by
      show (h.queue ++ [message]).map UsbMessage.request = s.queue ++ [message.request]
      rw [List.map_append, hm.queue, List.map_singleton] }

theorem Polling.newest_set {j : Nat} {p : MuxSession} (hkey : p.key = (s.session j).key) {i : Nat} :
    (s.set j p).Newest i ↔ s.Newest i := by
  unfold Polling.Newest
  refine forall_congr' fun k => imp_congr_right fun _ => imp_congr_right fun _ => ?_
  show (Function.update s.session j p k).key ≠ (Function.update s.session j p i).key ↔ _
  rw [Polling.set_key hkey, Polling.set_key hkey]

/-- A step of a session that is one of its connection. -/
theorem Polling.Matches.touch (hm : s.Matches h) {j : Nat} {p : MuxSession} {q : Plug}
    (hkey : p.key = (s.session j).key) (hplug : p.IsPlug q)
    (hnotice : q.notice = (h.plug j).notice) : (s.set j p).Matches (h.set j q) where
  mgr := hm.mgr
  served := hm.served
  queue := hm.queue
  count := hm.count
  plug := by
    intro i hi
    show (Function.update s.session j p i).IsPlug (Function.update h.plug j q i)
    by_cases hij : i = j
    · rw [hij, Function.update_self, Function.update_self]
      exact hplug
    · rw [Function.update_of_ne hij, Function.update_of_ne hij]
      exact hm.plug i hi
  known := by
    intro i udid
    rw [Polling.newest_set hkey]
    show _ ↔ _ ∧ _ ∧ s.known (Function.update s.session j p i).key = some udid
    rw [Polling.set_key hkey]
    exact hm.known i udid
  loop := hm.loop
  taken := by
    intro i hi
    show (Function.update h.plug j q i).notice = .taken
    by_cases hij : i = j
    · rw [hij, Function.update_self, hnotice, ← hij]
      exact hm.taken i hi
    · rw [Function.update_of_ne hij]
      exact hm.taken i hi

/-- Two newest sessions with one key are one. -/
theorem Polling.Newest.unique {i j : Nat} (hi : i < s.count) (hj : j < s.count)
    (hinewest : s.Newest i) (hjnewest : s.Newest j)
    (hkey : (s.session i).key = (s.session j).key) : i = j := by
  rcases Nat.lt_trichotomy i j with hlt | heq | hgt
  · exact absurd hkey.symm (hinewest j hlt hj)
  · exact heq
  · exact absurd hkey (hjnewest i hgt hi)

/-- The entry of the newest session with a key. -/
theorem Polling.Matches.learn (hm : s.Matches h) {j : Nat} {o : Option String} (hj : j < s.count)
    (hnewest : s.Newest j) (hnotice : (h.plug j).notice = .taken) :
    (s.learn (s.session j).key o).Matches (h.learn j o) where
  mgr := hm.mgr
  served := hm.served
  queue := hm.queue
  count := hm.count
  plug := hm.plug
  known := by
    intro i udid
    show Function.update h.known j o i = some udid ↔ i < s.count ∧ s.Newest i ∧
      Function.update s.known (s.session j).key o (s.session i).key = some udid
    by_cases hij : i = j
    · subst hij
      rw [Function.update_self, Function.update_self]
      exact ⟨fun ho => ⟨hj, hnewest, ho⟩, fun ho => ho.2.2⟩
    · rw [Function.update_of_ne hij, hm.known]
      refine and_congr_right fun hi => and_congr_right fun hinewest => ?_
      rw [Function.update_of_ne]
      exact fun hkey => hij (hinewest.unique hi hj hnewest hkey)
  loop := hm.loop
  taken := by
    intro i hi
    by_cases hij : i = j
    · rw [hij]
      exact hnotice
    · refine hm.taken i (hi.imp_left fun hknown => ?_)
      rwa [show (h.learn j o).known i = h.known i from Function.update_of_ne hij ..] at hknown

/-- The connection of a session whose key has no entry is not known. -/
theorem Polling.Matches.known_none (hm : s.Matches h) {j : Nat}
    (hnone : s.known (s.session j).key = none) : h.known j = none := by
  rw [Option.eq_none_iff_forall_ne_some]
  intro udid hudid
  rw [((hm.known j udid).mp hudid).2.2] at hnone
  cases hnone

theorem Polling.learn_self {key : String} (hnone : s.known key = none) :
    s.learn key none = s := by
  rw [Polling.learn, ← hnone, Function.update_eq_self]

theorem Hotplug.learn_self {j : Nat} (hnone : h.known j = none) : h.learn j none = h := by
  rw [Hotplug.learn, ← hnone, Function.update_eq_self]

/-- A new session is a device that is plugged in and taken up at once. -/
theorem Polling.Matches.opened (hm : s.Matches h) {scan : Rescan} {rest : List String}
    {key raw : String} {info : DeviceMeta} (hnone : s.known key = none) (hloop : h.loop = .idle) :
    ∃ tr' h', Run (Hotplug.Step cfg) h tr' h' ∧
      Polling.Matches
        { s.set s.count { key, raw, info } with
          count := s.count + 1
          loop := .connecting scan rest s.count } h' := by
  have hplugged : Hotplug.Step cfg h (.plug raw info)
      { h.set h.count { raw, info } with count := h.count + 1 } := ⟨rfl, trivial⟩
  have hself : Function.update h.plug h.count { raw, info } h.count = { raw, info } :=
    Function.update_self ..
  have htaken : Hotplug.Step cfg { h.set h.count { raw, info } with count := h.count + 1 }
      (.take h.count)
      { (h.set h.count { raw, info }).set h.count { raw, info, notice := .taken, mux := true } with
        count := h.count + 1
        loop := .connecting h.count } := by
    refine ⟨?_, trivial⟩
    simp only [Hotplug.next, Hotplug.set, hself, hloop]
  refine ⟨_, _, (Run.single hplugged).trans (Run.single htaken), ?_⟩
  have hcount := hm.count
  constructor
  case mgr => exact hm.mgr
  case served => exact hm.served
  case queue => exact hm.queue
  case count => exact congrArg (· + 1) hcount
  case plug =>
    intro j hj
    simp only [Hotplug.set, Polling.set, Function.update_apply, hcount]
    by_cases heq : j = s.count
    · rw [if_pos heq, if_pos heq]
      exact ⟨rfl, rfl, rfl, rfl, rfl⟩
    · rw [if_neg heq, if_neg heq, if_neg heq]
      exact hm.plug j (Nat.lt_of_le_of_ne (Nat.le_of_lt_succ hj) heq)
  case known =>
    intro j udid
    show h.known j = some udid ↔ j < s.count + 1 ∧ (∀ i, j < i → i < s.count + 1 →
      (Function.update s.session s.count _ i).key ≠ (Function.update s.session s.count _ j).key) ∧
      s.known (Function.update s.session s.count _ j).key = some udid
    rw [hm.known]
    rcases Nat.lt_trichotomy j s.count with hlt | heq | hgt
    · rw [Function.update_of_ne (Nat.ne_of_lt hlt)]
      constructor
      · rintro ⟨-, hnewest, hknown⟩
        refine ⟨Nat.lt_succ_of_lt hlt, fun i hji hi => ?_, hknown⟩
        by_cases hicount : i = s.count
        · rw [hicount, Function.update_self]
          intro hkey
          rw [← hkey, hnone] at hknown
          cases hknown
        · rw [Function.update_of_ne hicount]
          exact hnewest i hji (Nat.lt_of_le_of_ne (Nat.le_of_lt_succ hi) hicount)
      · rintro ⟨-, hnewest, hknown⟩
        refine ⟨hlt, fun i hji hi => ?_, hknown⟩
        have hne := hnewest i hji (Nat.lt_succ_of_lt hi)
        rwa [Function.update_of_ne (Nat.ne_of_lt hi)] at hne
    · subst heq
      rw [Function.update_self]
      constructor
      · rintro ⟨hlt, -⟩
        exact absurd hlt (Nat.lt_irrefl _)
      · rintro ⟨-, -, hknown⟩
        rw [hnone] at hknown
        cases hknown
    · constructor
      · rintro ⟨hlt, -⟩
        exact absurd hlt (Nat.lt_asymm hgt)
      · rintro ⟨hlt, -⟩
        omega
  case loop =>
    show LoopAt.connecting h.count = .connecting s.count
    rw [hcount]
  case taken =>
    intro j hj
    simp only [Hotplug.set, Function.update_apply, hcount]
    by_cases heq : j = s.count
    · rw [if_pos heq]
    · rw [if_neg heq, if_neg heq]
      refine hm.taken j (.inl (hj.resolve_right fun hj => heq ?_))
      exact (Option.some.inj hj).symm

/-- A move of the loop that the hotplug loop does not see. -/
theorem Polling.Matches.unseen (hm : s.Matches h) {l : PollingAt} (hseen : l.Seen h.loop)
    (hentering : l.entering = none) : Polling.Matches { s with loop := l } h :=
  show Polling.Matches _ { h with loop := h.loop } from hm.move hseen fun j hj => by
    rw [hentering] at hj
    cases hj

/-- The key that is taken out is the entry of its newest session. -/
theorem Polling.Numbered.owner (hs : s.Numbered) {key udid : String}
    (hknown : s.known key = some udid) :
    ∃ j, j < s.count ∧ s.Newest j ∧ (s.session j).key = key := by
  obtain ⟨i, hi, hkey⟩ := hs.owned key (by rw [hknown]; rfl)
  -- the last session of those before `n` that have the key
  have hlast : ∀ n, i < n → ∃ j, j < n ∧ (s.session j).key = key ∧
      ∀ k, j < k → k < n → (s.session k).key ≠ key := by
    intro n
    induction n with
    | zero => intro hin; omega
    | succ n ih =>
        intro hin
        by_cases hn : (s.session n).key = key
        · exact ⟨n, Nat.lt_succ_self n, hn, fun k hk hkn => absurd hkn (by omega)⟩
        · have hne : i ≠ n := fun heq => hn (heq ▸ hkey)
          obtain ⟨j, hj, hjkey, hlater⟩ := ih (by omega)
          refine ⟨j, by omega, hjkey, fun k hk hkn => ?_⟩
          by_cases hkn' : k = n
          · rw [hkn']
            exact hn
          · exact hlater k hk (by omega)
  obtain ⟨j, hj, hjkey, hlater⟩ := hlast s.count hi
  exact ⟨j, hj, fun k hk hkn => hjkey ▸ hlater k hk hkn, hjkey⟩

theorem Polling.Stepped.simulated (hst : s.Stepped cfg a s') (hs : s.Numbered)
    (hu : s.Unentered) (hown : ActsOnOwn s a s') (hm : s.Matches h) :
    ∃ tr' h', Run (Hotplug.Step cfg) h tr' h' ∧ s'.Matches h' := by
  have hseen := hm.loop
  cases hst with
  | scanned hloop =>
      rw [hloop] at hseen
      exact ⟨[], h, Run.nil, hm.unseen hseen rfl⟩
  | scanFails hloop => exact ⟨[], h, Run.nil, hm⟩
  | compare hloop =>
      rw [hloop] at hseen
      exact ⟨[], h, Run.nil, hm.unseen hseen rfl⟩
  | pass hloop hactive =>
      rw [hloop] at hseen
      exact ⟨[], h, Run.nil, hm.unseen hseen rfl⟩
  | openFails hloop hactive =>
      rw [hloop] at hseen
      exact ⟨[], h, Run.nil, hm.unseen hseen rfl⟩
  | @opened scan key rest raw info hloop hactive =>
      rw [hloop] at hseen
      rw [Polling.Unentered, hloop] at hu
      have hnone : s.known key = none := by
        rw [← Option.not_isSome_iff_eq_none]
        intro hsome
        rw [hu.2 key (List.mem_cons_self ..) hsome] at hactive
        cases hactive
      exact hm.opened hnone hseen
  | @paired scan rest j udid hloop hudid =>
      rw [hloop] at hseen
      have hj := (hs.entering j (by rw [hloop]; rfl)).1
      have hplug := hm.plug j (by omega)
      have hnext : h.next cfg (.paired udid) =
          some { h.send (.discovered j udid (h.plug j).info) with loop := .recording j udid } := by
        simp only [Hotplug.next, show h.loop = .connecting j from hseen]
        rw [if_pos (hplug.raw ▸ hudid)]
      have hrequest : (UsbMessage.discovered j udid (h.plug j).info).request =
          (s.session j).register j udid := by
        rw [UsbMessage.request, MuxSession.register, hplug.info]
      refine ⟨_, _, Run.single ⟨hnext, trivial⟩, ?_⟩
      rw [← hrequest]
      exact (hm.send _).move rfl fun i hi => hm.taken i (.inr (by rw [hloop]; exact hi))
  | @unpaired scan rest j hloop =>
      rw [hloop] at hseen
      have hj := (hs.entering j (by rw [hloop]; rfl)).1
      have hplug := hm.plug j (by omega)
      have hnext : h.next cfg .unpaired =
          some { h.set j { h.plug j with pairing := .asking } with
            loop := .recording j (h.plug j).raw } := by
        simp only [Hotplug.next, show h.loop = .connecting j from hseen]
      have hnotice : (h.plug j).notice = .taken := hm.taken j (.inr (by rw [hloop]; rfl))
      refine ⟨_, _, Run.single ⟨hnext, trivial⟩, ?_⟩
      have htouch : (s.set j { s.session j with pairing := .asking }).Matches
          (h.set j { h.plug j with pairing := .asking }) :=
        hm.touch rfl ⟨hplug.raw, hplug.info, hplug.mux, rfl, hplug.watcher⟩ rfl
      refine htouch.move (by rw [PollingAt.Seen, hplug.raw]) fun i hi => ?_
      cases hi
      show (Function.update h.plug j _ j).notice = .taken
      rw [Function.update_self]
      exact hnotice
  | @record scan rest j udid hloop =>
      rw [hloop] at hseen
      have hj := (hs.entering j (by rw [hloop]; rfl)).1
      have hplug := hm.plug j (by omega)
      have hnotice : (h.plug j).notice = .taken := hm.taken j (.inr (by rw [hloop]; rfl))
      have hnewest : s.Newest j := fun i hji hi => absurd hji (by omega)
      have hnext : h.next cfg .record =
          some { (h.learn j (some udid)).set j { h.plug j with watcher := .waiting } with
            loop := .idle } := by
        simp only [Hotplug.next, show h.loop = .recording j udid from hseen]
      refine ⟨_, _, Run.single ⟨hnext, trivial⟩, ?_⟩
      have htouch : ((s.learn (s.session j).key (some udid)).set j
          { s.session j with watcher := .waiting }).Matches
          ((h.learn j (some udid)).set j { h.plug j with watcher := .waiting }) :=
        (hm.learn (by omega) hnewest hnotice).touch rfl
          ⟨hplug.raw, hplug.info, hplug.mux, hplug.pairing, rfl⟩ rfl
      refine htouch.move rfl fun i hi => ?_
      cases hi
  | sweep hloop hstale =>
      rw [hloop] at hseen
      exact ⟨[], h, Run.nil, hm.unseen hseen rfl⟩
  | @take scan key stale hloop =>
      rw [hloop] at hseen
      cases hk : s.known key with
      | none =>
          rw [Polling.learn_self hk]
          exact ⟨[], h, Run.nil, hm.unseen hseen rfl⟩
      | some udid =>
          obtain ⟨j, hj, hnewest, rfl⟩ := hs.owner hk
          have hknown : h.known j = some udid := (hm.known j udid).mpr ⟨hj, hnewest, hk⟩
          have hnotice := hm.taken j (.inl (by rw [hknown]; rfl))
          have hgone : Hotplug.Step cfg h (.unplug j)
              (h.set j { h.plug j with connected := false }) := by
            refine ⟨?_, trivial⟩
            rw [Hotplug.next, if_pos (by rw [hm.count]; exact hj)]
          have hdrop : Hotplug.Step cfg (h.set j { h.plug j with connected := false }) (.drop j)
              { (h.learn j none).set j { h.plug j with connected := false, notice := .left } with
                loop := .removing j udid } := by
            refine ⟨?_, trivial⟩
            simp only [Hotplug.next, Hotplug.set, Function.update_self, hnotice, hknown,
              Hotplug.learn, show h.loop = .idle from hseen, Function.update_idem]
          refine ⟨_, _, (Run.single hgone).trans (Run.single hdrop), ?_⟩
          have hlearn := hm.learn (o := none) hj hnewest hnotice
          have hplug := hm.plug j hj
          refine ⟨hm.mgr, hm.served, hm.queue, hm.count, ?_, hlearn.known, ⟨j, rfl⟩, ?_⟩
          · intro i hi
            show (s.session i).IsPlug (Function.update h.plug j _ i)
            by_cases hij : i = j
            · rw [hij, Function.update_self]
              exact ⟨hplug.raw, hplug.info, hplug.mux, hplug.pairing, hplug.watcher⟩
            · rw [Function.update_of_ne hij]
              exact hm.plug i hi
          · intro i hi
            have hij : i ≠ j := by
              rintro rfl
              rcases hi with hi | hi
              · rw [show ((h.learn i none).set i _).known i = none from
                  Function.update_self ..] at hi
                cases hi
              · cases hi
            show (Function.update h.plug j _ i).notice = .taken
            rw [Function.update_of_ne hij]
            refine hlearn.taken i (hi.imp_right fun hi => ?_)
            cases hi
  | @sendRemove scan stale udid hloop =>
      rw [hloop] at hseen
      obtain ⟨k, hk⟩ := hseen
      have hnext : h.next cfg .sendRemove =
          some { h.send (.removed k udid) with loop := .idle } := by
        simp only [Hotplug.next, hk]
      refine ⟨_, _, Run.single ⟨hnext, trivial⟩, ?_⟩
      refine Polling.Matches.move (hm.send (.removed k udid)) rfl fun i hi => ?_
      cases hi
  | rest hloop =>
      rw [hloop] at hseen
      exact ⟨[], h, Run.nil, hm.unseen hseen rfl⟩
  | @exits j hmux =>
      have hj : j < s.count := by
        by_contra hge
        rw [(hs.later j (Nat.not_lt.mp hge)).1] at hmux
        cases hmux
      have hplug := hm.plug j hj
      have hnext : h.next cfg (.exits j) = some (h.set j { h.plug j with mux := false }) := by
        rw [Hotplug.next, if_pos (hplug.mux.trans hmux)]
      exact ⟨_, _, Run.single ⟨hnext, trivial⟩, hm.touch rfl
        ⟨hplug.raw, hplug.info, rfl, hplug.pairing, hplug.watcher⟩ rfl⟩
  | @watch j hwaiting hmux =>
      have hj : j < s.count := by
        by_contra hge
        rw [(hs.later j (Nat.not_lt.mp hge)).2.2] at hwaiting
        cases hwaiting
      have hplug := hm.plug j hj
      have hwatcher := hplug.watcher.trans hwaiting
      have hexit := hplug.mux.trans hmux
      cases hk : s.known (s.session j).key with
      | none =>
          have hknown := hm.known_none hk
          have hnext : h.next cfg (.watch j) =
              some ((h.learn j none).set j { h.plug j with watcher := .over }) := by
            simp only [Hotplug.next, hwatcher, hexit, hknown]
          refine ⟨_, _, Run.single ⟨hnext, trivial⟩, ?_⟩
          rw [Polling.learn_self hk, Hotplug.learn_self hknown]
          exact hm.touch rfl ⟨hplug.raw, hplug.info, hplug.mux, hplug.pairing, rfl⟩ rfl
      | some udid =>
          have hnewest : s.Newest j := by
            refine hown.resolve_left fun hnone => ?_
            rw [hk] at hnone
            cases hnone
          have hknown := (hm.known j udid).mpr ⟨hj, hnewest, hk⟩
          have hnext : h.next cfg (.watch j) =
              some ((h.learn j none).set j { h.plug j with watcher := .removing udid }) := by
            simp only [Hotplug.next, hwatcher, hexit, hknown]
          have hnotice := hm.taken j (.inl (by rw [hknown]; rfl))
          refine ⟨_, _, Run.single ⟨hnext, trivial⟩, ?_⟩
          exact (hm.learn hj hnewest hnotice).touch rfl
            ⟨hplug.raw, hplug.info, hplug.mux, hplug.pairing, rfl⟩ rfl
  | @watchSend j udid hremoving =>
      have hj : j < s.count := by
        by_contra hge
        rw [(hs.later j (Nat.not_lt.mp hge)).2.2] at hremoving
        cases hremoving
      have hplug := hm.plug j hj
      have hnext : h.next cfg (.watchSend j) =
          some ((h.send (.removed j udid)).set j { h.plug j with watcher := .over }) := by
        simp only [Hotplug.next, hplug.watcher.trans hremoving]
      refine ⟨_, _, Run.single ⟨hnext, trivial⟩, ?_⟩
      exact (hm.send (.removed j udid)).touch rfl
        ⟨hplug.raw, hplug.info, hplug.mux, hplug.pairing, rfl⟩ rfl
  | @pairs j udid hasking =>
      have hj : j < s.count := by
        by_contra hge
        rw [(hs.later j (Nat.not_lt.mp hge)).2.1] at hasking
        cases hasking
      have hplug := hm.plug j hj
      have hnext : h.next cfg (.pairs j udid) =
          some ((h.learn j ((h.known j).map fun _ => udid)).set j
            { h.plug j with pairing := .registering udid }) := by
        simp only [Hotplug.next, hplug.pairing.trans hasking]
      refine ⟨_, _, Run.single ⟨hnext, trivial⟩, ?_⟩
      cases hk : s.known (s.session j).key with
      | none =>
          have hknown := hm.known_none hk
          rw [hknown, Option.map_none, Polling.learn_self hk, Hotplug.learn_self hknown]
          exact hm.touch rfl ⟨hplug.raw, hplug.info, hplug.mux, rfl, hplug.watcher⟩ rfl
      | some udid' =>
          have hnewest : s.Newest j := by
            refine hown.resolve_left fun hnone => ?_
            rw [hk] at hnone
            cases hnone
          have hknown := (hm.known j udid').mpr ⟨hj, hnewest, hk⟩
          have hnotice := hm.taken j (.inl (by rw [hknown]; rfl))
          rw [hknown, Option.map_some]
          exact (hm.learn hj hnewest hnotice).touch rfl
            ⟨hplug.raw, hplug.info, hplug.mux, rfl, hplug.watcher⟩ rfl
  | @pairSend j udid hregistering =>
      have hj : j < s.count := by
        by_contra hge
        rw [(hs.later j (Nat.not_lt.mp hge)).2.1] at hregistering
        cases hregistering
      have hplug := hm.plug j hj
      have hnext : h.next cfg (.pairSend j) =
          some ((h.send (.discovered j udid (h.plug j).info)).set j
            { h.plug j with pairing := .registered }) := by
        simp only [Hotplug.next, hplug.pairing.trans hregistering]
      have hrequest : (UsbMessage.discovered j udid (h.plug j).info).request =
          (s.session j).register j udid := by
        rw [UsbMessage.request, MuxSession.register, hplug.info]
      refine ⟨_, _, Run.single ⟨hnext, trivial⟩, ?_⟩
      rw [← hrequest]
      exact (hm.send _).touch rfl ⟨hplug.raw, hplug.info, hplug.mux, rfl, hplug.watcher⟩ rfl
  | @pairFails j hasking =>
      have hj : j < s.count := by
        by_contra hge
        rw [(hs.later j (Nat.not_lt.mp hge)).2.1] at hasking
        cases hasking
      have hplug := hm.plug j hj
      have hnext : h.next cfg (.pairFails j) =
          some (h.set j { h.plug j with pairing := .failed }) := by
        simp only [Hotplug.next, hplug.pairing.trans hasking]
      exact ⟨_, _, Run.single ⟨hnext, trivial⟩, hm.touch rfl
        ⟨hplug.raw, hplug.info, hplug.mux, rfl, hplug.watcher⟩ rfl⟩
  | @serve order request rest m hqueue horder hserve =>
      have hq := hm.queue
      rw [hqueue] at hq
      obtain ⟨message, rest', hcons, hmessage, hrest⟩ := List.map_eq_cons_iff.mp hq
      have hnext : h.next cfg (.serve order) =
          some { h with mgr := m, served := h.served ++ [message], queue := rest' } := by
        simp only [Hotplug.next, hcons, hm.mgr, hmessage, hserve, Option.map_some]
      refine ⟨_, _, Run.single ⟨hnext, by rw [HotplugStep.Valid, hm.mgr]; exact horder⟩, ?_⟩
      refine { hm with mgr := rfl, served := ?_, queue := hrest }
      show (h.served ++ [message]).map UsbMessage.request = s.served ++ [request]
      rw [List.map_append, hm.served, List.map_singleton, hmessage]

/-- **The loops agree.**  A run of the polling loop in which scans name nothing twice and
tasks act on their own entries only is one of the hotplug loop: the manager has been sent
the same requests in the same order and is in the same state, and each session is a
connection that is where its tasks are and known by its entry. -/
theorem polling_is_hotplug {tr : List (Polling × PollingStep × Polling)}
    (hrun : Run (Polling.Step cfg) (Polling.start cfg) tr s) (honce : EveryStep NamesOnce tr)
    (hown : EveryStep ActsOnOwn tr) :
    ∃ tr' h, Run (Hotplug.Step cfg) (Hotplug.start cfg) tr' h ∧ s.Matches h := by
  have hunentered : (Polling.start cfg).Unentered := trivial
  obtain ⟨tr', h, hrun', hm, -⟩ := hrun.simulate_of
    (R := fun s h => s.Matches h ∧ s.Numbered ∧ s.Unentered)
    (C := fun s a s' => NamesOnce s a s' ∧ ActsOnOwn s a s')
    ⟨Polling.matches_start cfg, Polling.numbered_start cfg, hunentered⟩
    (fun s a s' h ⟨hm, hs, hu⟩ hstep ⟨honce, hown⟩ => by
      obtain ⟨tr', h', hrun', hm'⟩ := hstep.stepped.simulated hs hu hown hm
      exact ⟨tr', h', hrun', hm', hstep.stepped.numbered hs, hstep.stepped.unentered hu honce⟩)
    fun t ht => ⟨honce t ht, hown t ht⟩
  exact ⟨tr', h, hrun', hm⟩

end

/-- A device that comes and goes is one that is plugged in and unplugged. -/
theorem comesAndGoes_matched :
    ∃ s tr tr' h, Run (Polling.Step ⟨false, false, false⟩) (Polling.start ⟨false, false, false⟩)
        tr s ∧
      Run (Hotplug.Step ⟨false, false, false⟩) (Hotplug.start ⟨false, false, false⟩) tr' h ∧
      s.Matches h := by
  obtain ⟨s, tr, hrun, honce, hactions, -⟩ := comesAndGoes_run
  have hown : EveryStep ActsOnOwn tr := by
    refine everyStep_of_actions hactions fun s a s' ha => ?_
    simp only [comesAndGoes, List.mem_cons, List.not_mem_nil, or_false] at ha
    rcases ha with rfl | rfl | rfl | rfl | rfl | rfl | rfl | rfl | rfl | rfl | rfl | rfl <;>
      trivial
  obtain ⟨tr', h, hrun', hm⟩ := polling_is_hotplug hrun honce hown
  exact ⟨s, tr, tr', h, hrun, hrun', hm⟩

end Netmuxd
