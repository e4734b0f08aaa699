/-
The programs that connect and pair make the steps of the hotplug protocol.

Hotplug leaves open what the loop and the pairing tasks decide.  Here they run as they are
written, call by call, while all other parties go on, and each call that others notice is one of
the protocol's steps.  Where a program stands is told by what its remaining runs may still do:
the loop has a registration to make or a task to spawn, a task has a device to register or its
mux task to shut down.
-/
import Netmuxd.Proofs.Hotplug
import Netmuxd.Proofs.Pairing

namespace Netmuxd

open Lib Talk

variable {PairingFile : Type}

/-! ### Without the programs -/

/-- The state with the loop here and without the places of the pairing tasks. -/
def Hotplug.bare (h : Hotplug) (l : LoopAt) : Hotplug :=
  { h with loop := l, plug := fun k => { h.plug k with pairing := .idle } }

/-- What a step of another party leaves of the connections there are. -/
def Hotplug.Keeps (h h' : Hotplug) : Prop :=
  ∀ k < h.count, (h'.plug k).raw = (h.plug k).raw ∧ (h'.plug k).info = (h.plug k).info ∧
    (h'.plug k).pairing = (h.plug k).pairing

section
variable {h h' : Hotplug} {l : LoopAt} {k : Nat} {p : Plug} {cfg : Config} {a : HotplugStep}

theorem Hotplug.bare_set : (h.bare l).set k { p with pairing := .idle } = (h.set k p).bare l := by
  unfold Hotplug.set Hotplug.bare
  congr 1
  funext j
  by_cases hj : j = k
  · rw [hj, Function.update_self]
    simp
  · rw [Function.update_of_ne hj]
    simp [Function.update_of_ne hj]

theorem Hotplug.bare_pairing {pairing : Pairing} :
    (h.set k { h.plug k with pairing }).bare l = h.bare l := by
  rw [← Hotplug.bare_set]
  unfold Hotplug.set Hotplug.bare
  congr 1
  exact Function.update_eq_self k _

theorem Hotplug.keeps_set {h' : Hotplug} (hplug : h'.plug = (h.set k p).plug)
    (hraw : p.raw = (h.plug k).raw) (hinfo : p.info = (h.plug k).info)
    (hpairing : p.pairing = (h.plug k).pairing) : h.Keeps h' := by
  intro j _
  have hset : h'.plug j = if j = k then p else h.plug j := by
    rw [hplug]
    show Function.update h.plug k p j = _
    rw [Function.update_apply]
  rw [hset]
  split
  · next hj =>
      rw [hj]
      exact ⟨hraw, hinfo, hpairing⟩
  · exact ⟨rfl, rfl, rfl⟩

theorem Hotplug.bare_next (hprograms : a.ofPrograms = false) {s : Hotplug}
    (hnext : (h.bare h.loop).next cfg a = some s) :
    ∃ h', h.next cfg a = some h' ∧ s = h'.bare h'.loop ∧ h.Keeps h' := by
  have hset (j : Nat) (p : Plug) : (h.bare h.loop).set j { p with pairing := .idle } =
      (h.set j p).bare h.loop := Hotplug.bare_set
  cases a with
  | plug raw info =>
      cases hnext
      refine ⟨_, rfl, ?_, fun j hj => ?_⟩
      · exact congrArg (fun s : Hotplug => { s with count := h.count + 1 })
          (hset h.count { raw, info })
      · have hold : Function.update h.plug h.count { raw, info } j = h.plug j :=
          Function.update_of_ne (Nat.ne_of_lt hj) _ _
        exact ⟨congrArg Plug.raw hold, congrArg Plug.info hold, congrArg Plug.pairing hold⟩
  | unplug j =>
      simp only [Hotplug.next] at hnext
      split at hnext
      · next hj =>
          cases hnext
          exact ⟨_, if_pos hj, hset j { h.plug j with connected := false },
            Hotplug.keeps_set rfl rfl rfl rfl⟩
      · cases hnext
  | take j =>
      simp only [Hotplug.next] at hnext
      split at hnext
      · next hloop hdue =>
          cases hnext
          have htake : h.next cfg (.take j) = some
              { h.set j { h.plug j with notice := .taken, mux := true } with
                loop := .connecting j } := by
            have hdue' : (h.plug j).notice = .due := hdue
            have hloop' : h.loop = .idle := hloop
            simp [Hotplug.next, hdue', hloop']
          refine ⟨_, htake, ?_, Hotplug.keeps_set rfl rfl rfl rfl⟩
          exact congrArg (fun s : Hotplug => { s with loop := .connecting j })
            (hset j { h.plug j with notice := .taken, mux := true })
      · cases hnext
  | skip j =>
      simp only [Hotplug.next] at hnext
      split at hnext
      · next hloop hdue =>
          cases hnext
          have hskip : h.next cfg (.skip j) =
              some (h.set j { h.plug j with notice := .taken }) := by
            have hdue' : (h.plug j).notice = .due := hdue
            have hloop' : h.loop = .idle := hloop
            simp [Hotplug.next, hdue', hloop']
          exact ⟨_, hskip, hset j { h.plug j with notice := .taken },
            Hotplug.keeps_set rfl rfl rfl rfl⟩
      · cases hnext
  | record =>
      simp only [Hotplug.next] at hnext
      split at hnext
      · next j udid hloop =>
          cases hnext
          have hrecord : h.next cfg .record = some
              { (h.learn j (some udid)).set j { h.plug j with watcher := .waiting } with
                loop := .idle } := by
            have hloop' : h.loop = .recording j udid := hloop
            simp [Hotplug.next, hloop']
          refine ⟨_, hrecord, ?_, Hotplug.keeps_set rfl rfl rfl rfl⟩
          exact congrArg (fun s : Hotplug => { s.learn j (some udid) with loop := .idle })
            (hset j { h.plug j with watcher := .waiting })
      · cases hnext
  | drop j =>
      simp only [Hotplug.next] at hnext
      split at hnext
      · next hloop htaken hgone =>
          have htaken' : (h.plug j).notice = .taken := htaken
          have hgone' : (h.plug j).connected = false := hgone
          have hloop' : h.loop = .idle := hloop
          have hbare : (h.bare h.loop).known j = h.known j := rfl
          have hleft := hset j { h.plug j with notice := .left }
          rw [hbare] at hnext
          cases hknown : h.known j with
          | none =>
              rw [hknown] at hnext
              cases hnext
              have hdrop : h.next cfg (.drop j) = some
                  { (h.learn j none).set j { h.plug j with notice := .left } with
                    loop := .idle } := by
                simp [Hotplug.next, htaken', hgone', hloop', hknown]
              refine ⟨_, hdrop, ?_, Hotplug.keeps_set rfl rfl rfl rfl⟩
              exact congrArg (fun s : Hotplug => { s.learn j none with loop := .idle }) hleft
          | some udid =>
              rw [hknown] at hnext
              cases hnext
              have hdrop : h.next cfg (.drop j) = some
                  { (h.learn j none).set j { h.plug j with notice := .left } with
                    loop := .removing j udid } := by
                simp [Hotplug.next, htaken', hgone', hloop', hknown]
              refine ⟨_, hdrop, ?_, Hotplug.keeps_set rfl rfl rfl rfl⟩
              exact congrArg (fun s : Hotplug => { s.learn j none with loop := .removing j udid })
                hleft
      · cases hnext
  | sendRemove =>
      simp only [Hotplug.next] at hnext
      split at hnext
      · next j udid hloop =>
          cases hnext
          have hsend : h.next cfg .sendRemove =
              some { h.send (.removed j udid) with loop := .idle } := by
            have hloop' : h.loop = .removing j udid := hloop
            simp [Hotplug.next, hloop']
          exact ⟨_, hsend, rfl, fun j _ => ⟨rfl, rfl, rfl⟩⟩
      · cases hnext
  | exits j =>
      simp only [Hotplug.next] at hnext
      split at hnext
      · next hmux =>
          cases hnext
          exact ⟨_, if_pos hmux, hset j { h.plug j with mux := false },
            Hotplug.keeps_set rfl rfl rfl rfl⟩
      · cases hnext
  | watch j =>
      simp only [Hotplug.next] at hnext
      split at hnext
      · next hwaiting hmux =>
          have hwaiting' : (h.plug j).watcher = .waiting := hwaiting
          have hmux' : (h.plug j).mux = false := hmux
          have hbare : (h.bare h.loop).known j = h.known j := rfl
          have hover (watcher : Watcher) := hset j { h.plug j with watcher }
          rw [hbare] at hnext
          cases hknown : h.known j with
          | none =>
              rw [hknown] at hnext
              cases hnext
              have hwatch : h.next cfg (.watch j) =
                  some ((h.learn j none).set j { h.plug j with watcher := .over }) := by
                simp [Hotplug.next, hwaiting', hmux', hknown]
              exact ⟨_, hwatch, congrArg (fun s : Hotplug => s.learn j none) (hover .over),
                Hotplug.keeps_set rfl rfl rfl rfl⟩
          | some udid =>
              rw [hknown] at hnext
              cases hnext
              have hwatch : h.next cfg (.watch j) =
                  some ((h.learn j none).set j { h.plug j with watcher := .removing udid }) := by
                simp [Hotplug.next, hwaiting', hmux', hknown]
              exact ⟨_, hwatch, congrArg (fun s : Hotplug => s.learn j none)
                (hover (.removing udid)), Hotplug.keeps_set rfl rfl rfl rfl⟩
      · cases hnext
  | watchSend j =>
      simp only [Hotplug.next] at hnext
      split at hnext
      · next udid hremoving =>
          cases hnext
          have hsend : h.next cfg (.watchSend j) = some ((h.send (.removed j udid)).set j
              { h.plug j with watcher := .over }) := by
            have hremoving' : (h.plug j).watcher = .removing udid := hremoving
            simp [Hotplug.next, hremoving']
          refine ⟨_, hsend, ?_, Hotplug.keeps_set rfl rfl rfl rfl⟩
          exact congrArg (fun s : Hotplug => s.send (.removed j udid))
            (hset j { h.plug j with watcher := .over })
      · cases hnext
  | serve order =>
      simp only [Hotplug.next] at hnext
      split at hnext
      · cases hnext
      · next message rest hqueue =>
          obtain ⟨m, hm, rfl⟩ := Option.map_eq_some_iff.mp hnext
          have hserve : h.next cfg (.serve order) = some
              { h with mgr := m, served := h.served ++ [message], queue := rest } := by
            have hqueue' : h.queue = message :: rest := hqueue
            have hm' : h.mgr.handle cfg (Hotplug.surroundings order) message.request = some m := hm
            simp [Hotplug.next, hqueue', hm']
          exact ⟨_, hserve, rfl, fun j _ => ⟨rfl, rfl, rfl⟩⟩
  | paired | unpaired | pairs | pairSend | pairFails => cases hprograms

/-- While the loop is in `connect_device`, the others' steps do not ask how far it is. -/
theorem Hotplug.next_loop (hprograms : a.ofPrograms = false) (hloop : h.loop = .connecting k)
    (hnext : h.next cfg a = some h') :
    h'.loop = .connecting k ∧ (∀ j, a ≠ .take j) ∧
      ∀ l, ({ h with loop := l } : Hotplug).next cfg a = some { h' with loop := l } := by
  cases a with
  | plug raw info =>
      cases hnext
      exact ⟨hloop, by simp, fun l => rfl⟩
  | unplug j =>
      simp only [Hotplug.next] at hnext
      split at hnext
      · next hj =>
          cases hnext
          exact ⟨hloop, by simp, fun l => if_pos hj⟩
      · cases hnext
  | exits j =>
      simp only [Hotplug.next] at hnext
      split at hnext
      · next hmux =>
          cases hnext
          exact ⟨hloop, by simp, fun l => if_pos hmux⟩
      · cases hnext
  | watch j =>
      simp only [Hotplug.next] at hnext ⊢
      split at hnext
      · next hwaiting hmux =>
          cases hnext
          refine ⟨hloop, by simp, fun l => ?_⟩
          simp only [hmux]
          rfl
      · cases hnext
  | watchSend j =>
      simp only [Hotplug.next] at hnext ⊢
      split at hnext
      · next udid hremoving =>
          cases hnext
          refine ⟨hloop, by simp, fun l => ?_⟩
          rfl
      · cases hnext
  | serve order =>
      simp only [Hotplug.next] at hnext ⊢
      split at hnext
      · cases hnext
      · next message rest hqueue =>
          obtain ⟨m, hm, rfl⟩ := Option.map_eq_some_iff.mp hnext
          refine ⟨hloop, by simp, fun l => ?_⟩
          simp only [hm]
          rfl
  | take | skip | record | drop | sendRemove =>
      simp only [Hotplug.next, hloop] at hnext
      cases hnext
  | paired | unpaired | pairs | pairSend | pairFails => cases hprograms

end

/-! ### Where the programs stand -/

theorem shared_cons {e : Exchange (@PairCall.Answer PairingFile)}
    {t : PairTrace PairingFile} :
    shared (e :: t) = if e.1.isShared then e.1 :: shared t else shared t := by
  simp [shared, List.filter_cons]

section
variable (lockdown : Lockdown PairingFile) (finder : PairingFileFinder)

/-- What `connect_device` comes to: it registers the device, or has a task spawned. -/
def Decides (k : Nat) (raw : String) (info : DeviceMeta) (t : PairTrace PairingFile)
    (r : String × Option (PairTask PairingFile Unit)) : Prop :=
  (∃ udid ∈ pairedCandidates raw, shared t = [.send (.discovered k udid info)] ∧
    r = (udid, none)) ∨
  (shared t = [] ∧ r = (raw, some (pairTask lockdown finder k raw info)))

/-- Where the loop stands in `connect_device`: before it has registered the device, or after. -/
def LoopStands (k : Nat) (h : Hotplug)
    (m : PairTask PairingFile (String × Option (PairTask PairingFile Unit))) : Prop :=
  (h.loop = .connecting k ∧
    m.Meets (Decides lockdown finder k (h.plug k).raw (h.plug k).info)) ∨
  (∃ udid, h.loop = .recording k udid ∧ m.Meets fun t r => shared t = [] ∧ r = (udid, none))

/-- Where a pairing task stands. -/
def TaskStands (k : Nat) (p : Plug) (m : PairTask PairingFile Unit) : Prop :=
  match p.pairing with
  | .idle => False
  | .asking => m.Meets fun t _ => shared t = [.shutdown] ∨
      ∃ udid, shared t = [.rename udid, .send (.discovered k udid p.info)]
  | .registering udid => m.Meets fun t _ => shared t = [.send (.discovered k udid p.info)]
  | .registered => m.Meets fun t _ => shared t = []
  | .failed => m.Meets fun t _ => shared t = []

/-- The protocol's state that the programs are in. -/
structure Programs.Shadows (s : Programs PairingFile) (h : Hotplug) : Prop where
  sane : h.Sane
  bare : s.hotplug = h.bare s.hotplug.loop
  loop : match s.connecting with
    | none => s.hotplug.loop = h.loop
    | some m => ∃ k, s.hotplug.loop = .connecting k ∧ LoopStands lockdown finder k h m
  task : ∀ k m, s.task k = some m → TaskStands k (h.plug k) m

end

section
variable {lockdown : Lockdown PairingFile} {finder : PairingFileFinder} {cfg : Config}
  {s s' : Programs PairingFile} {h h' : Hotplug} {k : Nat} {p : Plug}

theorem connectDevice_decides (k : Nat) (raw : String) (info : DeviceMeta) :
    (connectDevice lockdown finder k raw info).Meets (Decides lockdown finder k raw info) := by
  refine Meets.imp (connectDevice_looks k raw info) fun t r hr => ?_
  rcases hr with ⟨udid, t', rfl, hlooked, rfl⟩ | ⟨rfl, hlooked⟩
  · obtain ⟨hlooks, hcandidate, -⟩ := hlooked
    refine Or.inl ⟨udid, hcandidate, ?_, rfl⟩
    rw [shared_append, shared_eq_nil fun e he => (hlooks e he).1]
    rfl
  · refine Or.inr ⟨?_, rfl⟩
    obtain _ | ⟨hlooks, -⟩ | ⟨hlooks, -, -, answer⟩ := hlooked
    · exact shared_eq_nil fun e he => (hlooks e he).1
    · rw [shared_append, shared_eq_nil fun e he => (hlooks e he).1]
      rfl

theorem pairTask_stands {raw : String} (hasking : p.pairing = .asking) :
    TaskStands k p (pairTask lockdown finder k raw p.info) := by
  unfold TaskStands
  rw [hasking]
  refine Meets.imp (pairTask_ends k raw p.info) fun t _ ⟨hends, _⟩ => ?_
  exact hends.shared

theorem TaskStands.congr {p' : Plug} {m : PairTask PairingFile Unit} (h : TaskStands k p m)
    (hinfo : p'.info = p.info) (hpairing : p'.pairing = p.pairing) : TaskStands k p' m := by
  unfold TaskStands at h ⊢
  rw [hpairing, hinfo]
  exact h

theorem LoopStands.congr {m : PairTask PairingFile (String × Option (PairTask PairingFile Unit))}
    (hm : LoopStands lockdown finder k h m) (hloop : h'.loop = h.loop)
    (hraw : (h'.plug k).raw = (h.plug k).raw) (hinfo : (h'.plug k).info = (h.plug k).info) :
    LoopStands lockdown finder k h' m := by
  unfold LoopStands at hm ⊢
  rw [hloop, hraw, hinfo]
  exact hm

theorem LoopStands.known {m : PairTask PairingFile (String × Option (PairTask PairingFile Unit))}
    (hm : LoopStands lockdown finder k h m) (hs : h.Sane) : k < h.count := by
  have htaken : (h.plug k).notice = .taken := by
    refine ((hs k).handled ?_).2
    rcases hm with ⟨hloop, -⟩ | ⟨udid, hloop, -⟩
    · exact Or.inl hloop
    · exact Or.inr ⟨udid, hloop⟩
  exact (hs k).lt_count (by simp [htaken])

theorem TaskStands.known {m : PairTask PairingFile Unit} (hm : TaskStands k (h.plug k) m)
    (hs : h.Sane) : k < h.count := by
  by_contra hk
  unfold TaskStands at hm
  rw [((hs k).later (Nat.le_of_not_lt hk)).2.2] at hm
  exact hm

theorem Programs.Shadows.keeps (hsh : s.Shadows lockdown finder h) (hkeeps : h.Keeps h')
    (k : Nat) (m : PairTask PairingFile Unit) (hm : s.task k = some m) :
    TaskStands k (h'.plug k) m := by
  have hstands := hsh.task k m hm
  obtain ⟨-, hinfo, hpairing⟩ := hkeeps k (hstands.known hsh.sane)
  exact hstands.congr hinfo hpairing

theorem PairCall.effect_quiet {c : PairCall PairingFile} (hquiet : c.isShared = false) :
    c.effect k h = h := by
  cases c with
  | send | rename | shutdown => cases hquiet
  | client | getType | getValue | pair | startSession => rfl

/-- A step of another party is the protocol's. -/
theorem Programs.Shadows.other (hsh : s.Shadows lockdown finder h) {a : HotplugStep}
    (hstep : Programs.Step lockdown finder cfg s (.other a) s') :
    ∃ h', Hotplug.Step cfg h a h' ∧ s'.Shadows lockdown finder h' := by
  obtain ⟨hnext, hvalid⟩ := hstep
  have hvalid' : a.Valid h := by
    have hv : a.Valid s.hotplug := hvalid
    rw [hsh.bare] at hv
    cases a <;> exact hv
  simp only [Programs.next] at hnext
  split at hnext
  · cases hnext
  · next hprograms =>
      rw [Bool.not_eq_true] at hprograms
      obtain ⟨s₁, hs₁, rfl⟩ := Option.map_eq_some_iff.mp hnext
      have hloop := hsh.loop
      cases hconnecting : s.connecting with
      | none =>
          rw [hconnecting] at hloop
          rw [hsh.bare, show s.hotplug.loop = h.loop from hloop] at hs₁
          obtain ⟨h', hh', rfl, hkeeps⟩ := Hotplug.bare_next hprograms hs₁
          have hstep' : Hotplug.Step cfg h a h' := ⟨hh', hvalid'⟩
          refine ⟨h', hstep', hstep'.stepped.sane hsh.sane, rfl, ?_, hsh.keeps hkeeps⟩
          cases a with
          | take j =>
              have hloop' : h'.loop = .connecting j := by
                cases hstep'.stepped with
                | take => rfl
              exact ⟨j, hloop', Or.inl ⟨hloop', connectDevice_decides j _ _⟩⟩
          | plug | unplug | skip | paired | unpaired | record | drop | sendRemove | exits | watch
          | watchSend | pairs | pairSend | pairFails | serve =>
              rfl
      | some m =>
          rw [hconnecting] at hloop
          obtain ⟨k, hk, hstands⟩ := hloop
          rw [hsh.bare, hk] at hs₁
          have hbare : h.bare (.connecting k) =
              ({ h with loop := .connecting k } : Hotplug).bare (.connecting k) := rfl
          rw [hbare] at hs₁
          obtain ⟨h₁, hh₁, rfl, hkeeps⟩ :=
            Hotplug.bare_next (h := { h with loop := .connecting k }) hprograms hs₁
          obtain ⟨hloop₁, htake, hany⟩ := Hotplug.next_loop hprograms rfl hh₁
          have hstep' : Hotplug.Step cfg h a { h₁ with loop := h.loop } := ⟨hany h.loop, hvalid'⟩
          refine ⟨_, hstep', hstep'.stepped.sane hsh.sane, rfl, ?_, hsh.keeps hkeeps⟩
          obtain ⟨hraw, hinfo, -⟩ := hkeeps k (hstands.known hsh.sane)
          have hstands' : LoopStands lockdown finder k { h₁ with loop := h.loop } m :=
            hstands.congr rfl hraw hinfo
          cases a with
          | take j => exact absurd rfl (htake j)
          | plug | unplug | skip | paired | unpaired | record | drop | sendRemove | exits | watch
          | watchSend | pairs | pairSend | pairFails | serve =>
              exact ⟨k, hloop₁, hstands'⟩

/-- A program that can be answered comes to an end. -/
theorem runs_exist {α : Type} (answer : (c : PairCall PairingFile) → c.Answer)
    (m : PairTask PairingFile α) : ∃ t a, m.Runs t a :=
  ⟨_, _, runs_follow (fun _ => answer) [] m⟩

/-- A call of `connect_device` registers the device, or nobody notices. -/
theorem LoopStands.call {c : PairCall PairingFile}
    {next : c.Answer → PairTask PairingFile (String × Option (PairTask PairingFile Unit))}
    (hm : LoopStands lockdown finder k h (.call c next))
    (answer : (c : PairCall PairingFile) → c.Answer) :
    (c.isShared = false ∧ LoopStands lockdown finder k h (next (answer c))) ∨
    ∃ udid ∈ pairedCandidates (h.plug k).raw, h.loop = .connecting k ∧
      c = .send (.discovered k udid (h.plug k).info) ∧
      (next (answer c)).Meets fun t r => shared t = [] ∧ r = (udid, none) := by
  obtain ⟨t₀, r₀, hrun₀⟩ := runs_exist answer (next (answer c))
  rcases hm with ⟨hloop, hmeets⟩ | ⟨udid, hloop, hmeets⟩
  · have hnext := meets_call.mp hmeets (answer c)
    cases hc : c.isShared with
    | false =>
        refine Or.inl ⟨rfl, Or.inl ⟨hloop, Meets.imp hnext fun t r hr => ?_⟩⟩
        unfold Decides at hr ⊢
        rwa [shared_cons, hc] at hr
    | true =>
        have hsend (t : PairTrace PairingFile)
            (r : String × Option (PairTask PairingFile Unit)) (hrun : (next (answer c)).Runs t r) :
            ∃ udid ∈ pairedCandidates (h.plug k).raw,
              c = .send (.discovered k udid (h.plug k).info) ∧ shared t = [] ∧
                r = (udid, none) := by
          rcases hnext t r hrun with ⟨udid, hmem, hshared, hr⟩ | ⟨hshared, -⟩
          · rw [shared_cons, hc, if_pos rfl] at hshared
            obtain ⟨hcall, hrest⟩ := List.cons.inj hshared
            exact ⟨udid, hmem, hcall, hrest, hr⟩
          · rw [shared_cons, hc, if_pos rfl] at hshared
            cases hshared
        obtain ⟨udid, hmem, hcall, -⟩ := hsend t₀ r₀ hrun₀
        refine Or.inr ⟨udid, hmem, hloop, hcall, fun t r hrun => ?_⟩
        obtain ⟨udid', -, hcall', hshared, hr⟩ := hsend t r hrun
        rw [hcall] at hcall'
        cases hcall'
        exact ⟨hshared, hr⟩
  · have hnext := meets_call.mp hmeets (answer c)
    have hc : c.isShared = false := by
      have hshared := (hnext t₀ r₀ hrun₀).1
      rw [shared_cons] at hshared
      by_contra hc
      rw [Bool.not_eq_false] at hc
      rw [hc, if_pos rfl] at hshared
      cases hshared
    refine Or.inl ⟨hc, Or.inr ⟨udid, hloop, Meets.imp hnext fun t r hr => ?_⟩⟩
    rwa [shared_cons, hc] at hr

theorem Programs.Shadows.call (hsh : s.Shadows lockdown finder h)
    {answer : (c : PairCall PairingFile) → c.Answer}
    (hstep : Programs.Step lockdown finder cfg s (.call answer) s') :
    ∃ tr h', Run (Hotplug.Step cfg) h tr h' ∧ s'.Shadows lockdown finder h' := by
  obtain ⟨hnext, -⟩ := hstep
  simp only [Programs.next] at hnext
  split at hnext
  · next k c next hloop hconnecting =>
      cases hnext
      have hstands := hsh.loop
      rw [hconnecting] at hstands
      obtain ⟨k', hk', hstands⟩ := hstands
      rw [hloop] at hk'
      cases hk'
      rcases hstands.call answer with ⟨hquiet, hstands'⟩ | ⟨udid, hmem, hloop', rfl, hmeets⟩
      · refine ⟨[], h, Run.nil, hsh.sane, ?_, ⟨k, ?_, hstands'⟩, hsh.task⟩
        · rw [PairCall.effect_quiet hquiet]
          exact hsh.bare
        · rw [PairCall.effect_quiet hquiet]
          exact hloop
      · have hpaired : Hotplug.Step cfg h (.paired udid)
            { h.send (.discovered k udid (h.plug k).info) with loop := .recording k udid } := by
          refine ⟨?_, trivial⟩
          simp only [Hotplug.next, hloop']
          exact if_pos hmem
        refine ⟨_, _, Run.nil.snoc hpaired, hpaired.stepped.sane hsh.sane, ?_,
          ⟨k, hloop, Or.inr ⟨udid, rfl, hmeets⟩⟩, hsh.task⟩
        exact congrArg (fun s : Hotplug => s.send (.discovered k udid (h.plug k).info)) hsh.bare
  · cases hnext

theorem Programs.Shadows.returns (hsh : s.Shadows lockdown finder h)
    (hstep : Programs.Step lockdown finder cfg s .returns s') :
    ∃ tr h', Run (Hotplug.Step cfg) h tr h' ∧ s'.Shadows lockdown finder h' := by
  obtain ⟨hnext, -⟩ := hstep
  simp only [Programs.next] at hnext
  split at hnext
  · next k udid task hloop hconnecting =>
      cases hnext
      have hstands := hsh.loop
      rw [hconnecting] at hstands
      obtain ⟨k', hk', hstands⟩ := hstands
      rw [hloop] at hk'
      cases hk'
      have hbare := hsh.bare
      rcases hstands with ⟨hloop', hmeets⟩ | ⟨udid', hloop', hmeets⟩
      · have hunpaired : Hotplug.Step cfg h .unpaired
            { h.set k { h.plug k with pairing := .asking } with
              loop := .recording k (h.plug k).raw } := by
          refine ⟨?_, trivial⟩
          simp only [Hotplug.next, hloop']
        rcases meets_pure.mp hmeets with ⟨_, -, hshared, -⟩ | ⟨-, hr⟩
        · cases hshared
        · obtain ⟨rfl, rfl⟩ := Prod.mk.inj hr
          refine ⟨_, _, Run.nil.snoc hunpaired, hunpaired.stepped.sane hsh.sane, ?_, rfl,
            fun j m hm => ?_⟩
          · have hasking : s.hotplug =
                (h.set k { h.plug k with pairing := .asking }).bare s.hotplug.loop := by
              rw [Hotplug.bare_pairing]
              exact hbare
            exact congrArg (fun s : Hotplug => { s with loop := .recording k (h.plug k).raw })
              hasking
          · have hplug : (h.set k { h.plug k with pairing := .asking }).plug j =
                if j = k then { h.plug k with pairing := .asking } else h.plug j :=
              Function.update_apply _ _ _ _
            have htask : (if j = k then some (pairTask lockdown finder k (h.plug k).raw
                (h.plug k).info) else s.task j) = some m := by
              rw [← hm]
              exact (Function.update_apply _ _ _ _).symm
            show TaskStands j ((h.set k { h.plug k with pairing := .asking }).plug j) m
            rw [hplug]
            split
            · next hj =>
                rw [if_pos hj] at htask
                cases htask
                rw [hj]
                exact pairTask_stands rfl
            · next hj =>
                rw [if_neg hj] at htask
                exact hsh.task j m htask
      · obtain ⟨-, hr⟩ := meets_pure.mp hmeets
        cases hr
        refine ⟨[], h, Run.nil, hsh.sane, ?_, hloop'.symm, fun j m hm => ?_⟩
        · exact congrArg (fun s : Hotplug => { s with loop := .recording k udid }) hbare
        · have htask : (if j = k then none else s.task j) = some m := by
            rw [← hm]
            exact (Function.update_apply _ _ _ _).symm
          split at htask
          · cases htask
          · exact hsh.task j m htask
  · cases hnext

/-- Runs of what is left after a call that others notice. -/
theorem meets_shared {α : Type} {c : PairCall PairingFile}
    {next : c.Answer → PairTask PairingFile α} {Q : List (PairCall PairingFile) → Prop}
    (hc : c.isShared = true)
    (hm : (Talk.call c next).Meets fun t _ => Q (shared t)) (answer : c.Answer) :
    (next answer).Meets fun t _ => Q (c :: shared t) :=
  Meets.imp (meets_call.mp hm answer) fun t _ ht => by rwa [shared_cons, hc, if_pos rfl] at ht

theorem meets_quiet {α : Type} {c : PairCall PairingFile}
    {next : c.Answer → PairTask PairingFile α} {Q : List (PairCall PairingFile) → Prop}
    (hc : c.isShared = false)
    (hm : (Talk.call c next).Meets fun t _ => Q (shared t)) (answer : c.Answer) :
    (next answer).Meets fun t _ => Q (shared t) :=
  Meets.imp (meets_call.mp hm answer) fun t _ ht => by rwa [shared_cons, hc] at ht

/-- A call of a pairing task: nobody notices, or it is the next thing a task of that standing
does. -/
inductive TaskCalls (k : Nat) (p : Plug) (c : PairCall PairingFile) :
    PairTask PairingFile Unit → Prop
  | quiet {m} (hc : c.isShared = false) (hm : TaskStands k p m) : TaskCalls k p c m
  | shutdown {m} (hc : c = .shutdown) (hasking : p.pairing = .asking)
      (hm : TaskStands k { p with pairing := .failed } m) : TaskCalls k p c m
  | rename {m udid} (hc : c = .rename udid) (hasking : p.pairing = .asking)
      (hm : TaskStands k { p with pairing := .registering udid } m) : TaskCalls k p c m
  | send {m udid} (hc : c = .send (.discovered k udid p.info))
      (hregistering : p.pairing = .registering udid)
      (hm : TaskStands k { p with pairing := .registered } m) : TaskCalls k p c m

theorem TaskStands.call {c : PairCall PairingFile} {next : c.Answer → PairTask PairingFile Unit}
    (hm : TaskStands k p (.call c next)) (answer : (c : PairCall PairingFile) → c.Answer) :
    TaskCalls k p c (next (answer c)) := by
  obtain ⟨t₀, r₀, hrun₀⟩ := runs_exist answer (next (answer c))
  cases hc : c.isShared with
  | false =>
      refine .quiet hc ?_
      unfold TaskStands at hm ⊢
      cases hpairing : p.pairing <;> rw [hpairing] at hm
      · exact hm
      · exact meets_quiet (Q := fun l => l = [.shutdown] ∨
          ∃ udid, l = [.rename udid, .send (.discovered k udid p.info)]) hc hm _
      · exact meets_quiet (Q := fun l => l = [.send (.discovered k _ p.info)]) hc hm _
      · exact meets_quiet (Q := fun l => l = []) hc hm _
      · exact meets_quiet (Q := fun l => l = []) hc hm _
  | true =>
      unfold TaskStands at hm
      cases hpairing : p.pairing <;> rw [hpairing] at hm
      · exact hm.elim
      · have hnext := meets_shared (Q := fun l => l = [.shutdown] ∨
          ∃ udid, l = [.rename udid, .send (.discovered k udid p.info)]) hc hm (answer c)
        rcases hnext t₀ r₀ hrun₀ with hfirst | ⟨udid, hfirst⟩
        · obtain ⟨rfl, -⟩ := List.cons.inj hfirst
          refine .shutdown rfl hpairing (Meets.imp hnext fun t _ ht => ?_)
          rcases ht with ht | ⟨udid, ht⟩
          · exact (List.cons.inj ht).2
          · cases (List.cons.inj ht).1
        · obtain ⟨rfl, -⟩ := List.cons.inj hfirst
          refine .rename rfl hpairing (Meets.imp hnext fun t _ ht => ?_)
          rcases ht with ht | ⟨udid', ht⟩
          · cases (List.cons.inj ht).1
          · obtain ⟨hcall, hrest⟩ := List.cons.inj ht
            cases hcall
            exact hrest
      · have hnext := meets_shared (Q := fun l => l = [.send (.discovered k _ p.info)]) hc hm
          (answer c)
        obtain ⟨rfl, -⟩ := List.cons.inj (hnext t₀ r₀ hrun₀)
        exact .send rfl hpairing (Meets.imp hnext fun t _ ht => (List.cons.inj ht).2)
      all_goals
        have hnext := meets_shared (Q := fun l => l = []) hc hm (answer c)
        cases hnext t₀ r₀ hrun₀

/-- A pairing task has made a step, and its connection with it. -/
theorem Programs.Shadows.settle (hsh : s.Shadows lockdown finder h) {m : PairTask PairingFile Unit}
    {hotplug h₁ : Hotplug} {pairing : Pairing} {a : HotplugStep}
    (hplug : h₁.plug = h.plug) (hloop : h₁.loop = h.loop)
    (hstep : Hotplug.Step cfg h a (h₁.set k { h.plug k with pairing }))
    (hbare : hotplug = h₁.bare s.hotplug.loop)
    (hm : TaskStands k { h.plug k with pairing } m) :
    ({ s with hotplug, task := Function.update s.task k (some m) } :
      Programs PairingFile).Shadows lockdown finder (h₁.set k { h.plug k with pairing }) := by
  have hset (j : Nat) : (h₁.set k { h.plug k with pairing }).plug j =
      if j = k then { h.plug k with pairing } else h.plug j := by
    show Function.update h₁.plug k { h.plug k with pairing } j = _
    rw [Function.update_apply, hplug]
  have hsame (j : Nat) : ((h₁.set k { h.plug k with pairing }).plug j).raw = (h.plug j).raw ∧
      ((h₁.set k { h.plug k with pairing }).plug j).info = (h.plug j).info := by
    rw [hset]
    split
    · next hj =>
        rw [hj]
        exact ⟨rfl, rfl⟩
    · exact ⟨rfl, rfl⟩
  have hhotplug : hotplug.loop = s.hotplug.loop := by
    rw [hbare]
    rfl
  refine ⟨hstep.stepped.sane hsh.sane, ?_, ?_, fun j m' hm' => ?_⟩
  · show hotplug = (h₁.set k { h.plug k with pairing }).bare hotplug.loop
    rw [hhotplug, ← hplug, Hotplug.bare_pairing]
    exact hbare
  · have hstands := hsh.loop
    show match s.connecting with
      | none => hotplug.loop = h₁.loop
      | some m => ∃ k', hotplug.loop = .connecting k' ∧
        LoopStands lockdown finder k' (h₁.set k { h.plug k with pairing }) m
    rw [hhotplug]
    cases hconnecting : s.connecting with
    | none =>
        rw [hconnecting] at hstands
        exact Eq.trans hstands hloop.symm
    | some m₀ =>
        rw [hconnecting] at hstands
        obtain ⟨k', hk', hstands⟩ := hstands
        exact ⟨k', hk', hstands.congr hloop (hsame k').1 (hsame k').2⟩
  · have hupdate : Function.update s.task k (some m) j = some m' := hm'
    rw [Function.update_apply] at hupdate
    rw [hset]
    split
    · next hj =>
        rw [if_pos hj] at hupdate
        cases hupdate
        exact hj ▸ hm
    · next hj =>
        rw [if_neg hj] at hupdate
        exact hsh.task j m' hupdate

theorem Programs.Shadows.taskCall (hsh : s.Shadows lockdown finder h)
    {answer : (c : PairCall PairingFile) → c.Answer}
    (hstep : Programs.Step lockdown finder cfg s (.taskCall k answer) s') :
    ∃ tr h', Run (Hotplug.Step cfg) h tr h' ∧ s'.Shadows lockdown finder h' := by
  obtain ⟨hnext, -⟩ := hstep
  simp only [Programs.next] at hnext
  split at hnext
  · next c next htask =>
      cases hnext
      have hbare := hsh.bare
      obtain ⟨hc, hm⟩ | ⟨rfl, hasking, hm⟩ | ⟨rfl, hasking, hm⟩ | ⟨rfl, hregistering, hm⟩ :=
        (hsh.task k _ htask).call answer
      · refine ⟨[], h, Run.nil, hsh.sane, ?_, ?_, fun j m' hm' => ?_⟩
        · rw [PairCall.effect_quiet hc]
          exact hbare
        · rw [PairCall.effect_quiet hc]
          exact hsh.loop
        · have hupdate : Function.update s.task k (some (next (answer c))) j = some m' := hm'
          rw [Function.update_apply] at hupdate
          split at hupdate
          · next hj =>
              cases hupdate
              exact hj ▸ hm
          · exact hsh.task j m' hupdate
      · have hfails : Hotplug.Step cfg h (.pairFails k)
            (h.set k { h.plug k with pairing := .failed }) := by
          refine ⟨?_, trivial⟩
          simp only [Hotplug.next, hasking]
        exact ⟨_, _, Run.nil.snoc hfails, hsh.settle rfl rfl hfails hbare hm⟩
      · next udid =>
          have hpairs : Hotplug.Step cfg h (.pairs k udid)
              ((h.learn k ((h.known k).map fun _ => udid)).set k
                { h.plug k with pairing := .registering udid }) := by
            refine ⟨?_, trivial⟩
            simp only [Hotplug.next, hasking]
          refine ⟨_, _, Run.nil.snoc hpairs, hsh.settle rfl rfl hpairs ?_ hm⟩
          exact congrArg (fun s : Hotplug => s.learn k ((s.known k).map fun _ => udid)) hbare
      · next udid =>
          have hsend : Hotplug.Step cfg h (.pairSend k)
              ((h.send (.discovered k udid (h.plug k).info)).set k
                { h.plug k with pairing := .registered }) := by
            refine ⟨?_, trivial⟩
            simp only [Hotplug.next, hregistering]
          refine ⟨_, _, Run.nil.snoc hsend, hsh.settle rfl rfl hsend ?_ hm⟩
          exact congrArg (fun s : Hotplug => s.send (.discovered k udid (h.plug k).info)) hbare
  · cases hnext

theorem Programs.shadows_start (cfg : Config) :
    (Programs.start cfg : Programs PairingFile).Shadows lockdown finder (Hotplug.start cfg) :=
  ⟨Hotplug.sane_start cfg, rfl, rfl, fun k m hm => by cases hm⟩

end

/-- **The programs make the protocol's steps.**  However the calls of `connect_device` and of
the pairing tasks come in between the other parties' steps, and whatever they are answered,
hotplug has a run to a state with the same manager, the same requests on their way and the same
`known`. -/
theorem programs_are_hotplug {lockdown : Lockdown PairingFile} {finder : PairingFileFinder}
    {cfg : Config} {s : Programs PairingFile}
    {tr : List (Programs PairingFile × ProgramStep PairingFile × Programs PairingFile)}
    (hrun : Run (Programs.Step lockdown finder cfg) (.start cfg) tr s) :
    ∃ tr' h, Run (Hotplug.Step cfg) (.start cfg) tr' h ∧ s.Shadows lockdown finder h ∧
      s.hotplug.mgr = h.mgr ∧ s.hotplug.served = h.served ∧ s.hotplug.queue = h.queue ∧
      s.hotplug.known = h.known := by
  have hsim : ∃ tr' h, Run (Hotplug.Step cfg) (.start cfg) tr' h ∧
      s.Shadows lockdown finder h := by
    refine hrun.simulate_of (C := fun _ _ _ => True) (Programs.shadows_start cfg)
      (fun s a s' h hsh hstep _ => ?_) fun _ _ => trivial
    cases a with
    | other a =>
        obtain ⟨h', hstep', hsh'⟩ := hsh.other hstep
        exact ⟨_, h', Run.nil.snoc hstep', hsh'⟩
    | call answer => exact hsh.call hstep
    | returns => exact hsh.returns hstep
    | taskCall k answer => exact hsh.taskCall hstep
  obtain ⟨tr', h, hrun', hsh⟩ := hsim
  refine ⟨tr', h, hrun', hsh, ?_⟩
  rw [hsh.bare]
  exact ⟨rfl, rfl, rfl, rfl⟩

/-- A device that refuses the record there is and tells nothing of itself, but pairs. -/
def refusing : (c : PairCall Bytes) → c.Answer
  | .client c => willing [] c
  | .getType => some lockdownType
  | .getValue _ => none
  | .pair _ _ => some []
  | .startSession _ => .invalidHostId
  | .send _ | .rename _ | .shutdown => ()

/-- The device is plugged in, its record is removed, and it is paired again. -/
def repairing : List (ProgramStep Bytes) :=
  [.other (.plug "a" ⟨0, 0, 0⟩), .other (.take 0)] ++ List.replicate 10 (.call refusing) ++
    [.returns, .other .record] ++ List.replicate 14 (.taskCall 0 refusing)

theorem repairing_registers : ∃ tr h, Run (Hotplug.Step ⟨false, false, false⟩)
    (.start ⟨false, false, false⟩) tr h ∧ h.queue = [.discovered 0 "a" ⟨0, 0, 0⟩] := by
  have hplays : (Lib.exec (Programs.next plainLockdown defaultFinder ⟨false, false, false⟩)
      (.start ⟨false, false, false⟩) repairing).map (fun s => s.hotplug.queue) =
      some [.discovered 0 "a" ⟨0, 0, 0⟩] := rfl
  obtain ⟨s, hexec, hqueue⟩ := Option.map_eq_some_iff.mp hplays
  have hsteps (s : Programs Bytes) (a : ProgramStep Bytes) (s' : Programs Bytes)
      (ha : a ∈ repairing) (hnext : s.next plainLockdown defaultFinder ⟨false, false, false⟩ a =
        some s') : Programs.Step plainLockdown defaultFinder ⟨false, false, false⟩ s a s' := by
    refine ⟨hnext, ?_⟩
    simp only [repairing, List.mem_append, List.mem_cons, List.mem_replicate,
      List.not_mem_nil, or_false] at ha
    rcases ha with ((((rfl | rfl) | ⟨-, rfl⟩) | rfl | rfl) | ⟨-, rfl⟩) <;> trivial
  obtain ⟨tr, hrun, -⟩ := Run.of_exec hsteps hexec
  obtain ⟨tr', h, hrun', -, -, -, hsame, -⟩ := programs_are_hotplug hrun
  exact ⟨tr', h, hrun', hsame.symm.trans hqueue⟩

end Netmuxd
