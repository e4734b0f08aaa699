/-
Tunnels die with their device.

A client looks a device up, connects to it and only then registers its tunnel, and the
manager registers it under whatever id it is given.  A tunnel that is registered for a
listed device is stopped when the device goes, however it goes.  One that is registered
for a device that is gone already stays in the map, with nobody left to stop it.
-/
import Netmuxd.Proofs.Daemon

namespace Netmuxd

open Lib

/-! ### The manager's part -/

/-- Tunnels are kept for listed devices only. -/
def Manager.Sockets (m : Manager) : Prop :=
  ∀ id, (m.openSockets id).isSome = true → (m.devices id).isSome = true

/-- A tunnel of this device has been stopped, or will be when the device goes. -/
def Manager.Stoppable (m : Manager) (kill : Nat) (id : UInt64) : Prop :=
  .kill kill ∈ m.out ∨ ((m.devices id).isSome = true ∧ kill ∈ (m.openSockets id).getD [])

section
variable {cfg : Config} {env : Surroundings} {m m' : Manager} {req : ManagerRequest}
  {alive : Nat → Bool} {id : UInt64} {kill : Nat}

theorem Manager.Sockets.drop (h : m.Sockets) (id : UInt64) : (dropEntry m id).Sockets := by
  intro i hi
  by_cases heq : i = id
  · rw [heq] at hi
    simp at hi
  · rw [dropEntry_openSockets, Function.update_of_ne heq] at hi
    rw [dropEntry_devices, Function.update_of_ne heq]
    exact h i hi

/-- Whoever is dropped has its tunnels stopped. -/
theorem Manager.Stoppable.drop (h : m.Stoppable kill id) (i : UInt64) :
    (dropEntry m i).Stoppable kill id := by
  rcases h with hfired | ⟨hlisted, hheld⟩
  · exact Or.inl (List.mem_append_left _ hfired)
  by_cases heq : id = i
  · left
    subst heq
    exact List.mem_append_right _ (List.mem_map.mpr ⟨kill, hheld, rfl⟩)
  · right
    rw [dropEntry_devices, dropEntry_openSockets, Function.update_of_ne heq,
      Function.update_of_ne heq]
    exact ⟨hlisted, hheld⟩

/-- A manager with the same tunnels, at least the same devices and at least the same log. -/
theorem Manager.Stoppable.mono (h : m.Stoppable kill id)
    (hdevices : ∀ i, (m.devices i).isSome = true → (m'.devices i).isSome = true)
    (hsockets : m'.openSockets = m.openSockets) (hout : ∀ o ∈ m.out, o ∈ m'.out) :
    m'.Stoppable kill id := by
  rcases h with hfired | ⟨hlisted, hheld⟩
  · exact Or.inl (hout _ hfired)
  · right
    rw [hsockets]
    exact ⟨hdevices id hlisted, hheld⟩

theorem Manager.Sockets.mono (h : m.Sockets)
    (hdevices : ∀ i, (m.devices i).isSome = true → (m'.devices i).isSome = true)
    (hsockets : m'.openSockets = m.openSockets) : m'.Sockets := by
  intro i hi
  rw [hsockets] at hi
  exact hdevices i (h i hi)

theorem Manager.Sockets.removeEntry (h : m.Sockets) (i : UInt64) :
    (removeEntry alive m i).Sockets := by
  rw [removeEntry_eq]
  exact (h.drop i).mono (fun _ hi => hi) rfl

theorem Manager.Stoppable.removeEntry (h : m.Stoppable kill id) (i : UInt64) :
    (removeEntry alive m i).Stoppable kill id := by
  rw [removeEntry_eq]
  refine (h.drop i).mono (fun _ hi => hi) rfl fun o ho => ?_
  exact List.mem_append_left _ (List.mem_append_left _ ho)

/-- What a request does to devices and tunnels: devices come and tunnels stay, entries are
dropped, or a tunnel is registered. -/
inductive Reshapes (alive : Nat → Bool) (m : Manager) (req : ManagerRequest) : Manager → Prop
  | grows {m' : Manager}
      (hdevices : ∀ i, (m.devices i).isSome = true → (m'.devices i).isSome = true)
      (hsockets : m'.openSockets = m.openSockets) (hout : ∀ o ∈ m.out, o ∈ m'.out) :
      Reshapes alive m req m'
  | drops (ids : List UInt64) : Reshapes alive m req (ids.foldl (removeEntry alive) m)
  | drop (id : UInt64) : Reshapes alive m req (broadcast alive (dropEntry m id) (.detached id))
  | opens {id : UInt64} {kill : Nat} (hreq : req.requestType = .openSocket id kill) :
      Reshapes alive m req (openSocket m id kill)

theorem Served.reshapes (h : Served cfg env m req m') : Reshapes env.alive m req m' := by
  cases h with
  | removed ids => exact .drops ids
  | failed => exact .drop _
  | opened => exact .opens rfl
  | listedNetwork =>
      refine .grows (fun i hi => update_isSome hi) rfl fun o ho => ?_
      exact List.mem_append_left _ (List.mem_append_left _ ho)
  | listedUsb =>
      refine .grows (fun i hi => update_isSome hi) rfl fun o ho => ?_
      exact List.mem_append_left _ ho
  | added =>
      refine .grows (fun i hi => update_isSome hi) rfl fun o ho => ?_
      exact List.mem_append_left _ (List.mem_append_left _ ho)
  | answered => exact .grows (fun _ hi => hi) rfl fun o ho => List.mem_append_left _ ho
  | deferred => exact .grows (fun _ hi => hi) rfl fun o ho => List.mem_append_left _ ho
  | subscribed => exact .grows (fun _ hi => hi) rfl fun o ho => List.mem_append_left _ ho
  | _ => exact .grows (fun _ hi => hi) rfl fun o ho => ho

theorem openSocket_self (m : Manager) (id : UInt64) (kill : Nat) :
    (openSocket m id kill).openSockets id = some ((m.openSockets id).getD [] ++ [kill]) :=
  Function.update_self ..

theorem openSocket_ne {m : Manager} {id i : UInt64} {kill : Nat} (h : i ≠ id) :
    (openSocket m id kill).openSockets i = m.openSockets i :=
  Function.update_of_ne h ..

theorem Served.stoppable (h : Served cfg env m req m') (hm : m.Stoppable kill id) :
    m'.Stoppable kill id := by
  cases h.reshapes with
  | grows hdevices hsockets hout => exact hm.mono hdevices hsockets hout
  | drops ids =>
      refine List.foldlRecOn (motive := fun m' : Manager => m'.Stoppable kill id) ids _ hm ?_
      intro m' ih i _
      exact ih.removeEntry i
  | drop i =>
      exact (hm.drop i).mono (fun _ hi => hi) rfl fun o ho => List.mem_append_left _ ho
  | opens =>
      rename_i i kill' _
      rcases hm with hfired | ⟨hlisted, hheld⟩
      · exact Or.inl hfired
      refine Or.inr ⟨hlisted, ?_⟩
      by_cases heq : id = i
      · rw [heq, openSocket_self]
        exact List.mem_append_left _ (heq ▸ hheld)
      · rw [openSocket_ne heq]
        exact hheld

theorem Served.sockets (h : Served cfg env m req m') (hm : m.Sockets)
    (hopen : ∀ id kill, req.requestType = .openSocket id kill → (m.devices id).isSome = true) :
    m'.Sockets := by
  cases h.reshapes with
  | grows hdevices hsockets => exact hm.mono hdevices hsockets
  | drops ids =>
      refine List.foldlRecOn (motive := fun m' : Manager => m'.Sockets) ids _ hm ?_
      intro m' ih i _
      exact ih.removeEntry i
  | drop i => exact (hm.drop i).mono (fun _ hi => hi) rfl
  | opens hreq =>
      rename_i id kill
      intro i hi
      by_cases heq : i = id
      · rw [heq]
        exact hopen id kill hreq
      · rw [openSocket_ne heq] at hi
        exact hm i hi

end

/-! ### Over a run -/

/-- The client has registered its tunnel to this device. -/
def Daemon.Registered (d : Daemon) (client : Nat) (id : UInt64) : Prop :=
  d.dials[client]? = some id ∧ d.opened client = true ∧
    ∀ e ∈ d.queue, e.request.requestType ≠ .openSocket id client

/-- Tunnels are kept for listed devices only, and a tunnel that was registered has been
stopped or will be when its device goes. -/
structure Daemon.Guarded (d : Daemon) : Prop where
  sockets : ∀ id, (d.mgr.openSockets id).isSome = true → (d.mgr.devices id).isSome = true
  stopped : ∀ client id, d.Registered client id →
    .kill client ∈ d.mgr.out ∨
      ((d.mgr.devices id).isSome = true ∧ client ∈ (d.mgr.openSockets id).getD [])

/-- Should a tunnel be registered, its device is listed. -/
def OpensListed (d : Daemon) : Happening → Daemon → Prop
  | .serve _ _, _ => ∀ e rest id kill, d.queue = e :: rest →
      e.request.requestType = .openSocket id kill → (d.mgr.devices id).isSome = true
  | _, _ => True

/-- Only who has looked a device up opens a tunnel. -/
def Daemon.Dialled (d : Daemon) : Prop :=
  ∀ client, d.opened client = true → client < d.dials.length

section
variable {cfg : Config} {d d' : Daemon} {a : Happening}

theorem Daemon.Stepped.dialled (h : d.Stepped cfg a d') (hd : d.Dialled) : d'.Dialled := by
  cases h with
  | dial =>
      intro client hopen
      have := hd client hopen
      dsimp only
      rw [List.length_append]
      omega
  | tunnel hid hfound hopened =>
      rename_i c id lookup
      intro client hopen
      by_cases heq : client = c
      · rw [heq]
        exact (List.getElem?_eq_some_iff.mp hid).1
      · dsimp only at hopen
        rw [Function.update_of_ne heq] at hopen
        exact hd client hopen
  | _ => exact hd

/-- A tunnel registered after a step was registered before, or its request has been served. -/
theorem Daemon.Stepped.registered (h : d.Stepped cfg a d') (hd : d.Dialled) {client : Nat}
    {id : UInt64} (hr : d'.Registered client id) :
    d.Registered client id ∨ ∃ order paired e rest, a = .serve order paired ∧ d.queue = e :: rest ∧
      e.request.requestType = .openSocket id client := by
  obtain ⟨hid, hopen, hqueue⟩ := hr
  have hsend : ∀ e, d'.queue = d.queue ++ [e] →
      ∀ e ∈ d.queue, e.request.requestType ≠ .openSocket id client := by
    intro e hq e' he'
    refine hqueue e' ?_
    rw [hq]
    exact List.mem_append_left _ he'
  cases h with
  | submit => exact Or.inl ⟨hid, hopen, hsend _ rfl⟩
  | listen => exact Or.inl ⟨hid, hopen, hsend _ rfl⟩
  | beats => exact Or.inl ⟨hid, hopen, hsend _ rfl⟩
  | fails => exact Or.inl ⟨hid, hopen, hsend _ rfl⟩
  | leave => exact Or.inl ⟨hid, hopen, hqueue⟩
  | givesUp => exact Or.inl ⟨hid, hopen, hqueue⟩
  | dial =>
      refine Or.inl ⟨?_, hopen, hsend _ rfl⟩
      rwa [List.getElem?_append_left (hd client hopen)] at hid
  | tunnel hid' hfound hopened =>
      rename_i c id' lookup
      by_cases heq : client = c
      · subst heq
        have hid : d.dials[client]? = some id := hid
        rw [hid'] at hid
        cases hid
        exact absurd rfl (hqueue _ (List.mem_append_right _ (List.mem_singleton_self _)))
      · dsimp only at hopen
        rw [Function.update_of_ne heq] at hopen
        exact Or.inl ⟨hid, hopen, hsend _ rfl⟩
  | serve hq horder hserved =>
      rename_i order paired e rest m
      by_cases hhead : e.request.requestType = .openSocket id client
      · exact Or.inr ⟨order, paired, e, rest, rfl, hq, hhead⟩
      · refine Or.inl ⟨hid, hopen, fun e' he' => ?_⟩
        rw [hq] at he'
        rcases List.mem_cons.mp he' with rfl | hrest
        · exact hhead
        · exact hqueue e' hrest

theorem Served.opens {env : Surroundings} {m m' : Manager} {req : ManagerRequest} {id : UInt64}
    {kill : Nat} (h : Served cfg env m req m') (hreq : req.requestType = .openSocket id kill) :
    m' = openSocket m id kill := by
  cases h with
  | opened =>
      cases hreq
      rfl
  | answered outs hans =>
      rw [hreq] at hans
      cases hans
  | _ => cases hreq

theorem Daemon.Stepped.guarded_iff (h : d.Stepped cfg a d') (hd : d.Dialled) (hg : d.Guarded) :
    d'.Guarded ↔ OpensListed d a d' := by
  cases a with
  | serve order paired =>
      cases h with
      | serve hqueue horder hserved =>
          rename_i e rest m
          have h : d.Stepped cfg (.serve order paired) _ := .serve hqueue horder hserved
          constructor
          · intro hg' e' rest' id kill hqueue' hreq
            rw [hqueue] at hqueue'
            cases hqueue'
            have hkept := hg'.sockets id
            dsimp only at hkept
            rw [hserved.opens hreq, openSocket_self] at hkept
            exact hkept rfl
          · intro hC
            refine ⟨hserved.sockets hg.sockets fun id kill => hC e rest id kill hqueue, ?_⟩
            intro client id hr
            rcases h.registered hd hr with hold | ⟨_, _, e', rest', -, hqueue', hreq⟩
            · exact hserved.stoppable (hg.stopped client id hold)
            · -- it has just been registered
              rw [hqueue] at hqueue'
              cases hqueue'
              dsimp only
              rw [hserved.opens hreq]
              refine Or.inr ⟨hC e rest id client hqueue hreq, ?_⟩
              rw [openSocket_self]
              exact List.mem_append_right _ (List.mem_singleton_self _)
  | _ =>
      refine ⟨fun _ => trivial, fun _ => ?_⟩
      obtain ⟨outs, -, hmgr⟩ := h.mgr_eq fun order paired heq => by cases heq
      refine ⟨by rw [hmgr]; exact hg.sockets, fun client id hr => ?_⟩
      rcases h.registered hd hr with hold | ⟨_, _, _, _, ha, -, -⟩
      · have hstop : d.mgr.Stoppable client id := hg.stopped client id hold
        rw [hmgr]
        exact hstop.mono (fun _ hi => hi) rfl fun o ho => List.mem_append_left _ ho
      · cases ha

/-- **Removing a device kills every tunnel on it.**  In every run tunnels are kept for listed
devices only, and all others that were registered have been stopped, in every state, exactly
if every tunnel is registered while its device is listed. -/
theorem tunnels_die_with_their_device {tr : List (Daemon × Happening × Daemon)}
    (hrun : Run (Daemon.Step cfg) (Daemon.start cfg) tr d) :
    EveryStep (fun _ _ d' => d'.Guarded) tr ↔ EveryStep OpensListed tr := by
  refine Run.everyState_iff (I := Daemon.Dialled) ?_
    (fun _ _ _ hd hstep => hstep.stepped.dialled hd) ?_
    (fun _ _ _ hd hg hstep => hstep.stepped.guarded_iff hd hg) hrun
  · intro client hopen
    cases hopen
  · refine ⟨?_, ?_⟩
    · intro id hid
      cases hid
    · rintro client id ⟨-, hopen, -⟩
      cases hopen

end

/-- A client whose tunnel is registered before the device is removed. -/
theorem early_tunnel_is_stopped :
    ∃ d tr, Run (Daemon.Step ⟨false, false, false⟩) (Daemon.start ⟨false, false, false⟩) tr d ∧
      d.Registered 0 1 ∧ d.mgr.devices 1 = none ∧ EveryStep (fun _ _ d' => d'.Guarded) tr := by
  have one : ∀ dev, OrderOf (Function.update (fun _ => none) 1 (some dev)) [1] :=
    fun _ => orderOf_nil.insert (by simp)
  have hplays : Daemon.Plays ⟨false, false, false⟩ OpensListed
      [.submit ⟨.discoveredUsbDevice "u" 1 2 3 0, none⟩, .serve [] fun _ => false,
        .dial 1, .serve [1] fun _ => false, .tunnel 0, .serve [1] fun _ => false,
        .submit ⟨.removeDevice "u" none, none⟩, .serve [1] fun _ => false] _ :=
    ⟨_, rfl, ⟨trivial, trivial⟩,
      _, rfl, ⟨orderOf_nil, fun e rest id kill hqueue hreq => by cases hqueue; cases hreq⟩,
      _, rfl, ⟨trivial, trivial⟩,
      _, rfl, ⟨one _, fun e rest id kill hqueue hreq => by cases hqueue; cases hreq⟩,
      _, rfl, ⟨trivial, trivial⟩,
      _, rfl, ⟨one _, fun e rest id kill hqueue hreq => by cases hqueue; cases hreq; rfl⟩,
      _, rfl, ⟨trivial, trivial⟩,
      _, rfl, ⟨one _, fun e rest id kill hqueue hreq => by cases hqueue; cases hreq⟩, rfl⟩
  obtain ⟨tr, hrun, hlisted⟩ := hplays.run
  refine ⟨_, tr, hrun, ⟨rfl, rfl, ?_⟩, rfl, (tunnels_die_with_their_device hrun).mpr hlisted⟩
  intro e he
  cases he

/-- A client looks a device up, the device is removed, and then the client registers its
tunnel: the tunnel is kept under an id that is not listed, and is not stopped. -/
theorem late_tunnel_is_never_stopped :
    ∃ d tr, Run (Daemon.Step ⟨false, false, false⟩) (Daemon.start ⟨false, false, false⟩) tr d ∧
      d.Registered 0 1 ∧ d.mgr.devices 1 = none ∧ d.mgr.openSockets 1 = some [0] ∧
      Output.kill 0 ∉ d.mgr.out := by
  have one : ∀ dev, OrderOf (Function.update (fun _ => none) 1 (some dev)) [1] :=
    fun _ => orderOf_nil.insert (by simp)
  have empty : ∀ dev,
      OrderOf (Function.update (Function.update (fun _ => none) 1 (some dev)) 1 none) [] :=
    fun dev => (one dev).erase 1
  have hplays : Daemon.Plays ⟨false, false, false⟩ (fun _ _ _ => True)
      [.submit ⟨.discoveredUsbDevice "u" 1 2 3 0, none⟩, .serve [] fun _ => false,
        .dial 1, .serve [1] fun _ => false, .submit ⟨.removeDevice "u" none, none⟩,
        .serve [1] fun _ => false, .tunnel 0, .serve [] fun _ => false] _ :=
    ⟨_, rfl, ⟨trivial, trivial⟩, _, rfl, ⟨orderOf_nil, trivial⟩, _, rfl, ⟨trivial, trivial⟩,
      _, rfl, ⟨one _, trivial⟩, _, rfl, ⟨trivial, trivial⟩, _, rfl, ⟨one _, trivial⟩,
      _, rfl, ⟨trivial, trivial⟩, _, rfl, ⟨empty _, trivial⟩, rfl⟩
  obtain ⟨tr, hrun, -⟩ := hplays.run
  refine ⟨_, tr, hrun, ⟨rfl, rfl, ?_⟩, rfl, rfl, ?_⟩
  · intro e he
    cases he
  · show Output.kill 0 ∉ [.connection 0 (some ⟨"USB", "u", none, some 0⟩), .shutdown 0]
    simp

end Netmuxd
