/-
The answers that AddDevice gets.

A client that asks for a device to be added waits at the end of a channel.  The channel goes
with its request into the manager's queue, with heartbeats on from there to a heartbeat task
and back into the queue with the deferred add, and whoever holds it last is to answer.
Counting the places where a channel can be, and the replies sent on it, no step changes the
sum but one: serving a discovery of a device that is listed already or has no pairing record
drops the channel.  And the manager and the heartbeat tasks only have so much left to do
(`Daemon.work`), so a channel that waits is answered in the end.

A reply says 1 where the device has just been put in.  It says 0 when the heartbeat could not
be set up, which is false if the device has been listed through another request meanwhile.
-/
import Mathlib
import Netmuxd.Proofs.HeartbeatFailure
import Netmuxd.Proofs.Kinds

namespace Netmuxd

open Lib

/-! ### Channels -/

def Output.replyTo? (caller : Nat) : Output → Option Dictionary
  | .respond c p => if c = caller then some p else none
  | _ => none

/-- The replies sent to a caller. -/
def repliesTo (caller : Nat) (out : List Output) : List Dictionary :=
  out.filterMap (Output.replyTo? caller)

/-- The channel that serving the request is to answer on. -/
def ManagerRequest.channel? (req : ManagerRequest) : Option Nat :=
  match req.requestType with
  | .discoveredNetworkDevice .. | .listDevices => req.response
  | .deferredMuxerAdd _ response => response
  | _ => none

/-- How often a request on the queue holds the channel. -/
def Daemon.queued (d : Daemon) (c : Nat) : Nat :=
  (d.queue.filterMap fun e => e.request.channel?).count c

/-- The heartbeat task `k` is setting up and holds the channel. -/
def Daemon.Holds (d : Daemon) (c k : Nat) : Prop :=
  d.stage k = .connecting ∧ (d.session k).bind Prod.snd = some c

instance (d : Daemon) (c k : Nat) : Decidable (d.Holds c k) :=
  inferInstanceAs (Decidable (_ ∧ _))

def Daemon.tasks (d : Daemon) (c : Nat) : Finset Nat :=
  (Finset.range (heartbeats d.mgr.out).length).filter (d.Holds c)

/-- The places where the caller's channel waits for a reply. -/
def Daemon.awaits (d : Daemon) (c : Nat) : Nat :=
  d.queued c + (d.tasks c).card

/-- One for a channel `c` that is `o`. -/
def one (o : Option Nat) (c : Nat) : Nat :=
  if o = some c then 1 else 0

section
variable {c : Nat} {m m' : Manager} {cfg : Config} {env : Surroundings} {req : ManagerRequest}

/-! ### Replies in the log -/

theorem Output.unread_replyTo (c : Nat) : Unread (Output.replyTo? c) where
  tell := fun _ _ => rfl
  kill := fun _ => rfl
  shutdown := fun _ => rfl

theorem repliesTo_append (out outs : List Output) :
    repliesTo c (out ++ outs) = repliesTo c out ++ repliesTo c outs :=
  List.filterMap_append ..

theorem repliesTo_responses (response : Option Nat) (p : Dictionary) :
    repliesTo c (responses response p) = if response = some c then [p] else [] := by
  cases response with
  | none => rfl
  | some caller =>
      by_cases h : caller = c
      · rw [h, if_pos rfl]
        simp [repliesTo, responses, Output.replyTo?]
      · rw [if_neg (by simpa using h)]
        simp [repliesTo, responses, Output.replyTo?, h]

/-! ### Serving a request -/

/-- The UDID and connection type of the device that serving the request may list on the
network. -/
def ManagerRequest.addsFor? (req : ManagerRequest) : Option (String × String) :=
  match req.requestType with
  | .discoveredNetworkDevice udid _ _ connectionType => some (udid, connectionType)
  | .deferredMuxerAdd device _ => some (device.serialNumber, device.connectionType)
  | _ => none

/-- A discovery that is not followed up. -/
def Unserved (env : Surroundings) (m : Manager) (udid connectionType : String) : Prop :=
  Lists m.devices udid connectionType ∨ env.paired udid = false

/-- What serving a request does to its channel. -/
inductive Settles (cfg : Config) (env : Surroundings) (m : Manager) (req : ManagerRequest)
    (m' : Manager) : Prop
  | answered (p : Dictionary)
      (hreplies : ∀ c, repliesTo c m'.out =
        repliesTo c m.out ++ if req.channel? = some c then [p] else [])
      (hheartbeats : heartbeats m'.out = heartbeats m.out)
      (htrue : ∀ udid connectionType, req.addsFor? = some (udid, connectionType) →
        p = resultPlist 1 ∧ Lists m'.devices udid connectionType ∧
          (req.requestType.answerable = true → ¬ Unserved env m udid connectionType))
  | handedOn {udid serviceName connectionType : String} {networkAddress : IpAddr}
      (hreq : req.requestType =
        .discoveredNetworkDevice udid networkAddress serviceName connectionType)
      (hserved : ¬ Unserved env m udid connectionType)
      (hm : m' = m.issue.emit [.heartbeat
        (m.networkDevice udid networkAddress serviceName connectionType) req.response])
  | dropped {udid serviceName connectionType : String} {networkAddress : IpAddr}
      (hreq : req.requestType =
        .discoveredNetworkDevice udid networkAddress serviceName connectionType)
      (hunserved : Unserved env m udid connectionType) (hm : m' = m)

theorem lists_list (alive : Nat → Bool) (device : MuxerDevice) (p : Dictionary) :
    Lists (m.list alive device p).devices device.serialNumber device.connectionType :=
  ⟨device.deviceId, device, Function.update_self .., rfl, rfl⟩

theorem replies_list (alive : Nat → Bool) (device : MuxerDevice) (p p' : Dictionary)
    (response : Option Nat) (c : Nat) :
    repliesTo c ((m.list alive device p).emit (responses response p')).out =
      repliesTo c m.out ++ if response = some c then [p'] else [] := by
  rw [emit_out, repliesTo_append, repliesTo_responses]
  exact congrArg (· ++ _) ((Output.unread_replyTo c).list alive device p)

theorem discoveredNetworkDevice_settles {udid serviceName connectionType : String}
    {networkAddress : IpAddr} {response : Option Nat} (horder : OrderOf m.devices env.order)
    (h : discoveredNetworkDevice cfg env m udid networkAddress serviceName connectionType response
      = some m') :
    Settles cfg env m
      ⟨.discoveredNetworkDevice udid networkAddress serviceName connectionType, response⟩ m' := by
  unfold discoveredNetworkDevice at h
  split at h
  · next hlisted =>
      cases h
      exact .dropped rfl (.inl ((findDeviceId_isSome horder.2).mp hlisted)) rfl
  next hnew =>
  rw [findDeviceId_isSome horder.2] at hnew
  split at h
  · next hunpaired =>
      cases h
      exact .dropped rfl (.inr (by simpa using hunpaired)) rfl
  next hpaired =>
  have hserved : ¬ Unserved env m udid connectionType := by
    intro hunserved
    rcases hunserved with hlisted | hunpaired
    · exact hnew hlisted
    · exact hpaired (by simpa using hunpaired)
  split at h
  · cases h
    exact .handedOn rfl hserved rfl
  · obtain ⟨p, hp, rfl⟩ := addNetworkDevice_some h
    refine .answered (resultPlist 1) (fun c => ?_) ?_ ?_
    · exact replies_list (m := m.issue) _ _ _ _ _ c
    · exact heartbeats_listed (m := m.issue) _ _ _ _ _
    · intro udid' connectionType' hadds
      cases hadds
      exact ⟨rfl, lists_list (m := m.issue) env.alive _ p, fun _ => hserved⟩

theorem listDevices_settles {response : Option Nat}
    (h : listDevices cfg env m response = some m') :
    Settles cfg env m ⟨.listDevices, response⟩ m' := by
  unfold listDevices at h
  split at h
  · cases h
    refine .answered [] (fun c => ?_) rfl nofun
    exact (List.append_nil _).symm
  · next caller =>
      obtain ⟨list, -, rfl⟩ := Option.map_eq_some_iff.mp h
      refine .answered [("DeviceList", .array (list.map .dictionary))] (fun c => ?_) ?_ nofun
      · rw [emit_out, repliesTo_append]
        exact congrArg _ (repliesTo_responses (some caller) _)
      · rw [emit_out, heartbeats_append]
        exact List.append_nil _

/-- A request of another kind, which holds no channel. -/
theorem Settles.of_silent (hchannel : req.channel? = none) (hadds : req.addsFor? = none)
    (hreplies : ∀ c, repliesTo c m'.out = repliesTo c m.out)
    (hheartbeats : heartbeats m'.out = heartbeats m.out) : Settles cfg env m req m' := by
  refine .answered [] (fun c => ?_) hheartbeats fun _ _ h => ?_
  · rw [hchannel, if_neg nofun, List.append_nil, hreplies]
  · rw [hadds] at h
    cases h

theorem Settles.of_unanswerable (h : Served cfg env m req m')
    (hans : req.requestType.answerable = false)
    (hadd : ∀ device response, req.requestType ≠ .deferredMuxerAdd device response) :
    Settles cfg env m req m' := by
  have hplain : req.channel? = none ∧ req.addsFor? = none := by
    obtain ⟨requestType, response⟩ := req
    cases requestType with
    | discoveredNetworkDevice => cases hans
    | listDevices => cases hans
    | deferredMuxerAdd => exact absurd rfl (hadd _ _)
    | _ => exact ⟨rfl, rfl⟩
  refine .of_silent hplain.1 hplain.2 (fun c => ?_) ?_
  · exact (Output.unread_replyTo c).served h hans hadd
  · exact Output.unread_heartbeat.served h hans hadd

theorem Manager.handle_settles (horder : OrderOf m.devices env.order)
    (h : m.handle cfg env req = some m') : Settles cfg env m req m' := by
  have hserved := Manager.handle_served horder h
  obtain ⟨requestType, response⟩ := req
  cases requestType with
  | discoveredNetworkDevice => exact discoveredNetworkDevice_settles horder h
  | listDevices => exact listDevices_settles h
  | deferredMuxerAdd device response' =>
      obtain ⟨p, hp, rfl⟩ := addNetworkDevice_some h
      refine .answered (resultPlist 1) (fun c => replies_list _ _ _ _ _ c)
        (heartbeats_listed _ _ _ _ _) ?_
      intro udid connectionType hadds
      cases hadds
      exact ⟨rfl, lists_list env.alive device p, nofun⟩
  | getDeviceConnection id caller =>
      cases h
      refine .of_silent rfl rfl (fun c => ?_) ?_
      · rw [getDeviceConnection, emit_out, repliesTo_append]
        exact List.append_nil _
      · rw [getDeviceConnection, emit_out, heartbeats_append]
        exact List.append_nil _
  | _ =>
      refine .of_unanswerable hserved rfl ?_
      intro device response' hreq
      cases hreq

end

/-! ### Places -/

section
variable {c k : Nat} {d d' : Daemon} {device : MuxerDevice} {response : Option Nat}

theorem length_ite (p : Dictionary) :
    (if response = some c then [p] else []).length = one response c := by
  unfold one
  split
  · rfl
  · rfl

theorem queued_served {e : Envelope} (h : d.queue = e :: d'.queue) :
    d.queued c = d'.queued c + one e.request.channel? c := by
  unfold Daemon.queued one
  rw [h, List.filterMap_cons]
  cases e.request.channel? with
  | none => simp
  | some c' => simp [List.count_cons]

theorem queued_sent {e : Envelope} (h : d'.queue = d.queue ++ [e]) :
    d'.queued c = d.queued c + one e.request.channel? c := by
  unfold Daemon.queued one
  rw [h, List.filterMap_append, List.count_append]
  cases hc : e.request.channel? with
  | none => simp [hc]
  | some c' => simp [hc, List.count_cons]

theorem queued_eq_zero (h : ∀ e ∈ d.queue, e.request.channel? ≠ some c) : d.queued c = 0 := by
  refine List.count_eq_zero.mpr fun hmem => ?_
  obtain ⟨e, he, hc⟩ := List.mem_filterMap.mp hmem
  exact h e he hc

theorem mem_tasks : k ∈ d.tasks c ↔ d.Holds c k := by
  unfold Daemon.tasks
  rw [Finset.mem_filter, Finset.mem_range]
  constructor
  · intro h
    exact h.2
  · intro h
    refine ⟨?_, h⟩
    by_contra hlen
    have hnone : d.session k = none := List.getElem?_eq_none (Nat.le_of_not_lt hlen)
    have hsome := h.2
    rw [hnone] at hsome
    cases hsome

theorem tasks_congr (hout : heartbeats d'.mgr.out = heartbeats d.mgr.out)
    (hstage : d'.stage = d.stage) : d'.tasks c = d.tasks c := by
  ext k
  rw [mem_tasks, mem_tasks, Daemon.Holds, Daemon.Holds, Daemon.session, Daemon.session, hout,
    hstage]

/-- A task that connects no longer gives its channel away. -/
theorem tasks_update {s : Stage} (hsession : d.session k = some (device, response))
    (hstage : d.stage k = .connecting) (hs : s ≠ .connecting)
    (hout : heartbeats d'.mgr.out = heartbeats d.mgr.out)
    (hstage' : d'.stage = Function.update d.stage k s) :
    (d.tasks c).card = (d'.tasks c).card + one response c := by
  have herase : d'.tasks c = (d.tasks c).erase k := by
    ext j
    rw [Finset.mem_erase, mem_tasks, mem_tasks, Daemon.Holds, Daemon.Holds, Daemon.session,
      Daemon.session, hout, hstage']
    by_cases hj : j = k
    · rw [hj, Function.update_self]
      simp [hs]
    · rw [Function.update_of_ne hj]
      simp [hj]
  have hmem : k ∈ d.tasks c ↔ response = some c := by
    rw [mem_tasks, Daemon.Holds, hsession]
    simp [hstage]
  rw [herase]
  unfold one
  split
  · next hc => exact (Finset.card_erase_add_one (hmem.mpr hc)).symm
  · next hc => rw [Finset.erase_eq_of_notMem (hc ∘ hmem.mp), Nat.add_zero]

/-- One that connects no longer has none to give. -/
theorem tasks_beating {s : Stage} (hstage : d.stage k = .beating) (hs : s ≠ .connecting)
    (hout : heartbeats d'.mgr.out = heartbeats d.mgr.out)
    (hstage' : d'.stage = Function.update d.stage k s) : d'.tasks c = d.tasks c := by
  ext j
  rw [mem_tasks, mem_tasks, Daemon.Holds, Daemon.Holds, Daemon.session, Daemon.session, hout,
    hstage']
  by_cases hj : j = k
  · rw [hj, Function.update_self, hstage]
    simp [hs]
  · rw [Function.update_of_ne hj]

/-- A task that is spawned connects, and has the channel it was given. -/
theorem tasks_spawn (hd : d.Sound)
    (hout : heartbeats d'.mgr.out = heartbeats d.mgr.out ++ [(device, response)])
    (hstage : d'.stage = d.stage) :
    (d'.tasks c).card = (d.tasks c).card + one response c := by
  have hnew : d.stage (heartbeats d.mgr.out).length = .connecting := hd.later _ d.session_length
  have hhas : ∀ j, d'.Holds c j ↔
      d.Holds c j ∨ (j = (heartbeats d.mgr.out).length ∧ response = some c) := by
    intro j
    unfold Daemon.Holds
    have hsession : d'.session j =
        if j = (heartbeats d.mgr.out).length then some (device, response) else d.session j := by
      unfold Daemon.session
      rw [hout]
      exact getElem?_concat _ _ j
    rw [hstage, hsession]
    by_cases hj : j = (heartbeats d.mgr.out).length
    · rw [if_pos hj, hj, d.session_length]
      simp [hnew]
    · rw [if_neg hj]
      simp [hj]
  unfold one
  split
  · next hc =>
      have hinsert : d'.tasks c = insert (heartbeats d.mgr.out).length (d.tasks c) := by
        ext j
        rw [Finset.mem_insert, mem_tasks, mem_tasks, hhas]
        simp [hc, or_comm]
      have hmem : (heartbeats d.mgr.out).length ∉ d.tasks c := by
        rw [mem_tasks, Daemon.Holds, d.session_length]
        rintro ⟨-, hnone⟩
        cases hnone
      rw [hinsert, Finset.card_insert_of_notMem hmem]
  · next hc =>
      have hsame : d'.tasks c = d.tasks c := by
        ext j
        rw [mem_tasks, mem_tasks, hhas]
        simp [hc]
      rw [hsame, Nat.add_zero]

end

/-! ### One step -/

/-- The reply or place that the happening makes for the channel. -/
def Happening.brings (c : Nat) : Happening → Nat
  | .submit request => one request.channel? c
  | _ => 0

/-- Serving the request drops the channel: it is a discovery that is not followed up. -/
def ManagerRequest.Drops (c : Nat) (env : Surroundings) (m : Manager) (req : ManagerRequest) :
    Prop :=
  req.response = some c ∧ ∃ udid networkAddress serviceName connectionType,
    req.requestType = .discoveredNetworkDevice udid networkAddress serviceName connectionType ∧
      Unserved env m udid connectionType

def Drops (c : Nat) (d : Daemon) : Happening → Prop
  | .serve order paired => ∃ e rest, d.queue = e :: rest ∧
      e.request.Drops c (d.surroundings order paired) d.mgr
  | _ => False

/-- The replies to a caller, and the places where its channel waits for one. -/
def Daemon.count (d : Daemon) (c : Nat) : Nat :=
  (repliesTo c d.mgr.out).length + d.awaits c

section
variable {c : Nat} {cfg : Config} {d d' : Daemon} {a : Happening}

theorem Daemon.Step.settles {order : List UInt64} {paired : String → Bool}
    (h : Daemon.Step cfg d (.serve order paired) d') :
    ∃ e, d.queue = e :: d'.queue ∧ d'.stage = d.stage ∧
      Settles cfg (d.surroundings order paired) d.mgr e.request d'.mgr := by
  obtain ⟨e, rest, m, hqueue, horder, hhandle, rfl⟩ := h.served
  exact ⟨e, hqueue, rfl, Manager.handle_settles horder hhandle⟩

/-- A step that puts a request on the queue, and does nothing else about channels. -/
theorem count_send {e : Envelope} {n : Nat} (hqueue : d'.queue = d.queue ++ [e])
    (hmgr : d'.mgr = d.mgr) (htasks : d'.tasks c = d.tasks c)
    (hn : one e.request.channel? c = n) : d'.count c = d.count c + n := by
  unfold Daemon.count Daemon.awaits
  rw [queued_sent hqueue, hmgr, htasks, hn]
  omega

theorem count_taken {e : Envelope} (hqueue : d.queue = e :: d'.queue) (hmgr : d'.mgr = d.mgr)
    (hstage : d'.stage = d.stage) : d.count c = d'.count c + one e.request.channel? c := by
  have htasks : d'.tasks c = d.tasks c := tasks_congr (by rw [hmgr]) hstage
  unfold Daemon.count Daemon.awaits
  rw [queued_served hqueue, htasks, hmgr]
  omega

theorem count_answered {e : Envelope} {p : Dictionary} (hqueue : d.queue = e :: d'.queue)
    (hreplies : repliesTo c d'.mgr.out =
      repliesTo c d.mgr.out ++ if e.request.channel? = some c then [p] else [])
    (hheartbeats : heartbeats d'.mgr.out = heartbeats d.mgr.out) (hstage : d'.stage = d.stage) :
    d'.count c = d.count c := by
  unfold Daemon.count Daemon.awaits
  rw [hreplies, List.length_append, length_ite, tasks_congr hheartbeats hstage,
    queued_served hqueue]
  omega

/-- The channel goes from the queue to the task that is spawned. -/
theorem count_handedOn {e : Envelope} {device : MuxerDevice} (hd : d.Sound)
    (hqueue : d.queue = e :: d'.queue) (hchannel : e.request.channel? = e.request.response)
    (hmgr : d'.mgr = d.mgr.issue.emit [.heartbeat device e.request.response])
    (hstage : d'.stage = d.stage) : d'.count c = d.count c := by
  have hheartbeats : heartbeats d'.mgr.out =
      heartbeats d.mgr.out ++ [(device, e.request.response)] := by
    rw [hmgr]
    exact heartbeats_append _ _
  have hreplies : repliesTo c d'.mgr.out = repliesTo c d.mgr.out := by
    rw [hmgr, emit_out, repliesTo_append]
    exact List.append_nil _
  unfold Daemon.count Daemon.awaits
  rw [hreplies, tasks_spawn hd hheartbeats hstage, queued_served hqueue, hchannel]
  omega

theorem count_beats {k : Nat} {device : MuxerDevice} {response : Option Nat}
    (hsession : d.session k = some (device, response)) (hstage : d.stage k = .connecting)
    (hqueue : d'.queue =
      d.queue ++ [{ request := { requestType := .deferredMuxerAdd device response }
                    session := some k }])
    (hmgr : d'.mgr = d.mgr) (hstage' : d'.stage = Function.update d.stage k .beating) :
    d'.count c = d.count c := by
  have htasks := tasks_update (c := c) hsession hstage (by decide) (by rw [hmgr]) hstage'
  have hqueued := queued_sent (c := c) hqueue
  unfold Daemon.count Daemon.awaits
  rw [htasks, hqueued, hmgr]
  change _ + (_ + one response c + _) = _
  omega

theorem count_givesUp {k : Nat} {device : MuxerDevice} {response : Option Nat} {p : Dictionary}
    (hsession : d.session k = some (device, response)) (hstage : d.stage k = .connecting)
    (hqueue : d'.queue = d.queue) (hmgr : d'.mgr = d.mgr.emit (responses response p))
    (hstage' : d'.stage = Function.update d.stage k .over) : d'.count c = d.count c := by
  have hheartbeats : heartbeats d'.mgr.out = heartbeats d.mgr.out := by
    rw [hmgr, emit_out, heartbeats_append, heartbeats_responses, List.append_nil]
  have htasks := tasks_update (c := c) hsession hstage (by decide) hheartbeats hstage'
  have hqueued : d'.queued c = d.queued c := by
    unfold Daemon.queued
    rw [hqueue]
  unfold Daemon.count Daemon.awaits
  rw [htasks, hqueued, hmgr, emit_out, repliesTo_append, repliesTo_responses, List.length_append,
    length_ite]
  omega

theorem Settles.count {env : Surroundings} {e : Envelope}
    (h : Settles cfg env d.mgr e.request d'.mgr) (hd : d.Sound) (hqueue : d.queue = e :: d'.queue)
    (hstage : d'.stage = d.stage) :
    (¬ e.request.Drops c env d.mgr ∧ d'.count c = d.count c) ∨
      (e.request.Drops c env d.mgr ∧ d.count c = d'.count c + 1) := by
  cases h with
  | answered p hreplies hheartbeats htrue =>
      left
      refine ⟨?_, count_answered hqueue (hreplies c) hheartbeats hstage⟩
      rintro ⟨-, udid, addr, name, ct, hreq, hunserved⟩
      have hadds : e.request.addsFor? = some (udid, ct) := by
        rw [ManagerRequest.addsFor?, hreq]
      refine (htrue udid ct hadds).2.2 ?_ hunserved
      rw [hreq]
      rfl
  | handedOn hreq hserved hm =>
      left
      refine ⟨?_, count_handedOn hd hqueue ?_ hm hstage⟩
      · rintro ⟨-, _, _, _, _, hreq', hunserved⟩
        rw [hreq] at hreq'
        cases hreq'
        exact hserved hunserved
      · rw [ManagerRequest.channel?, hreq]
  | dropped hreq hunserved hm =>
      have hchannel : e.request.channel? = e.request.response := by
        rw [ManagerRequest.channel?, hreq]
      have hcount := count_taken (c := c) hqueue hm hstage
      rw [hchannel] at hcount
      by_cases hc : e.request.response = some c
      · rw [one, if_pos hc] at hcount
        exact .inr ⟨⟨hc, _, _, _, _, hreq, hunserved⟩, hcount⟩
      · rw [one, if_neg hc] at hcount
        exact .inl ⟨fun hbad => hc hbad.1, hcount.symm⟩

/-- A step keeps the count, new channels apart, unless it drops the channel. -/
theorem Daemon.Step.count (h : Daemon.Step cfg d a d') (hd : d.Sound) :
    (¬ Drops c d a ∧ d'.count c = d.count c + a.brings c) ∨
      (Drops c d a ∧ d.count c = d'.count c + 1) := by
  cases a with
  | serve order paired =>
      obtain ⟨e, hqueue, hstage, hsettles⟩ := h.settles
      rcases hsettles.count (c := c) hd hqueue hstage with ⟨hkept, hcount⟩ | ⟨hdrops, hcount⟩
      · left
        refine ⟨?_, hcount⟩
        rintro ⟨e', rest', hqueue', hdrops⟩
        rw [hqueue] at hqueue'
        cases hqueue'
        exact hkept hdrops
      · exact .inr ⟨⟨e, _, hqueue, hdrops⟩, hcount⟩
  | givesUp k =>
      cases h.stepped with
      | givesUp hsession hstage => exact .inl ⟨id, count_givesUp hsession hstage rfl rfl rfl⟩
  | beats k =>
      cases h.stepped with
      | beats hsession hstage => exact .inl ⟨id, count_beats hsession hstage rfl rfl rfl⟩
  | fails k =>
      cases h.stepped with
      | fails hsession hstage =>
          exact .inl ⟨id, count_send rfl rfl (tasks_beating hstage (by decide) rfl rfl) rfl⟩
  | submit request =>
      cases h.stepped with
      | submit => exact .inl ⟨id, count_send rfl rfl rfl rfl⟩
  | listen =>
      cases h.stepped with
      | listen => exact .inl ⟨id, count_send rfl rfl rfl rfl⟩
  | leave =>
      cases h.stepped with
      | leave => exact .inl ⟨id, rfl⟩
  | dial =>
      cases h.stepped with
      | dial => exact .inl ⟨id, count_send rfl rfl rfl rfl⟩
  | tunnel =>
      cases h.stepped with
      | tunnel => exact .inl ⟨id, count_send rfl rfl rfl rfl⟩

/-- Who a step sends a reply to, and what it says of the device. -/
inductive Replies (c : Nat) (d : Daemon) (a : Happening) (d' : Daemon) (p : Dictionary) : Prop
  | served {order : List UInt64} {paired : String → Bool} {e : Envelope} {rest : List Envelope}
      (ha : a = .serve order paired) (hqueue : d.queue = e :: rest)
      (hchannel : e.request.channel? = some c)
      (htrue : ∀ udid connectionType, e.request.addsFor? = some (udid, connectionType) →
        p = resultPlist 1 ∧ Lists d'.mgr.devices udid connectionType)
  | gaveUp {k : Nat} {device : MuxerDevice} (ha : a = .givesUp k)
      (hsession : d.session k = some (device, some c)) (hp : p = resultPlist 0)
      (hdevices : d'.mgr.devices = d.mgr.devices)

theorem Daemon.Step.replies (h : Daemon.Step cfg d a d') :
    repliesTo c d'.mgr.out = repliesTo c d.mgr.out ∨
      ∃ p, repliesTo c d'.mgr.out = repliesTo c d.mgr.out ++ [p] ∧ Replies c d a d' p := by
  cases a with
  | serve order paired =>
      obtain ⟨e, hqueue, -, hsettles⟩ := h.settles
      cases hsettles with
      | answered p hreplies hheartbeats htrue =>
          by_cases hc : e.request.channel? = some c
          · right
            refine ⟨p, ?_, .served rfl hqueue hc ?_⟩
            · rw [hreplies, if_pos hc]
            · intro udid ct hadds
              obtain ⟨hp, hlists, -⟩ := htrue udid ct hadds
              exact ⟨hp, hlists⟩
          · left
            rw [hreplies, if_neg hc, List.append_nil]
      | handedOn hreq hserved hm =>
          left
          rw [hm, emit_out, repliesTo_append]
          exact List.append_nil _
      | dropped hreq hunserved hm =>
          left
          rw [hm]
  | givesUp k =>
      cases h.stepped with
      | @givesUp _ device response hsession hstage =>
          rw [emit_out, repliesTo_append, repliesTo_responses]
          split
          · next hc =>
              subst hc
              exact .inr ⟨_, rfl, .gaveUp rfl hsession rfl rfl⟩
          · exact .inl (List.append_nil _)
  | _ =>
      left
      cases h.stepped with
      | _ => rfl

end

/-! ### The callers -/

/-- What the request's channel was made for: an AddDevice of this UDID and connection type, or
anything else. -/
def ManagerRequest.made? (req : ManagerRequest) : Option (Nat × Option (String × String)) :=
  req.response.map fun c => (c, req.addsFor?)

def Happening.made? : Happening → Option (Nat × Option (String × String))
  | .submit request => request.made?
  | _ => none

/-- The daemon, and the channels that have been made with what for. -/
structure Docket where
  daemon : Daemon
  made : List (Nat × Option (String × String)) := []

def Docket.start (cfg : Config) : Docket :=
  { daemon := Daemon.start cfg }

/-- `channel()` makes a channel that has not been there before. -/
def Docket.Step (cfg : Config) (s : Docket) (a : Happening) (s' : Docket) : Prop :=
  Daemon.Step cfg s.daemon a s'.daemon ∧ s'.made = s.made ++ a.made?.toList ∧
    ∀ x, a.made? = some x → x.1 ∉ s.made.map Prod.fst

def Docket.next (cfg : Config) (s : Docket) (a : Happening) : Option Docket :=
  (s.daemon.next cfg a).map fun daemon => { daemon, made := s.made ++ a.made?.toList }

/-- Every AddDevice has one reply, or one place where its channel waits for it. -/
def Docket.Answered (s : Docket) : Prop :=
  ∀ c pair, (c, some pair) ∈ s.made →
    (repliesTo c s.daemon.mgr.out).length + s.daemon.awaits c = 1

/-- A reply says 1 where the device is listed, and 0 where it is not. -/
def Truthful (s s' : Docket) : Prop :=
  ∀ c udid connectionType, (c, some (udid, connectionType)) ∈ s'.made →
    ∀ p, repliesTo c s'.daemon.mgr.out = repliesTo c s.daemon.mgr.out ++ [p] →
      (p = resultPlist 1 ∧ Lists s'.daemon.mgr.devices udid connectionType) ∨
        (p = resultPlist 0 ∧ ¬ Lists s'.daemon.mgr.devices udid connectionType)

/-- An AddDevice that is served is of a device with a pairing record that is not listed, and
one whose heartbeat cannot be set up is still not listed then. -/
def FollowsUp (d : Daemon) : Happening → Prop
  | .serve _ paired => ∀ e rest udid networkAddress serviceName connectionType c,
      d.queue = e :: rest →
      e.request.requestType =
        .discoveredNetworkDevice udid networkAddress serviceName connectionType →
      e.request.response = some c →
      ¬ Lists d.mgr.devices udid connectionType ∧ paired udid = true
  | .givesUp k => ∀ device c, d.session k = some (device, some c) →
      ¬ Lists d.mgr.devices device.serialNumber device.connectionType
  | _ => True

/-- Whatever holds a channel was made it for. -/
structure Docket.Kept (s : Docket) : Prop where
  sound : s.daemon.Sound
  distinct : (s.made.map Prod.fst).Nodup
  queued : ∀ e ∈ s.daemon.queue, ∀ c, e.request.channel? = some c →
    (c, e.request.addsFor?) ∈ s.made
  given : ∀ k device c, s.daemon.session k = some (device, some c) →
    (c, some (device.serialNumber, device.connectionType)) ∈ s.made
  unmade : ∀ c, c ∉ s.made.map Prod.fst → repliesTo c s.daemon.mgr.out = []

theorem channel_response {req : ManagerRequest} {c : Nat}
    (hreq : req.requestType.unconditional = true) (h : req.channel? = some c) :
    req.response = some c := by
  obtain ⟨requestType, response⟩ := req
  cases requestType with
  | discoveredNetworkDevice => exact h
  | listDevices => exact h
  | deferredMuxerAdd => cases hreq
  | _ => cases h

theorem Daemon.Step.unconditional {cfg : Config} {d d' : Daemon} {request : ManagerRequest}
    (h : Daemon.Step cfg d (.submit request) d') : request.requestType.unconditional = true := by
  cases h.stepped with
  | submit hreq => exact hreq

/-- A channel on the queue was there before, or comes with the request, or from the task that
is up. -/
theorem Daemon.Stepped.channels {cfg : Config} {d d' : Daemon} {a : Happening} {c : Nat}
    {e : Envelope} (h : d.Stepped cfg a d') (he : e ∈ d'.queue)
    (hchannel : e.request.channel? = some c) :
    e ∈ d.queue ∨ a.made? = some (c, e.request.addsFor?) ∨
      ∃ k device, d.session k = some (device, some c) ∧
        e.request.addsFor? = some (device.serialNumber, device.connectionType) := by
  have hsent : ∀ e', d'.queue = d.queue ++ [e'] → e ∈ d.queue ∨ e = e' := by
    intro e' hqueue
    rw [hqueue] at he
    rcases List.mem_append.mp he with hold | hnew
    · exact .inl hold
    · exact .inr (List.mem_singleton.mp hnew)
  cases h with
  | @submit request hreq =>
      refine (hsent _ rfl).imp_right fun heq => .inl ?_
      subst heq
      have hresponse : request.response = some c := channel_response hreq hchannel
      rw [Happening.made?, ManagerRequest.made?, hresponse]
      rfl
  | @beats k device response hsession =>
      refine (hsent _ rfl).imp_right fun heq => .inr ?_
      subst heq
      have hresponse : response = some c := hchannel
      exact ⟨k, device, hresponse ▸ hsession, rfl⟩
  | leave => exact .inl he
  | givesUp => exact .inl he
  | serve hqueue =>
      left
      rw [hqueue]
      exact List.mem_cons_of_mem _ he
  | _ =>
      left
      refine (hsent _ rfl).resolve_right ?_
      rintro rfl
      cases hchannel

section
variable {c : Nat} {cfg : Config} {s s' : Docket} {a : Happening}

theorem Docket.kept_start (cfg : Config) : (Docket.start cfg).Kept where
  sound := Daemon.sound_start cfg
  distinct := List.nodup_nil
  queued := by
    intro e he
    cases he
  given := by
    intro k device c h
    cases h
  unmade := fun _ _ => rfl

/-- A channel is made for one thing. -/
theorem Docket.Kept.same (hs : s.Kept) {x y : Option (String × String)} (hx : (c, x) ∈ s.made)
    (hy : (c, y) ∈ s.made) : x = y := by
  have heq := List.inj_on_of_nodup_map hs.distinct hx hy rfl
  exact (Prod.mk.inj heq).2

theorem Docket.Kept.count_unmade (hs : s.Kept) (hc : c ∉ s.made.map Prod.fst) :
    s.daemon.count c = 0 := by
  have hnotIn : ∀ x, (c, x) ∉ s.made := fun x hx => hc (List.mem_map.mpr ⟨_, hx, rfl⟩)
  have hqueued : s.daemon.queued c = 0 :=
    queued_eq_zero fun e he hchannel => hnotIn _ (hs.queued e he c hchannel)
  have htasks : s.daemon.tasks c = ∅ := by
    refine Finset.eq_empty_of_forall_notMem fun k hk => ?_
    obtain ⟨-, hk⟩ := mem_tasks.mp hk
    obtain ⟨⟨device, response⟩, hsession, rfl⟩ := Option.bind_eq_some_iff.mp hk
    exact hnotIn _ (hs.given k device c hsession)
  unfold Daemon.count Daemon.awaits
  rw [hs.unmade c hc, hqueued, htasks]
  rfl

theorem Docket.Step.made (h : Docket.Step cfg s a s') {x : Nat × Option (String × String)}
    (hx : x ∈ s.made) : x ∈ s'.made := by
  rw [h.2.1]
  exact List.mem_append_left _ hx

theorem Docket.Step.kept (h : Docket.Step cfg s a s') (hs : s.Kept) : s'.Kept := by
  have hstep := h.1
  have hmade := h.2.1
  refine ⟨hstep.stepped.sound hs.sound, ?_, ?_, ?_, ?_⟩
  · rw [hmade, List.map_append]
    cases ha : a.made? with
    | none => simpa using hs.distinct
    | some x =>
        refine List.nodup_append.mpr ⟨hs.distinct, by simp, ?_⟩
        intro y hy z hz
        rw [List.mem_singleton.mp hz]
        rintro rfl
        exact h.2.2 x ha hy
  · intro e he c hchannel
    rcases hstep.stepped.channels he hchannel with hqueue | hnew | ⟨k, device, hsession, hadds⟩
    · exact h.made (hs.queued e hqueue c hchannel)
    · rw [hmade, hnew]
      exact List.mem_append_right _ (List.mem_singleton_self _)
    · rw [hadds]
      exact h.made (hs.given k device c hsession)
  · intro k device c hsession
    rcases hstep.stepped.session with hsame |
      ⟨_, _, e, rest, udid, addr, name, ct, -, hqueue, hreq, -, -, -, hnew⟩
    · rw [hsame] at hsession
      exact h.made (hs.given k device c hsession)
    · rw [hnew] at hsession
      split at hsession
      · injection hsession with hpair
        obtain ⟨rfl, hresponse⟩ := Prod.mk.inj hpair
        have hmem := hs.queued e (mem_queue hqueue) c
          (by rw [ManagerRequest.channel?, hreq]; exact hresponse)
        rw [ManagerRequest.addsFor?, hreq] at hmem
        exact h.made hmem
      · exact h.made (hs.given k device c hsession)
  · intro c hc
    have hc' : c ∉ s.made.map Prod.fst := by
      intro hbad
      obtain ⟨x, hx, rfl⟩ := List.mem_map.mp hbad
      exact hc (List.mem_map.mpr ⟨x, h.made hx, rfl⟩)
    rcases hstep.replies with hsame | ⟨p, -, hreplies⟩
    · rw [hsame, hs.unmade c hc']
    · cases hreplies with
      | served ha hqueue hchannel =>
          have hin := hs.queued _ (mem_queue hqueue) c hchannel
          exact absurd (List.mem_map.mpr ⟨_, hin, rfl⟩) hc'
      | gaveUp ha hsession =>
          exact absurd (List.mem_map.mpr ⟨_, hs.given _ _ c hsession, rfl⟩) hc'

/-- An AddDevice that is new has its channel on the queue. -/
theorem brings_of_made {pair : String × String} (hstep : Daemon.Step cfg s.daemon a s'.daemon)
    (h : a.made? = some (c, some pair)) : a.brings c = 1 := by
  cases a with
  | submit request =>
      obtain ⟨requestType, response⟩ := request
      obtain ⟨c', hresponse, heq⟩ := Option.map_eq_some_iff.mp h
      obtain ⟨rfl, hadds⟩ := Prod.mk.inj heq
      have hreq := hstep.unconditional
      cases requestType with
      | discoveredNetworkDevice => exact if_pos hresponse
      | deferredMuxerAdd => cases hreq
      | _ => cases hadds
  | _ => cases h

/-- A channel that has been made does not come again. -/
theorem brings_of_old {x : Option (String × String)} (h : Docket.Step cfg s a s')
    (hx : (c, x) ∈ s.made) : a.brings c = 0 := by
  obtain ⟨hstep, -, hfresh⟩ := h
  cases a with
  | submit request =>
      refine if_neg fun hchannel => ?_
      have hmade : Happening.made? (.submit request) = some (c, request.addsFor?) := by
        rw [Happening.made?, ManagerRequest.made?, channel_response hstep.unconditional hchannel]
        rfl
      exact hfresh _ hmade (List.mem_map.mpr ⟨_, hx, rfl⟩)
  | _ => rfl

theorem Docket.Step.answered (h : Docket.Step cfg s a s') (hs : s.Kept) (hans : s.Answered)
    (hfollows : FollowsUp s.daemon a) : s'.Answered := by
  intro c pair hmem
  have hnot : ¬ Drops c s.daemon a := by
    intro hdrops
    cases a with
    | serve order paired =>
        obtain ⟨e, rest, hqueue, hc, udid, addr, name, ct, hreq, hunserved⟩ := hdrops
        obtain ⟨hnew, hpaired⟩ := hfollows e rest udid addr name ct c hqueue hreq hc
        rcases hunserved with hlisted | hunpaired
        · exact hnew hlisted
        · exact absurd (hpaired.symm.trans hunpaired) (by decide)
    | _ => exact hdrops
  have hcount : s'.daemon.count c = s.daemon.count c + a.brings c := by
    rcases h.1.count hs.sound with ⟨-, hcount⟩ | ⟨hdrops, -⟩
    · exact hcount
    · exact absurd hdrops hnot
  change s'.daemon.count c = 1
  rw [h.2.1] at hmem
  rcases List.mem_append.mp hmem with hold | hnew
  · have hone : s.daemon.count c = 1 := hans c pair hold
    rw [hcount, hone, brings_of_old h hold]
  · have ha : a.made? = some (c, some pair) := by
      cases hmade : a.made? with
      | none => simp [hmade] at hnew
      | some x => simpa [hmade, eq_comm] using hnew
    rw [hcount, hs.count_unmade (h.2.2 _ ha), brings_of_made h.1 ha]

theorem Docket.Step.truthful (h : Docket.Step cfg s a s') (hs : s.Kept)
    (hfollows : FollowsUp s.daemon a) : Truthful s s' := by
  intro c udid ct hmem p hp
  have hs' := h.kept hs
  rcases h.1.replies with hsame | ⟨p', hp', hreplies⟩
  · have hlength := congrArg List.length (hsame.symm.trans hp)
    rw [List.length_append] at hlength
    exact absurd hlength (by simp)
  have heq : p = p' := by
    have := List.append_cancel_left (hp.symm.trans hp')
    simpa using this
  subst heq
  cases hreplies with
  | @served order paired e rest ha hqueue hchannel htrue =>
      left
      have hin := hs.queued e (mem_queue hqueue) c hchannel
      exact htrue udid ct (hs'.same (h.made hin) hmem)
  | @gaveUp k device ha hsession hp0 hdevices =>
      right
      subst ha
      have hpair := hs'.same (h.made (hs.given k device c hsession)) hmem
      injection hpair with hpair
      obtain ⟨rfl, rfl⟩ := Prod.mk.inj hpair
      refine ⟨hp0, ?_⟩
      rw [hdevices]
      exact hfollows device c hsession

theorem resultPlist_ne : resultPlist 0 ≠ resultPlist 1 := by
  simp [resultPlist]

theorem Unserved.of_not {env : Surroundings} {m : Manager} {udid connectionType : String}
    (h : ¬ (¬ Lists m.devices udid connectionType ∧ env.paired udid = true)) :
    Unserved env m udid connectionType := by
  by_cases hlisted : Lists m.devices udid connectionType
  · exact .inl hlisted
  · refine .inr (Bool.eq_false_iff.mpr fun hpaired => ?_)
    exact h ⟨hlisted, hpaired⟩

/-- A task that gives up answers 0, whatever is listed. -/
theorem Daemon.Step.gaveUp {d d' : Daemon} {k : Nat} {device : MuxerDevice}
    {response : Option Nat} (h : Daemon.Step cfg d (.givesUp k) d')
    (hsession : d.session k = some (device, response)) :
    d'.mgr = d.mgr.emit (responses response (resultPlist 0)) := by
  cases h.stepped with
  | givesUp hsession' =>
      rw [hsession] at hsession'
      cases hsession'
      rfl

theorem Docket.Step.follows (h : Docket.Step cfg s a s') (hs : s.Kept) (hans : s.Answered)
    (hans' : s'.Answered) (htrue : Truthful s s') : FollowsUp s.daemon a := by
  cases a with
  | serve order paired =>
      intro e rest udid addr name ct c hqueue hreq hc
      by_contra hbad
      have hunserved : Unserved (s.daemon.surroundings order paired) s.daemon.mgr udid ct :=
        .of_not hbad
      have hmem := hs.queued e (mem_queue hqueue) c
        (by rw [ManagerRequest.channel?, hreq]; exact hc)
      rw [ManagerRequest.addsFor?, hreq] at hmem
      have hone : s.daemon.count c = 1 := hans c _ hmem
      have hone' : s'.daemon.count c = 1 := hans' c _ (h.made hmem)
      rcases h.1.count (c := c) hs.sound with ⟨hkept, -⟩ | ⟨-, hcount⟩
      · exact hkept ⟨e, rest, hqueue, hc, udid, addr, name, ct, hreq, hunserved⟩
      · omega
  | givesUp k =>
      intro device c hsession
      have hmgr := h.1.gaveUp hsession
      have hreplies : repliesTo c s'.daemon.mgr.out =
          repliesTo c s.daemon.mgr.out ++ [resultPlist 0] := by
        rw [hmgr, emit_out, repliesTo_append, repliesTo_responses, if_pos rfl]
      rcases htrue c _ _ (h.made (hs.given k device c hsession)) _ hreplies with
        ⟨hbad, -⟩ | ⟨-, hunlisted⟩
      · exact absurd hbad resultPlist_ne
      · rw [hmgr] at hunlisted
        exact hunlisted
  | _ => trivial

end

/-! ### What is left to do -/

/-- The steps a task may have to take yet, those for what it sends counted in. -/
def Stage.work : Stage → Nat
  | .connecting => 4
  | .beating => 2
  | .over => 0

def Envelope.work (e : Envelope) : Nat :=
  match e.request.requestType with
  | .discoveredNetworkDevice .. => 5
  | _ => 1

def Daemon.work (d : Daemon) : Nat :=
  (d.queue.map Envelope.work).sum +
    ∑ k ∈ Finset.range (heartbeats d.mgr.out).length, (d.stage k).work

/-- The manager or a heartbeat task takes the step. -/
def Happening.own : Happening → Bool
  | .serve .. | .beats _ | .givesUp _ | .fails _ => true
  | _ => false

section
variable {c k n : Nat} {cfg : Config} {d d' : Daemon} {a : Happening}

theorem Envelope.work_pos (e : Envelope) : 0 < e.work := by
  unfold Envelope.work
  split
  · decide
  · decide

/-- A task that goes on changes only what it has to do itself. -/
theorem sum_work_update (stage : Nat → Stage) (s : Stage) (hk : k < n) :
    ∑ j ∈ Finset.range n, (Function.update stage k s j).work + (stage k).work =
      ∑ j ∈ Finset.range n, (stage j).work + s.work := by
  have hmem : k ∈ Finset.range n := Finset.mem_range.mpr hk
  rw [← Finset.add_sum_erase _ _ hmem, ← Finset.add_sum_erase _ (fun j => (stage j).work) hmem,
    Function.update_self]
  have hrest : ∑ j ∈ (Finset.range n).erase k, (Function.update stage k s j).work =
      ∑ j ∈ (Finset.range n).erase k, (stage j).work := by
    refine Finset.sum_congr rfl fun j hj => ?_
    rw [Function.update_of_ne (Finset.ne_of_mem_erase hj)]
  rw [hrest]
  omega

theorem session_lt {x : MuxerDevice × Option Nat} (h : d.session k = some x) :
    k < (heartbeats d.mgr.out).length :=
  (List.getElem?_eq_some_iff.mp h).1

theorem work_moved {x : MuxerDevice × Option Nat} {s : Stage} {sent : List Envelope}
    (hsession : d.session k = some x) (hqueue : d'.queue = d.queue ++ sent)
    (hout : heartbeats d'.mgr.out = heartbeats d.mgr.out)
    (hstage : d'.stage = Function.update d.stage k s)
    (hless : s.work + (sent.map Envelope.work).sum < (d.stage k).work) : d'.work < d.work := by
  have hsum := sum_work_update d.stage s (session_lt hsession)
  unfold Daemon.work
  rw [hqueue, hout, hstage, List.map_append, List.sum_append]
  omega

/-- The manager and the heartbeat tasks come to an end if nobody asks for more. -/
theorem Daemon.Step.work_lt (h : Daemon.Step cfg d a d') (hd : d.Sound) (ha : a.own = true) :
    d'.work < d.work := by
  cases a with
  | serve order paired =>
      obtain ⟨e, hqueue, hstage, hsettles⟩ := h.settles
      have hpos := e.work_pos
      unfold Daemon.work
      rw [hqueue, hstage, List.map_cons, List.sum_cons]
      cases hsettles with
      | answered p hreplies hheartbeats =>
          rw [hheartbeats]
          omega
      | handedOn hreq hserved hm =>
          have hwork : e.work = 5 := by
            rw [Envelope.work, hreq]
          have hnew : (d.stage (heartbeats d.mgr.out).length).work = 4 := by
            rw [hd.later _ d.session_length]
            rfl
          have hlength : (heartbeats d'.mgr.out).length = (heartbeats d.mgr.out).length + 1 := by
            rw [hm, emit_out, heartbeats_append, List.length_append]
            rfl
          rw [hlength, Finset.sum_range_succ]
          omega
      | dropped hreq hunserved hm =>
          rw [hm]
          omega
  | givesUp k =>
      cases h.stepped with
      | givesUp hsession hstage =>
          refine work_moved hsession (List.append_nil _).symm ?_ rfl ?_
          · rw [emit_out, heartbeats_append, heartbeats_responses, List.append_nil]
          · rw [hstage]
            decide
  | beats k =>
      cases h.stepped with
      | beats hsession hstage =>
          refine work_moved hsession rfl rfl rfl ?_
          rw [hstage]
          exact Nat.lt_succ_self 3
  | fails k =>
      cases h.stepped with
      | fails hsession hstage =>
          refine work_moved hsession rfl rfl rfl ?_
          rw [hstage]
          exact Nat.lt_succ_self 1
  | _ => cases ha

/-- With nothing left to do no channel waits. -/
theorem awaits_eq_zero (hqueue : d.queue = [])
    (htasks : ∀ k x, d.session k = some x → d.stage k ≠ .connecting) : d.awaits c = 0 := by
  have hqueued : d.queued c = 0 := by
    refine queued_eq_zero fun e he => ?_
    rw [hqueue] at he
    cases he
  have hnone : d.tasks c = ∅ := by
    refine Finset.eq_empty_of_forall_notMem fun k hk => ?_
    obtain ⟨hstage, hchannel⟩ := mem_tasks.mp hk
    obtain ⟨x, hsession, -⟩ := Option.bind_eq_some_iff.mp hchannel
    exact htasks k x hsession hstage
  unfold Daemon.awaits
  rw [hqueued, hnone]
  rfl

/-- As long as a request is on the queue or a task is connecting there is a step to take. -/
theorem Daemon.Sound.at_rest (hd : d.Sound)
    (hrest : ∀ a d', Daemon.Step cfg d a d' → a.own = false) :
    d.queue = [] ∧ ∀ k x, d.session k = some x → d.stage k ≠ .connecting := by
  constructor
  · cases hqueue : d.queue with
    | nil => rfl
    | cons e rest =>
        obtain ⟨order, horder⟩ := exists_order d.mgr.devices
        obtain ⟨m, hm⟩ : ∃ m,
            d.mgr.handle cfg (d.surroundings order fun _ => true) e.request = some m :=
          hd.serves (mem_queue hqueue) horder
        have hnext : d.next cfg (.serve order fun _ => true) =
            some { d with mgr := m, queue := rest } := by
          simp only [Daemon.next, hqueue, hm]
          rfl
        cases hrest _ _ ⟨hnext, horder⟩
  · intro k x hsession hstage
    obtain ⟨device, response⟩ := x
    have hnext : (d.next cfg (.givesUp k)).isSome = true := by
      simp only [Daemon.next, hsession, hstage]
      rfl
    obtain ⟨d', hd'⟩ := Option.isSome_iff_exists.mp hnext
    cases hrest _ _ ⟨hd', trivial⟩

end

/-! ### The answers -/

section
variable {cfg : Config} {s s' : Docket} {tr tr' : List (Docket × Happening × Docket)}

theorem Docket.kept (hrun : Run (Docket.Step cfg) (Docket.start cfg) tr s) : s.Kept :=
  Run.invariant (Docket.kept_start cfg) (fun _ _ _ hs hstep => hstep.kept hs) hrun

theorem Docket.work_le (hs : s.Kept) (hrun : Run (Docket.Step cfg) s tr' s')
    (hown : EveryStep (fun _ a _ => a.own = true) tr') :
    tr'.length + s'.daemon.work ≤ s.daemon.work := by
  induction hrun with
  | nil => simp
  | @snoc tr' s₁ s₂ a hrun hstep ih =>
      obtain ⟨hown, hlast⟩ := everyStep_snoc.mp hown
      have hkept : s₁.Kept := Run.invariant hs (fun _ _ _ hs hstep => hstep.kept hs) hrun
      have hlt := hstep.1.work_lt hkept.sound hlast
      have hle := ih hown
      rw [List.length_append, List.length_singleton]
      omega

theorem Docket.Kept.at_rest (hs : s.Kept)
    (hrest : ∀ a s', Docket.Step cfg s a s' → a.own = false) (c : Nat) :
    s.daemon.awaits c = 0 := by
  have hdaemon : ∀ a d', Daemon.Step cfg s.daemon a d' → a.own = false := by
    intro a d' hstep
    by_cases hmade : a.made? = none
    · refine hrest a ⟨d', s.made⟩ ⟨hstep, ?_, ?_⟩
      · rw [hmade]
        exact (List.append_nil _).symm
      · intro x hx
        rw [hmade] at hx
        cases hx
    · cases a with
      | submit => rfl
      | _ => exact absurd rfl hmade
  obtain ⟨hqueue, htasks⟩ := hs.sound.at_rest hdaemon
  exact awaits_eq_zero hqueue htasks

/-- **Answers to AddDevice.**  In every run each AddDevice has, after every step, one truthful
reply or one place where its channel waits for it, exactly if each one served is followed up.
Left to themselves the manager and the heartbeat tasks come to rest, and then each has had its
one reply. -/
theorem add_devices_are_answered (hrun : Run (Docket.Step cfg) (Docket.start cfg) tr s) :
    (EveryStep (fun s _ s' => s'.Answered ∧ Truthful s s') tr ↔
        EveryStep (fun s a _ => FollowsUp s.daemon a) tr) ∧
      (∀ tr' s', Run (Docket.Step cfg) s tr' s' → EveryStep (fun _ a _ => a.own = true) tr' →
        tr'.length ≤ s.daemon.work) ∧
      (EveryStep (fun s a _ => FollowsUp s.daemon a) tr →
        (∀ a s', Docket.Step cfg s a s' → a.own = false) →
        ∀ c pair, (c, some pair) ∈ s.made → (repliesTo c s.daemon.mgr.out).length = 1) := by
  have hkept := Docket.kept hrun
  have hstart : (Docket.start cfg).Answered := by
    intro c pair h
    cases h
  have hiff : EveryStep (fun s _ s' => s'.Answered ∧ Truthful s s') tr ↔
      EveryStep (fun s a _ => FollowsUp s.daemon a) tr := by
    refine Run.everyStep_iff (Docket.kept_start cfg) (fun _ _ _ hs hstep => hstep.kept hs) hstart
      (fun _ _ _ h => h.1) ?_ hrun
    intro s a s' hs hans hstep
    constructor
    · rintro ⟨hans', htrue⟩
      exact hstep.follows hs hans hans' htrue
    · intro hfollows
      exact ⟨hstep.answered hs hans hfollows, hstep.truthful hs hfollows⟩
  refine ⟨hiff, ?_, ?_⟩
  · intro tr' s' hrun' hown
    exact Nat.le_of_add_right_le (Docket.work_le hkept hrun' hown)
  · intro hfollows hrest c pair hmem
    have hans : s.Answered :=
      hrun.last hstart ((hiff.mpr hfollows).imp fun _ _ _ h => h.1)
    have hone := hans c pair hmem
    rw [hkept.at_rest hrest c] at hone
    exact hone

/-- A channel that is gone is not answered any more. -/
theorem Docket.unanswered {c : Nat} {x : Option (String × String)} (hs : s.Kept)
    (hmem : (c, x) ∈ s.made) (hgone : s.daemon.count c = 0)
    (hrun : Run (Docket.Step cfg) s tr' s') : repliesTo c s'.daemon.mgr.out = [] := by
  have hstill : s'.Kept ∧ (c, x) ∈ s'.made ∧ s'.daemon.count c = 0 := by
    refine Run.invariant (P := fun s : Docket => s.Kept ∧ (c, x) ∈ s.made ∧ s.daemon.count c = 0)
      ⟨hs, hmem, hgone⟩ ?_ hrun
    rintro s a s' ⟨hs, hmem, hgone⟩ hstep
    refine ⟨hstep.kept hs, ?_, ?_⟩
    · exact hstep.made hmem
    · rcases hstep.1.count hs.sound with ⟨-, hcount⟩ | ⟨-, hcount⟩
      · rw [hcount, hgone, brings_of_old hstep hmem]
      · rw [hgone] at hcount
        cases hcount
  have hzero : (repliesTo c s'.daemon.mgr.out).length + s'.daemon.awaits c = 0 := hstill.2.2
  exact List.eq_nil_of_length_eq_zero (Nat.eq_zero_of_add_eq_zero_right hzero)

/-- The happenings of a list, taken in order, with `C` checked at each. -/
def Docket.Plays (cfg : Config) (C : Docket → Happening → Docket → Prop) (as : List Happening)
    (s : Docket) : Prop :=
  Lib.Plays (Docket.next cfg)
    (fun s a s' =>
      (a.Valid s.daemon ∧ ∀ x, a.made? = some x → x.1 ∉ s.made.map Prod.fst) ∧ C s a s')
    (Docket.start cfg) as s

theorem Docket.Plays.run {C : Docket → Happening → Docket → Prop} {as : List Happening}
    (h : Docket.Plays cfg C as s) :
    ∃ tr, Run (Docket.Step cfg) (Docket.start cfg) tr s ∧ EveryStep C tr := by
  have hstep : ∀ s a s', Docket.next cfg s a = some s' →
      (a.Valid s.daemon ∧ ∀ x, a.made? = some x → x.1 ∉ s.made.map Prod.fst) ∧ C s a s' →
      Docket.Step cfg s a s' := by
    rintro s a s' hnext ⟨⟨hvalid, hfresh⟩, -⟩
    obtain ⟨daemon, hdaemon, rfl⟩ := Option.map_eq_some_iff.mp hnext
    exact ⟨⟨hdaemon, hvalid⟩, rfl, hfresh⟩
  obtain ⟨tr, hrun, hall, -⟩ := Run.of_plays hstep h
  exact ⟨tr, hrun, hall.imp fun _ _ _ hC => hC.2⟩

end

def addDevice (c : Nat) : Happening :=
  .submit ⟨.discoveredNetworkDevice "u" (.v4 (.replicate 4 10)) "name" "Network", some c⟩

/-- A device with a pairing record is added, and its client answered. -/
theorem new_device_is_answered :
    ∃ s tr, Run (Docket.Step ⟨false, false, false⟩) (Docket.start ⟨false, false, false⟩) tr s ∧
      EveryStep (fun s _ s' => s'.Answered ∧ Truthful s s') tr ∧
      (repliesTo 0 s.daemon.mgr.out).length = 1 := by
  have hplays : Docket.Plays ⟨false, false, false⟩ (fun s a _ => FollowsUp s.daemon a)
      [addDevice 0, .serve [] fun _ => true] _ :=
    ⟨_, rfl, ⟨⟨trivial, fun _ _ => List.not_mem_nil⟩, trivial⟩,
      _, rfl, ⟨⟨orderOf_nil, nofun⟩, fun e rest udid addr name ct c hqueue hreq hc => by
        cases hqueue
        cases hreq
        refine ⟨?_, rfl⟩
        rintro ⟨id, device, hid, -⟩
        cases hid⟩, rfl⟩
  obtain ⟨tr, hrun, hfollows⟩ := hplays.run
  obtain ⟨hiff, -, hrest⟩ := add_devices_are_answered hrun
  refine ⟨_, tr, hrun, hiff.mpr hfollows, hrest hfollows ?_ 0 ("u", "Network") ?_⟩
  · intro a s' hstep
    cases a with
    | serve order paired => cases hstep.1.1
    | beats k => cases hstep.1.1
    | givesUp k => cases hstep.1.1
    | fails k => cases hstep.1.1
    | _ => rfl
  · exact List.mem_singleton_self _

/-- A second AddDevice for the device: nothing is ever sent to its client. -/
theorem listed_device_is_not_answered :
    ∃ s tr, Run (Docket.Step ⟨false, false, false⟩) (Docket.start ⟨false, false, false⟩) tr s ∧
      (1, some ("u", "Network")) ∈ s.made ∧ s.daemon.queue = [] ∧
      Lists s.daemon.mgr.devices "u" "Network" ∧
      ∀ tr' s', Run (Docket.Step ⟨false, false, false⟩) s tr' s' →
        repliesTo 1 s'.daemon.mgr.out = [] := by
  have hplays : Docket.Plays ⟨false, false, false⟩ (fun _ _ _ => True)
      [addDevice 0, .serve [] fun _ => true, addDevice 1, .serve [1] fun _ => true] _ :=
    ⟨_, rfl, ⟨⟨trivial, fun _ _ => List.not_mem_nil⟩, trivial⟩,
      _, rfl, ⟨⟨orderOf_nil, nofun⟩, trivial⟩,
      _, rfl, ⟨⟨trivial, fun x hx => by cases hx; decide⟩, trivial⟩,
      _, rfl, ⟨⟨orderOf_nil.insert (by simp), nofun⟩, trivial⟩, rfl⟩
  obtain ⟨tr, hrun, -⟩ := hplays.run
  have hmem : (1, some ("u", "Network")) ∈
      [(0, some ("u", "Network")), (1, some ("u", "Network"))] := by
    decide
  refine ⟨_, tr, hrun, hmem, rfl, ⟨1, _, rfl, rfl, rfl⟩, fun tr' s' hrun' => ?_⟩
  exact Docket.unanswered (Docket.kept hrun) hmem (by decide) hrun'

end Netmuxd
