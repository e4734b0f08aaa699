/-
What discovery tells the manager.

All that the finder knows is what it has read, so its cache is a function of the stores read so
far.  A run is summed up by these stores, apart those read for the service that is being looked
up (`Search`), and every call has to suit them: a request names a device that the service belongs
to by the stores, and the store is read again only after a lookup that has found nothing.  That
may be the lookup by the TXT record alone, so the store is also read for a service whose MAC
address is known; and a store that is read for the MAC address is not matched with the TXT record.
-/
import Netmuxd.Daemon.Discovery
import Netmuxd.Lib.Fill
import Netmuxd.Lib.Served
import Netmuxd.Proofs.TxtRecord

namespace Netmuxd

open Lib Talk

/-! ### What the finder knows -/

section
variable {PairingFile : Type} (idevice : Idevice PairingFile)

/-- The stem and the contents of a file, if the cache takes it in. -/
def recordOf : Option StoreEntry → Option (String × Dictionary)
  | none => none
  | some entry =>
    if entry.isFile then
      (entry.contents.bind idevice.plist).bind fun plist =>
        (recordUdid plist entry.name).map fun _ => (entry.name.stem, plist)
    else none

/-- The MAC address in a file, and the device it stands for. -/
def macEntry (x : Option StoreEntry) : Option (String × String) :=
  (recordOf idevice x).bind fun r => (r.2.getString "WiFiMACAddress").map fun mac => (mac, r.1)

/-- The device a file stands for, and its HostID. -/
def hostEntry (x : Option StoreEntry) : Option (String × Bytes) :=
  (recordOf idevice x).bind fun r => (r.2.getString "HostID").map fun id => (r.1, utf8Bytes id)

variable {idevice}

theorem enter_mac {cache : PairingCache} {name : FileName} {plist : Dictionary} {udid : String}
    (h : recordUdid plist name = some udid) :
    (cache.enter name plist).knownMacAddresses =
      (plist.getString "WiFiMACAddress").elim cache.knownMacAddresses fun mac =>
        cache.knownMacAddresses.insert mac name.stem := by
  unfold PairingCache.enter
  simp only [h, apply_ite PairingCache.knownMacAddresses, ite_self]
  cases plist.getString "HostID" <;> cases plist.getString "WiFiMACAddress" <;> simp

theorem enter_host {cache : PairingCache} {name : FileName} {plist : Dictionary} {udid : String}
    (h : recordUdid plist name = some udid) :
    (cache.enter name plist).hostIds =
      (plist.getString "HostID").elim cache.hostIds fun id =>
        cache.hostIds.insert name.stem (utf8Bytes id) := by
  unfold PairingCache.enter
  simp only [h, apply_ite PairingCache.hostIds, ite_self]
  cases plist.getString "HostID" <;> cases plist.getString "WiFiMACAddress" <;> simp

/-- A file is entered into the cache, or nothing changes. -/
theorem read_eq (idevice : Idevice PairingFile) (cache : PairingCache) (x : Option StoreEntry) :
    recordOf idevice x = none ∧ (cache.read idevice x = cache) ∨
      ∃ name plist udid, recordUdid plist name = some udid ∧
        recordOf idevice x = some (name.stem, plist) ∧
        cache.read idevice x = cache.enter name plist := by
  cases x with
  | none => simp [recordOf, PairingCache.read]
  | some entry =>
      by_cases hfile : entry.isFile = true
      · cases hplist : entry.contents.bind idevice.plist with
        | none => simp [recordOf, PairingCache.read, hplist]
        | some plist =>
            cases hudid : recordUdid plist entry.name with
            | none => simp [recordOf, PairingCache.read, PairingCache.enter, hfile, hplist, hudid]
            | some udid =>
                refine Or.inr ⟨entry.name, plist, udid, hudid, ?_, ?_⟩
                · simp [recordOf, hfile, hplist, hudid]
                · simp [PairingCache.read, hfile, hplist]
      · simp [recordOf, PairingCache.read, hfile]

theorem read_mac (cache : PairingCache) (x : Option StoreEntry) :
    (cache.read idevice x).knownMacAddresses =
      (macEntry idevice x).elim cache.knownMacAddresses fun e =>
        cache.knownMacAddresses.insert e.1 e.2 := by
  rcases read_eq idevice cache x with ⟨hrec, hread⟩ | ⟨name, plist, udid, hudid, hrec, hread⟩
  · simp [macEntry, hrec, hread]
  · rw [hread, enter_mac hudid]
    cases hmac : plist.getString "WiFiMACAddress" <;> simp [macEntry, hrec, hmac]

theorem read_host (cache : PairingCache) (x : Option StoreEntry) :
    (cache.read idevice x).hostIds =
      (hostEntry idevice x).elim cache.hostIds fun e => cache.hostIds.insert e.1 e.2 := by
  rcases read_eq idevice cache x with ⟨hrec, hread⟩ | ⟨name, plist, udid, hudid, hrec, hread⟩
  · simp [hostEntry, hrec, hread]
  · rw [hread, enter_host hudid]
    cases hid : plist.getString "HostID" <;> simp [hostEntry, hrec, hid]

/-- The finder knows a MAC address from the last file with it. -/
theorem lookup_mac {stores : List Store} {mac udid : String} :
    (cacheOf idevice stores).knownMacAddresses.lookup mac = some udid ↔
      Last (macEntry idevice) stores.flatten mac udid := by
  unfold cacheOf
  rw [fill_of_step read_mac]
  exact lookup_fill

/-- And a HostID from the last file of the device with one. -/
theorem mem_hostIds {stores : List Store} {udid : String} {hostId : Bytes} :
    ⟨udid, hostId⟩ ∈ (cacheOf idevice stores).hostIds.entries ↔
      Last (hostEntry idevice) stores.flatten udid hostId := by
  rw [← AList.mem_lookup_iff]
  unfold cacheOf
  rw [fill_of_step read_host]
  exact lookup_fill

theorem updateCache_cacheOf (stores : List Store) (store : Store) :
    (cacheOf idevice stores).updateCache idevice (some store) =
      some (cacheOf idevice (stores ++ [store])) := by
  simp [PairingCache.updateCache, cacheOf]

end

/-! ### Whose service it is -/

/-- There is something to match by its TXT record. -/
def ResolvedService.tagged (mdns : Mdns) (service : ResolvedService) : Bool :=
  service.identifier.isSome && !(service.authTags.filterMap mdns.decodeAuthTag).isEmpty

section
variable (mdns : Mdns) {PairingFile : Type} (idevice : Idevice PairingFile)

/-- The HostID that these stores have for the device gives one of the service's tags. -/
def ByTag (stores : List Store) (service : ResolvedService) (udid : String) : Prop :=
  ∃ identifier hostId, service.identifier = some identifier ∧
    Last (hostEntry idevice) stores.flatten udid hostId ∧
    mdns.deriveAuthTag hostId identifier ∈ service.authTags.filterMap mdns.decodeAuthTag

/-- These stores have the MAC address that the service's name starts with for the device. -/
def ByMac (stores : List Store) (service : ResolvedService) (udid : String) : Prop :=
  ∃ mac, service.macAddr = some mac ∧ Last (macEntry idevice) stores.flatten mac udid

/-! ### What is known along a run -/

/-- What a run has been told so far. -/
structure Search where
  /-- The stores read before the event that is being dealt with. -/
  earlier : List Store := []
  /-- Those read since. -/
  fresh : List Store := []
  /-- The service that was resolved, if it was one. -/
  service : Option ResolvedService := none
  /-- The manager has been sent a request for it. -/
  sent : Bool := false
  ending : Option DiscoverEnd := none

def Search.stores (s : Search) : List Store :=
  s.earlier ++ s.fresh

/-- The stores that the TXT record has been matched with, if it has been. -/
def Search.forTag (s : Search) : List Store :=
  s.earlier ++ s.fresh.take 1

def Search.next (s : Search) : Exchange DiscoverCall.Answer → Search
  | ⟨.newDaemon, made⟩ => if made then s else { s with ending := some .noDaemon }
  | ⟨.browse _, started⟩ => if started then s else { s with ending := some .noBrowse }
  | ⟨.recv, none⟩ => { s with ending := some .closed }
  | ⟨.recv, some .other⟩ => { earlier := s.stores }
  | ⟨.recv, some (.serviceResolved service)⟩ => { earlier := s.stores, service := some service }
  | ⟨.readDir _, none⟩ => { s with ending := some .panicked }
  | ⟨.readDir _, some store⟩ => { s with fresh := s.fresh ++ [store] }
  | ⟨.iterate _, _⟩ => s
  | ⟨.send _, there⟩ =>
    { s with sent := true, ending := if there then none else some .managerGone }

/-- Nothing has been sent yet for this service, which can be reached. -/
structure Search.Pending (s : Search) (service : ResolvedService) : Prop where
  resolved : s.service = some service
  addr : service.pickAddress ≠ none
  sent : s.sent = false
  ending : s.ending = none

/-- The device is one that the service belongs to, by its TXT record or else, if that belongs to
none, by its MAC address. -/
def Search.Names (s : Search) (service : ResolvedService) (udid : String) : Prop :=
  ByTag mdns idevice s.forTag service udid ∨
    (∀ udid', ¬ ByTag mdns idevice s.forTag service udid') ∧ ByMac idevice s.stores service udid

/-- No lookup that was due has found a device, also in the store that was read for it. -/
structure Search.NamesNone (s : Search) (service : ResolvedService) : Prop where
  tag : ∀ udid, ¬ ByTag mdns idevice s.forTag service udid
  mac : ∀ udid, ¬ ByMac idevice s.stores service udid
  fresh : s.fresh.length = (service.tagged mdns).toNat + service.macAddr.isSome.toNat

/-- The last service that could be reached has been told to the manager, or was not found. -/
def Search.Settled (s : Search) : Prop :=
  ∀ service, s.service = some service → service.pickAddress ≠ none →
    s.sent = true ∨ s.NamesNone mdns idevice service

/-- What has been read says nothing of the service, by its TXT record or, after that, by its MAC
address. -/
def Search.Missed (s : Search) (service : ResolvedService) : Prop :=
  (∀ udid, ¬ ByTag mdns idevice s.forTag service udid) ∧
    (service.tagged mdns = true ∧ s.fresh = [] ∨
      service.macAddr ≠ none ∧ s.fresh.length = (service.tagged mdns).toNat ∧
        ∀ udid, ¬ ByMac idevice s.stores service udid)

/-- Calls that suit what is known. -/
def DiscoverSuits (finder : PairingFileFinder) (s : Search) (e : Exchange DiscoverCall.Answer) :
    Prop :=
  s.ending = none ∧
    match e.1 with
    | .newDaemon => True
    | .browse serviceType => serviceType = browseType
    | .recv => s.Settled mdns idevice
    | .readDir path => path = finder.plistStorage ∧
        ∃ service, s.Pending service ∧ s.Missed mdns idevice service
    | .iterate hostIds => hostIds = (cacheOf idevice s.stores).hostIds
    | .send request => ∃ service udid addr, s.Pending service ∧ service.pickAddress = some addr ∧
        s.Names mdns idevice service udid ∧ request = discoveredDevice udid addr

/-- How a lookup ends: `P` of the device that was found, or `N` if none was. -/
def Leaves (service : ResolvedService) (P : Search → String → Prop) (N : Search → Prop)
    (_ : List (Exchange DiscoverCall.Answer)) (r : PairingFileFinder.Finding) (s' : Search) :
    Prop :=
  match r with
  | none => s'.ending = some .panicked
  | some (cache, udid) =>
    s'.Pending service ∧ cache = cacheOf idevice s'.stores ∧ udid.elim (N s') (P s')

/-- What matching the TXT record leaves. -/
abbrev LeavesTxt (service : ResolvedService) :=
  Leaves idevice service (fun s' udid => ByTag mdns idevice s'.forTag service udid) fun s' =>
    (∀ udid, ¬ ByTag mdns idevice s'.forTag service udid) ∧
      s'.fresh.length = (service.tagged mdns).toNat

/-- What looking for the MAC address leaves, after the TXT record. -/
abbrev LeavesMac (service : ResolvedService) :=
  Leaves idevice service (fun s' udid => s'.Names mdns idevice service udid) fun s' =>
    s'.NamesNone mdns idevice service

/-- How a turn ends: with a cache of what has been read, or as the run knows. -/
def Turned (_ : List (Exchange DiscoverCall.Answer)) (r : Except DiscoverEnd PairingCache)
    (s' : Search) : Prop :=
  match r with
  | .error ending => s'.ending = some ending
  | .ok cache => s'.ending = none ∧ cache = cacheOf idevice s'.stores ∧ s'.Settled mdns idevice

/-- The run has ended as it says, or is still going on and has nothing left to do. -/
def Ended (_ : List (Exchange DiscoverCall.Answer)) (ending : Option DiscoverEnd) (s' : Search) :
    Prop :=
  s'.ending = ending ∧ (ending = none → s'.Settled mdns idevice)

variable {mdns idevice} {finder : PairingFileFinder} {s : Search} {service : ResolvedService}

/-! ### By the TXT record -/

theorem matchTxt_some {stores : List Store} {order : List (Σ _ : String, Bytes)}
    {identifier : Bytes} {udid : String}
    (horder : order.Perm (cacheOf idevice stores).hostIds.entries)
    (hid : service.identifier = some identifier)
    (h : matchTxt mdns order identifier (service.authTags.filterMap mdns.decodeAuthTag) =
      some udid) : ByTag mdns idevice stores service udid := by
  unfold matchTxt at h
  obtain ⟨e, he, hhit, hname⟩ := find?_map_some horder h
  subst hname
  exact ⟨identifier, e.2, hid, mem_hostIds.mp he, List.contains_iff_mem.mp hhit⟩

theorem matchTxt_none {stores : List Store} {order : List (Σ _ : String, Bytes)}
    {identifier : Bytes} (horder : order.Perm (cacheOf idevice stores).hostIds.entries)
    (hid : service.identifier = some identifier)
    (h : matchTxt mdns order identifier (service.authTags.filterMap mdns.decodeAuthTag) = none)
    (udid : String) : ¬ ByTag mdns idevice stores service udid := by
  intro hby
  obtain ⟨identifier', hostId, hid', hlast, hmem⟩ := hby
  rw [hid, Option.some.injEq] at hid'
  subst hid'
  unfold matchTxt at h
  exact find?_map_none horder h ⟨udid, hostId⟩ (mem_hostIds.mpr hlast)
    (List.contains_iff_mem.mpr hmem)

theorem not_byTag_of_untagged (h : service.tagged mdns = false) (stores : List Store)
    (udid : String) : ¬ ByTag mdns idevice stores service udid := by
  intro hby
  obtain ⟨identifier, hostId, hid, -, hmem⟩ := hby
  have hne : service.authTags.filterMap mdns.decodeAuthTag ≠ [] := List.ne_nil_of_mem hmem
  simp [ResolvedService.tagged, hid, hne] at h

theorem not_byMac {stores : List Store} {mac : String} (hmac : service.macAddr = some mac)
    (h : (cacheOf idevice stores).knownMacAddresses.lookup mac = none) (udid : String) :
    ¬ ByMac idevice stores service udid := by
  intro hby
  obtain ⟨mac', hmac', hlast⟩ := hby
  rw [hmac, Option.some.injEq] at hmac'
  subst hmac'
  rw [lookup_mac.mpr hlast] at h
  simp at h

/-- Before any store has been read for the service. -/
theorem forTag_of_fresh (hfresh : s.fresh = []) : s.forTag = s.stores := by
  simp [Search.forTag, Search.stores, hfresh]

/-- One more store has been read. -/
def Search.read (s : Search) (store : Store) : Search :=
  { s with fresh := s.fresh ++ [store] }

theorem stores_read (s : Search) (store : Store) : (s.read store).stores = s.stores ++ [store] := by
  simp [Search.stores, Search.read]

theorem forTag_read (hfresh : s.fresh = []) (store : Store) :
    (s.read store).forTag = s.stores ++ [store] := by
  simp [Search.forTag, Search.stores, Search.read, hfresh]

theorem Search.Pending.read (h : s.Pending service) (store : Store) :
    (s.read store).Pending service :=
  ⟨h.resolved, h.addr, h.sent, h.ending⟩

/-- The store is read again: a panic, or one more store is known. -/
theorem rereadStore_safe
    {Q : List (Exchange DiscoverCall.Answer) → Option PairingCache → Search → Prop}
    (hpending : s.Pending service) (hmissed : s.Missed mdns idevice service)
    (hpanic : Q [⟨.readDir finder.plistStorage, none⟩] none { s with ending := some .panicked })
    (hread : ∀ store, Q [⟨.readDir finder.plistStorage, some store⟩]
      (some (cacheOf idevice (s.stores ++ [store]))) (s.read store)) :
    (finder.rereadStore idevice (cacheOf idevice s.stores)).Safe Search.next
      (DiscoverSuits mdns idevice finder) s Q := by
  unfold PairingFileFinder.rereadStore
  refine Safe.bind (safe_perform (fun _ => ?_) fun store => ?_)
  · exact ⟨hpending.ending, rfl, service, hpending, hmissed⟩
  · cases store with
    | none => exact safe_pure hpanic
    | some store =>
        refine safe_pure ?_
        rw [updateCache_cacheOf]
        exact hread store

theorem findUdidFromTxt_safe {identifier : Bytes} (hpending : s.Pending service)
    (hfresh : s.fresh = []) (hid : service.identifier = some identifier)
    (htags : service.authTags ≠ []) :
    (finder.findUdidFromTxt mdns idevice (cacheOf idevice s.stores) identifier
      service.authTags).Safe Search.next (DiscoverSuits mdns idevice finder) s
      (LeavesTxt mdns idevice service) := by
  unfold PairingFileFinder.findUdidFromTxt
  rw [if_neg htags]
  by_cases hread : service.authTags.filterMap mdns.decodeAuthTag = []
  · have hnot : service.tagged mdns = false := by simp [ResolvedService.tagged, hread]
    simp only [hread, if_true]
    refine safe_pure ⟨hpending, rfl, not_byTag_of_untagged hnot _, ?_⟩
    simp [hfresh, hnot]
  · have htagged : service.tagged mdns = true := by simp [ResolvedService.tagged, hid, hread]
    simp only [hread, if_false]
    refine Safe.bind (safe_perform (fun _ => ⟨hpending.ending, rfl⟩) fun order => ?_)
    cases hmatch : matchTxt mdns order.1 identifier
        (service.authTags.filterMap mdns.decodeAuthTag) with
    | some udid =>
        have hby : ByTag mdns idevice s.forTag service udid := by
          rw [forTag_of_fresh hfresh]
          exact matchTxt_some order.2 hid hmatch
        exact safe_pure ⟨hpending, rfl, hby⟩
    | none =>
        have hno := matchTxt_none order.2 hid hmatch
        have hmissed : s.Missed mdns idevice service := by
          refine ⟨?_, Or.inl ⟨htagged, hfresh⟩⟩
          rw [forTag_of_fresh hfresh]
          exact hno
        refine Safe.bind (rereadStore_safe hpending hmissed ?_ fun store => ?_)
        · exact safe_pure rfl
        · refine Safe.bind (safe_perform (fun _ => ⟨hpending.ending, ?_⟩) fun order' => ?_)
          · rw [stores_read]
          · have hforTag := forTag_read hfresh store
            have hcache : cacheOf idevice (s.stores ++ [store]) =
                cacheOf idevice (s.read store).stores := by rw [stores_read]
            cases hmatch' : matchTxt mdns order'.1 identifier
                (service.authTags.filterMap mdns.decodeAuthTag) with
            | some udid =>
                have hby : ByTag mdns idevice (s.read store).forTag service udid := by
                  rw [hforTag]
                  exact matchTxt_some order'.2 hid hmatch'
                exact safe_pure ⟨hpending.read store, hcache, hby⟩
            | none =>
                have hno' : ∀ udid, ¬ ByTag mdns idevice (s.read store).forTag service udid := by
                  rw [hforTag]
                  exact matchTxt_none order'.2 hid hmatch'
                have hlen : (s.read store).fresh.length = (service.tagged mdns).toNat := by
                  simp [Search.read, hfresh, htagged]
                exact safe_pure ⟨hpending.read store, hcache, hno', hlen⟩

/-- Call by call the finder finds what it finds in one go. -/
theorem findUdidFromTxt_meets (cache : PairingCache) (identifier : Bytes) (authTags : List Bytes) :
    (finder.findUdidFromTxt mdns idevice cache identifier authTags).Meets fun _ r =>
      ∃ store order order', cache.Orders idevice store order order' ∧
        r = cache.findUdidFromTxt mdns idevice store order order' identifier authTags := by
  have hunread (order : List (Σ _ : String, Bytes)) (horder : order.Perm cache.hostIds.entries) :
      cache.Orders idevice none order [] :=
    ⟨horder, fun cache' hcache' => by simp [PairingCache.updateCache] at hcache'⟩
  unfold PairingFileFinder.findUdidFromTxt PairingCache.findUdidFromTxt
  by_cases htags : authTags = []
  · simp only [htags, if_true, meets_pure]
    exact ⟨none, _, [], hunread _ (List.Perm.refl _), trivial⟩
  · by_cases hread : authTags.filterMap mdns.decodeAuthTag = []
    · simp only [htags, hread, if_true, if_false, meets_pure]
      exact ⟨none, _, [], hunread _ (List.Perm.refl _), trivial⟩
    · simp only [htags, hread, if_false, meets_bind, meets_perform]
      intro order
      cases hmatch : matchTxt mdns order.1 identifier (authTags.filterMap mdns.decodeAuthTag) with
      | some udid =>
          simp only [meets_pure]
          exact ⟨none, order.1, [], hunread _ order.2, by rw [hmatch]⟩
      | none =>
          unfold PairingFileFinder.rereadStore
          simp only [meets_bind, meets_perform, meets_pure]
          intro store
          cases hcache : cache.updateCache idevice store with
          | none =>
              simp only [meets_pure]
              refine ⟨none, order.1, [], hunread _ order.2, ?_⟩
              rw [hmatch]
              rfl
          | some cache' =>
              simp only [meets_bind, meets_perform, meets_pure]
              intro order'
              refine ⟨store, order.1, order'.1, ⟨order.2, ?_⟩, ?_⟩
              · intro cache'' hcache''
                rw [hcache, Option.some.injEq] at hcache''
                exact hcache'' ▸ order'.2
              · rw [hmatch, hcache]
                rfl

theorem udidByTxt_safe (hpending : s.Pending service) (hfresh : s.fresh = []) :
    (finder.udidByTxt mdns idevice (cacheOf idevice s.stores) service).Safe Search.next
      (DiscoverSuits mdns idevice finder) s
      (LeavesTxt mdns idevice service) := by
  have hnone (hnot : service.tagged mdns = false) :
      LeavesTxt mdns idevice service []
        (some (cacheOf idevice s.stores, none)) s :=
    ⟨hpending, rfl, not_byTag_of_untagged hnot _, by simp [hfresh, hnot]⟩
  unfold PairingFileFinder.udidByTxt
  cases hid : service.identifier with
  | none => exact safe_pure (hnone (by simp [ResolvedService.tagged, hid]))
  | some identifier =>
      by_cases htags : service.authTags = []
      · simp only [htags, if_true]
        exact safe_pure (hnone (by simp [ResolvedService.tagged, htags]))
      · simp only [htags, if_false]
        exact findUdidFromTxt_safe hpending hfresh hid htags

/-! ### By the MAC address -/

/-- What is read for the MAC address is not matched with the TXT record. -/
theorem not_byTag_read (hno : ∀ udid, ¬ ByTag mdns idevice s.forTag service udid)
    (hlen : s.fresh.length = (service.tagged mdns).toNat) (store : Store) (udid : String) :
    ¬ ByTag mdns idevice (s.read store).forTag service udid := by
  cases htagged : service.tagged mdns with
  | false => exact not_byTag_of_untagged htagged _ udid
  | true =>
      have hpos : 1 ≤ s.fresh.length := by simp [hlen, htagged]
      have hsame : (s.read store).forTag = s.forTag := by
        simp [Search.forTag, Search.read, List.take_append_of_le_length hpos]
      rw [hsame]
      exact hno udid

theorem getUdidFromMac_safe {mac : String} (hpending : s.Pending service)
    (hno : ∀ udid, ¬ ByTag mdns idevice s.forTag service udid)
    (hlen : s.fresh.length = (service.tagged mdns).toNat) (hmac : service.macAddr = some mac) :
    (finder.getUdidFromMac idevice (cacheOf idevice s.stores) mac).Safe Search.next
      (DiscoverSuits mdns idevice finder) s
      (LeavesMac mdns idevice service) := by
  unfold PairingFileFinder.getUdidFromMac
  cases hlook : (cacheOf idevice s.stores).knownMacAddresses.lookup mac with
  | some udid =>
      exact safe_pure ⟨hpending, rfl, Or.inr ⟨hno, mac, hmac, lookup_mac.mp hlook⟩⟩
  | none =>
      have hmiss : ∀ udid, ¬ ByMac idevice s.stores service udid := not_byMac hmac hlook
      have hmissed : s.Missed mdns idevice service :=
        ⟨hno, Or.inr ⟨by simp [hmac], hlen, hmiss⟩⟩
      refine Safe.bind (rereadStore_safe hpending hmissed ?_ fun store => ?_)
      · exact safe_pure rfl
      · have hno' := not_byTag_read hno hlen store
        have hcache : cacheOf idevice (s.stores ++ [store]) =
            cacheOf idevice (s.read store).stores := by rw [stores_read]
        refine safe_pure ⟨hpending.read store, hcache, ?_⟩
        rw [hcache]
        cases hlook' : (cacheOf idevice (s.read store).stores).knownMacAddresses.lookup mac with
        | some udid => exact Or.inr ⟨hno', mac, hmac, lookup_mac.mp hlook'⟩
        | none =>
            refine ⟨hno', not_byMac hmac hlook', ?_⟩
            simp [Search.read, hlen, hmac]

theorem udidByMac_safe (hpending : s.Pending service)
    (hno : ∀ udid, ¬ ByTag mdns idevice s.forTag service udid)
    (hlen : s.fresh.length = (service.tagged mdns).toNat) :
    (finder.udidByMac idevice (cacheOf idevice s.stores) service).Safe Search.next
      (DiscoverSuits mdns idevice finder) s
      (LeavesMac mdns idevice service) := by
  unfold PairingFileFinder.udidByMac
  cases hmac : service.macAddr with
  | none =>
      have hmiss : ∀ udid, ¬ ByMac idevice s.stores service udid := by
        intro udid hby
        obtain ⟨mac, hmac', -⟩ := hby
        rw [hmac] at hmac'
        simp at hmac'
      exact safe_pure ⟨hpending, rfl, hno, hmiss, by simp [hlen, hmac]⟩
  | some mac => exact getUdidFromMac_safe hpending hno hlen hmac

theorem udidOf_safe (hpending : s.Pending service) (hfresh : s.fresh = []) :
    (finder.udidOf mdns idevice (cacheOf idevice s.stores) service).Safe Search.next
      (DiscoverSuits mdns idevice finder) s
      (LeavesMac mdns idevice service) := by
  unfold PairingFileFinder.udidOf
  refine Safe.bind (Safe.imp (udidByTxt_safe hpending hfresh) fun tr r s' htxt => ?_)
  match r with
  | none => exact safe_pure htxt
  | some (cache, some udid) =>
      obtain ⟨hpending', hcache, hby⟩ := htxt
      exact safe_pure ⟨hpending', hcache, Or.inl hby⟩
  | some (cache, none) =>
      obtain ⟨hpending', hcache, hno, hlen⟩ := htxt
      subst hcache
      exact udidByMac_safe hpending' hno hlen

/-! ### The loop -/

theorem announce_safe {addr : IpAddr} (hpending : s.Pending service) (hfresh : s.fresh = [])
    (haddr : service.pickAddress = some addr) :
    (announce mdns idevice finder (cacheOf idevice s.stores) service addr).Safe Search.next
      (DiscoverSuits mdns idevice finder) s
      (Turned mdns idevice) := by
  unfold announce
  refine Safe.bind (Safe.imp (udidOf_safe hpending hfresh) fun tr r s' hmac => ?_)
  match r with
  | none => exact safe_pure hmac
  | some (cache, none) =>
      obtain ⟨hpending', hcache, hnone⟩ := hmac
      refine safe_pure ⟨hpending'.ending, hcache, ?_⟩
      intro service' hservice' _
      rw [hpending'.resolved, Option.some.injEq] at hservice'
      exact Or.inr (hservice' ▸ hnone)
  | some (cache, some udid) =>
      obtain ⟨hpending', hcache, hnames⟩ := hmac
      refine Safe.bind (safe_perform (fun _ => ?_) fun there => ?_)
      · exact ⟨hpending'.ending, service, udid, addr, hpending', haddr, hnames, rfl⟩
      · by_cases hthere : there = true
        · simp only [hthere, if_true]
          refine safe_pure ⟨rfl, hcache, ?_⟩
          intro service' _ _
          exact Or.inl rfl
        · rw [Bool.not_eq_true] at hthere
          simp only [hthere]
          exact safe_pure rfl

theorem discoverTurn_safe (hending : s.ending = none) (hsettled : s.Settled mdns idevice) :
    (discoverTurn mdns idevice finder (cacheOf idevice s.stores)).Safe Search.next
      (DiscoverSuits mdns idevice finder) s
      (Turned mdns idevice) := by
  unfold discoverTurn
  refine Safe.bind (safe_perform (fun _ => ⟨hending, hsettled⟩) fun event => ?_)
  match event with
  | none => exact safe_pure rfl
  | some .other =>
      refine safe_pure ⟨rfl, ?_, ?_⟩
      · simp [Search.next, Search.stores]
      · intro service hservice
        simp [Search.next] at hservice
  | some (.serviceResolved service) =>
      have hstores : (s.next ⟨.recv, some (.serviceResolved service)⟩).stores = s.stores := by
        simp [Search.next, Search.stores]
      rw [← hstores]
      cases haddr : service.pickAddress with
      | none =>
          have hsettled' :
              (s.next ⟨.recv, some (.serviceResolved service)⟩).Settled mdns idevice := by
            intro service' hservice' haddr'
            simp only [Search.next, Option.some.injEq] at hservice'
            subst hservice'
            exact absurd haddr haddr'
          simp only [haddr]
          exact safe_pure ⟨rfl, rfl, hsettled'⟩
      | some addr =>
          have hpending : (s.next ⟨.recv, some (.serviceResolved service)⟩).Pending service :=
            ⟨rfl, by simp [haddr], rfl, rfl⟩
          simp only [haddr]
          exact announce_safe hpending rfl haddr

theorem discoverTurns_safe (turns : Nat) (hending : s.ending = none)
    (hsettled : s.Settled mdns idevice) :
    (discoverTurns mdns idevice finder turns (cacheOf idevice s.stores)).Safe Search.next
      (DiscoverSuits mdns idevice finder) s
      (Ended mdns idevice) := by
  induction turns generalizing s with
  | zero => exact safe_pure ⟨hending, fun _ => hsettled⟩
  | succ turns ih =>
      unfold discoverTurns
      refine Safe.bind (Safe.imp (discoverTurn_safe hending hsettled) fun tr r s' hturn => ?_)
      match r with
      | .error ending => exact safe_pure ⟨hturn, by simp⟩
      | .ok cache =>
          obtain ⟨hending', hcache, hsettled'⟩ := hturn
          subst hcache
          exact ih hending' hsettled'

/-- **Discovery names the devices whose services are announced.**  In every run, whatever the
network, the store and the manager answer, each service that can be reached is told to the manager
once, as a device that it belongs to by its TXT record or, failing that, by its MAC address.  Or
neither lookup has found one, each also in a store that was read for it. -/
theorem discovery_names_devices (mdns : Mdns) (idevice : Idevice PairingFile)
    (finder : PairingFileFinder) (turns : Nat) :
    (discover mdns idevice finder turns).Safe Search.next (DiscoverSuits mdns idevice finder) {}
      (Ended mdns idevice) := by
  unfold discover
  refine Safe.bind (safe_perform (fun _ => ⟨rfl, trivial⟩) fun made => ?_)
  cases made with
  | false => exact safe_pure ⟨rfl, by simp⟩
  | true =>
      refine Safe.bind (safe_perform (fun _ => ⟨rfl, rfl⟩) fun started => ?_)
      cases started with
      | false => exact safe_pure ⟨rfl, by simp⟩
      | true =>
          have hsettled : Search.Settled mdns idevice {} := by
            intro service hservice
            simp at hservice
          exact discoverTurns_safe turns rfl hsettled

end

end Netmuxd
