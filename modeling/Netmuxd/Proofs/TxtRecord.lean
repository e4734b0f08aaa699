/-
Matching a TXT record.

What is found is the first hit in the order in which the cache happens to be gone
through, and the cache holds whatever file has a HostID.  So a record names a device, and
always the same one, exactly if at most one of the cached files is a hit and that one is
not the host's own identity.  Tags depend on the HostID alone, and the host gives every
device it pairs with its own.
-/
import Netmuxd.Daemon.TxtRecord
import Netmuxd.Proofs.Client

namespace Netmuxd

/-! ### The first hit in any order -/

section
variable {α β : Type} {p : α → Bool} {f : α → β} {l o o' : List α}

theorem find?_map_some {b : β} (ho : o.Perm l) (h : (o.find? p).map f = some b) :
    ∃ a ∈ l, p a = true ∧ f a = b := by
  obtain ⟨a, ha, hb⟩ := Option.map_eq_some_iff.mp h
  exact ⟨a, ho.mem_iff.mp (List.mem_of_find?_eq_some ha), List.find?_some ha, hb⟩

theorem find?_map_none (ho : o.Perm l) (h : (o.find? p).map f = none) : ∀ a ∈ l, ¬ p a = true := by
  intro a ha
  exact List.find?_eq_none.mp (Option.map_eq_none_iff.mp h) a (ho.mem_iff.mpr ha)

/-- What is hit can come first. -/
theorem find?_map_front [DecidableEq α] {a : α} (ha : a ∈ l) (hp : p a = true) :
    ∃ o : List α, o.Perm l ∧ (o.find? p).map f = some (f a) := by
  refine ⟨a :: l.erase a, (List.perm_cons_erase ha).symm, ?_⟩
  rw [List.find?_cons_of_pos hp, Option.map_some]

/-- All orders find the same if all hits are the same. -/
theorem find?_map_perm (hone : ∀ a ∈ l, ∀ b ∈ l, p a = true → p b = true → f a = f b)
    (ho : o.Perm l) (ho' : o'.Perm l) : (o.find? p).map f = (o'.find? p).map f := by
  cases h : (o.find? p).map f with
  | none =>
      cases h' : (o'.find? p).map f with
      | none => rfl
      | some b =>
          obtain ⟨a, ha, hp, -⟩ := find?_map_some ho' h'
          exact absurd hp (find?_map_none ho h a ha)
  | some b =>
      obtain ⟨a, ha, hp, rfl⟩ := find?_map_some ho h
      cases h' : (o'.find? p).map f with
      | none => exact absurd hp (find?_map_none ho' h' a ha)
      | some b' =>
          obtain ⟨a', ha', hp', rfl⟩ := find?_map_some ho' h'
          rw [hone a ha a' ha' hp hp']

end

/-! ### What the cache holds -/

section
variable {PairingFile : Type} (idevice : Idevice PairingFile)

/-- The cache of a finder that has read these stores, one after the other. -/
def cacheOf (stores : List Store) : PairingCache :=
  stores.flatten.foldl (PairingCache.read idevice) {}

/-- The file parses and has a HostID. -/
structure StoreEntry.Identifies (entry : StoreEntry) (stem : String) (hostId : Bytes) : Prop where
  isFile : entry.isFile = true
  stem : entry.name.stem = stem
  hostId : ∃ plist s, entry.contents.bind idevice.plist = some plist ∧
    plist.getString "HostID" = some s ∧ hostId = utf8Bytes s

/-- A device's pairing record is in the store: a file with a HostID that is not the host's own
identity. -/
def Store.HasRecord (store : Store) (name : String) : Prop :=
  name ≠ "SystemConfiguration" ∧
    ∃ entry hostId, some entry ∈ store ∧ entry.Identifies idevice name hostId

variable {idevice} {cache : PairingCache}

theorem mem_enter {name : FileName} {plist : Dictionary} {e : Σ _ : String, Bytes}
    (h : e ∈ (cache.enter name plist).hostIds.entries) :
    e ∈ cache.hostIds.entries ∨
      e.1 = name.stem ∧ ∃ s, plist.getString "HostID" = some s ∧ e.2 = utf8Bytes s := by
  have hhost : (cache.enter name plist).hostIds = cache.hostIds ∨
      ∃ s, plist.getString "HostID" = some s ∧
        (cache.enter name plist).hostIds = cache.hostIds.insert name.stem (utf8Bytes s) := by
    unfold PairingCache.enter
    cases recordUdid plist name with
    | none => exact Or.inl rfl
    | some udid =>
        dsimp only
        rw [apply_ite PairingCache.hostIds]
        dsimp only
        rw [ite_self]
        cases plist.getString "HostID" with
        | none =>
            left
            cases plist.getString "WiFiMACAddress" with
            | none => rfl
            | some mac => rfl
        | some s =>
            right
            refine ⟨s, rfl, ?_⟩
            cases plist.getString "WiFiMACAddress" with
            | none => rfl
            | some mac => rfl
  rcases hhost with hsame | ⟨s, hs, hinsert⟩
  · rw [hsame] at h
    exact Or.inl h
  · rw [hinsert, AList.entries_insert] at h
    rcases List.mem_cons.mp h with rfl | hold
    · exact Or.inr ⟨rfl, s, hs, rfl⟩
    · exact Or.inl ((List.kerase_sublist _ _).subset hold)

theorem mem_read {x : Option StoreEntry} {e : Σ _ : String, Bytes}
    (h : e ∈ (cache.read idevice x).hostIds.entries) :
    e ∈ cache.hostIds.entries ∨ ∃ entry, x = some entry ∧ entry.Identifies idevice e.1 e.2 := by
  unfold PairingCache.read at h
  split at h
  · exact Or.inl h
  rename_i entry
  split at h
  · rename_i hfile
    split at h
    · rename_i plist hplist
      rcases mem_enter h with hold | ⟨hstem, s, hs, hid⟩
      · exact Or.inl hold
      · exact Or.inr ⟨entry, rfl, hfile, hstem.symm, plist, s, hplist, hs, hid⟩
    · exact Or.inl h
  · exact Or.inl h

theorem mem_foldl_read {entries : Store} {e : Σ _ : String, Bytes}
    (h : e ∈ (entries.foldl (PairingCache.read idevice) cache).hostIds.entries) :
    e ∈ cache.hostIds.entries ∨
      ∃ entry, some entry ∈ entries ∧ entry.Identifies idevice e.1 e.2 := by
  induction entries generalizing cache with
  | nil => exact Or.inl h
  | cons x entries ih =>
      rcases ih h with hread | ⟨entry, hentry, hid⟩
      · rcases mem_read hread with hold | ⟨entry, rfl, hid⟩
        · exact Or.inl hold
        · exact Or.inr ⟨entry, List.mem_cons_self .., hid⟩
      · exact Or.inr ⟨entry, List.mem_cons_of_mem _ hentry, hid⟩

/-- What a finder has in its cache was a file of one of the stores it has read. -/
theorem mem_cacheOf {stores : List Store} {e : Σ _ : String, Bytes}
    (h : e ∈ (cacheOf idevice stores).hostIds.entries) (hname : e.1 ≠ "SystemConfiguration") :
    ∃ store ∈ stores, store.HasRecord idevice e.1 := by
  rcases mem_foldl_read h with hold | ⟨entry, hentry, hid⟩
  · cases hold
  · obtain ⟨store, hstore, hentry⟩ := List.mem_flatten.mp hentry
    exact ⟨store, hstore, hname, entry, e.2, hentry, hid⟩

end

/-! ### Matching -/

section
variable (mdns : Mdns) {PairingFile : Type} (idevice : Idevice PairingFile)

/-- The file's HostID gives one of the record's tags. -/
def Hits (identifier : Bytes) (authTags : List Bytes) (e : Σ _ : String, Bytes) : Bool :=
  (authTags.filterMap mdns.decodeAuthTag).contains (mdns.deriveAuthTag e.2 identifier)

/-- The cache that decides: the one there is if it has a hit, or else that after reading the
store again. -/
def PairingCache.consulted (cache : PairingCache) (store : Option Store) (identifier : Bytes)
    (authTags : List Bytes) : Option PairingCache :=
  if cache.hostIds.entries.any (Hits mdns identifier authTags) then some cache
  else cache.updateCache idevice store

/-- Orders in which the cache can be gone through, before and after. -/
structure PairingCache.Orders (cache : PairingCache) (store : Option Store)
    (order order' : List (Σ _ : String, Bytes)) : Prop where
  before : order.Perm cache.hostIds.entries
  after : ∀ cache', cache.updateCache idevice store = some cache' →
    order'.Perm cache'.hostIds.entries

variable {cache : PairingCache} {store : Option Store} {identifier : Bytes}
  {authTags : List Bytes} {order order' : List (Σ _ : String, Bytes)}

/-- Of the two orders, that of the cache that decides. -/
def deciding (cache : PairingCache) (identifier : Bytes) (authTags : List Bytes)
    (order order' : List (Σ _ : String, Bytes)) : List (Σ _ : String, Bytes) :=
  if cache.hostIds.entries.any (Hits mdns identifier authTags) then order else order'

theorem deciding_perm {cache' : PairingCache} (ho : cache.Orders idevice store order order')
    (hcache : cache.consulted mdns idevice store identifier authTags = some cache') :
    (deciding mdns cache identifier authTags order order').Perm cache'.hostIds.entries := by
  unfold PairingCache.consulted at hcache
  unfold deciding
  split at hcache
  · rename_i hany
    cases hcache
    rw [if_pos hany]
    exact ho.before
  · rename_i hany
    rw [if_neg hany]
    exact ho.after cache' hcache

/-- No tag can be read, and nothing is looked for. -/
theorem findUdidFromTxt_unread (hnone : authTags.filterMap mdns.decodeAuthTag = []) :
    cache.findUdidFromTxt mdns idevice store order order' identifier authTags =
      some (cache, none) := by
  unfold PairingCache.findUdidFromTxt
  split
  · rfl
  · simp only [hnone, if_pos]

/-- What is found is the first hit in the cache that decides. -/
theorem findUdidFromTxt_eq (ho : cache.Orders idevice store order order')
    (hread : authTags.filterMap mdns.decodeAuthTag ≠ []) :
    cache.findUdidFromTxt mdns idevice store order order' identifier authTags =
      (cache.consulted mdns idevice store identifier authTags).map fun cache' =>
        (cache', ((deciding mdns cache identifier authTags order order').find?
          (Hits mdns identifier authTags)).map (·.1)) := by
  have htags : authTags ≠ [] := by
    rintro rfl
    exact hread rfl
  unfold PairingCache.findUdidFromTxt PairingCache.consulted deciding
  rw [if_neg htags]
  dsimp only
  rw [if_neg hread]
  unfold matchTxt
  by_cases hany : cache.hostIds.entries.any (Hits mdns identifier authTags) = true
  · rw [if_pos hany, if_pos hany]
    cases hfind : (order.find? (Hits mdns identifier authTags)).map (·.1) with
    | some udid =>
        unfold Hits at hfind
        rw [hfind]
        rfl
    | none =>
        obtain ⟨e, he, hhit⟩ := List.any_eq_true.mp hany
        exact absurd hhit (find?_map_none ho.before hfind e he)
  · rw [if_neg hany, if_neg hany]
    cases hfind : (order.find? (Hits mdns identifier authTags)).map (·.1) with
    | some udid =>
        obtain ⟨e, he, hhit, -⟩ := find?_map_some ho.before hfind
        exact absurd (List.any_eq_true.mpr ⟨e, he, hhit⟩) hany
    | none =>
        unfold Hits at hfind
        rw [hfind]
        rfl

/-- Any hit in the cache that decides is found in some order. -/
theorem orders_front {cache' : PairingCache} {e : Σ _ : String, Bytes}
    (hcache : cache.consulted mdns idevice store identifier authTags = some cache')
    (he : e ∈ cache'.hostIds.entries) (hhit : Hits mdns identifier authTags e = true) :
    ∃ order order', cache.Orders idevice store order order' ∧
      cache.findUdidFromTxt mdns idevice store order order' identifier authTags =
        some (cache', some e.1) := by
  have hread : authTags.filterMap mdns.decodeAuthTag ≠ [] := by
    intro hnone
    unfold Hits at hhit
    rw [hnone] at hhit
    cases hhit
  obtain ⟨o, ho, hfirst⟩ :=
    find?_map_front (p := Hits mdns identifier authTags) (f := Sigma.fst) he hhit
  obtain ⟨order, order', horders, hdeciding⟩ : ∃ order order',
      cache.Orders idevice store order order' ∧
        deciding mdns cache identifier authTags order order' = o := by
    unfold PairingCache.consulted at hcache
    unfold deciding
    split at hcache
    · rename_i hany
      cases hcache
      refine ⟨o, ((cache.updateCache idevice store).map (·.hostIds.entries)).getD [],
        ⟨ho, fun cache' hcache' => ?_⟩, if_pos hany⟩
      rw [hcache']
      exact List.Perm.refl _
    · rename_i hany
      refine ⟨cache.hostIds.entries, o, ⟨List.Perm.refl _, fun cache'' hcache' => ?_⟩, if_neg hany⟩
      rw [hcache] at hcache'
      cases hcache'
      exact ho
  refine ⟨order, order', horders, ?_⟩
  rw [findUdidFromTxt_eq mdns idevice horders hread, hcache, hdeciding, Option.map_some, hfirst]

/-- The cache that decides holds files of the stores that have been read. -/
theorem mem_consulted {stores : List Store} {cache' : PairingCache} {e : Σ _ : String, Bytes}
    (hcache : (cacheOf idevice stores).consulted mdns idevice store identifier authTags =
      some cache')
    (he : e ∈ cache'.hostIds.entries) (hname : e.1 ≠ "SystemConfiguration") :
    ∃ store' ∈ stores ++ store.toList, store'.HasRecord idevice e.1 := by
  unfold PairingCache.consulted at hcache
  split at hcache
  · cases hcache
    obtain ⟨store', hstore, hrecord⟩ := mem_cacheOf he hname
    exact ⟨store', List.mem_append_left _ hstore, hrecord⟩
  · obtain ⟨entries, rfl, rfl⟩ := Option.map_eq_some_iff.mp hcache
    refine mem_cacheOf ?_ hname
    unfold cacheOf at he ⊢
    rw [List.flatten_append, List.foldl_append]
    simpa using he

/-- What is returned, if anything, is a device whose record has been read, and it is the same
whatever the order of the cache. -/
structure NamesOneDevice (stores : List Store) (store : Option Store) (identifier : Bytes)
    (authTags : List Bytes) : Prop where
  device : ∀ order order' cache' name, (cacheOf idevice stores).Orders idevice store order order' →
    (cacheOf idevice stores).findUdidFromTxt mdns idevice store order order' identifier authTags =
      some (cache', some name) →
    ∃ store' ∈ stores ++ store.toList, store'.HasRecord idevice name
  one : ∀ order order' o o', (cacheOf idevice stores).Orders idevice store order order' →
    (cacheOf idevice stores).Orders idevice store o o' →
    (cacheOf idevice stores).findUdidFromTxt mdns idevice store order order' identifier authTags =
      (cacheOf idevice stores).findUdidFromTxt mdns idevice store o o' identifier authTags

/-- **TXT matching names a device, unambiguously,** exactly if in the cache that decides at most
one file is a hit, and it is not the host's own identity. -/
theorem txt_names_one_device_iff (stores : List Store) (store : Option Store)
    (identifier : Bytes) (authTags : List Bytes) :
    NamesOneDevice mdns idevice stores store identifier authTags ↔
      ∀ cache', (cacheOf idevice stores).consulted mdns idevice store identifier authTags =
          some cache' →
        ∀ e ∈ cache'.hostIds.entries, ∀ e' ∈ cache'.hostIds.entries,
          Hits mdns identifier authTags e = true → Hits mdns identifier authTags e' = true →
          e.1 = e'.1 ∧ e.1 ≠ "SystemConfiguration" := by
  constructor
  · intro h cache' hcache e he e' he' hhit hhit'
    obtain ⟨order, order', ho, hfind⟩ := orders_front mdns idevice hcache he hhit
    obtain ⟨o, o', ho', hfind'⟩ := orders_front mdns idevice hcache he' hhit'
    have hsame := h.one order order' o o' ho ho'
    rw [hfind, hfind'] at hsame
    obtain ⟨-, -, hname, -⟩ := h.device order order' cache' e.1 ho hfind
    exact ⟨by simpa using hsame, hname⟩
  intro h
  by_cases hread : authTags.filterMap mdns.decodeAuthTag = []
  · refine ⟨fun order order' cache' name ho hfind => ?_, fun order order' o o' ho ho' => ?_⟩
    · rw [findUdidFromTxt_unread mdns idevice hread] at hfind
      cases hfind
    · rw [findUdidFromTxt_unread mdns idevice hread, findUdidFromTxt_unread mdns idevice hread]
  refine ⟨fun order order' cache' name ho hfind => ?_, fun order order' o o' ho ho' => ?_⟩
  · rw [findUdidFromTxt_eq mdns idevice ho hread] at hfind
    obtain ⟨cache'', hcache, hpair⟩ := Option.map_eq_some_iff.mp hfind
    obtain ⟨rfl, hfirst⟩ := Prod.mk.inj hpair
    obtain ⟨e, he, hhit, rfl⟩ := find?_map_some (deciding_perm mdns idevice ho hcache) hfirst
    obtain ⟨-, hname⟩ := h cache'' hcache e he e he hhit hhit
    exact mem_consulted mdns idevice hcache he hname
  · rw [findUdidFromTxt_eq mdns idevice ho hread, findUdidFromTxt_eq mdns idevice ho' hread]
    cases hcache : (cacheOf idevice stores).consulted mdns idevice store identifier authTags with
    | none => rfl
    | some cache' =>
        have hsame := find?_map_perm (f := Sigma.fst)
          (fun a ha b hb hpa hpb => (h cache' hcache a ha b hb hpa hpb).1)
          (deciding_perm mdns idevice ho hcache) (deciding_perm mdns idevice ho' hcache)
        rw [Option.map_some, Option.map_some, hsame]

end

/-- Two devices that this host has paired, and its own identity: all have its HostID. -/
def sharedStore : Store :=
  ["SystemConfiguration.plist", "u.plist", "v.plist"].map fun name =>
    some { name := .utf8 name, isFile := true, contents := some [] }

/-- Tags as they are, and the first bytes of a HostID as its tag. -/
def plainMdns : Mdns where
  decodeAuthTag tag := if tag.length = 8 then some (Vector.ofFn fun i => tag.getD i 0) else none
  deriveAuthTag hostId _ := Vector.ofFn fun i => hostId.getD i 0

/-- Every file parses, and has the same HostID. -/
def sharedIdevice : Idevice Bytes :=
  { plainIdevice with plist := fun _ => some [("HostID", .string "01234567")] }

/-- The devices cannot be told apart, nor from the host itself. -/
theorem shared_host_id_is_ambiguous :
    ¬ NamesOneDevice plainMdns sharedIdevice [] (some sharedStore) []
      [[48, 49, 50, 51, 52, 53, 54, 55]] := by
  intro h
  have hcache : ∃ cache', PairingCache.updateCache sharedIdevice {} (some sharedStore) =
      some cache' ∧ cache'.hostIds.entries =
        ["v", "u", "SystemConfiguration"].map fun name => ⟨name, utf8Bytes "01234567"⟩ :=
    ⟨_, rfl, by decide⟩
  obtain ⟨cache', hupdate, hentries⟩ := hcache
  have horders : ∀ o : List (Σ _ : String, Bytes), o.Perm cache'.hostIds.entries →
      (cacheOf sharedIdevice []).Orders sharedIdevice (some sharedStore) [] o := by
    refine fun o ho => ⟨List.Perm.refl _, fun cache'' hcache' => ?_⟩
    obtain rfl := Option.some.inj (hupdate.symm.trans hcache')
    exact ho
  have hsame := h.one [] _ [] _ (horders _ (List.Perm.refl _)) (horders _ (List.reverse_perm _))
  rw [hentries] at hsame
  exact absurd (congrArg (fun found => found.bind Prod.snd) hsame) (by decide)

end Netmuxd
