/-
Finding a device by what it announces, `src/pairing_file.rs`.

A device announces an identifier and tags, and a tag is derived from the HostID of a
pairing record and the identifier.  The finder keeps what it has read of the store in a
cache, goes through the HostIDs there, and reads the store again if none gives one of the
tags.  The cache is a hash map, so the order it is gone through in is any order of its
entries.

The two functions of idevice that take tags apart and make them are parameters.  Reading
a store that cannot be listed panics, which is `none`.
-/
import Mathlib.Data.List.AList
import Netmuxd.Daemon.PairingFile

namespace Netmuxd

/-! ### The store -/

/-- The name of a file.  Of one that is not UTF-8 all that is used is its stem, with a
replacement for what is not. -/
inductive FileName
  | utf8 (name : String)
  | other (lossyStem : String)

/-- `file_name().to_str()`. -/
def FileName.toStr : FileName → Option String
  | .utf8 name => some name
  | .other _ => none

/-- What stands before the last dot, unless that is nothing. -/
def stemOf (name : List Char) : List Char :=
  match name.reverse.dropWhile (· ≠ '.') with
  | _ :: before => if before = [] then name else before.reverse
  | [] => name

/-- `file_stem().to_string_lossy()`. -/
def FileName.stem : FileName → String
  | .utf8 name => String.ofList (stemOf name.toList)
  | .other lossyStem => lossyStem

structure StoreEntry where
  name : FileName
  isFile : Bool
  /-- What opening and reading it gives. -/
  contents : Option Bytes

/-- What listing the directory yields, entry by entry. -/
abbrev Store := List (Option StoreEntry)

/-! ### The cache -/

structure PairingCache where
  knownMacAddresses : AList fun _ : String => String := ∅
  hostIds : AList fun _ : String => Bytes := ∅
  pairedUdids : List String := []

/-- `host_id.as_bytes()`. -/
def utf8Bytes (s : String) : Bytes :=
  s.toUTF8.data.toList

/-- The UDID of a record, that in the file or else the file's name up to the first dot. -/
def recordUdid (plist : Dictionary) (name : FileName) : Option String :=
  match plist.getString "UDID" with
  | some udid => some udid
  | none => name.toStr.map fun name => String.ofList (name.toList.takeWhile (· ≠ '.'))

/-- A file that has been read is entered into the cache. -/
def PairingCache.enter (cache : PairingCache) (name : FileName) (plist : Dictionary) :
    PairingCache :=
  match recordUdid plist name with
  | none => cache
  | some udid =>
    let stem := name.stem
    let cache : PairingCache :=
      match plist.getString "WiFiMACAddress" with
      | some mac =>
        { cache with knownMacAddresses := cache.knownMacAddresses.insert mac stem }
      | none => cache
    let cache : PairingCache :=
      match plist.getString "HostID" with
      | some hostId =>
        { cache with hostIds := cache.hostIds.insert stem (utf8Bytes hostId) }
      | none => cache
    if udid ∈ cache.pairedUdids then cache
    else { cache with pairedUdids := cache.pairedUdids ++ [udid] }

section
variable {PairingFile : Type} (idevice : Idevice PairingFile)

/-- An entry that cannot be read or parsed is passed over. -/
def PairingCache.read (cache : PairingCache) : Option StoreEntry → PairingCache
  | none => cache
  | some entry =>
    if entry.isFile then
      match entry.contents.bind idevice.plist with
      | some plist => cache.enter entry.name plist
      | none => cache
    else cache

def PairingCache.updateCache (cache : PairingCache) (store : Option Store) :
    Option PairingCache :=
  store.map fun entries => entries.foldl (PairingCache.read idevice) cache

end

/-! ### Matching -/

/-- What is used of `idevice::mdns`. -/
structure Mdns where
  decodeAuthTag : Bytes → Option (Vector UInt8 8)
  deriveAuthTag : Bytes → Bytes → Vector UInt8 8

section
variable (mdns : Mdns) {PairingFile : Type} (idevice : Idevice PairingFile)

def matchTxt (order : List (Σ _ : String, Bytes)) (identifier : Bytes)
    (decodedTags : List (Vector UInt8 8)) : Option String :=
  (order.find? fun e => decodedTags.contains (mdns.deriveAuthTag e.2 identifier)).map (·.1)

/-- The cache afterwards, and the device.  `order` and `order'` are those in which the cache
is gone through as it is and after the store has been read again. -/
def PairingCache.findUdidFromTxt (cache : PairingCache) (store : Option Store)
    (order order' : List (Σ _ : String, Bytes)) (identifier : Bytes) (authTags : List Bytes) :
    Option (PairingCache × Option String) :=
  if authTags = [] then some (cache, none)
  else
    let decodedTags := authTags.filterMap mdns.decodeAuthTag
    if decodedTags = [] then some (cache, none)
    else
      match matchTxt mdns order identifier decodedTags with
      | some udid => some (cache, some udid)
      | none =>
        (cache.updateCache idevice store).map fun cache =>
          (cache, matchTxt mdns order' identifier decodedTags)

end

end Netmuxd
