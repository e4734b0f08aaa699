/-
Finding devices on the network, `src/mdns.rs`.

`discover` waits for a service to be resolved, finds out which device it is, by its TXT record
or else by the MAC address that its name starts with, and tells the manager.  The finder it asks
keeps a cache of the pairing store and reads the store again when the cache has no answer.

The daemon of mdns_sd, the store and the manager answer calls.  Going through a hash map is a
call too, which is answered by some order of its entries.
-/
import Netmuxd.Daemon.TxtRecord

namespace Netmuxd

open Lib

/-! ### Services -/

def IpAddr.isIpv4 : IpAddr → Bool
  | .v4 _ => true
  | .v6 _ => false

/-- What is used of a `ResolvedService` of mdns_sd.  Its addresses are a set, and here stand as
that is gone through. -/
structure ResolvedService where
  fullname : String
  addresses : List IpAddr
  /-- A property may be there without a value. -/
  getPropertyVal : String → Option (Option Bytes)
  getProperties : List (String × Option Bytes)

namespace ResolvedService

def identifier (resolved : ResolvedService) : Option Bytes :=
  (resolved.getPropertyVal "identifier").join

def authTags (resolved : ResolvedService) : List Bytes :=
  let tags := resolved.getProperties.filter fun p =>
    p.1 = "authTag" || "authTag#".toList.isPrefixOf p.1.toList
  tags.filterMap fun p => p.2

/-- What stands before the first `@`: `fullname.split_once('@')`. -/
def macAddr (resolved : ResolvedService) : Option String :=
  if '@' ∈ resolved.fullname.toList then
    some (String.ofList (resolved.fullname.toList.takeWhile (· ≠ '@')))
  else none

/-- IPv4 if there is such an address. -/
def pickAddress (resolved : ResolvedService) : Option IpAddr :=
  (resolved.addresses.find? IpAddr.isIpv4).or resolved.addresses.head?

end ResolvedService

inductive ServiceEvent
  | serviceResolved (info : ResolvedService)
  | other

/-! ### Calls -/

inductive DiscoverCall
  | newDaemon
  | browse (serviceType : String)
  | recv
  /-- The store is listed and its files are read. -/
  | readDir (path : String)
  /-- The HostIDs are gone through. -/
  | iterate (hostIds : AList fun _ : String => Bytes)
  | send (request : ManagerRequest)

@[reducible] def DiscoverCall.Answer : DiscoverCall → Type
  | .newDaemon | .browse _ | .send _ => Bool
  | .recv => Option ServiceEvent
  | .readDir _ => Option Store
  | .iterate hostIds => { order : List (Σ _ : String, Bytes) // order.Perm hostIds.entries }

abbrev Discover := Talk DiscoverCall.Answer

namespace Discover

open Talk

abbrev newDaemon : Discover Bool := perform DiscoverCall.newDaemon
abbrev browse (serviceType : String) : Discover Bool := perform (DiscoverCall.browse serviceType)
abbrev recv : Discover (Option ServiceEvent) := perform DiscoverCall.recv
abbrev readDir (path : String) : Discover (Option Store) := perform (DiscoverCall.readDir path)
abbrev iterate (hostIds : AList fun _ : String => Bytes) :
    Discover { order : List (Σ _ : String, Bytes) // order.Perm hostIds.entries } :=
  perform (DiscoverCall.iterate hostIds)
abbrev send (request : ManagerRequest) : Discover Bool := perform (DiscoverCall.send request)

end Discover

/-! ### The finder -/

section
open Discover

variable (mdns : Mdns) {PairingFile : Type} (idevice : Idevice PairingFile)
  (finder : PairingFileFinder)

namespace PairingFileFinder

/-- The cache and what has been found, if nothing panicked. -/
abbrev Finding := Option (PairingCache × Option String)

def rereadStore (cache : PairingCache) : Discover (Option PairingCache) := do
  return cache.updateCache idevice (← readDir finder.plistStorage)

def getUdidFromMac (cache : PairingCache) (mac : String) : Discover Finding := do
  match cache.knownMacAddresses.lookup mac with
  | some udid => return some (cache, some udid)
  | none =>
    let some cache ← finder.rereadStore idevice cache | return none
    return some (cache, cache.knownMacAddresses.lookup mac)

/-- `PairingCache.findUdidFromTxt` call by call. -/
def findUdidFromTxt (cache : PairingCache) (identifier : Bytes) (authTags : List Bytes) :
    Discover Finding := do
  if authTags = [] then return some (cache, none)
  let decodedTags := authTags.filterMap mdns.decodeAuthTag
  if decodedTags = [] then return some (cache, none)
  match matchTxt mdns (← iterate cache.hostIds).1 identifier decodedTags with
  | some udid => return some (cache, some udid)
  | none =>
    let some cache ← finder.rereadStore idevice cache | return none
    return some (cache, matchTxt mdns (← iterate cache.hostIds).1 identifier decodedTags)

/-- iOS 26.4 and later. -/
def udidByTxt (cache : PairingCache) (resolved : ResolvedService) : Discover Finding :=
  match resolved.identifier with
  | some ident =>
    if resolved.authTags = [] then return some (cache, none)
    else finder.findUdidFromTxt mdns idevice cache ident resolved.authTags
  | none => return some (cache, none)

/-- iOS before 26.4. -/
def udidByMac (cache : PairingCache) (resolved : ResolvedService) : Discover Finding :=
  match resolved.macAddr with
  | some mac => finder.getUdidFromMac idevice cache mac
  | none => return some (cache, none)

def udidOf (cache : PairingCache) (resolved : ResolvedService) : Discover Finding := do
  match ← finder.udidByTxt mdns idevice cache resolved with
  | none => return none
  | some (cache, some udid) => return some (cache, some udid)
  | some (cache, none) => finder.udidByMac idevice cache resolved

end PairingFileFinder

/-! ### The loop -/

/-- How discovery ends. -/
inductive DiscoverEnd
  | noDaemon
  | noBrowse
  /-- No more events come. -/
  | closed
  | managerGone
  /-- The store cannot be listed. -/
  | panicked
  deriving DecidableEq

def browseType : String := "_apple-mobdev2._tcp.local."

def serviceName : String := "_apple-mobdev2._tcp.local"

def discoveredDevice (udid : String) (addr : IpAddr) : ManagerRequest :=
  { requestType := .discoveredNetworkDevice udid addr serviceName "Network" }

/-- The device a service belongs to is told to the manager, if it is known. -/
def announce (cache : PairingCache) (resolved : ResolvedService) (addr : IpAddr) :
    Discover (Except DiscoverEnd PairingCache) := do
  match ← finder.udidOf mdns idevice cache resolved with
  | none => return .error .panicked
  | some (cache, none) => return .ok cache
  | some (cache, some udid) =>
    if ← send (discoveredDevice udid addr) then return .ok cache
    else return .error .managerGone

/-- One turn of the loop. -/
def discoverTurn (cache : PairingCache) : Discover (Except DiscoverEnd PairingCache) := do
  match ← recv with
  | none => return .error .closed
  | some .other => return .ok cache
  | some (.serviceResolved resolved) =>
    match resolved.pickAddress with
    | none => return .ok cache
    | some addr => announce mdns idevice finder cache resolved addr

/-- That many turns, or until it ends. -/
def discoverTurns : Nat → PairingCache → Discover (Option DiscoverEnd)
  | 0, _ => return none
  | turns + 1, cache => do
    match ← discoverTurn mdns idevice finder cache with
    | .error ending => return some ending
    | .ok cache => discoverTurns turns cache

/-- The first turns of `discover`. -/
def discover (turns : Nat) : Discover (Option DiscoverEnd) := do
  unless ← newDaemon do return some .noDaemon
  unless ← browse browseType do return some .noBrowse
  discoverTurns mdns idevice finder turns {}

end

end Netmuxd
