/-
The pairing store, `src/pairing_file.rs`.

A pairing record is a file of the store that is named after the device's UDID.  The
host's own identity lies beside them in `SystemConfiguration.plist`.
-/
import Netmuxd.Daemon.Calls

namespace Netmuxd

open Lib Client

/-- The character that no path given to the operating system may contain. -/
def nul : Char :=
  Char.ofNat 0

structure PairingFileFinder where
  plistStorage : String
  /-- It is a default or was given on the command line. -/
  nulFree : nul ∉ plistStorage.toList

def Dictionary.getString (p : Dictionary) (key : String) : Option String :=
  match p.get key with
  | some (.string s) => some s
  | _ => none

/-- The directories a file needs; a failure to make them is not reported. -/
def createParent (path : Path) : Client Unit :=
  match path.parent with
  | some dir => createDirAll dir
  | none => pure ()

namespace PairingFileFinder

/-- `PathBuf::from(plist_storage).join(name)`. -/
def join (finder : PairingFileFinder) (name : String) : Path :=
  Path.join finder.plistStorage.toList name.toList

variable {PairingFile : Type} (idevice : Idevice PairingFile) (finder : PairingFileFinder)

/-! ### Pairing records -/

def getPairingRecord (udid : String) : Client (Option PairingFile) := do
  let path := finder.join (udid ++ ".plist")
  unless ← pathExists path do return none
  unless ← openFile path do return none
  let some contents ← readToEnd path | return none
  return idevice.pairingFile contents

/-- Whether the record is gone. -/
def removePairingRecord (udid : String) : Client Bool := do
  match ← removeFile (finder.join (udid ++ ".plist")) with
  | .removed => return true
  | .notFound => return true
  | .failed => return false

/-! ### The host's identity -/

/-- The identity file, empty if there is none or it does not parse. -/
def readIdentity : Client (Option Dictionary) := do
  let path := finder.join "SystemConfiguration.plist"
  if ← pathExists path then
    unless ← openFile path do return none
    let some contents ← readToEnd path | return none
    return some ((idevice.plist contents).getD [])
  else return some []

/-- A field of the identity, the file's contents with it, and whether it had to be made. -/
def identityField (plist : Dictionary) (key : String) : Client (String × Dictionary × Bool) := do
  match plist.getString key with
  | some s => return (s, plist, false)
  | none =>
    let newId := (← newUuid).toUpper
    return (newId, plist.insert key (.string newId), true)

/-- A failure to write the file is not reported. -/
def persistIdentity (plist : Dictionary) : Client Unit := do
  let path := finder.join "SystemConfiguration.plist"
  createParent path
  match idevice.xml plist with
  | none => return ()
  | some buf =>
    let _ ← writeFile path buf

/-- The host's `HostID` and `SystemBUID`. -/
def getHostIdentity : Client (Option (String × String)) := do
  let some plist ← finder.readIdentity idevice | return none
  let (hostId, plist, newHostId) ← identityField plist "HostID"
  let (systemBuid, plist, newBuid) ← identityField plist "SystemBUID"
  if newHostId || newBuid then finder.persistIdentity idevice plist
  return some (hostId, systemBuid)

def getBuid : Client (Option String) := do
  let some (_, buid) ← finder.getHostIdentity idevice | return none
  return some buid

end PairingFileFinder

end Netmuxd
