/-
Several callers of `get_host_identity` at once.

Pairing tasks and clients that ask for the BUID all call it, and nothing keeps them apart.
Each call goes through its steps on the one file, `SystemConfiguration.plist`, and the
calls take turns in any order.  Writing the file is two steps: it is truncated (and made if
it is not there), and then the bytes are put at its start.

Every step succeeds.
-/
import Netmuxd.Daemon.PairingFile

namespace Netmuxd

open Lib

abbrev IdentityCall := Client (Option (String × String))

structure IdentityCalls (n : Nat) where
  /-- What is in the file, if there is one. -/
  file : Option Bytes
  /-- What each call has yet to do. -/
  calls : Fin n → IdentityCall
  /-- The call has truncated the file and is about to write it. -/
  truncated : Fin n → Bool := fun _ => false

/-- A turn of one call.  `uuid` is what `Uuid::new_v4().to_string()` gives it, if it asks. -/
structure CallTurn (n : Nat) where
  caller : Fin n
  uuid : String

section
variable {n : Nat}

def IdentityCalls.start {PairingFile : Type} (idevice : Idevice PairingFile)
    (finder : PairingFileFinder) (n : Nat) (file : Option Bytes) : IdentityCalls n :=
  { file, calls := fun _ => finder.getHostIdentity idevice }

def IdentityCalls.answer (s : IdentityCalls n) (i : Fin n) (rest : IdentityCall) :
    IdentityCalls n :=
  { s with calls := Function.update s.calls i rest }

/-- The bytes are put at the start of the file. -/
def overwrite (file : Option Bytes) (bytes : Bytes) : Bytes :=
  bytes ++ (file.getD []).drop bytes.length

def IdentityCalls.next (s : IdentityCalls n) (a : CallTurn n) : Option (IdentityCalls n) :=
  match s.calls a.caller with
  | .call (.pathExists _) rest => some (s.answer a.caller (rest s.file.isSome))
  | .call (.openFile _) rest => some (s.answer a.caller (rest s.file.isSome))
  | .call (.readToEnd _) rest => some (s.answer a.caller (rest s.file))
  | .call .newUuid rest => some (s.answer a.caller (rest a.uuid))
  | .call (.createDirAll _) rest => some (s.answer a.caller (rest ()))
  | .call (.writeFile _ contents) rest =>
    if s.truncated a.caller then
      some
        { s.answer a.caller (rest true) with
          file := some (overwrite s.file contents)
          truncated := Function.update s.truncated a.caller false }
    else
      some
        { s with
          file := some []
          truncated := Function.update s.truncated a.caller true }
  | _ => none

/-- `uuids` are the strings that can be made. -/
def IdentityCalls.Step (uuids : String → Prop) (s : IdentityCalls n) (a : CallTurn n)
    (s' : IdentityCalls n) : Prop :=
  s.next a = some s' ∧ uuids a.uuid

/-- What a call has returned. -/
def IdentityCalls.result (s : IdentityCalls n) (i : Fin n) : Option (Option (String × String)) :=
  match s.calls i with
  | .done r => some r
  | _ => none

end

end Netmuxd
