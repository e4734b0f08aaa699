/-
The command line, `src/config.rs`.

`collect` walks the arguments with an index that each branch moves on by its own step.
The arguments are strings (`std::env::args` panics on what is not Unicode) and argument 0
is the name of the program, which is matched like any other.  A loop that does not come to
a configuration ends the process: `expect` panics, and the help texts exit.

The platform a branch is compiled for is part of the target.  Fields that a target does
not have keep their defaults there.
-/
import Mathlib.Algebra.Group.Nat.Defs
import Netmuxd.Lib.Loop

namespace Netmuxd.Options

open Lib (Turn)

/-! ### Targets and addresses -/

/-- `libusbk` is the feature of that name, which only Windows looks at. -/
inductive Target
  | unix
  | windows (libusbk : Bool)
  | other
  deriving DecidableEq

namespace Target

def isUnix : Target → Bool
  | unix => true
  | _ => false

def isWindows : Target → Bool
  | windows _ => true
  | _ => false

/-- `all(windows, feature = "libusbk")`. -/
def hasLibusbk : Target → Bool
  | windows libusbk => libusbk
  | _ => false

end Target

inductive UsbmuxdAddr (SocketAddr : Type)
  | tcpSocket (addr : SocketAddr)
  | unixSocket (path : String)
  deriving DecidableEq

/-- Where addresses come from: `str::parse::<SocketAddr>`, and what idevice makes of
`USBMUXD_SOCKET_ADDRESS` and of its absence. -/
structure Addresses (SocketAddr : Type) where
  parse : String → Option SocketAddr
  fromEnvVar : Option (UsbmuxdAddr SocketAddr)
  default : UsbmuxdAddr SocketAddr

/-! ### The configuration -/

structure NetmuxdConfig (SocketAddr : Type) where
  port : UInt16
  host : Option String
  plistStorage : Option String
  useHeartbeat : Bool
  useUnix : Bool
  useMdns : Bool
  useUsb : Bool
  appleMux : Bool
  killAmds : Bool
  restartAmdsOnExit : Bool
  upstream : Option (UsbmuxdAddr SocketAddr)
  socketPath : String
  deriving DecidableEq

/-- How the process ends before there is a configuration. -/
inductive Stop
  | exit (code : Nat)
  | panic (message : String)
  deriving DecidableEq

variable {SocketAddr : Type}

/-- `NetmuxdConfig::default`. -/
def defaultConfig (target : Target) : NetmuxdConfig SocketAddr where
  port := 27015
  host := if target.isUnix then none else some "127.0.0.1"
  plistStorage := none
  useHeartbeat := true
  useUnix := true
  useMdns := true
  useUsb := true
  appleMux := true
  killAmds := false
  restartAmdsOnExit := false
  upstream := none
  socketPath := "/var/run/usbmuxd"

/-! ### Values -/

/-- `Option::expect`. -/
def expect {α : Type} (message : String) : Option α → Except Stop α
  | some a => .ok a
  | none => .error (.panic message)

/-- One digit more, unless there is no room for it in 16 bits. -/
def pushDigit (n : Nat) (c : Char) : Option Nat :=
  if c.isDigit ∧ n * 10 + (c.toNat - '0'.toNat) < 2 ^ 16 then
    some (n * 10 + (c.toNat - '0'.toNat))
  else
    none

/-- `str::parse::<u16>`: digits, at least one, that may follow a plus sign. -/
def parseU16 (s : String) : Option UInt16 :=
  let digits := match s.toList with
    | '+' :: digits => digits
    | digits => digits
  if digits = [] then none else (digits.foldlM pushDigit 0).map UInt16.ofNat

def startsWithDash (s : String) : Bool :=
  s.toList.head? = some '-'

def parseUpstream (target : Target) (addresses : Addresses SocketAddr) (addr : String) :
    Except Stop (UsbmuxdAddr SocketAddr) :=
  let tcp := (expect "--upstream-usbmuxd TCP address must be IP:port"
    (addresses.parse addr)).map UsbmuxdAddr.tcpSocket
  if target.isUnix then
    if ':' ∈ addr.toList then tcp else .ok (.unixSocket addr)
  else
    tcp

/-! ### The loop -/

structure CollectState (SocketAddr : Type) where
  i : Nat
  res : NetmuxdConfig SocketAddr

def CollectState.start (target : Target) : CollectState SocketAddr :=
  { i := 0, res := defaultConfig target }

/-- The branch of one argument, `next` being `args().nth(i + 1)`: the step of the index and
the configuration so far. -/
def collectBranch (target : Target) (addresses : Addresses SocketAddr) (arg : String)
    (next : Option String) (res : NetmuxdConfig SocketAddr) :
    Except Stop (Nat × NetmuxdConfig SocketAddr) :=
  match arg with
  | "-p" | "--port" => do
      let value ← expect "port flag passed without number" next
      let port ← expect "port isn't a number" (parseU16 value)
      .ok (2, { res with port })
  | "--host" => do
      let host ← expect "host flag passed without host" next
      .ok (2, { res with host := some host })
  | "--plist-storage" => do
      let path ← expect "flag passed without value" next
      .ok (1, { res with plistStorage := some path })
  | "--disable-unix" =>
      .ok (1, if target.isUnix then { res with useUnix := false } else res)
  | "--disable-mdns" => .ok (1, { res with useMdns := false })
  | "--disable-usb" => .ok (1, { res with useUsb := false })
  | "--libusbk" =>
      .ok (1, if target.hasLibusbk then { res with appleMux := false } else res)
  | "--kill-amds" =>
      .ok (1, if target.isWindows then { res with killAmds := true } else res)
  | "--restart-amds-on-exit" =>
      .ok (1, if target.isWindows then { res with restartAmdsOnExit := true } else res)
  | "--disable-heartbeat" => .ok (1, { res with useHeartbeat := false })
  | "--upstream-usbmuxd" =>
      match next.filter (!startsWithDash ·) with
      | some addr => do
        let upstream ← parseUpstream target addresses addr
        .ok (2, { res with upstream := some upstream, useUsb := false })
      | none =>
        let upstream := addresses.fromEnvVar.getD addresses.default
        .ok (1, { res with upstream := some upstream, useUsb := false })
  | "--socket-path" =>
      if target.isUnix then do
        let path ← expect "--socket-path passed without a path" next
        .ok (2, { res with socketPath := path })
      else
        .ok (1, res)
  | "-h" | "--help" => .error (.exit 0)
  | "--about" => .error (.exit 0)
  | _ => .ok (1, res)

def collectTurn (target : Target) (addresses : Addresses SocketAddr) (args : List String)
    (s : CollectState SocketAddr) :
    Turn (CollectState SocketAddr) (Except Stop (NetmuxdConfig SocketAddr)) :=
  match args[s.i]? with
  | none => .leave (.ok s.res)
  | some arg =>
    match collectBranch target addresses arg args[s.i + 1]? s.res with
    | .ok (step, res) => .again { i := s.i + step, res }
    | .error stop => .leave (.error stop)

theorem bind_eq_ok {ε α β : Type} {x : Except ε α} {f : α → Except ε β} {b : β} :
    (x >>= f) = .ok b ↔ ∃ a, x = .ok a ∧ f a = .ok b := by
  cases x with
  | ok a => exact ⟨fun h => ⟨a, rfl, h⟩, fun ⟨_, ha, h⟩ => by cases ha; exact h⟩
  | error e => exact ⟨nofun, fun ⟨_, ha, _⟩ => nomatch ha⟩

/-- Every branch moves on. -/
theorem collectBranch_step {target : Target} {addresses : Addresses SocketAddr} {arg : String}
    {next : Option String} {res res' : NetmuxdConfig SocketAddr} {step : Nat}
    (h : collectBranch target addresses arg next res = .ok (step, res')) : 0 < step := by
  unfold collectBranch at h
  split at h
  all_goals grind [bind_eq_ok]

theorem collectTurn_lowers (target : Target) (addresses : Addresses SocketAddr)
    (args : List String) :
    Lib.Lowers (collectTurn target addresses args) fun s => args.length - s.i := by
  intro s s' h
  unfold collectTurn at h
  split at h
  · cases h
  · next harg =>
      obtain ⟨hi, -⟩ := List.getElem?_eq_some_iff.mp harg
      split at h
      · next hbranch =>
          have hstep := collectBranch_step hbranch
          cases h
          show args.length - (s.i + _) < args.length - s.i
          omega
      · cases h

def collect (target : Target) (addresses : Addresses SocketAddr) (args : List String) :
    Except Stop (NetmuxdConfig SocketAddr) :=
  Lib.whileLoop (collectTurn target addresses args) _ (collectTurn_lowers target addresses args)
    (.start target)

end Netmuxd.Options
