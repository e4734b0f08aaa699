/-
Opening a device's mux interface, `open_mux_with_progress` of `src/usb/apple.rs`.

Another process may hold the interface, so it is claimed again and again, from different
configurations and, in the second half of the attempts, after a reset.  What nusb and the
caller's `on_attempt` are asked to do is a call, and what comes of it is the answer.
-/
import Netmuxd.Lib.Talk
import Netmuxd.Usb.Apple

namespace Netmuxd.Nusb

open Lib

/-! ### Calls -/

inductive OpenMuxError
  | notAppleMux (vid pid : UInt16)
  | openDevice (error : String)
  | noMuxInterface
  | setConfiguration (config : UInt8) (error : String)
  | reset (error : String)
  | claimInterface (interface : UInt8) (error : String)
  | claimBulkIn (addr : UInt8) (error : String)
  | claimBulkOut (addr : UInt8) (error : String)
  deriving DecidableEq

/-- An error of nusb, and whether it is `ErrorKind::Busy`. -/
structure NusbError where
  busy : Bool
  text : String
  deriving DecidableEq

inductive OpenCall
  /-- `info.open()`, and the descriptors of what is opened. -/
  | openDevice
  /-- The vendor request that switches the device into another mode. -/
  | setMode (mode : UInt16)
  | onAttempt (n total : Nat)
  /-- For a second, before the interface is claimed again. -/
  | sleep
  | reset
  | activeConfiguration
  | setConfiguration (v : UInt8)
  | detachAndClaimInterface (interfaceNumber : UInt8)
  /-- `interface.endpoint`, in either direction. -/
  | endpointIn (addr : UInt8)
  | endpointOut (addr : UInt8)
  deriving DecidableEq

@[reducible] def OpenCall.Answer : OpenCall → Type
  | .openDevice => Except String Device
  | .onAttempt _ _ | .sleep => Unit
  | .activeConfiguration => Option UInt8
  | .detachAndClaimInterface _ => Except NusbError Unit
  | .setMode _ | .reset | .setConfiguration _ | .endpointIn _ | .endpointOut _ =>
    Except String Unit

abbrev Opening := Talk OpenCall.Answer

namespace Opening

open Talk

abbrev openDevice : Opening (Except String Device) := perform OpenCall.openDevice
abbrev setMode (mode : UInt16) : Opening (Except String Unit) := perform (OpenCall.setMode mode)
abbrev onAttempt (n total : Nat) : Opening Unit := perform (OpenCall.onAttempt n total)
abbrev sleep : Opening Unit := perform OpenCall.sleep
abbrev reset : Opening (Except String Unit) := perform OpenCall.reset
abbrev activeConfiguration : Opening (Option UInt8) := perform OpenCall.activeConfiguration
abbrev setConfiguration (v : UInt8) : Opening (Except String Unit) :=
  perform (OpenCall.setConfiguration v)
abbrev detachAndClaimInterface (interfaceNumber : UInt8) : Opening (Except NusbError Unit) :=
  perform (OpenCall.detachAndClaimInterface interfaceNumber)
abbrev endpointIn (addr : UInt8) : Opening (Except String Unit) :=
  perform (OpenCall.endpointIn addr)
abbrev endpointOut (addr : UInt8) : Opening (Except String Unit) :=
  perform (OpenCall.endpointOut addr)

end Opening

open Opening

/-! ### What there is to try -/

def findNoMuxConfig (device : Device) (muxCandidates : List MuxTarget) : Option UInt8 :=
  (device.configurations.map ConfigurationDescriptor.configurationValue).find? fun v =>
    v ∉ muxCandidates.map MuxTarget.configValue

/-- What a device that has a mux interface offers. -/
structure Candidates where
  targets : List MuxTarget
  nonempty : targets ≠ []
  noMuxConfig : Option UInt8
  noMux : ∀ v ∈ noMuxConfig, ∀ target ∈ targets, target.configValue ≠ v

/-- `candidates[attempt % candidates.len()]` -/
def Candidates.target (candidates : Candidates) (attempt : Nat) : MuxTarget :=
  candidates.targets.get ⟨attempt % candidates.targets.length,
    Nat.mod_lt _ (List.length_pos_iff.mpr candidates.nonempty)⟩

theorem findNoMuxConfig_noMux {device : Device} {targets : List MuxTarget} :
    ∀ v ∈ findNoMuxConfig device targets, ∀ target ∈ targets, target.configValue ≠ v := by
  intro v hv target htarget heq
  have hnot := List.find?_some hv
  rw [decide_eq_true_eq] at hnot
  exact hnot (List.mem_map.mpr ⟨target, htarget, heq⟩)

def Device.candidates (device : Device) : Option Candidates :=
  if h : collectMuxCandidates device = [] then none
  else some
    { targets := collectMuxCandidates device
      nonempty := h
      noMuxConfig := findNoMuxConfig device (collectMuxCandidates device)
      noMux := findNoMuxConfig_noMux }

/-! ### One attempt -/

def claimBurstSize : Nat := 10

/-- How an attempt ends. -/
inductive Attempt
  /-- The mux of this target is open. -/
  | opened (target : MuxTarget)
  /-- There is no point in another attempt. -/
  | failed (e : OpenMuxError)
  | again (e : OpenMuxError)

/-- `{e:?} (attempt {}/{attempts})` -/
def numbered (e : String) (attempt attempts : Nat) : String :=
  e ++ " (attempt " ++ toString (attempt + 1) ++ "/" ++ toString attempts ++ ")"

def claim (target : MuxTarget) (attempt attempts : Nat) : Opening Attempt := do
  match ← detachAndClaimInterface target.interfaceNumber with
  | .error e =>
    return .again (.claimInterface target.interfaceNumber (numbered e.text attempt attempts))
  | .ok () =>
    match ← endpointIn target.epIn with
    | .error e => return .failed (.claimBulkIn target.epIn e)
    | .ok () =>
      match ← endpointOut target.epOut with
      | .error e => return .failed (.claimBulkOut target.epOut e)
      | .ok () => return .opened target

/-- A first attempt does without the bounce. -/
def bounce (noMuxConfig : Option UInt8) (attempt : Nat) : Opening Unit := do
  if 0 < attempt then
    match noMuxConfig with
    | some v =>
      let _ ← setConfiguration v
    | none => return ()

def switchAndClaim (candidates : Candidates) (attempt attempts : Nat) : Opening Attempt := do
  let target := candidates.target attempt
  if (← activeConfiguration) = some target.configValue then claim target attempt attempts
  else
    bounce candidates.noMuxConfig attempt
    match ← setConfiguration target.configValue with
    | .error e =>
      return .again (.setConfiguration target.configValue (numbered e attempt attempts))
    | .ok () => claim target attempt attempts

/-- `attempts.div_ceil(2)` -/
def resetThreshold (attempts : Nat) : Nat :=
  (attempts + 1) / 2

/-- A burst of attempts is followed by a pause. -/
def pause (attempt : Nat) : Opening Unit := do
  if 0 < attempt ∧ attempt % claimBurstSize = 0 then sleep

def resetAndClaim (candidates : Candidates) (attempts attempt : Nat) : Opening Attempt := do
  if resetThreshold attempts ≤ attempt then
    match ← reset with
    | .error e => return .again (.reset (numbered e attempt attempts))
    | .ok () => switchAndClaim candidates attempt attempts
  else switchAndClaim candidates attempt attempts

def tryOnce (candidates : Candidates) (attempts attempt : Nat) : Opening Attempt := do
  onAttempt (attempt + 1) attempts
  pause attempt
  resetAndClaim candidates attempts attempt

/-! ### The loop -/

/-- The attempts that are left, from this one on. -/
def tryFrom (candidates : Candidates) (attempts : Nat) :
    Nat → Nat → Option OpenMuxError → Opening (Except OpenMuxError MuxTarget)
  | 0, _, lastErr => return .error (lastErr.getD .noMuxInterface)
  | left + 1, attempt, _ => do
    match ← tryOnce candidates attempts attempt with
    | .opened target => return .ok target
    | .failed e => return .error e
    | .again e => tryFrom candidates attempts left (attempt + 1) (some e)

def appleVid : UInt16 := 0x05ac

/-- Of the product ids, those of `PID_RANGE`. -/
def isAppleMux (vid pid : UInt16) : Bool :=
  vid = appleVid ∧ 0x1290 ≤ pid ∧ pid ≤ 0x12af

def openMuxWithProgress (vid pid : UInt16) (maxAttempts : Nat) :
    Opening (Except OpenMuxError MuxTarget) := do
  if isAppleMux vid pid then
    match ← openDevice with
    | .error e => return .error (.openDevice e)
    | .ok device =>
      match device.candidates with
      | none => return .error .noMuxInterface
      | some candidates =>
        let attempts := max maxAttempts 1
        tryFrom candidates attempts attempts 0 none
  else return .error (.notAppleMux vid pid)

/-- Each attempt is reported to nobody. -/
def openMux (vid pid : UInt16) : Opening (Except OpenMuxError MuxTarget) :=
  openMuxWithProgress vid pid 100

end Netmuxd.Nusb
