/-
The tasks while the loop is in the middle of a branch.

`rx_data.recv()` frees a place on the channel before the message is handled, and the tasks
run on other threads meanwhile.  So a pump can fill that place, find `tx_pause` clear and
read once more before the branch gets to store it.  Here the two are steps of their own.

No other branch needs this.  The queues of commands, notices and packets are not bounded
by what the tasks do, and no branch stores the pause flag twice.
-/
import Netmuxd.Usb.Tasks

namespace Netmuxd

structure Overlap where
  sys : Sys
  /-- The message the loop has received and not handled yet. -/
  inHand : Option Message := none

inductive OverlapAction
  | receive
  | handle
  | other (a : Action)
  deriving DecidableEq, Repr

namespace Overlap

def next (o : Overlap) : OverlapAction → Option Overlap
  | .receive =>
    match o.inHand, o.sys.txData with
    | none, msg :: rest =>
      if o.sys.mux.phase = .running then
        some { sys := { o.sys with txData := rest }, inHand := some msg }
      else none
    | _, _ => none
  | .handle =>
    match o.inHand with
    | some msg =>
      (o.sys.mux.next (.rxData msg.sport msg.body)).map fun m =>
        { sys := { o.sys with mux := m, taken := o.sys.taken ++ [msg] } }
    | none => none
  | .other .takeData => none
  | .other a =>
    -- the loop takes nothing up while it handles a message
    if (o.sys.event a).isSome && o.inHand.isSome then none
    else (o.sys.next a).map fun sys => { o with sys }

def Step (o : Overlap) (a : OverlapAction) (o' : Overlap) : Prop :=
  o.next a = some o' ∧ ∀ b, a = .other b → ∀ ev, o.sys.event b = some ev → ev.Valid o.sys.mux

def start (link : Link) : Overlap :=
  { sys := Sys.start link }

end Overlap

end Netmuxd
