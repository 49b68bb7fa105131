import Seph.Bridge.Basic

/-!
# Calls of the host

The host may pause the ticks, ask for a single tick, or press a button for a while. Such a call has
its effect at once and is over later.
-/

namespace Seph

/-- A call of the host that is not over. -/
inductive Call
  /-- Waits until no tick is in flight. -/
  | pause
  /-- Waits for a tick count. -/
  | tick (count : Nat)
  /-- Waits for a time, at which a button is released. -/
  | release (button : Button) (due : Nat)
  deriving DecidableEq, Repr

namespace Call

/-- What a wait that is over or in vain ends a call with. -/
def ofWait? (w : Pacer.Wait) (result : Option Nat) : Option (Except BridgeError (Option Nat)) :=
  match w with
  | .over => some (.ok result)
  | .vain => some (.error .closed)
  | .on => none

/-- How a call ends, if it does now. -/
def outcome? (pacer : Pacer) (clock : Nat) : Call → Option (Except BridgeError (Option Nat))
  | pause => ofWait? pacer.waitIdle none
  | tick count => ofWait? (pacer.waitCount count) (some pacer.ticks.count)
  | release _ due => if due ≤ clock then some (.ok none) else none

/-- What a call does when it ends. -/
def conclude (b : Bridge) : Call → Bridge
  | release button _ => b.queueButton button false
  | pause | tick _ => b

end Call
end Seph
