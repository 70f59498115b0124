import MapLayer.Host
import MapLayer.Keyed
import MapLayer.Settings

/-!
What is remembered for one map: when its live layers were refreshed, the nudges that were scheduled, and
who answers clicks. Every operation says what became of the listeners that it removed.
-/

namespace MapLayer

/-- A nudge that was scheduled. -/
inductive Nudge
  /-- It falls due when some time has passed. -/
  | waiting (left : Nat)
  | sent
  | cancelled
deriving DecidableEq, Repr

namespace Nudge

/-- The time that is left, if it is not over. -/
def left? : Nudge → Option Nat
  | waiting left => some left
  | sent | cancelled => none

def isWaiting (n : Nudge) : Bool := n.left?.isSome

def fallsDue (millis : Nat) (n : Nudge) : Bool := n.left?.any (· ≤ millis)

def advance (millis : Nat) : Nudge → Nudge
  | waiting left => if left ≤ millis then sent else waiting (left - millis)
  | n => n

def cancel : Nudge → Nudge
  | waiting _ => cancelled
  | n => n

end Nudge

/-- The memory of a map whose clicks are answered by listeners of some kind. Moments are in
milliseconds on a clock that never goes back. -/
structure MapContext (η : Type) where
  policy : RefreshPolicy := {}
  hasTimer : Bool := true
  refreshes : Keyed Int := {}
  nudges : List Nudge := []
  /-- The place of the nudge that is held on to, which may be over. -/
  held : Option Nat := none
  listeners : Keyed η := {}

namespace MapContext

variable {η : Type}

def lastRefresh? (c : MapContext η) (id : String) : Option Int :=
  c.refreshes.get? id

def recordRefresh (c : MapContext η) (id : String) (now : Int) : MapContext η :=
  { c with refreshes := c.refreshes.put id now }

def heldNudge? (c : MapContext η) : Option Nudge := c.held.bind (c.nudges[·]?)

/-- Whether the nudge that is held on to is not over yet. -/
def nudgePending (c : MapContext η) : Bool := c.heldNudge?.any Nudge.isWaiting

/-- Schedules a nudge, unless one is pending. The answer says whether it did. -/
def armNudge (c : MapContext η) : MapContext η × Bool :=
  if c.nudgePending || !c.hasTimer then (c, false)
  else
    ({ c with
        nudges := c.nudges ++ [.waiting c.policy.nudgeDelay]
        held := some c.nudges.length }, true)

/-- Lets time pass. The answer says whether a nudge fell due, which resets the bearing of the map. A nudge
that is sent is still held on to. -/
def advance (c : MapContext η) (millis : Nat) : MapContext η × Bool :=
  ({ c with nudges := c.nudges.map (Nudge.advance millis) }, c.nudges.any (Nudge.fallsDue millis))

/-- Cancels the nudge that is held on to, and lets go of it. -/
def dropNudge (c : MapContext η) : MapContext η :=
  match c.held with
  | none => c
  | some place => { c with nudges := c.nudges.modify place Nudge.cancel, held := none }

/-- A listener takes the place of an earlier one, which is not told. -/
def register (c : MapContext η) (id : String) (listener : η) : MapContext η :=
  { c with listeners := c.listeners.put id listener }

def isRegistered (c : MapContext η) (id : String) : Bool := c.listeners.contains id

/-- Forgets a listener. The answer is the listener, which has to be told. -/
def unregister (c : MapContext η) (id : String) : MapContext η × Option η :=
  ({ c with listeners := c.listeners.erase id }, c.listeners.get? id)

def teardownSource (c : MapContext η) (id : String) : MapContext η × Option η :=
  { c with refreshes := c.refreshes.erase id }.unregister id

/-- Forgets everything. The answer is the listeners in the order of their sources. -/
def teardown (c : MapContext η) : MapContext η × List η :=
  ({ c.dropNudge with refreshes := {}, listeners := {} }, c.listeners.values)

/-- Whether a source has no one left to click on. -/
def isGone (map : HostMap) (id : String) : Bool :=
  map.presence id == .absent || map.presence id == .orphaned

/-- Whether a click reaches a source. While a shape is drawn it reaches none. -/
def isTarget (map : HostMap) (id : String) : Bool :=
  map.presence id == .visible && !map.isDrawing

/-- What a click does to a context: the listeners that are forgotten and those that are asked, both
in the order of their sources. -/
structure Dispatch (η : Type) where
  context : MapContext η
  removed : List η
  asked : List η

def dispatch (c : MapContext η) (map : HostMap) : Dispatch η :=
  let gone := c.listeners.entries.filter fun e => isGone map e.1
  { context := gone.foldl (fun c e => (c.unregister e.1).1) c
    removed := gone.map (·.2)
    asked := (c.listeners.entries.filter fun e => isTarget map e.1).map (·.2) }

end MapContext

end MapLayer
