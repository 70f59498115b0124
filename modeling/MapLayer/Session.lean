import MapLayer.Source

/-!
The layer sources of one map together with its context. A source keeps its place in the list of
sources, so that a listener can name it.
-/

namespace MapLayer

/-- Who answers the clicks on a source: someone of the host's own, or a layer source. -/
inductive Listener (η : Type)
  | host (h : η)
  | layer (place : Nat)
deriving DecidableEq, Repr

structure Session (η : Type) where
  context : MapContext (Listener η) := {}
  sources : List LayerSource := []

namespace Session

variable {η : Type}

def addSource (s : Session η) (source : LayerSource) : Session η × Nat :=
  ({ s with sources := s.sources ++ [source] }, s.sources.length)

def release (sources : List LayerSource) : Listener η → List LayerSource
  | .layer place => sources.modify place LayerSource.released
  | .host _ => sources

def releaseAll (s : Session η) (removed : List (Listener η)) : Session η :=
  { s with sources := removed.foldl release s.sources }

/-- Whether the tiles of the source at a place are stale. A source that is checked answers clicks
from then on, unless someone already answers for its id. -/
def isStale (s : Session η) (place : Nat) (previous : Option String) (current : String)
    (loaded : Bool) (now : Int) : Option (Session η × Outcome StaleCheck) :=
  (s.sources[place]?).map fun source =>
    let context := if s.context.isRegistered source.id then s.context
      else s.context.register source.id (.layer place)
    let (context, verdict) :=
      context.check source.id source.descriptor previous current loaded now
    let sources := match verdict with
      | .ok check => s.sources.modify place (·.sawCheck check)
      | .error _ => s.sources
    ({ context, sources }, verdict)

def teardownSource (s : Session η) (id : String) : Session η × List (Listener η) :=
  let (context, removed) := s.context.teardownSource id
  (({ s with context } : Session η).releaseAll removed.toList, removed.toList)

def teardown (s : Session η) : Session η × List (Listener η) :=
  let (context, removed) := s.context.teardown
  (({ s with context } : Session η).releaseAll removed, removed)

/-- What a click does: the session after it, the listeners that were removed and those that are
asked. -/
def dispatch (s : Session η) (map : HostMap) :
    Session η × List (Listener η) × List (Listener η) :=
  let d := s.context.dispatch map
  (({ s with context := d.context } : Session η).releaseAll d.removed, d.removed, d.asked)

def answer (s : Session η) (network : Network) (map : HostMap) (click : Click)
    (own : η → Outcome Tooltip) : Listener η → Option (Outcome Tooltip)
  | .host h => some (own h)
  | .layer place => (s.sources[place]?).map fun source => source.answer network map click

/-- The results of a click, in the order of the sources. Who is asked answers after the others were
removed. -/
def results (s : Session η) (network : Network) (map : HostMap) (click : Click)
    (own : η → Outcome Tooltip) : List (Outcome Tooltip) :=
  let (after, _, asked) := s.dispatch map
  asked.filterMap (after.answer network map click own)

end Session

end MapLayer
