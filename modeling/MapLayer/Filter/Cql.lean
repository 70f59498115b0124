import MapLayer.Cql.Fragment
import MapLayer.Filter.Basic
import MapLayer.Filter.Predicate
import MapLayer.Query.Cql
import MapLayer.Query.Parser

/-! The clauses that filters, time windows and free-text queries add to a request. -/

namespace MapLayer

/-- The entries that all have to hold in one alternative of a filter. -/
def mustOf (clause : Json) : List Json :=
  (((clause.get? "bool").bind (·.get? "must")).bind Json.array?).getD []

/-- The clause of one entry, if it says something about the column. -/
def entryFragment (column : String) (negate : Bool) (statement : Json) :
    Outcome (Option CqlFragment) := do
  let predicate ← SpatialPredicate.classify statement column
  return (predicate.cql? column).map fun text =>
    .spatial ("(" ++ (if negate then "NOT " else "") ++ text ++ ")") column negate

def entryFragments (column : String) (negate : Bool) : List Json → Outcome (List CqlFragment)
  | [] => .ok []
  | statement :: rest => do
    let first ← entryFragment column negate statement
    return first.toList ++ (← entryFragments column negate rest)

def FilterDescriptor.fragments (f : FilterDescriptor) (column : String) :
    Outcome (List CqlFragment) :=
  if f.targets column && !f.about.disabled then
    entryFragments column f.about.negate (f.clauses.flatMap mustOf)
  else .ok []

/-- The spatial clauses of filters in their order, or the first failure. -/
def spatialFragments (column : String) : List FilterDescriptor → Outcome (List CqlFragment)
  | [] => .ok []
  | f :: rest => do
    let first ← f.fragments column
    return first ++ (← spatialFragments column rest)

/-- The clause that limits a time column. It needs the column and both ends. -/
def timeFragment (column : String) (start stop : Option String) : Option CqlFragment :=
  if column = "" then none
  else match start, stop with
    | some start, some stop => some (.plain s!"({column} BETWEEN {start} AND {stop})")
    | _, _ => none

/-- The clause of a free-text query. A query in another language, or a blank one, has none. -/
def SourceQuery.fragment (q : SourceQuery) : Outcome (Option CqlFragment) :=
  if q.language = SourceQuery.understood then do
    match ← Query.parse q.text with
    | none => return none
    | some node => return some (.plain ("(" ++ (← node.cql) ++ ")"))
  else .ok none

end MapLayer
