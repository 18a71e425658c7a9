import NodeWarden.Log.Directive

/-!
# Log filters

A filter says which log entries are wanted. It is written as directives between commas. The
directive that knows the part of the program that an entry comes from by the longest name
decides about it; one that asks for a field goes before one that does not, and of two for
the same entries the later one.
-/

namespace NodeWarden.Log

/-- Which entries are wanted. -/
structure Filter where
  directives : List Directive
deriving Repr, DecidableEq

namespace Filter

/-- The directives in a text, each as it is written and as it is read. -/
def pieces (text : String) : List (String × Except DirectiveFault Directive) :=
  ((text.toList.splitOn ',').filter (· ≠ [])).map fun p => (.ofList p, Directive.parse p)

/-- The filter of some directives. If there are none, only errors are wanted. -/
def ofDirectives (ds : List Directive) : Filter :=
  ⟨if ds = [] then [⟨none, none, none, some .error⟩] else ds⟩

/-- Reads a filter and refuses it if any directive is refused. -/
def parse? (text : String) : Option Filter := do
  let ds ← (pieces text).mapM fun p => p.2.toOption
  return ofDirectives ds

/-- Reads a filter and passes over the directives that are refused, with a complaint about each. -/
def parseLossy (text : String) : Filter × List String :=
  let complaint (p : String × Except DirectiveFault Directive) : Option String :=
    match p.2 with
    | .ok _ => none
    | .error fault => some s!"ignoring \x60{p.1}\x60: {fault.message}"
  (ofDirectives ((pieces text).filterMap fun p => p.2.toOption), (pieces text).filterMap complaint)

/-- The directive that decides about an entry, if one is about it: the one to which all
others give way, and of several for the same entries the last. -/
def decisive? (f : Filter) (e : Entry) : Option Directive :=
  (f.directives.filter (·.covers e)).foldl
    (fun best d => if best.all (·.givesWay d) then some d else best) none

/-- Whether an entry is wanted. -/
def wants (f : Filter) (e : Entry) : Bool :=
  ((f.decisive? e).bind (·.least)).any fun l => e.level.rank ≤ l.rank

end Filter

end NodeWarden.Log
