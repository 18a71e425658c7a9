/-!
# Series

The values of one metric, one for each combination of label values. They are kept in the order of
the label values, each combination at most once, so that a series is also the order in which it is
shown.
-/

namespace NodeWarden

/-- The values of a metric by the values of its labels. -/
abbrev Series (β : Type) := List (List String × β)

namespace Series

variable {β : Type}

/-- The value for some label values. -/
def get? (key : List String) : Series β → Option β
  | [] => none
  | (k, v) :: rest => if key = k then some v else get? key rest

/-- Changes the value for some label values, or enters one. -/
def upsert (key : List String) (f : Option β → β) : Series β → Series β
  | [] => [(key, f none)]
  | (k, v) :: rest =>
    if key = k then (k, f (some v)) :: rest
    else if key < k then (key, f none) :: (k, v) :: rest
    else (k, v) :: upsert key f rest

/-- Sets the value for some label values. -/
def set (key : List String) (value : β) (s : Series β) : Series β :=
  s.upsert key fun _ => value

/-- Adds one to a count. -/
def bump (key : List String) (s : Series Nat) : Series Nat :=
  s.upsert key fun n => n.getD 0 + 1

/-- The sum of all counts. -/
def total (s : Series Nat) : Nat :=
  s.foldr (fun e n => e.2 + n) 0

end Series

end NodeWarden
