import NodeWarden.Text.Digit
import NodeWarden.Yaml.Node

/-!
# Values of YAML

What a node means to a reader who expects a value of a certain type. A scalar without quotes can be
a truth value, a number or null, and it is always a text too; one in quotes is a text and nothing
else. Where a mapping or a sequence is expected, a missing value is an empty one.
-/

namespace NodeWarden.Yaml

/-! ## Words -/

/-- The truth value that a word writes. -/
def flagOfWord? : String → Option Bool
  | "true" | "True" | "TRUE" => some true
  | "false" | "False" | "FALSE" => some false
  | _ => none

/-- Whether a word writes null. -/
def isNullWord (w : String) : Bool :=
  w == "null" || w == "Null" || w == "NULL" || w == "~"

/-- The number that a word without a sign writes, in a base that its first two characters name or in
base ten. In base ten only zero itself begins with a zero. -/
def unsignedOfWord? : List Char → Option Nat
  | '0' :: 'x' :: cs => Text.number? 16 cs
  | '0' :: 'o' :: cs => Text.number? 8 cs
  | '0' :: 'b' :: cs => Text.number? 2 cs
  | '0' :: _ :: _ => none
  | cs => Text.number? 10 cs

/-- The natural number that a word writes, a plus sign in front of it allowed. -/
def naturalOfWord? : List Char → Option Nat
  | '+' :: cs => unsignedOfWord? cs
  | cs => unsignedOfWord? cs

namespace Node

/-! ## Scalars -/

def isScalar : Node → Bool
  | scalar .. => true
  | _ => false

/-- The text of a scalar. -/
def text? : Node → Option String
  | scalar text _ => some text
  | _ => none

/-- The text of a scalar, which may be null or missing. -/
def optionalText? : Node → Option (Option String)
  | scalar text plain => some (if plain && (text == "" || isNullWord text) then none else some text)
  | _ => none

/-- A truth value. -/
def flag? : Node → Option Bool
  | scalar text true => flagOfWord? text
  | _ => none

/-- A natural number below a limit. -/
def natural? (limit : Nat) : Node → Option Nat
  | scalar text true => (naturalOfWord? text.toList).filter (· < limit)
  | _ => none

/-! ## Collections -/

/-- The items of a sequence. -/
def items? : Node → Option (List Node)
  | sequence items => some items
  | scalar "" true => some []
  | _ => none

/-- The entries of a mapping, all of whose keys have to be scalars. -/
def entries? : Node → Option (List (Node × Node))
  | mapping entries => if entries.all (·.1.isScalar) then some entries else none
  | scalar "" true => some []
  | _ => none

/-- Whether a node is the key with the given name. -/
def isKey (name : String) : Node → Bool
  | scalar text _ => text == name
  | _ => false

/-- Reads the value of a key among the entries of a mapping, or takes the default if the key is not
there. A key that is given twice is refused. -/
def readKey {α : Type} (entries : List (Node × Node)) (name : String) (default : α)
    (readValue : Node → Option α) : Option α :=
  match entries.filter (·.1.isKey name) with
  | [] => some default
  | [(_, value)] => readValue value
  | _ => none

end Node

end NodeWarden.Yaml
