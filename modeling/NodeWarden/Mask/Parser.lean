import NodeWarden.ConfigError
import NodeWarden.Mask.Basic
import NodeWarden.Text.Blank
import NodeWarden.Text.Digit
import NodeWarden.Text.Letter

/-!
# Reading masks

A mask is one of the words `all`, `void` and `none`, in any case, or nothing at all, or a list of
entries between commas. An entry is an index, in decimal digits of any script, or a unique id:
`GPU-` with an ASCII letter or digit and then letters, digits and hyphens. Blanks around the whole
and around each entry do not count, and an entry that was listed before is dropped.
-/

namespace NodeWarden.VisibleDevices

/-- An ASCII letter or digit. -/
def isAlphanumeric (c : Char) : Bool :=
  c.isAlphanum

/-- An entry made of decimal digits. -/
def isIndexEntry (cs : List Char) : Bool :=
  !cs.isEmpty && cs.all Text.isDecimalDigit

/-- An entry that is a unique id. -/
def isUniqueIdEntry : List Char → Bool
  | 'G' :: 'P' :: 'U' :: '-' :: c :: cs =>
    isAlphanumeric c && cs.all fun c => isAlphanumeric c || c == '-'
  | _ => false

/-- What the name of a slice of a device begins with. -/
def sliceMark : List Char := ['M', 'I', 'G', '-']

/-- Reads the entries from left to right, of which `known` are listed already. The first entry that
cannot be read is the error. -/
def readEntries (mask : String) (known : List String) :
    List (List Char) → Except ConfigError (List String)
  | [] => .ok known
  | piece :: rest =>
    let cs := Text.trimChars piece
    let entry := String.ofList cs
    if sliceMark.isPrefixOf cs then .error (.invalidDeviceMask (.slice entry))
    else if isIndexEntry cs || isUniqueIdEntry cs then
      readEntries mask (if known.contains entry then known else known ++ [entry]) rest
    else .error (.invalidDeviceMask (.entry entry mask))

/-- Reads a mask. -/
def parse (s : String) : Except ConfigError VisibleDevices :=
  let cs := Text.trimChars s.toList
  let word := Text.asciiLower cs
  if word = ['a', 'l', 'l'] then .ok all
  else if word = [] ∨ word = ['v', 'o', 'i', 'd'] ∨ word = ['n', 'o', 'n', 'e'] then .ok none
  else (readEntries s [] (cs.splitOn ',')).map list

/-- The mask of a setting that may be absent. Only a value hides devices: an absent one is an
error. -/
def ofSetting (value : Option String) : Except ConfigError VisibleDevices :=
  match value with
  | some s => parse s
  | Option.none => .error .missingDeviceMask

end NodeWarden.VisibleDevices
