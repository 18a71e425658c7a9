import NodeWarden.Log.Entry
import NodeWarden.Log.Pattern
import NodeWarden.Text.Blank
import NodeWarden.Text.Bytes
import NodeWarden.Text.Digit
import NodeWarden.Text.Letter

/-!
# Log directives

A directive says which log entries are wanted from the parts of the program whose names
begin in some way, by the least grave level. It is written as a level, as the beginning of a
name, or as both with an equals sign between them, and it may ask in brackets for a span
around the entries and in braces for a field of theirs: `name[span{field=pattern}]=level`.
-/

namespace NodeWarden.Log

/-- What a directive asks of the fields of an entry: that there is one with the name and, if
a pattern is given, that its value fits. -/
structure FieldTest where
  name : String
  pattern : Option String
deriving Repr, DecidableEq

/-- What a directive wants, and of which entries. -/
structure Directive where
  /-- How the names of the parts of the program begin, or no name for all parts. -/
  source : Option String
  /-- The span that the entries have to be in, if it is of account. -/
  span : Option String
  /-- What is asked of the fields of the entries. -/
  field : Option FieldTest
  /-- The least grave level that is wanted, if any is. -/
  least : Option Level
deriving Repr, DecidableEq

/-- Why a directive is refused. -/
inductive DirectiveFault where
  | malformed
  | unknownLevel
  | pattern (fault : PatternFault)
deriving Repr, DecidableEq

namespace DirectiveFault

def message : DirectiveFault → String
  | malformed => "invalid filter directive"
  | unknownLevel =>
    "error parsing level filter: expected one of \"off\", \"error\", \"warn\", "
      ++ "\"info\", \"debug\", \"trace\", or a number 0-5"
  | pattern fault => s!"invalid field filter: {fault.message}"

end DirectiveFault

/-- Reads what a directive asks of a field: a name, and a pattern after an equals sign. What
follows a second one is of no account. -/
def FieldTest.parse (cs : List Char) : Except DirectiveFault FieldTest :=
  let name := cs.takeWhile (· != '=')
  match cs.drop name.length with
  | [] => .ok ⟨.ofList name, none⟩
  | _ :: rest =>
    let pattern := rest.takeWhile (· != '=')
    match Pattern.check pattern with
    | .ok () => .ok ⟨.ofList name, some (.ofList pattern)⟩
    | .error fault => .error (.pattern fault)

/-- The first of some signs in a text: how many bytes come before it, the sign itself, and
what follows it. -/
def firstSign? (signs : List Char) : List Char → Option (Nat × Char × List Char)
  | [] => none
  | c :: cs =>
    if signs.contains c then some (0, c, cs)
    else (firstSign? signs cs).map fun (n, sign, rest) => (n + c.utf8Size, sign, rest)

namespace Directive

/-- A limit by the rank of the least grave level that is wanted. -/
def ofRank? : Nat → Option (Option Level)
  | 0 => some none
  | 1 => some (some .error)
  | 2 => some (some .warn)
  | 3 => some (some .info)
  | 4 => some (some .debug)
  | 5 => some (some .trace)
  | _ => none

/-- A limit by its name in lower case. -/
def ofName? : String → Option (Option Level)
  | "off" => some none
  | "error" => some (some .error)
  | "warn" => some (some .warn)
  | "info" => some (some .info)
  | "debug" => some (some .debug)
  | "trace" => some (some .trace)
  | _ => none

/-- Reads a limit: a number, which may have a plus sign in front, or a name. -/
def limit? (cs : List Char) : Option (Option Level) :=
  let digits := if cs.head? = some '+' then cs.drop 1 else cs
  match Text.number? 10 digits with
  | some n => ofRank? n
  | none => ofName? (String.ofList (Text.asciiLower cs))

/-- Reads the limit after an equals sign. With nothing there every level is wanted. -/
def limitAfterSign (cs : List Char) : Except DirectiveFault (Option Level) :=
  if cs = [] then .ok (some .trace)
  else
    match limit? cs with
    | some l => .ok l
    | none => .error .unknownLevel

/-- Whether a directive that does not begin with a bracket may begin with the character. -/
def mayBegin (c : Char) : Bool :=
  c == '-' || c == ':' || c == '_' || Text.isAlphanumeric c

/-- The part of a piece with the given place and size in bytes. -/
def part (piece : List Char) (place size : Nat) : Except DirectiveFault (List Char) :=
  match (Text.dropBytes? place piece).bind (Text.takeBytes? size) with
  | some cs => .ok cs
  | none => .error .malformed

/-- Reads the limit at the end of a piece, from a place in bytes on. -/
def limitFrom (piece : List Char) (place : Nat) : Except DirectiveFault (Option Level) :=
  match Text.dropBytes? place piece with
  | some cs => limitAfterSign cs
  | none => .error .malformed

/-- Reads what follows the closing bracket: an equals sign and a limit, or nothing if every level is
wanted. -/
def parseEnd (piece : List Char) (place : Nat) : List Char → Except DirectiveFault (Option Level)
  | [] => .ok (some .trace)
  | '=' :: _ => limitFrom piece (place + 1)
  | _ => .error .malformed

/-- Reads what follows the opening bracket. -/
def parseBrackets (piece : List Char) (source : Option String) (place : Nat) (cs : List Char) :
    Except DirectiveFault Directive :=
  match firstSign? [']', '\x7b'] cs with
  | none => .error .malformed
  | some (size, ']', rest) => do
    let span ← part piece place size
    return ⟨source, some (.ofList span), none, ← parseEnd piece (place + size + 1) rest⟩
  | some (size, _, rest) => do
    let span ← part piece place size
    match firstSign? ['\x7d'] rest with
    | none => .error .malformed
    | some (fieldSize, _, rest) =>
      let field ← part piece (place + size + 1) fieldSize
      if field = [] then .error .malformed
      else
        let test ← FieldTest.parse field
        match rest with
        | ']' :: rest =>
          return ⟨source, if span = [] then none else some (.ofList span), some test,
            ← parseEnd piece (place + size + fieldSize + 3) rest⟩
        | _ => .error .malformed

/-- Reads a directive. Blanks at its ends are passed over only in the search for signs: the
parts of a piece that begins with blanks are cut out that many bytes too early. -/
def parse (piece : List Char) : Except DirectiveFault Directive :=
  match Text.trimChars piece with
  | [] => .error .malformed
  | '[' :: cs => parseBrackets piece none 1 cs
  | c :: cs =>
    if ¬ mayBegin c then .error .malformed
    else
      match firstSign? ['=', '['] (c :: cs) with
      | none =>
        match limit? piece with
        | some l => .ok ⟨none, none, none, l⟩
        | none => .ok ⟨some (.ofList piece), none, none, some .trace⟩
      | some (size, '=', _) => do
        return ⟨some (.ofList (← part piece 0 size)), none, none, ← limitFrom piece (size + 1)⟩
      | some (size, _, rest) => do
        parseBrackets piece (some (.ofList (← part piece 0 size))) (size + 1) rest

/-- Whether the directive decides about entries wherever they are written. One that asks for
a span or for the value of a field decides only inside spans, and the program has none. -/
def isGeneral (d : Directive) : Bool :=
  d.span.isNone && d.field.all (·.pattern.isNone)

/-- Whether the directive is about an entry. -/
def covers (d : Directive) (e : Entry) : Bool :=
  d.isGeneral && (d.source.all fun start => start.toList.isPrefixOf e.source.toList)
    && d.field.all fun f => e.fieldNames.contains f.name

/-- How closely the directive names the parts that it is about. -/
def precision (d : Directive) : Nat :=
  (d.source.map fun start => start.utf8ByteSize + 1).getD 0

/-- Whether the directive gives way to a later or an earlier one about the same entry: to
one that names the part of the program more closely, and else to one that asks for a field,
or for one that comes later in the alphabet, as long as it asks for one at all. -/
def givesWay (d other : Directive) : Bool :=
  if d.precision = other.precision then
    match d.field, other.field with
    | none, _ => true
    | some _, none => false
    | some f, some g => f.name ≤ g.name
  else d.precision < other.precision

end Directive

end NodeWarden.Log
