import NodeWarden.Text.Digit
import NodeWarden.Text.Letter

/-!
# Patterns of values

A log directive may ask that the value of a field fits a pattern: a truth value, a number,
or else a regular expression. Only whether a pattern is well formed is of account here,
since what fits it matters inside spans alone. A pattern never holds a closing brace, so
that no repetition can be counted and no character named between braces.
-/

namespace NodeWarden.Log

/-- Why a pattern is refused. -/
inductive PatternFault where
  | malformed
  /-- It asks for the end of a word of any script. -/
  | wordBoundary
deriving Repr, DecidableEq

namespace PatternFault

def message : PatternFault → String
  | malformed => "error building NFA"
  | wordBoundary =>
    "unsupported regex feature for DFAs: cannot build DFAs for regexes with Unicode word "
      ++ "boundaries; switch to ASCII word boundaries, or heuristically enable Unicode word "
      ++ "boundaries or use a different regex engine"

end PatternFault

namespace Pattern

/-! ## Numbers -/

/-- Whether characters are a decimal number without a sign. -/
def isUnsignedNumber (cs : List Char) : Bool :=
  let whole := cs.takeWhile Char.isDigit
  let rest := cs.drop whole.length
  let (fraction, rest) :=
    match rest with
    | '.' :: rest => (rest.takeWhile Char.isDigit, rest.dropWhile Char.isDigit)
    | rest => ([], rest)
  let exponent (cs : List Char) : Bool :=
    let digits := if cs.head?.any (fun c => c == '+' || c == '-') then cs.drop 1 else cs
    !digits.isEmpty && digits.all Char.isDigit
  !(whole.isEmpty && fraction.isEmpty)
    && match rest with
      | [] => true
      | c :: rest => (c == 'e' || c == 'E') && exponent rest

/-- Whether characters are a number with a plus sign, which no other pattern begins with. -/
def isPlusNumber : List Char → Bool
  | '+' :: cs =>
    isUnsignedNumber cs
      || [['i', 'n', 'f'], ['i', 'n', 'f', 'i', 'n', 'i', 't', 'y'], ['n', 'a', 'n']].contains
        (cs.map Char.toLower)
  | _ => false

/-! ## Parts of expressions -/

/-- What follows a number of hexadecimal digits. -/
def afterHex (count : Nat) (cs : List Char) : Except PatternFault (List Char) :=
  let digits := cs.take count
  match Text.number? 16 digits with
  | some n => if digits.length = count ∧ n.isValidChar then .ok (cs.drop count)
      else .error .malformed
  | none => .error .malformed

/-- What follows the backslash of an escape and its letter, and whether the escape stands for one
character. -/
def afterEscape (inClass : Bool) : List Char → Except PatternFault (Bool × List Char)
  | [] => .error .malformed
  | 'x' :: cs => do return (true, ← afterHex 2 cs)
  | 'u' :: cs => do return (true, ← afterHex 4 cs)
  | 'U' :: cs => do return (true, ← afterHex 8 cs)
  | c :: cs =>
    if ['a', 'f', 't', 'n', 'r', 'v'].contains c then .ok (true, cs)
    else if ['d', 's', 'w', 'D', 'S', 'W'].contains c then .ok (false, cs)
    else if c = 'p' ∨ c = 'P' then
      match cs with
      | k :: cs =>
        if ['c', 'l', 'm', 'n', 'p', 's', 'z'].contains k.toLower then .ok (false, cs)
        else .error .malformed
      | [] => .error .malformed
    else if ['b', 'B', '<', '>'].contains c then
      .error (if inClass then .malformed else .wordBoundary)
    else if c = 'A' ∨ c = 'z' then (if inClass then .error .malformed else .ok (false, cs))
    else if c.isAlphanum || 0x80 ≤ c.toNat then .error .malformed
    else .ok (true, cs)

/-- What follows the name of a group and its closing sign. -/
def afterName (cs : List Char) : Except PatternFault (List Char) :=
  let name := cs.takeWhile (· != '>')
  let inside (c : Char) := c == '_' || c == '.' || c == '[' || c == ']' || Text.isAlphanumeric c
  let first (c : Char) := c == '_' || (Text.isAlphanumeric c && !Text.isDecimalDigit c)
  match cs.drop name.length with
  | _ :: rest => if name.head?.any first && name.all inside then .ok rest else .error .malformed
  | [] => .error .malformed

/-- Whether characters set and unset options, each once. -/
def areOptions (cs : List Char) : Bool :=
  cs.all (['i', 'm', 's', 'U', 'u', 'R', 'x', '-'].contains ·) && cs.eraseDups.length == cs.length
    && cs.getLast? != some '-'

/-- What follows the opening of a group, and whether it is one that has to be closed:
options may be set for all that follows. -/
def afterOpening : List Char → Except PatternFault (Bool × List Char)
  | '?' :: 'P' :: '<' :: cs => do return (true, ← afterName cs)
  | '?' :: '<' :: cs => do return (true, ← afterName cs)
  | '?' :: cs =>
    let options := cs.takeWhile fun c => c != ':' && c != ')'
    match cs.drop options.length with
    | ':' :: rest => if areOptions options then .ok (true, rest) else .error .malformed
    | _ :: rest =>
      if options ≠ [] ∧ areOptions options then .ok (false, rest) else .error .malformed
    | [] => .error .malformed
  | cs => .ok (true, cs)

/-- An item of a class, by the character that it is if it is one, and what follows it. -/
def classItem : List Char → Except PatternFault (Option Char × List Char)
  | [] => .error .malformed
  | '\\' :: cs => do
    let (single, rest) ← afterEscape true cs
    return (if single then cs.head? else none, rest)
  | c :: cs => .ok (some c, cs)

/-- What follows the opening of a class with the items that have no meaning of their own there. -/
def afterClassOpening (cs : List Char) : List Char :=
  let cs := if cs.head? = some '^' then cs.drop 1 else cs
  match cs with
  | '-' :: _ => cs.dropWhile (· == '-')
  | ']' :: cs => cs
  | cs => cs

/-- What follows a class of which so many levels are open, unless the fuel runs out. -/
def afterClass : Nat → Nat → List Char → Except PatternFault (List Char)
  | 0, _, _ => .error .malformed
  | fuel + 1, depth, cs =>
    match cs with
    | [] => .error .malformed
    | ']' :: cs => if depth ≤ 1 then .ok cs else afterClass fuel (depth - 1) cs
    | '[' :: cs => afterClass fuel (depth + 1) (afterClassOpening cs)
    | '&' :: '&' :: cs | '-' :: '-' :: cs | '~' :: '~' :: cs => afterClass fuel depth cs
    | cs => do
      let (low, rest) ← classItem cs
      match rest with
      | '-' :: d :: more =>
        if d = ']' ∨ d = '-' then afterClass fuel depth rest
        else
          let (high, rest) ← classItem (d :: more)
          match low, high with
          | some a, some b => if a ≤ b then afterClass fuel depth rest else .error .malformed
          | _, _ => .error .malformed
      | rest => afterClass fuel depth rest

/-! ## Expressions -/

/-- Reads an expression inside so many open groups, unless the fuel runs out. `repeatable`
says whether there is something just before that can be repeated. -/
def readExpression : Nat → Nat → Bool → List Char → Except PatternFault Unit
  | 0, _, _, _ => .error .malformed
  | fuel + 1, depth, repeatable, cs =>
    match cs with
    | [] => if depth = 0 then .ok () else .error .malformed
    | '(' :: cs => do
      let (opens, rest) ← afterOpening cs
      readExpression fuel (if opens then depth + 1 else depth) false rest
    | ')' :: cs =>
      if depth = 0 then .error .malformed else readExpression fuel (depth - 1) true cs
    | '|' :: cs => readExpression fuel depth false cs
    | '*' :: cs | '+' :: cs | '?' :: cs =>
      if repeatable then readExpression fuel depth true cs else .error .malformed
    | '\x7b' :: _ => .error .malformed
    | '[' :: cs => do
      readExpression fuel depth true (← afterClass (cs.length + 1) 1 (afterClassOpening cs))
    | '\\' :: cs => do
      let (_, rest) ← afterEscape false cs
      readExpression fuel depth true rest
    | _ :: cs => readExpression fuel depth true cs

/-- Refuses a pattern that is not well formed. Every step takes at least one character. -/
def check (cs : List Char) : Except PatternFault Unit :=
  if isPlusNumber cs then .ok () else readExpression (cs.length + 1) 0 false cs

end Pattern

end NodeWarden.Log
