import NodeWarden.Json.Basic
import NodeWarden.Text.Digit

/-!
# Reading JSON

A text is cut into tokens, and the tokens drive a machine that keeps a stack of the arrays and
objects that are still open. Both run over their input once, one element at a time.
-/

namespace NodeWarden.Json

/-! ## Tokens -/

/-- A word of JSON. -/
inductive Token where
  | openBrace | closeBrace | openBracket | closeBracket | colon | comma
  /-- A string, a number or one of the three names. -/
  | scalar (value : Json)
deriving Repr, BEq

/-- The number that four hexadecimal digits write. -/
def hexUnit? (a b c d : Char) : Option Nat :=
  Text.number? 16 [a, b, c, d]

/-- The character that a one-letter escape stands for. -/
def simpleEscape? : Char → Option Char
  | '"' => some '"'
  | '\\' => some '\\'
  | '/' => some '/'
  | 'b' => some '\x08'
  | 'f' => some '\x0c'
  | 'n' => some '\n'
  | 'r' => some '\r'
  | 't' => some '\t'
  | _ => none

/-- The character of a code point that is not a surrogate. -/
def charOf? (n : Nat) : Option Char :=
  if h : n.isValidChar then some (Char.ofNatAux n h) else none

/-- Reads the rest of a string after its opening quote: its characters, kept in reverse while
reading, and what follows the closing quote. A character beyond the basic plane is written as a
pair of escapes. -/
def lexString : List Char → List Char → Option (String × List Char)
  | acc, '"' :: rest => some (String.ofList acc.reverse, rest)
  | acc, '\\' :: 'u' :: a :: b :: c :: d :: rest => do
    let high ← hexUnit? a b c d
    if 0xd800 ≤ high ∧ high < 0xdc00 then
      match rest with
      | '\\' :: 'u' :: e :: f :: g :: h :: rest => do
        let low ← hexUnit? e f g h
        if 0xdc00 ≤ low ∧ low < 0xe000 then
          lexString ((← charOf? (0x10000 + (high - 0xd800) * 0x400 + (low - 0xdc00))) :: acc) rest
        else none
      | _ => none
    else lexString ((← charOf? high) :: acc) rest
  | acc, '\\' :: e :: rest => do lexString ((← simpleEscape? e) :: acc) rest
  | acc, c :: rest => if c.toNat < 0x20 then none else lexString (c :: acc) rest
  | _, [] => none

/-- Whether a text is one or more ASCII digits. -/
def isDigits (cs : List Char) : Bool :=
  !cs.isEmpty && cs.all Char.isDigit

/-- Whether digits are a whole part: without a zero in front of others. -/
def isWhole (cs : List Char) : Bool :=
  isDigits cs && (cs.length == 1 || cs.head? != some '0')

/-- Whether the end of a number, from its exponent on, is well formed. -/
def isExponent : List Char → Bool
  | [] => true
  | e :: '+' :: ds => (e == 'e' || e == 'E') && isDigits ds
  | e :: '-' :: ds => (e == 'e' || e == 'E') && isDigits ds
  | e :: ds => (e == 'e' || e == 'E') && isDigits ds

/-- The number that a maximal run of number characters writes. -/
def number? (cs : List Char) : Option Json :=
  let (negative, body) := match cs with
    | '-' :: r => (true, r)
    | r => (false, r)
  let whole := body.takeWhile Char.isDigit
  let rest := body.dropWhile Char.isDigit
  if !isWhole whole then none
  else match rest with
    | [] =>
      let n := (Text.number? 10 whole).getD 0
      if negative then (if n == 0 then some (real "-0") else some (int (-n))) else some (int n)
    | '.' :: r =>
      let fraction := r.takeWhile Char.isDigit
      if isDigits fraction && isExponent (r.dropWhile Char.isDigit) then
        some (real (String.ofList cs))
      else none
    | _ => if isExponent rest then some (real (String.ofList cs)) else none

/-- A character that can stand in a number. -/
def isNumberChar (c : Char) : Bool :=
  c.isDigit || c == '-' || c == '+' || c == '.' || c == 'e' || c == 'E'

/-- What a lexer does with the characters of an unfinished number or name. -/
def word? (cs : List Char) : Option Json :=
  match cs with
  | ['n', 'u', 'l', 'l'] => some null
  | ['t', 'r', 'u', 'e'] => some (bool true)
  | ['f', 'a', 'l', 's', 'e'] => some (bool false)
  | _ => if cs.all isNumberChar then number? cs else none

/-- A character of a number or a name. -/
def isWordChar (c : Char) : Bool :=
  isNumberChar c || c.isAlpha

/-- The token of a punctuation character. -/
def punctuation? : Char → Option Token
  | '\x7b' => some .openBrace
  | '\x7d' => some .closeBrace
  | '[' => some .openBracket
  | ']' => some .closeBracket
  | ':' => some .colon
  | ',' => some .comma
  | _ => none

def isSpace (c : Char) : Bool :=
  c == ' ' || c == '\n' || c == '\r' || c == '\t'

/-- The tokens of a text, if it is made of tokens and blanks. The fuel bounds their number. -/
def lex : Nat → List Char → Option (List Token)
  | 0, cs => if cs.all isSpace then some [] else none
  | fuel + 1, cs =>
    match cs.dropWhile isSpace with
    | [] => some []
    | '"' :: rest => do
      let (s, rest) ← lexString [] rest
      return .scalar (str s) :: (← lex fuel rest)
    | c :: rest =>
      match punctuation? c with
      | some t => do return t :: (← lex fuel rest)
      | none => do
        let word ← word? ((c :: rest).takeWhile isWordChar)
        return .scalar word :: (← lex fuel ((c :: rest).dropWhile isWordChar))

/-! ## Values -/

/-- An array or object that is still open, its members in reverse. -/
inductive Frame where
  | array (items : List Json)
  /-- An object whose field `key` waits for its value. -/
  | object (fields : List (String × Json)) (key : String)

/-- What may come next. -/
inductive Awaiting where
  | value
  /-- A first item or the end of an array. -/
  | firstItem
  /-- A first key or the end of an object. -/
  | firstKey
  | key (fields : List (String × Json))
  | colon (fields : List (String × Json)) (key : String)
  /-- A comma or the end of an array. -/
  | afterItem (items : List Json)
  /-- A comma or the end of an object. -/
  | afterField (fields : List (String × Json))
  /-- Nothing: the value is complete. -/
  | nothing (value : Json)

/-- Puts a complete value where it belongs. -/
def supply (v : Json) : List Frame → List Frame × Awaiting
  | [] => ([], .nothing v)
  | .array items :: stack => (stack, .afterItem (v :: items))
  | .object fields key :: stack => (stack, .afterField ((key, v) :: fields))

/-- Starts the value that a token begins. -/
def begin? (stack : List Frame) : Token → Option (List Frame × Awaiting)
  | .scalar v => some (supply v stack)
  | .openBracket => some (stack, .firstItem)
  | .openBrace => some (stack, .firstKey)
  | _ => none

/-- One step of the machine. -/
def step (stack : List Frame) : Awaiting → Token → Option (List Frame × Awaiting)
  | .value, t => begin? stack t
  | .firstItem, .closeBracket => some (supply (arr []) stack)
  | .firstItem, t => begin? (.array [] :: stack) t
  | .afterItem items, .comma => some (.array items :: stack, .value)
  | .afterItem items, .closeBracket => some (supply (arr items.reverse) stack)
  | .firstKey, .closeBrace => some (supply (obj []) stack)
  | .firstKey, .scalar (str k) => some (stack, .colon [] k)
  | .key fields, .scalar (str k) => some (stack, .colon fields k)
  | .colon fields k, .colon => some (.object fields k :: stack, .value)
  | .afterField fields, .comma => some (stack, .key fields)
  | .afterField fields, .closeBrace => some (supply (obj fields.reverse) stack)
  | _, _ => none

/-- Runs the machine to the end of the tokens. -/
def run : List Frame → Awaiting → List Token → Option Json
  | [], .nothing v, [] => some v
  | _, _, [] => none
  | stack, state, t :: ts => do
    let (stack, state) ← step stack state t
    run stack state ts

/-- Reads a JSON text. -/
def parse? (s : String) : Option Json := do
  run [] .value (← lex (s.length + 1) s.toList)

end NodeWarden.Json
