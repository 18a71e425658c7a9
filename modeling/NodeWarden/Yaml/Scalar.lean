import NodeWarden.Text.Digit
import NodeWarden.Yaml.Character

/-!
# Scalars

The texts of a document: plain ones, which end where the context says so, and those in single or
double quotes. Each may run over several lines, which are folded: a single line break becomes a
space, and of several the first is dropped.
-/

namespace NodeWarden.Yaml

/-- The space between two words of a scalar. -/
structure Gap where
  /-- The spaces before the first line break, in reverse. -/
  spaces : List Char
  /-- The line breaks, in reverse. -/
  breaks : List Char
  /-- Whether the line was ended by an escaped line break, which is not among the breaks. -/
  escaped : Bool

namespace Gap

def empty : Gap := ⟨[], [], false⟩

/-- Whether a line has ended in the gap. -/
def endsLine (g : Gap) : Bool := g.escaped || !g.breaks.isEmpty

/-- The gap with one more space, which counts only on its first line. -/
def addSpace (g : Gap) (c : Char) : Gap :=
  if g.endsLine then g else { g with spaces := c :: g.spaces }

def addBreak (g : Gap) (c : Char) : Gap := { g with breaks := c :: g.breaks }

/-- What stands for a gap in the text of the scalar. -/
def text (g : Gap) : List Char :=
  if g.escaped then g.breaks.reverse
  else
    match g.breaks.reverse with
    | [] => g.spaces.reverse
    | ['\n'] => [' ']
    | '\n' :: others => others
    | others => others

end Gap

/-- A scalar that was read: its text, whether a line ended after its last word, and the place after
it. -/
structure ScalarRead where
  text : String
  endsLine : Bool
  after : Cursor

/-! ## Plain scalars -/

/-- Whether a character structures a flow collection. -/
def isFlowIndicator (c : Char) : Bool :=
  c == ',' || c == '[' || c == ']' || c == '{' || c == '}'

/-- Whether a plain scalar in a flow collection breaks off in an error: at a colon that directly
precedes an indicator. -/
def colonMisplaced (c : Char) (rest : List Char) : Bool :=
  c == ':' && rest.head?.any fun d => isFlowIndicator d || d == '?'

/-- Whether a plain scalar ends before a character. -/
def endsPlain (inFlow : Bool) (c : Char) (rest : List Char) : Bool :=
  (c == ':' && endsWord rest) || (inFlow && isFlowIndicator c)

/-- Whether a plain scalar ends before a character that follows a gap: where the indentation is too
small, at a mark between documents and at a comment. -/
def endsPlainAfterGap (inFlow : Bool) (indent : Nat) (m : Mark) (c : Char) (rest : List Char) :
    Bool :=
  (!inFlow && m.column < indent) || (m.column == 0 && atDocumentMark (c :: rest)) || c == '#'

/-- Reads a plain scalar. The text so far is in reverse; the gap is the one since its last word, if
the place is not inside a word. -/
def plainFrom (inFlow : Bool) (indent : Nat) :
    List Char → Option Gap → Mark → List Char → Option ScalarRead
  | text, gap, m, [] => some ⟨.ofList text.reverse, gap.any Gap.endsLine, m, []⟩
  | text, gap, m, c :: cs =>
    let g := gap.getD .empty
    if isBreak c then plainFrom inFlow indent text (some (g.addBreak c)) m.nextLine cs
    else if isSpace c then
      if c == '\t' && g.endsLine && m.column < indent then none
      else plainFrom inFlow indent text (some (g.addSpace c)) (m.next c) cs
    else if gap.isSome && endsPlainAfterGap inFlow indent m c cs then
      some ⟨.ofList text.reverse, g.endsLine, m, c :: cs⟩
    else if inFlow && colonMisplaced c cs then none
    else if endsPlain inFlow c cs then some ⟨.ofList text.reverse, g.endsLine, m, c :: cs⟩
    else plainFrom inFlow indent (c :: (g.text.reverse ++ text)) none (m.next c) cs

/-- Reads a plain scalar whose further lines have to be indented by the given number of columns. -/
def plainScalar (inFlow : Bool) (indent : Nat) (c : Cursor) : Option ScalarRead :=
  plainFrom inFlow indent [] none c.mark c.rest

/-! ## Quoted scalars -/

/-- The character that an escape of one letter stands for. -/
def escaped? : Char → Option Char
  | '0' => some '\x00'
  | 'a' => some '\x07'
  | 'b' => some '\x08'
  | 't' | '\t' => some '\t'
  | 'n' => some '\n'
  | 'v' => some '\x0b'
  | 'f' => some '\x0c'
  | 'r' => some '\r'
  | 'e' => some '\x1b'
  | ' ' => some ' '
  | '"' => some '"'
  | '/' => some '/'
  | '\\' => some '\\'
  | 'N' => some '\x85'
  | '_' => some '\xa0'
  | 'L' => some '\u2028'
  | 'P' => some '\u2029'
  | _ => none

/-- The number of hexadecimal digits of an escape by code point. -/
def codeLength? : Char → Option Nat
  | 'x' => some 2
  | 'u' => some 4
  | 'U' => some 8
  | _ => none

/-- The character with a code point, unless there is none. -/
def codePoint? (n : Nat) : Option Char :=
  if n.isValidChar then some (Char.ofNat n) else none

/-- Where a reader of a quoted scalar stands. -/
inductive QuotedPlace where
  | word
  | gap (g : Gap)
  /-- After the backslash of an escape. -/
  | escape
  /-- Inside an escape by code point, of which so many digits are to come. -/
  | code (digits value : Nat)

namespace QuotedPlace

/-- The gap that the place is in or at the end of. -/
def gapBefore : QuotedPlace → Option Gap
  | gap g => some g
  | _ => none

end QuotedPlace

/-- Reads a scalar between quotes, single or double, from after its first quote. The text so far is
in reverse. -/
def quotedFrom (single : Bool) :
    List Char → QuotedPlace → Mark → List Char → Option ScalarRead
  | _, _, _, [] => none
  | text, .code n value, m, c :: cs => do
    let value := value * 16 + (← Text.hexValue? c)
    if n ≤ 1 then quotedFrom single ((← codePoint? value) :: text) .word (m.next c) cs
    else quotedFrom single text (.code (n - 1) value) (m.next c) cs
  | text, .escape, m, c :: cs =>
    if isBreak c then quotedFrom single text (.gap ⟨[], [], true⟩) m.nextLine cs
    else
      match codeLength? c with
      | some n => quotedFrom single text (.code n 0) (m.next c) cs
      | none => do quotedFrom single ((← escaped? c) :: text) .word (m.next c) cs
  | text, place, m, c :: cs =>
    let g := place.gapBefore.getD .empty
    let joined := g.text.reverse ++ text
    if isBreak c then quotedFrom single text (.gap (g.addBreak c)) m.nextLine cs
    else if isSpace c then quotedFrom single text (.gap (g.addSpace c)) (m.next c) cs
    else if m.column == 0 && atDocumentMark (c :: cs) then none
    else if single then
      match c, cs with
      | '\x27', '\x27' :: cs => quotedFrom single ('\x27' :: joined) .word ((m.next c).next c) cs
      | '\x27', cs => some ⟨.ofList joined.reverse, false, m.next c, cs⟩
      | c, cs => quotedFrom single (c :: joined) .word (m.next c) cs
    else if c == '"' then some ⟨.ofList joined.reverse, false, m.next c, cs⟩
    else if c == '\\' then quotedFrom single joined .escape (m.next c) cs
    else quotedFrom single (c :: joined) .word (m.next c) cs

/-- Reads a scalar between quotes, from its first quote on. -/
def quotedScalar (single : Bool) (c : Cursor) : Option ScalarRead :=
  match c.rest with
  | quote :: cs => quotedFrom single [] .word (c.mark.next quote) cs
  | [] => none

end NodeWarden.Yaml
