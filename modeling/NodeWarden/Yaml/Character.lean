/-!
# Characters of YAML

Which characters a document may hold, which of them end a line, and the marks between documents.
Line breaks are unified first: whatever ends a line is then a line feed, the two separators of
Unicode aside, which stay as they are.
-/

namespace NodeWarden.Yaml

/-- The mark of byte order, which may open a line. -/
def byteOrderMark : Char := '\ufeff'

/-- Whether a document may hold the character. -/
def isPrintable (c : Char) : Bool :=
  let n := c.toNat
  n == 0x09 || n == 0x0a || n == 0x0d || (0x20 ≤ n && n ≤ 0x7e) || n == 0x85
    || (0xa0 ≤ n && n ≤ 0xd7ff) || (0xe000 ≤ n && n ≤ 0xfffd) || 0x10000 ≤ n

/-- The document with a line feed for each carriage return, next line, or pair of carriage return
and line feed. -/
def unifyBreaks : List Char → List Char
  | '\r' :: '\n' :: cs => '\n' :: unifyBreaks cs
  | '\r' :: cs => '\n' :: unifyBreaks cs
  | '\x85' :: cs => '\n' :: unifyBreaks cs
  | c :: cs => c :: unifyBreaks cs
  | [] => []

/-- Whether the character ends a line, line breaks being unified. -/
def isBreak (c : Char) : Bool := c == '\n' || c == '\u2028' || c == '\u2029'

/-- A space or a tab. -/
def isSpace (c : Char) : Bool := c == ' ' || c == '\t'

/-- Whether a word ends here: at a space, a line break or the end of the document. -/
def endsWord : List Char → Bool
  | [] => true
  | c :: _ => isSpace c || isBreak c

/-- Whether the characters open with a mark that separates documents. It counts only at the start of
a line. -/
def atDocumentMark : List Char → Bool
  | '-' :: '-' :: '-' :: rest => endsWord rest
  | '.' :: '.' :: '.' :: rest => endsWord rest
  | _ => false

/-- A place in a document: the lines before it, and what of its own line is before it, in
bytes and in characters. -/
structure Mark where
  line : Nat
  bytes : Nat
  column : Nat
deriving Repr, DecidableEq

namespace Mark

/-- The place after a character that does not end a line. -/
def next (c : Char) (m : Mark) : Mark := ⟨m.line, m.bytes + c.utf8Size, m.column + 1⟩

/-- The place after a character that ends a line. -/
def nextLine (m : Mark) : Mark := ⟨m.line + 1, 0, 0⟩

end Mark

/-- A place in a document and what is left from there. -/
structure Cursor where
  mark : Mark
  rest : List Char
deriving Repr, DecidableEq

end NodeWarden.Yaml
