import NodeWarden.Yaml.Scalar

/-!
# Tokens of YAML

A document as a sequence of tokens. Indentation is turned into tokens that open and close block
collections. Whether a token is the key of a mapping shows only at the colon after it, so the place
before a token that may be one is remembered until then; such a key is on one line and takes at most
1024 bytes of it.

These are the tokens of a part of YAML: collections of both kinds, scalars on lines and in quotes,
comments, and the marks between documents. Texts with anchors, tags, directives or scalars in blocks
are beyond it and have none.
-/

namespace NodeWarden.Yaml

/-- A token. -/
inductive Token where
  | documentStart
  | documentEnd
  | blockSequenceStart
  | blockMappingStart
  | blockEnd
  | flowSequenceStart
  | flowSequenceEnd
  | flowMappingStart
  | flowMappingEnd
  | blockEntry
  | flowEntry
  | key
  | value
  | scalar (text : String) (plain : Bool)
deriving Repr, DecidableEq

/-- A place before which the token of a key may belong. -/
structure KeyPlace where
  /-- The number of tokens before it. -/
  position : Nat
  mark : Mark
  /-- Whether there has to be a key, because a block mapping goes on here. -/
  required : Bool
deriving Repr, DecidableEq

/-- A lexer in the middle of its work. -/
structure Lexer where
  cursor : Cursor
  /-- The columns of the open block collections, the innermost first. -/
  indents : List Nat
  /-- Whether a key may begin here. -/
  keyAllowed : Bool
  /-- The possible place of a key in the innermost collection. -/
  keyPlace : Option KeyPlace
  /-- The possible places of keys around the open flow collections, the innermost first. -/
  outerPlaces : List (Option KeyPlace)
  /-- The tokens so far, the last one first. -/
  tokens : List Token
deriving Repr

namespace Lexer

def start (text : List Char) : Lexer where
  cursor := ⟨⟨0, 0, 0⟩, text⟩
  indents := []
  keyAllowed := true
  keyPlace := none
  outerPlaces := []
  tokens := []

def inFlow (l : Lexer) : Bool := !l.outerPlaces.isEmpty

def column (l : Lexer) : Nat := l.cursor.mark.column

def push (t : Token) (l : Lexer) : Lexer := { l with tokens := t :: l.tokens }

/-- Steps over a number of characters that do not end a line. -/
def skip : Nat → Lexer → Lexer
  | 0, l => l
  | n + 1, l =>
    match l.cursor.rest with
    | c :: cs => skip n { l with cursor := ⟨l.cursor.mark.next c, cs⟩ }
    | [] => l

/-! ## Between tokens -/

/-- Steps over spaces, comments, line breaks, and the marks of byte order at the start of a line.
Outside of flow collections a new line allows a key, and a tab is no space where a key may begin. -/
def skipSpace (inFlow : Bool) : (comment keyAllowed : Bool) → Mark → List Char → Cursor × Bool
  | _, keyAllowed, m, [] => (⟨m, []⟩, keyAllowed)
  | comment, keyAllowed, m, c :: cs =>
    if isBreak c then skipSpace inFlow false (keyAllowed || !inFlow) m.nextLine cs
    else if comment || c == '#' then skipSpace inFlow true keyAllowed (m.next c) cs
    else if c == ' ' || (c == '\t' && (inFlow || !keyAllowed)) then
      skipSpace inFlow false keyAllowed (m.next c) cs
    else if c == byteOrderMark && m.column == 0 then skipSpace inFlow false keyAllowed (m.next c) cs
    else (⟨m, c :: cs⟩, keyAllowed)

/-- Whether a key that was to begin at a place can no longer do so. -/
def isStale (m : Mark) (k : KeyPlace) : Bool :=
  k.mark.line < m.line || k.mark.bytes + 1024 < m.bytes

/-- Gives up a place where a key could have been, unless one has to be there. -/
def giveUp : Option KeyPlace → Option (Option KeyPlace)
  | some k => if k.required then none else some none
  | none => some none

/-- Gives up a place that is stale. -/
def giveUpStale (m : Mark) (k : Option KeyPlace) : Option (Option KeyPlace) :=
  if k.any (isStale m) then giveUp k else some k

/-- Gives up all places that are stale. -/
def dropStale (l : Lexer) : Option Lexer := do
  let m := l.cursor.mark
  return { l with
    keyPlace := ← giveUpStale m l.keyPlace
    outerPlaces := ← l.outerPlaces.mapM (giveUpStale m) }

/-- Gives up the place of the innermost collection. -/
def dropKey (l : Lexer) : Option Lexer := do
  return { l with keyPlace := ← giveUp l.keyPlace }

/-- Closes the block collections at columns that satisfy a condition, from the innermost on. -/
def closeBlocks (ends : Nat → Bool) (l : Lexer) : Lexer :=
  let closed := l.indents.takeWhile ends
  { l with
    indents := l.indents.drop closed.length
    tokens := closed.map (fun _ => Token.blockEnd) ++ l.tokens }

/-- Closes the block collections that a smaller indentation ends. -/
def unroll (l : Lexer) : Lexer :=
  if l.inFlow then l else l.closeBlocks (l.column < ·)

/-- Closes all block collections. -/
def unrollAll (l : Lexer) : Lexer :=
  if l.inFlow then l else l.closeBlocks fun _ => true

/-- Inserts tokens, given in reverse, after the given number of tokens. -/
def insert (position : Nat) (ts : List Token) (l : Lexer) : Lexer :=
  let later := l.tokens.length - position
  { l with tokens := l.tokens.take later ++ ts ++ l.tokens.drop later }

/-- Opens a block collection at a column, unless the innermost is as far to the right. -/
def roll (column position : Nat) (t : Token) (l : Lexer) : Lexer :=
  if l.inFlow || l.indents.head?.any (column ≤ ·) then l
  else { l.insert position [t] with indents := column :: l.indents }

/-- Opens a block collection here. -/
def rollHere (t : Token) (l : Lexer) : Lexer :=
  l.roll l.column l.tokens.length t

/-- Remembers the place if a key may begin here. -/
def saveKey (l : Lexer) : Option Lexer :=
  if l.keyAllowed then do
    let required := !l.inFlow && l.indents.head? == some l.column
    let l ← l.dropKey
    return { l with keyPlace := some ⟨l.tokens.length, l.cursor.mark, required⟩ }
  else some l

/-! ## Tokens -/

/-- A mark between documents. -/
def documentMark (t : Token) (l : Lexer) : Option Lexer := do
  let l ← l.unrollAll.dropKey
  return ({ l with keyAllowed := false }.skip 3).push t

/-- The start of a flow collection. -/
def openFlow (t : Token) (l : Lexer) : Option Lexer := do
  let l ← l.saveKey
  let l := l.push t
  let outerPlaces := l.keyPlace :: l.outerPlaces
  return { l with keyPlace := none, outerPlaces, keyAllowed := true }.skip 1

/-- The end of a flow collection. -/
def closeFlow (t : Token) (l : Lexer) : Option Lexer := do
  let l ← l.dropKey
  let l :=
    match l.outerPlaces with
    | k :: ks => { l with keyPlace := k, outerPlaces := ks }
    | [] => l
  return ({ l with keyAllowed := false }.skip 1).push t

/-- The comma between the entries of a flow collection. -/
def flowEntry (l : Lexer) : Option Lexer := do
  let l ← l.dropKey
  return ({ l with keyAllowed := true }.skip 1).push .flowEntry

/-- The hyphen before an entry of a block sequence. -/
def blockEntry (l : Lexer) : Option Lexer := do
  if !l.inFlow && !l.keyAllowed then none
  else
    let l ← (l.rollHere .blockSequenceStart).dropKey
    return ({ l with keyAllowed := true }.skip 1).push .blockEntry

/-- The question mark before a key that is not marked by its colon alone. -/
def explicitKey (l : Lexer) : Option Lexer := do
  if !l.inFlow && !l.keyAllowed then none
  else
    let l ← (l.rollHere .blockMappingStart).dropKey
    return ({ l with keyAllowed := !l.inFlow }.skip 1).push .key

/-- The colon before a value. If a key may be at a remembered place it is there. -/
def value (l : Lexer) : Option Lexer :=
  match l.keyPlace with
  | some k =>
    let l := (l.insert k.position [.key]).roll k.mark.column k.position .blockMappingStart
    some (({ l with keyPlace := none, keyAllowed := false }.skip 1).push .value)
  | none =>
    if !l.inFlow && !l.keyAllowed then none
    else
      let l := l.rollHere .blockMappingStart
      some (({ l with keyAllowed := !l.inFlow }.skip 1).push .value)

/-- A scalar. If it ended a line, a key may begin after it. -/
def scalar (plain : Bool) (read : Cursor → Option ScalarRead) (l : Lexer) : Option Lexer := do
  let l ← l.saveKey
  let s ← read l.cursor
  return { l with cursor := s.after, keyAllowed := s.endsLine }.push (.scalar s.text plain)

/-- The number of columns by which further lines of a plain scalar are indented. -/
def plainIndent (l : Lexer) : Nat :=
  match l.indents with
  | c :: _ => c + 1
  | [] => 0

/-- The characters that no plain scalar begins with. -/
def reservedIndicators : List Char :=
  [',', '[', ']', '{', '}', '#', '&', '*', '!', '|', '>', '%', '@', '"', '\x27', '\x60']

/-- Whether a plain scalar can begin with a character. -/
def startsPlain (inFlow : Bool) (c : Char) (rest : List Char) : Bool :=
  if c == '-' then !rest.head?.any isSpace
  else if c == '?' || c == ':' then !inFlow && !endsWord rest
  else !(isSpace c || reservedIndicators.contains c)

/-- The token at the cursor, which is at no space. -/
def token (l : Lexer) : Option Lexer :=
  match l.cursor.rest with
  | [] => none
  | c :: cs =>
    if l.column == 0 && atDocumentMark (c :: cs) then
      l.documentMark (if c == '-' then .documentStart else .documentEnd)
    else if c == '[' then l.openFlow .flowSequenceStart
    else if c == '{' then l.openFlow .flowMappingStart
    else if c == ']' then l.closeFlow .flowSequenceEnd
    else if c == '}' then l.closeFlow .flowMappingEnd
    else if c == ',' then l.flowEntry
    else if c == '-' && endsWord cs then l.blockEntry
    else if c == '?' && (l.inFlow || endsWord cs) then l.explicitKey
    else if c == ':' && (l.inFlow || endsWord cs) then l.value
    else if c == '\x27' then l.scalar false (quotedScalar true)
    else if c == '"' then l.scalar false (quotedScalar false)
    else if startsPlain l.inFlow c cs then l.scalar true (plainScalar l.inFlow l.plainIndent)
    else none

/-- Goes to the next token, and closes what ends before it. -/
def advance (l : Lexer) : Option Lexer := do
  let (cursor, keyAllowed) :=
    skipSpace l.inFlow false l.keyAllowed l.cursor.mark l.cursor.rest
  let l ← { l with cursor := cursor, keyAllowed := keyAllowed }.dropStale
  return l.unroll

/-- Closes what is open at the end of the document. -/
def finish (l : Lexer) : Option Lexer :=
  l.unrollAll.dropKey

/-- Reads tokens up to the end of the document, but no more than the given number. -/
def run : Nat → Lexer → Option Lexer
  | 0, _ => none
  | n + 1, l => do
    let l ← l.advance
    if l.cursor.rest.isEmpty then l.finish
    else run n (← l.token)

end Lexer

/-- The tokens of a text. Each takes at least one character. -/
def Token.ofText? (text : String) : Option (List Token) := do
  if text.toList.all isPrintable then
    let cs := unifyBreaks text.toList
    let l ← (Lexer.start cs).run (cs.length + 1)
    return l.tokens.reverse
  else none

end NodeWarden.Yaml
