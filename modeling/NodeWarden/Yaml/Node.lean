import NodeWarden.Yaml.Token

/-!
# Documents of YAML

A document as a tree of scalars, sequences and mappings. A value that is missing is an empty plain
scalar. A text holds one document at most; a text without any is a document that is missing.

How a text is read is left to a reader (`Reader`), for all of YAML is too much to be settled here.
The one below (`Node.ofText?`) reads what the tokens of this library can tell apart.
-/

namespace NodeWarden.Yaml

/-- A part of a document. -/
inductive Node where
  /-- A text, and whether it was written without quotes. -/
  | scalar (text : String) (plain : Bool)
  | sequence (items : List Node)
  /-- The entries of a mapping in the order in which they were written, keys given twice
  included. -/
  | mapping (entries : List (Node × Node))
deriving Repr, BEq

namespace Node

/-- A value that was left out. -/
def missing : Node := scalar "" true

/-- Whether the next token is one of the given ones, or there is none. -/
def atAny (stops : List Token) : List Token → Bool
  | [] => true
  | t :: _ => stops.contains t

mutual

/-- Reads a node. Block collections are refused in a flow collection. A sequence as the value of a
mapping may be at the indentation of the mapping itself and has then no start and no end of its
own. -/
def read (fuel : Nat) (block indentless : Bool) : List Token → Option (Node × List Token) :=
  match fuel with
  | 0 => fun _ => none
  | fuel + 1 => fun
    | .scalar text plain :: ts => some (scalar text plain, ts)
    | .flowSequenceStart :: ts => do
      let (items, ts) ← readFlowItems fuel true ts
      return (sequence items, ts)
    | .flowMappingStart :: ts => do
      let (entries, ts) ← readFlowEntries fuel true ts
      return (mapping entries, ts)
    | .blockSequenceStart :: ts =>
      if block then do
        let (items, ts) ← readItems fuel ts
        return (sequence items, ts)
      else none
    | .blockMappingStart :: ts =>
      if block then do
        let (entries, ts) ← readEntries fuel ts
        return (mapping entries, ts)
      else none
    | .blockEntry :: ts =>
      if indentless then do
        let (items, ts) ← readIndentless fuel (.blockEntry :: ts)
        return (sequence items, ts)
      else none
    | _ => none

/-- Reads a node, or nothing if the next token is one of the given ones. -/
def readUnless (fuel : Nat) (block indentless : Bool) (stops : List Token) (ts : List Token) :
    Option (Node × List Token) :=
  match fuel with
  | 0 => none
  | fuel + 1 => if atAny stops ts then some (missing, ts) else read fuel block indentless ts

/-- Reads the items of a block sequence and its end. -/
def readItems (fuel : Nat) : List Token → Option (List Node × List Token) :=
  match fuel with
  | 0 => fun _ => none
  | fuel + 1 => fun
    | .blockEnd :: ts => some ([], ts)
    | .blockEntry :: ts => do
      let (item, ts) ← readUnless fuel true false [.blockEntry, .blockEnd] ts
      let (items, ts) ← readItems fuel ts
      return (item :: items, ts)
    | _ => none

/-- Reads the items of a sequence that ends where no further item begins. -/
def readIndentless (fuel : Nat) : List Token → Option (List Node × List Token) :=
  match fuel with
  | 0 => fun _ => none
  | fuel + 1 => fun
    | .blockEntry :: ts => do
      let (item, ts) ← readUnless fuel true false [.blockEntry, .key, .value, .blockEnd] ts
      let (items, ts) ← readIndentless fuel ts
      return (item :: items, ts)
    | ts => some ([], ts)

/-- Reads the entries of a block mapping and its end. -/
def readEntries (fuel : Nat) : List Token → Option (List (Node × Node) × List Token) :=
  match fuel with
  | 0 => fun _ => none
  | fuel + 1 => fun
    | .blockEnd :: ts => some ([], ts)
    | .key :: ts => do
      let (key, ts) ← readUnless fuel true true [.key, .value, .blockEnd] ts
      let (value, ts) ← readValue fuel true [.key, .value, .blockEnd] ts
      let (entries, ts) ← readEntries fuel ts
      return ((key, value) :: entries, ts)
    | _ => none

/-- Reads the value after a key, if there is one. -/
def readValue (fuel : Nat) (block : Bool) (stops : List Token) :
    List Token → Option (Node × List Token) :=
  match fuel with
  | 0 => fun _ => none
  | fuel + 1 => fun
    | .value :: ts => readUnless fuel block block stops ts
    | ts => some (missing, ts)

/-- Reads the items of a flow sequence and its end. A key makes an item a mapping of one entry. -/
def readFlowItems (fuel : Nat) (first : Bool) : List Token → Option (List Node × List Token) :=
  match fuel with
  | 0 => fun _ => none
  | fuel + 1 => fun
    | .flowSequenceEnd :: ts => some ([], ts)
    | ts => do
      match ← (if first then some ts else afterComma ts) with
      | .flowSequenceEnd :: ts => return ([], ts)
      | .key :: ts =>
        let (key, ts) ← readItemKey fuel ts
        let (value, ts) ← readValue fuel false [.flowEntry, .flowSequenceEnd] ts
        let (items, ts) ← readFlowItems fuel false ts
        return (mapping [(key, value)] :: items, ts)
      | ts =>
        let (item, ts) ← read fuel false false ts
        let (items, ts) ← readFlowItems fuel false ts
        return (item :: items, ts)

/-- Reads the key of an item of a flow sequence. If it is left out the token in its place is
lost. -/
def readItemKey (fuel : Nat) (ts : List Token) : Option (Node × List Token) :=
  match fuel with
  | 0 => none
  | fuel + 1 =>
    if atAny [.value, .flowEntry, .flowSequenceEnd] ts then some (missing, ts.drop 1)
    else read fuel false false ts

/-- Reads the entries of a flow mapping and its end. A node that is not marked as a key is a key
without a value. -/
def readFlowEntries (fuel : Nat) (first : Bool) :
    List Token → Option (List (Node × Node) × List Token) :=
  match fuel with
  | 0 => fun _ => none
  | fuel + 1 => fun
    | .flowMappingEnd :: ts => some ([], ts)
    | ts => do
      match ← (if first then some ts else afterComma ts) with
      | .flowMappingEnd :: ts => return ([], ts)
      | .key :: ts =>
        let (key, ts) ← readUnless fuel false false [.value, .flowEntry, .flowMappingEnd] ts
        let (value, ts) ← readValue fuel false [.flowEntry, .flowMappingEnd] ts
        let (entries, ts) ← readFlowEntries fuel false ts
        return ((key, value) :: entries, ts)
      | ts =>
        let (key, ts) ← read fuel false false ts
        let (entries, ts) ← readFlowEntries fuel false ts
        return ((key, missing) :: entries, ts)

/-- The tokens after the comma that has to come next. -/
def afterComma : List Token → Option (List Token)
  | .flowEntry :: ts => some ts
  | _ => none

end

/-- The document that tokens write. Each function above is called at most four times for a token. -/
def ofTokens? (tokens : List Token) : Option Node := do
  let fuel := 4 * tokens.length + 4
  let (node, rest) ←
    match tokens with
    | [] => some (missing, [])
    | .documentStart :: ts => readUnless fuel true false [.documentStart, .documentEnd] ts
    | ts => read fuel true false ts
  if rest.all (· == .documentEnd) then some node else none

/-- Reads a document without anchors, tags, directives and scalars in blocks. Others are refused. -/
def ofText? (text : String) : Option Node := do
  ofTokens? (← Token.ofText? text)

end Node

/-- A way to read documents: the document that a text holds, if it holds one. -/
abbrev Reader := String → Option Node

end NodeWarden.Yaml
