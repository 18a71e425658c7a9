import Mathlib.Data.List.TakeWhile
import NodeWarden.Json.Parser

/-!
# Written JSON is read back

A value is written without blanks and read back as the same value (`parse?_compact`). The
reader cuts the text into tokens first, so the law has two halves: the text of a value is
cut into the tokens of the value (`compact_lexes`), and the tokens of a value drive the
machine from where a value is awaited to where that value has been supplied (`run_tokens`).
A number with a fraction or an exponent is kept as it was written, so values with such a
number are taken only if it was written as one (`Writable`). All that has been read is of
this kind (`writable_of_parse?`).
-/

namespace NodeWarden

/-! ## Digits -/

namespace Text

theorem hexValue?_digitChar {d : Nat} (h : d < 16) : hexValue? d.digitChar = some d := by
  revert d
  decide

/-- The digits of a number write the number. -/
theorem number?_toDigits {base : Nat} (low : 1 < base) (high : base ≤ 16) (n : Nat) :
    number? base (Nat.toDigits base n) = some n := by
  rw [number?, List.isEmpty_eq_false_iff.mpr Nat.toDigits_ne_nil, if_neg Bool.false_ne_true]
  induction n using Nat.strong_induction_on with
  | _ n ih =>
    by_cases small : n < base
    · simp [Nat.toDigits_of_lt_base small, hexValue?_digitChar (Nat.lt_of_lt_of_le small high),
        small]
    · -- The last digit is read onto the number that those before it are read to.
      have positive : 0 < base := by omega
      have digit : n % base < base := Nat.mod_lt n positive
      rw [Nat.toDigits_of_base_le low (Nat.not_lt.mp small), List.foldlM_append,
        ih (n / base) (Nat.div_lt_self (by omega) low)]
      simp [hexValue?_digitChar (Nat.lt_of_lt_of_le digit high), digit, Nat.div_add_mod']

end Text

/-- A number other than zero does not begin with the digit zero. -/
theorem head?_toDigits_ten {n : Nat} (positive : 0 < n) : (Nat.toDigits 10 n).head? ≠ some '0' := by
  induction n using Nat.strong_induction_on with
  | _ n ih =>
    by_cases small : n < 10
    · have nonzero : ∀ d < 10, 0 < d → [d.digitChar].head? ≠ some '0' := by decide
      rw [Nat.toDigits_of_lt_base small]
      exact nonzero n small positive
    · -- A number of several digits begins as its tenth part does.
      rw [Nat.toDigits_of_base_le (by decide) (Nat.not_lt.mp small)]
      have shorter := ih (n / 10) (Nat.div_lt_self positive (by decide)) (by omega)
      cases digits : Nat.toDigits 10 (n / 10) with
      | nil => exact absurd digits Nat.toDigits_ne_nil
      | cons d ds =>
        rw [digits] at shorter
        exact shorter

namespace Json

theorem isDigit_of_mem_toDigits {n : Nat} : ∀ c ∈ Nat.toDigits 10 n, c.isDigit = true :=
  fun _ hc => Nat.isDigit_of_mem_toDigits (by decide) (by decide) hc

theorem takeWhile_toDigits (n : Nat) :
    (Nat.toDigits 10 n).takeWhile Char.isDigit = Nat.toDigits 10 n :=
  List.takeWhile_eq_self_iff.mpr isDigit_of_mem_toDigits

theorem dropWhile_toDigits (n : Nat) : (Nat.toDigits 10 n).dropWhile Char.isDigit = [] :=
  List.dropWhile_eq_nil_iff.mpr isDigit_of_mem_toDigits

theorem isWhole_toDigits (n : Nat) : isWhole (Nat.toDigits 10 n) = true := by
  have digits : isDigits (Nat.toDigits 10 n) = true := by
    rw [isDigits, Bool.and_eq_true, Bool.not_eq_true', List.isEmpty_eq_false_iff, List.all_eq_true]
    exact ⟨Nat.toDigits_ne_nil, isDigit_of_mem_toDigits⟩
  rw [isWhole, digits, Bool.true_and, Bool.or_eq_true, beq_iff_eq, bne_iff_ne]
  rcases Nat.eq_zero_or_pos n with rfl | positive
  · exact .inl rfl
  · exact .inr (head?_toDigits_ten positive)

/-- The digits of a number are read back, with a sign in front or without. -/
theorem number?_toDigits (n : Nat) : number? (Nat.toDigits 10 n) = some (int n) := by
  have unsigned : ∀ ds, Nat.toDigits 10 n ≠ '-' :: ds := by
    intro ds h
    have digit := isDigit_of_mem_toDigits (n := n) '-' (by simp [h])
    exact absurd digit (by decide)
  unfold number?
  split
  rename_i negative body signs
  split at signs
  · rename_i ds h
    exact absurd h (unsigned ds)
  · cases signs
    simp [takeWhile_toDigits, dropWhile_toDigits, isWhole_toDigits, Text.number?_toDigits]

theorem number?_neg_toDigits {n : Nat} (positive : 0 < n) :
    number? ('-' :: Nat.toDigits 10 n) = some (int (-n)) := by
  simp [number?, takeWhile_toDigits, dropWhile_toDigits, isWhole_toDigits, Text.number?_toDigits,
    Nat.pos_iff_ne_zero.mp positive]

/-! ## Words -/

/-- A number character is not a letter of a name. -/
theorem word?_of_numberChars {cs : List Char} (h : cs.all isNumberChar = true) :
    word? cs = number? cs := by
  unfold word?
  split
  · exact absurd h (by decide)
  · exact absurd h (by decide)
  · exact absurd h (by decide)
  · rw [if_pos h]

/-- A whole number is a word that is read as this number. -/
theorem word?_int (n : Int) : word? (toString n).toList = some (int n) := by
  have digitChars : ∀ m, (Nat.toDigits 10 m).all isNumberChar = true := by
    intro m
    refine List.all_eq_true.mpr fun c hc => ?_
    simp [isNumberChar, isDigit_of_mem_toDigits c hc]
  rw [Int.toString_eq_repr, Int.repr_eq_if]
  by_cases sign : 0 ≤ n
  · rw [if_pos sign, Nat.toList_repr, word?_of_numberChars (digitChars _), number?_toDigits,
      Int.toNat_of_nonneg sign]
  · rw [if_neg sign, String.toList_append, Nat.toList_repr]
    have signed : ('-' :: Nat.toDigits 10 (-n).toNat).all isNumberChar = true := by
      rw [List.all_cons, digitChars]
      rfl
    change word? ('-' :: Nat.toDigits 10 (-n).toNat) = _
    rw [word?_of_numberChars signed, number?_neg_toDigits (by omega)]
    congr
    omega

/-- A word is made of word characters, at least one. -/
theorem wordChars_of_word? {cs : List Char} {v : Json} (h : word? cs = some v) :
    cs ≠ [] ∧ ∀ c ∈ cs, isWordChar c = true := by
  unfold word? at h
  split at h
  · exact ⟨List.cons_ne_nil _ _, List.all_eq_true.mp rfl⟩
  · exact ⟨List.cons_ne_nil _ _, List.all_eq_true.mp rfl⟩
  · exact ⟨List.cons_ne_nil _ _, List.all_eq_true.mp rfl⟩
  · split at h
    · rename_i chars
      refine ⟨?_, fun c hc => ?_⟩
      · rintro rfl
        have none : number? [] = none := by decide
        cases h.symm.trans none
      · rw [isWordChar, List.all_eq_true.mp chars c hc, Bool.true_or]
    · cases h

/-- Nothing of a word can be taken for anything else. -/
theorem wordChar_apart {c : Char} (h : isWordChar c = true) :
    isSpace c = false ∧ c ≠ '"' ∧ punctuation? c = none := by
  refine ⟨?_, ?_, ?_⟩
  · rw [Bool.eq_false_iff]
    intro space
    simp only [isSpace, Bool.or_eq_true, beq_iff_eq] at space
    rcases space with ((rfl | rfl) | rfl) | rfl <;> exact absurd h (by decide)
  · rintro rfl
    exact absurd h (by decide)
  · unfold punctuation?
    split <;> first | rfl | exact absurd h (by decide)

/-! ## Strings -/

/-- The escape of a control character has four digits, which write the character. -/
theorem escape_control {n : Nat} (control : n < 0x20) :
    List.replicate (4 - (Text.hexDigits n).length) '0' ++ Text.hexDigits n =
        ['0', '0', (n / 16).digitChar, (n % 16).digitChar] ∧
      hexUnit? '0' '0' (n / 16).digitChar (n % 16).digitChar = some n := by
  revert n
  decide

theorem charOf?_toNat (c : Char) : charOf? c.toNat = some c :=
  dif_pos c.valid

/-- An escape, or a character that needs none, is read as the character. -/
theorem lexString_escapeChar (c : Char) (acc rest : List Char) :
    lexString acc (escapeChar c ++ rest) = lexString (c :: acc) rest := by
  unfold escapeChar
  split
  · rfl
  · rfl
  · rfl
  · rfl
  · rfl
  · rfl
  · rfl
  · rename_i quote backslash _ _ _ _ _
    split
    · rename_i control
      obtain ⟨digits, number⟩ := escape_control control
      have low : ¬(0xd800 ≤ c.toNat ∧ c.toNat < 0xdc00) := by omega
      dsimp only
      rw [digits]
      simp only [List.cons_append, List.nil_append]
      rw [lexString.eq_2, number]
      simp only [Option.bind_eq_bind, Option.bind_some, low, if_false, charOf?_toNat]
    · rename_i visible
      rw [List.singleton_append, lexString.eq_4 _ _ _ quote (fun _ _ _ _ _ same _ => backslash same)
        (fun _ _ same _ => backslash same), if_neg visible]

theorem lexString_text (cs acc rest : List Char) :
    lexString acc (cs.flatMap escapeChar ++ '"' :: rest) =
      some (String.ofList (acc.reverse ++ cs), rest) := by
  induction cs generalizing acc with
  | nil => simp [lexString]
  | cons c cs ih => simp [lexString_escapeChar, ih]

/-! ## Values that can be written -/

mutual

/-- Every number with a fraction or an exponent is kept as a number is written. -/
def Writable : Json → Prop
  | real t => word? t.toList = some (real t)
  | arr items => ItemsWritable items
  | obj fields => FieldsWritable fields
  | _ => True

def ItemsWritable : List Json → Prop
  | [] => True
  | v :: vs => Writable v ∧ ItemsWritable vs

def FieldsWritable : List (String × Json) → Prop
  | [] => True
  | (_, v) :: fs => Writable v ∧ FieldsWritable fs

end

theorem itemsWritable_iff {vs : List Json} : ItemsWritable vs ↔ ∀ v ∈ vs, Writable v := by
  induction vs with
  | nil => simp [ItemsWritable]
  | cons v vs ih => simp [ItemsWritable, ih]

theorem fieldsWritable_iff {fs : List (String × Json)} :
    FieldsWritable fs ↔ ∀ f ∈ fs, Writable f.2 := by
  induction fs with
  | nil => simp [FieldsWritable]
  | cons f fs ih => simp [FieldsWritable, ih]

mutual

/-- The tokens of a value. -/
def tokens : Json → List Token
  | arr [] => [.openBracket, .closeBracket]
  | arr (v :: vs) => .openBracket :: (tokens v ++ itemTokens vs ++ [.closeBracket])
  | obj [] => [.openBrace, .closeBrace]
  | obj ((k, v) :: fs) =>
    .openBrace :: .scalar (str k) :: .colon :: (tokens v ++ fieldTokens fs ++ [.closeBrace])
  | v => [.scalar v]

/-- The tokens of the further items of an array. -/
def itemTokens : List Json → List Token
  | [] => []
  | v :: vs => .comma :: (tokens v ++ itemTokens vs)

/-- The tokens of the further fields of an object. -/
def fieldTokens : List (String × Json) → List Token
  | [] => []
  | (k, v) :: fs => .comma :: .scalar (str k) :: .colon :: (tokens v ++ fieldTokens fs)

end

/-! ## Cutting a text -/

/-- The text does not go on with a word. -/
def Bare (cs : List Char) : Prop := ∀ c ∈ cs.head?, isWordChar c = false

/-- The text is cut into the tokens, whatever follows that is no part of its last word. Each
token takes one unit of fuel, of which there is enough if there is as much as characters. -/
structure Lexes (text : List Char) (ts : List Token) : Prop where
  reads : ∀ rest, Bare rest →
    ∀ fuel, lex (ts.length + fuel) (text ++ rest) = (lex fuel rest).map (ts ++ ·)
  enough : ts.length ≤ text.length

theorem Lexes.nil : Lexes [] [] := ⟨fun rest _ fuel => by simp, Nat.le_refl _⟩

/-- One text after the other, where the first does not end in the middle of a word. -/
theorem Lexes.append {a b : List Char} {ts us : List Token} (ha : Lexes a ts) (hb : Lexes b us)
    (bare : Bare b) :
    Lexes (a ++ b) (ts ++ us) where
  reads rest hrest fuel := by
    -- What comes behind the first text is the second, or the rest if that is empty.
    have behind : Bare (b ++ rest) := by
      cases b with
      | nil => exact hrest
      | cons c cs => exact bare
    rw [List.append_assoc, List.length_append, Nat.add_assoc, ha.reads _ behind,
      hb.reads rest hrest, Option.map_map]
    congr 1
    funext vs
    simp
  enough := by
    simp only [List.length_append]
    exact Nat.add_le_add ha.enough hb.enough

/-- A punctuation character in front of a text. -/
theorem Lexes.punctuation {c : Char} {t : Token} {b : List Char} {us : List Token}
    (mark : punctuation? c = some t) (hb : Lexes b us) : Lexes (c :: b) (t :: us) where
  reads rest hrest fuel := by
    have apart : isSpace c = false ∧ c ≠ '"' := by
      unfold punctuation? at mark
      split at mark <;> first | decide | cases mark
    have length : (t :: us).length + fuel = us.length + fuel + 1 := by
      simp only [List.length_cons]
      omega
    have front : (c :: b ++ rest).dropWhile isSpace = c :: (b ++ rest) := by simp [apart.1]
    rw [length, lex, front]
    split
    · rename_i same
      cases same
    · rename_i same
      cases same
      exact absurd rfl apart.2
    · rename_i same
      cases same
      rw [mark, hb.reads rest hrest]
      cases lex fuel rest <;> rfl
  enough := Nat.succ_le_succ hb.enough

/-- A string in front of a text. -/
theorem Lexes.string {b : List Char} {us : List Token} (s : String) (hb : Lexes b us) :
    Lexes ((quoted s).toList ++ b) (.scalar (str s) :: us) where
  reads rest hrest fuel := by
    have length : (Token.scalar (str s) :: us).length + fuel = us.length + fuel + 1 := by
      simp only [List.length_cons]
      omega
    have text : (quoted s).toList ++ b ++ rest =
        '"' :: (s.toList.flatMap escapeChar ++ '"' :: (b ++ rest)) := by
      simp [quoted]
    have front : ('"' :: (s.toList.flatMap escapeChar ++ '"' :: (b ++ rest))).dropWhile isSpace =
        '"' :: (s.toList.flatMap escapeChar ++ '"' :: (b ++ rest)) := rfl
    rw [length, text, lex, front]
    simp only [lexString_text, List.reverse_nil, List.nil_append, String.ofList_toList,
      Option.bind_eq_bind, Option.bind_some, hb.reads rest hrest]
    cases lex fuel rest <;> rfl
  enough := by
    have := hb.enough
    simp [quoted]
    omega

/-- A word. -/
theorem Lexes.word {cs : List Char} {v : Json} (h : word? cs = some v) : Lexes cs [.scalar v] where
  reads rest hrest fuel := by
    obtain ⟨nonempty, chars⟩ := wordChars_of_word? h
    obtain ⟨c, ds, rfl⟩ := List.exists_cons_of_ne_nil nonempty
    obtain ⟨notSpace, notQuote, noMark⟩ := wordChar_apart (chars c (by simp))
    have stop : rest.takeWhile isWordChar = [] ∧ rest.dropWhile isWordChar = rest := by
      cases rest with
      | nil => exact ⟨rfl, rfl⟩
      | cons d _ => simp [hrest d rfl]
    have taken : (c :: (ds ++ rest)).takeWhile isWordChar = c :: ds := by
      rw [← List.cons_append, List.takeWhile_append_of_pos chars, stop.1, List.append_nil]
    have left : (c :: (ds ++ rest)).dropWhile isWordChar = rest := by
      rw [← List.cons_append, List.dropWhile_append_of_pos chars, stop.2]
    have front : (c :: ds ++ rest).dropWhile isSpace = c :: (ds ++ rest) := by simp [notSpace]
    rw [List.length_singleton, Nat.add_comm, lex, front]
    split
    · rename_i same
      cases same
    · rename_i same
      cases same
      exact absurd rfl notQuote
    · rename_i same
      cases same
      rw [noMark]
      simp only [taken, left, h, Option.bind_eq_bind, Option.bind_some]
      cases lex fuel rest <;> rfl
  enough := by
    obtain ⟨nonempty, -⟩ := wordChars_of_word? h
    exact List.length_pos_iff.mpr nonempty

theorem bare_compactItems (vs : List Json) (rest : List Char) (h : Bare rest) :
    Bare ((compactItems vs).toList ++ rest) := by
  cases vs with
  | nil => exact h
  | cons v vs =>
    intro c hc
    obtain rfl : ',' = c := by simpa [compactItems] using hc
    decide

theorem bare_compactFields (fs : List (String × Json)) (rest : List Char) (h : Bare rest) :
    Bare ((compactFields fs).toList ++ rest) := by
  cases fs with
  | nil => exact h
  | cons f fs =>
    intro c hc
    obtain rfl : ',' = c := by simpa [compactFields] using hc
    decide

theorem Lexes.closeBracket : Lexes [']'] [.closeBracket] := Lexes.punctuation rfl .nil

theorem Lexes.closeBrace : Lexes ['\x7d'] [.closeBrace] := Lexes.punctuation rfl .nil

theorem bare_closeBracket : Bare [']'] := by
  rintro _ ⟨⟩
  decide

theorem bare_closeBrace : Bare ['\x7d'] := by
  rintro _ ⟨⟩
  decide

mutual

/-- The text of a value is cut into the tokens of the value. -/
theorem compact_lexes : ∀ v : Json, v.Writable → Lexes v.compact.toList v.tokens
  | null, _ => Lexes.word rfl
  | bool true, _ => Lexes.word rfl
  | bool false, _ => Lexes.word rfl
  | int n, _ => Lexes.word (word?_int n)
  | real _, h => Lexes.word h
  | str s, _ => by simpa [compact, tokens] using Lexes.string s .nil
  | arr [], _ => Lexes.punctuation rfl .closeBracket
  | arr (v :: vs), h => by
    have items := (compactItems_lexes vs h.2).append .closeBracket bare_closeBracket
    have whole := (compact_lexes v h.1).append items (bare_compactItems vs _ bare_closeBracket)
    simpa [compact, tokens] using Lexes.punctuation rfl whole
  | obj [], _ => Lexes.punctuation rfl .closeBrace
  | obj ((k, v) :: fs), h => by
    have fields := (compactFields_lexes fs h.2).append .closeBrace bare_closeBrace
    have whole := (compact_lexes v h.1).append fields (bare_compactFields fs _ bare_closeBrace)
    have keyed := Lexes.string k (Lexes.punctuation (c := ':') rfl whole)
    simpa [compact, tokens] using Lexes.punctuation rfl keyed

theorem compactItems_lexes :
    ∀ vs : List Json, ItemsWritable vs → Lexes (compactItems vs).toList (itemTokens vs)
  | [], _ => .nil
  | v :: vs, h => by
    have whole := (compact_lexes v h.1).append (compactItems_lexes vs h.2)
      (by simpa using bare_compactItems vs [] nofun)
    simpa [compactItems, itemTokens] using Lexes.punctuation (c := ',') rfl whole

theorem compactFields_lexes :
    ∀ fs : List (String × Json), FieldsWritable fs →
      Lexes (compactFields fs).toList (fieldTokens fs)
  | [], _ => .nil
  | (k, v) :: fs, h => by
    have whole := (compact_lexes v h.1).append (compactFields_lexes fs h.2)
      (by simpa using bare_compactFields fs [] nofun)
    have keyed := Lexes.string k (Lexes.punctuation (c := ':') rfl whole)
    simpa [compactFields, fieldTokens] using Lexes.punctuation (c := ',') rfl keyed

end

/-! ## Driving the machine -/

theorem run_cons (stack : List Frame) (state : Awaiting) (t : Token) (ts : List Token) :
    run stack state (t :: ts) = (step stack state t).bind fun next => run next.1 next.2 ts := by
  rw [run.eq_def]
  split <;> simp_all

/-- The tokens of a value begin with one that may begin an item. -/
theorem tokens_head (v : Json) : ∃ t ts, v.tokens = t :: ts ∧ t ≠ .closeBracket := by
  cases v with
  | arr vs => cases vs <;> exact ⟨_, _, rfl, by simp⟩
  | obj fs => cases fs <;> exact ⟨_, _, rfl, by simp⟩
  | _ => exact ⟨_, _, rfl, by simp⟩

/-- Where an array has just been opened, a value is its first item. -/
theorem run_firstItem (v : Json) (stack : List Frame) (ts : List Token) :
    run stack .firstItem (v.tokens ++ ts) = run (.array [] :: stack) .value (v.tokens ++ ts) := by
  obtain ⟨t, us, head, other⟩ := tokens_head v
  -- Only for the end of the array would it matter that no item has been read.
  have same : step stack .firstItem t = step (.array [] :: stack) .value t := by
    cases t <;> first | rfl | exact absurd rfl other
  rw [head, List.cons_append, run_cons, run_cons, same]

mutual

/-- The tokens of a value supply the value. -/
theorem run_tokens : ∀ (v : Json) (stack : List Frame) (ts : List Token),
    run stack .value (v.tokens ++ ts) = run (supply v stack).1 (supply v stack).2 ts
  | null, _, _ => by simp [tokens, run_cons, step, begin?]
  | bool _, _, _ => by simp [tokens, run_cons, step, begin?]
  | int _, _, _ => by simp [tokens, run_cons, step, begin?]
  | real _, _, _ => by simp [tokens, run_cons, step, begin?]
  | str _, _, _ => by simp [tokens, run_cons, step, begin?]
  | arr [], _, _ => by simp [tokens, run_cons, step, begin?]
  | arr (v :: vs), stack, ts => by
    rw [tokens, List.cons_append, run_cons]
    simp only [step, begin?, Option.bind_some, List.append_assoc]
    rw [run_firstItem, run_tokens v]
    exact run_itemTokens vs [v] stack ts
  | obj [], _, _ => by simp [tokens, run_cons, step, begin?]
  | obj ((k, v) :: fs), stack, ts => by
    rw [tokens]
    simp only [List.cons_append, run_cons, step, begin?, Option.bind_some, List.append_assoc]
    rw [run_tokens v]
    exact run_fieldTokens fs [(k, v)] stack ts

theorem run_itemTokens : ∀ (vs before : List Json) (stack : List Frame) (ts : List Token),
    run stack (.afterItem before) (itemTokens vs ++ ([.closeBracket] ++ ts)) =
      run (supply (arr (before.reverse ++ vs)) stack).1
      (supply (arr (before.reverse ++ vs)) stack).2 ts
  | [], _, _, _ => by simp [itemTokens, run_cons, step]
  | v :: vs, before, stack, ts => by
    rw [itemTokens]
    simp only [List.cons_append, run_cons, step, Option.bind_some, List.append_assoc]
    rw [run_tokens v]
    simpa [supply] using run_itemTokens vs (v :: before) stack ts

theorem run_fieldTokens :
    ∀ (fs before : List (String × Json)) (stack : List Frame) (ts : List Token),
    run stack (.afterField before) (fieldTokens fs ++ ([.closeBrace] ++ ts)) =
      run (supply (obj (before.reverse ++ fs)) stack).1
      (supply (obj (before.reverse ++ fs)) stack).2 ts
  | [], _, _, _ => by simp [fieldTokens, run_cons, step]
  | (k, v) :: fs, before, stack, ts => by
    rw [fieldTokens]
    simp only [List.cons_append, run_cons, step, Option.bind_some, List.append_assoc]
    rw [run_tokens v]
    simpa [supply] using run_fieldTokens fs ((k, v) :: before) stack ts

end

theorem lex_nil (fuel : Nat) : lex fuel [] = some [] := by
  cases fuel <;> rfl

/-- A value that is written is read back. -/
theorem parse?_compact {v : Json} (h : v.Writable) : parse? v.compact = some v := by
  have cut := compact_lexes v h
  -- The parser has fuel for as many tokens as there are characters, and for the end.
  have enough : v.compact.length + 1 =
      v.tokens.length + (v.compact.length + 1 - v.tokens.length) := by
    have := cut.enough
    rw [String.length_toList] at this
    omega
  have lexed := cut.reads [] nofun (v.compact.length + 1 - v.tokens.length)
  rw [List.append_nil, ← enough, lex_nil, Option.map_some, List.append_nil] at lexed
  rw [parse?, lexed, Option.bind_eq_bind, Option.bind_some]
  have driven := run_tokens v [] []
  rw [List.append_nil] at driven
  exact driven

/-! ## What has been read can be written -/

/-- A number with a fraction or an exponent is kept as it was read. -/
theorem writable_of_word? {cs : List Char} {v : Json} (h : word? cs = some v) : v.Writable := by
  have read := h
  unfold word? at h
  split at h
  · cases h
    trivial
  · cases h
    trivial
  · cases h
    trivial
  · split at h
    · -- What is kept is the text of the word; only the negative zero is written in one way.
      have kept : v = real "-0" ∨ v = real (String.ofList cs) ∨ ∃ n, v = int n := by
        unfold number? at h
        grind
      rcases kept with rfl | rfl | ⟨n, rfl⟩
      · exact (rfl : word? "-0".toList = some (real "-0"))
      · rw [Writable, String.toList_ofList]
        exact read
      · trivial
    · cases h

/-- A token is a mark or a value that can be written. -/
def TokenWritable : Token → Prop
  | .scalar v => v.Writable
  | _ => True

theorem tokenWritable_of_lex {fuel : Nat} {cs : List Char} {ts : List Token}
    (h : lex fuel cs = some ts) :
    ∀ t ∈ ts, TokenWritable t := by
  induction fuel generalizing cs ts with
  | zero =>
    simp only [lex] at h
    split at h <;> cases h
    simp
  | succ fuel ih =>
    rw [lex] at h
    split at h
    · cases h
      simp
    · simp only [Option.bind_eq_bind, Option.bind_eq_some_iff, Option.pure_def, Option.some.injEq]
        at h
      obtain ⟨⟨s, rest⟩, -, us, lexed, rfl⟩ := h
      exact List.forall_mem_cons.mpr ⟨trivial, ih lexed⟩
    · split at h
      · rename_i t mark
        simp only [Option.bind_eq_bind, Option.bind_eq_some_iff, Option.pure_def, Option.some.injEq]
          at h
        obtain ⟨us, lexed, rfl⟩ := h
        refine List.forall_mem_cons.mpr ⟨?_, ih lexed⟩
        unfold punctuation? at mark
        split at mark <;> cases mark <;> trivial
      · simp only [Option.bind_eq_bind, Option.bind_eq_some_iff, Option.pure_def, Option.some.injEq]
          at h
        obtain ⟨v, word, us, lexed, rfl⟩ := h
        exact List.forall_mem_cons.mpr ⟨writable_of_word? word, ih lexed⟩

/-- All that the machine holds can be written. -/
def FrameWritable : Frame → Prop
  | .array items => ItemsWritable items
  | .object fields _ => FieldsWritable fields

/-- All that the machine has of the value at which it works can be written. -/
def AwaitingWritable : Awaiting → Prop
  | .afterItem items => ItemsWritable items
  | .key fields | .colon fields _ | .afterField fields => FieldsWritable fields
  | .nothing v => v.Writable
  | _ => True

theorem supply_writable {v : Json} {stack : List Frame} (hv : v.Writable)
    (hs : ∀ f ∈ stack, FrameWritable f) :
    (∀ f ∈ (supply v stack).1, FrameWritable f) ∧ AwaitingWritable (supply v stack).2 := by
  cases stack with
  | nil => exact ⟨nofun, hv⟩
  | cons f stack =>
    obtain ⟨own, others⟩ := List.forall_mem_cons.mp hs
    cases f with
    | array items => exact ⟨others, hv, own⟩
    | object fields key => exact ⟨others, hv, own⟩

theorem begin?_writable {stack stack' : List Frame} {state : Awaiting} {t : Token}
    (ht : TokenWritable t) (hs : ∀ f ∈ stack, FrameWritable f)
    (h : begin? stack t = some (stack', state)) :
    (∀ f ∈ stack', FrameWritable f) ∧ AwaitingWritable state := by
  unfold begin? at h
  split at h
  · obtain ⟨rfl, rfl⟩ := Prod.ext_iff.mp (Option.some.inj h)
    exact supply_writable ht hs
  · cases h
    exact ⟨hs, trivial⟩
  · cases h
    exact ⟨hs, trivial⟩
  · cases h

theorem step_writable {stack stack' : List Frame} {state state' : Awaiting} {t : Token}
    (ht : TokenWritable t) (hs : ∀ f ∈ stack, FrameWritable f) (ha : AwaitingWritable state)
    (h : step stack state t = some (stack', state')) :
    (∀ f ∈ stack', FrameWritable f) ∧ AwaitingWritable state' := by
  unfold step at h
  split at h
  · exact begin?_writable ht hs h
  · obtain ⟨rfl, rfl⟩ := Prod.ext_iff.mp (Option.some.inj h)
    exact supply_writable trivial hs
  · have opened : FrameWritable (.array []) := trivial
    exact begin?_writable ht (List.forall_mem_cons.mpr ⟨opened, hs⟩) h
  · cases h
    exact ⟨List.forall_mem_cons.mpr ⟨ha, hs⟩, trivial⟩
  · obtain ⟨rfl, rfl⟩ := Prod.ext_iff.mp (Option.some.inj h)
    exact supply_writable (itemsWritable_iff.mpr
      fun v hv => itemsWritable_iff.mp ha v (List.mem_reverse.mp hv)) hs
  · obtain ⟨rfl, rfl⟩ := Prod.ext_iff.mp (Option.some.inj h)
    exact supply_writable trivial hs
  · cases h
    exact ⟨hs, trivial⟩
  · cases h
    exact ⟨hs, ha⟩
  · cases h
    exact ⟨List.forall_mem_cons.mpr ⟨ha, hs⟩, trivial⟩
  · cases h
    exact ⟨hs, ha⟩
  · obtain ⟨rfl, rfl⟩ := Prod.ext_iff.mp (Option.some.inj h)
    exact supply_writable (fieldsWritable_iff.mpr
      fun f hf => fieldsWritable_iff.mp ha f (List.mem_reverse.mp hf)) hs
  · cases h

theorem run_writable {stack : List Frame} {state : Awaiting} {ts : List Token} {v : Json}
    (ht : ∀ t ∈ ts, TokenWritable t) (hs : ∀ f ∈ stack, FrameWritable f)
    (ha : AwaitingWritable state) (h : run stack state ts = some v) : v.Writable := by
  induction ts generalizing stack state with
  | nil =>
    unfold run at h
    split at h
    · cases h
      exact ha
    · cases h
    · rename_i same
      cases same
  | cons t ts ih =>
    obtain ⟨ht, hts⟩ := List.forall_mem_cons.mp ht
    rw [run_cons, Option.bind_eq_some_iff] at h
    obtain ⟨⟨stack', state'⟩, stepped, rest⟩ := h
    obtain ⟨hs', ha'⟩ := step_writable ht hs ha stepped
    exact ih hts hs' ha' rest

/-- A value that has been read can be written. -/
theorem writable_of_parse? {s : String} {v : Json} (h : parse? s = some v) : v.Writable := by
  simp only [parse?, Option.bind_eq_bind, Option.bind_eq_some_iff] at h
  obtain ⟨ts, lexed, driven⟩ := h
  have awaits : AwaitingWritable .value := trivial
  exact run_writable (tokenWritable_of_lex lexed) (List.forall_mem_nil _) awaits driven

end Json
end NodeWarden
