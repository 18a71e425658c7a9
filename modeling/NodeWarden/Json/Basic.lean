import NodeWarden.Text.Quoted

/-!
# JSON values

The values that are exchanged with a Kubernetes API server, and their compact text. Numbers are
whole, or kept in the form in which they were written: nothing here computes with a fraction.
-/

namespace NodeWarden

/-- A JSON value. The fields of an object are in the order in which they were written. -/
inductive Json where
  | null
  | bool (value : Bool)
  /-- A number written without fraction and exponent. -/
  | int (value : Int)
  /-- A number with a fraction or an exponent, as it was written. -/
  | real (text : String)
  | str (value : String)
  | arr (items : List Json)
  | obj (fields : List (String × Json))
deriving Repr, Inhabited

namespace Json

/-! ## Equality -/

mutual

/-- Whether two values are the same, their numbers as they are written. -/
def same : Json → Json → Bool
  | null, null => true
  | bool a, bool b => a == b
  | int m, int n => m == n
  | real s, real t => s == t
  | str s, str t => s == t
  | arr vs, arr ws => sameItems vs ws
  | obj fs, obj gs => sameFields fs gs
  | _, _ => false

def sameItems : List Json → List Json → Bool
  | [], [] => true
  | v :: vs, w :: ws => same v w && sameItems vs ws
  | _, _ => false

def sameFields : List (String × Json) → List (String × Json) → Bool
  | [], [] => true
  | (k, v) :: fs, (l, w) :: gs => k == l && same v w && sameFields fs gs
  | _, _ => false

end

instance : BEq Json := ⟨same⟩

mutual

theorem eq_of_same : ∀ v w : Json, same v w = true → v = w
  | null, w, h => by cases w <;> simp_all [same]
  | bool _, w, h => by cases w <;> simp_all [same]
  | int _, w, h => by cases w <;> simp_all [same]
  | real _, w, h => by cases w <;> simp_all [same]
  | str _, w, h => by cases w <;> simp_all [same]
  | arr vs, w, h => by
    cases w with
    | arr ws => rw [eq_of_sameItems vs ws (by simpa [same] using h)]
    | _ => simp [same] at h
  | obj fs, w, h => by
    cases w with
    | obj gs => rw [eq_of_sameFields fs gs (by simpa [same] using h)]
    | _ => simp [same] at h

theorem eq_of_sameItems : ∀ vs ws : List Json, sameItems vs ws = true → vs = ws
  | [], ws, h => by cases ws <;> simp_all [sameItems]
  | v :: vs, [], h => by simp [sameItems] at h
  | v :: vs, w :: ws, h => by
    simp only [sameItems, Bool.and_eq_true] at h
    rw [eq_of_same v w h.1, eq_of_sameItems vs ws h.2]

theorem eq_of_sameFields : ∀ fs gs : List (String × Json), sameFields fs gs = true → fs = gs
  | [], gs, h => by cases gs <;> simp_all [sameFields]
  | (k, v) :: fs, [], h => by simp [sameFields] at h
  | (k, v) :: fs, (l, w) :: gs, h => by
    simp only [sameFields, Bool.and_eq_true, beq_iff_eq] at h
    rw [h.1.1, eq_of_same v w h.1.2, eq_of_sameFields fs gs h.2]

end

mutual

theorem same_refl : ∀ v : Json, same v v = true
  | null => rfl
  | bool _ | int _ | real _ | str _ => by simp [same]
  | arr vs => by simpa [same] using sameItems_refl vs
  | obj fs => by simpa [same] using sameFields_refl fs

theorem sameItems_refl : ∀ vs : List Json, sameItems vs vs = true
  | [] => rfl
  | v :: vs => by simp [sameItems, same_refl v, sameItems_refl vs]

theorem sameFields_refl : ∀ fs : List (String × Json), sameFields fs fs = true
  | [] => rfl
  | (k, v) :: fs => by simp [sameFields, same_refl v, sameFields_refl fs]

end

instance : LawfulBEq Json where
  eq_of_beq := eq_of_same _ _
  rfl := same_refl _

/-! ## Access -/

/-- The value of the first field with the given name, if the value is an object that has one. -/
def field? (name : String) : Json → Option Json
  | obj fields => (fields.find? (·.1 == name)).map (·.2)
  | _ => none

def str? : Json → Option String
  | str s => some s
  | _ => none

def int? : Json → Option Int
  | int n => some n
  | _ => none

/-- A number that is whole and not negative. -/
def nat? : Json → Option Nat
  | int (.ofNat n) => some n
  | _ => none

def bool? : Json → Option Bool
  | bool b => some b
  | _ => none

def arr? : Json → Option (List Json)
  | arr items => some items
  | _ => none

def fields? : Json → Option (List (String × Json))
  | obj fields => some fields
  | _ => none

/-- An object of strings. -/
def ofStrings (entries : List (String × String)) : Json :=
  obj (entries.map fun e => (e.1, str e.2))

/-! ## Text -/

/-- One character of a JSON string. -/
def escapeChar (c : Char) : List Char :=
  match c with
  | '"' => ['\\', '"']
  | '\\' => ['\\', '\\']
  | '\n' => ['\\', 'n']
  | '\r' => ['\\', 'r']
  | '\t' => ['\\', 't']
  | '\x08' => ['\\', 'b']
  | '\x0c' => ['\\', 'f']
  | _ =>
    if c.toNat < 0x20 then
      let ds := Text.hexDigits c.toNat
      '\\' :: 'u' :: (List.replicate (4 - ds.length) '0' ++ ds)
    else [c]

/-- A string between double quotes. -/
def quoted (s : String) : String :=
  String.ofList ('"' :: (s.toList.flatMap escapeChar ++ ['"']))

mutual

/-- The text of a value without any blanks. -/
def compact : Json → String
  | null => "null"
  | bool b => if b then "true" else "false"
  | int n => toString n
  | real t => t
  | str s => quoted s
  | arr [] => "[]"
  | arr (v :: vs) => "[" ++ compact v ++ compactItems vs ++ "]"
  | obj [] => "\x7b\x7d"
  | obj ((k, v) :: fs) => "\x7b" ++ quoted k ++ ":" ++ compact v ++ compactFields fs ++ "\x7d"

/-- The further items of an array, each after a comma. -/
def compactItems : List Json → String
  | [] => ""
  | v :: vs => "," ++ compact v ++ compactItems vs

/-- The further fields of an object, each after a comma. -/
def compactFields : List (String × Json) → String
  | [] => ""
  | (k, v) :: fs => "," ++ quoted k ++ ":" ++ compact v ++ compactFields fs

end

end Json

end NodeWarden
