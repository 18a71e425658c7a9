import NodeWarden.Number.Binary

/-!
# Decimal text of floats

Two ways to write a float in decimal. *Shortest*: the fewest digits that read back as the same
float, and of those the ones nearest to its value. *Fixed*: the exact value rounded to a given
number of places, a tie going to the even neighbour. Both are computed in exact arithmetic on
natural numbers.
-/

namespace NodeWarden.Number

/-- The decimal digits of a number. -/
def decimalDigits (n : Nat) : List Char :=
  Nat.toDigits 10 n

/-- A number in decimal with at least `width` digits, padded with zeros. -/
def padded (width n : Nat) : String :=
  let ds := decimalDigits n
  String.ofList (List.replicate (width - ds.length) '0' ++ ds)

/-! ## Shortest digits -/

/-- The reals that round to one float, as three points of one grid: `low`, `mid` and `high`, all
multiplied by `scale / den`. The float itself is `mid * scale / den`, and the two ends belong to the
interval when `closed`. -/
structure RoundingInterval where
  low : Nat
  mid : Nat
  high : Nat
  scale : Nat
  den : Nat
  closed : Bool

/-- The interval of `m * 2 ^ q`: half a unit to each side, a quarter below the least float of a
binade. Ties go to even significands, so those own their ends. -/
def RoundingInterval.of (m : Nat) (q : Int) : RoundingInterval where
  low := if m == leastNormal && q != leastExponent then 4 * m - 1 else 4 * m - 2
  mid := 4 * m
  high := 4 * m + 2
  scale := Nat.pow 2 (q - 2).toNat
  den := Nat.pow 2 (2 - q).toNat
  closed := m % 2 == 0

/-- A decimal `digits * 10 ^ exponent`. -/
structure Decimal where
  digits : Nat
  exponent : Int
deriving Repr, DecidableEq

/-- The point of the grid `10 ^ k` that lies in the interval and is nearest to the float, if one
does. Only the two neighbours of the float can. -/
def RoundingInterval.onGrid (r : RoundingInterval) (k : Int) : Option Decimal :=
  let up := Nat.pow 10 (-k).toNat * r.scale
  let unit := Nat.pow 10 k.toNat * r.den
  let inside (d : Nat) : Bool :=
    if r.closed then r.low * up ≤ d * unit && d * unit ≤ r.high * up
    else r.low * up < d * unit && d * unit < r.high * up
  let below := r.mid * up / unit
  match inside below, inside (below + 1) with
  | true, false => some ⟨below, k⟩
  | false, true => some ⟨below + 1, k⟩
  | true, true =>
    if 2 * (r.mid * up - below * unit) < unit then some ⟨below, k⟩ else some ⟨below + 1, k⟩
  | false, false => none

/-- An exponent `e` for which the float is below `10 ^ e`, and not far below. -/
def RoundingInterval.magnitude (r : RoundingInterval) : Int :=
  let num := r.mid * r.scale
  if r.den ≤ num then (decimalDigits (num / r.den)).length
  else 2 - (decimalDigits (r.den / num)).length

/-- Removes the zeros at the end of the digits. -/
def Decimal.strip (fuel : Nat) (d : Decimal) : Decimal :=
  match fuel with
  | 0 => d
  | fuel + 1 =>
    if d.digits % 10 == 0 && d.digits != 0 then
      Decimal.strip fuel ⟨d.digits / 10, d.exponent + 1⟩
    else d

/-- The shortest decimal that reads back as `m * 2 ^ q`, for positive `m`: the coarsest grid with a
point in the interval has it, and seventeen digits always suffice. -/
def shortest (m : Nat) (q : Int) : Decimal :=
  let r := RoundingInterval.of m q
  let found := (List.range 20).findSome? fun (i : Nat) => r.onGrid (r.magnitude - 1 - i)
  (found.getD ⟨0, 0⟩).strip 20

/-! ## Texts -/

/-- How a float's shortest digits are laid out. -/
structure FloatStyle where
  /-- Whether a whole number keeps a point and a zero. -/
  keepsPoint : Bool
  /-- The powers of ten outside of which the scientific form is used, if there are any. -/
  positional : Option (Int × Int)

/-- The style of plain messages and of the metrics text: always positional, and `3` for three. -/
def FloatStyle.plain : FloatStyle := ⟨false, none⟩

/-- The style of log fields: `3.0` for three, and an exponent from `1e16` on and below `1e-4`. -/
def FloatStyle.logged : FloatStyle := ⟨true, some (-4, 16)⟩

/-- Digits with the point where it belongs. -/
def Decimal.positional (keepsPoint : Bool) (d : Decimal) : String :=
  let ds := decimalDigits d.digits
  let point : Int := ds.length + d.exponent
  let text :=
    if 0 ≤ d.exponent then
      ds ++ List.replicate d.exponent.toNat '0' ++ (if keepsPoint then ['.', '0'] else [])
    else if 0 < point then
      ds.take point.toNat ++ '.' :: ds.drop point.toNat
    else
      '0' :: '.' :: (List.replicate (-point).toNat '0' ++ ds)
  String.ofList text

/-- Digits with the point after the first, followed by the power of ten. -/
def Decimal.scientific (d : Decimal) : String :=
  let ds := decimalDigits d.digits
  let fraction := if ds.length ≤ 1 then [] else '.' :: ds.drop 1
  String.ofList (ds.take 1 ++ fraction) ++ s!"e{ds.length + d.exponent - 1}"

/-- The shortest text of a float in a style. -/
def FloatStyle.write (style : FloatStyle) (x : Float) : String :=
  match Binary.ofFloat x with
  | .nan => "NaN"
  | .infinite negative => if negative then "-inf" else "inf"
  | .finite negative 0 _ =>
    (if negative then "-0" else "0") ++ (if style.keepsPoint then ".0" else "")
  | .finite negative m q =>
    let d := shortest m q
    let leading : Int := (decimalDigits d.digits).length + d.exponent - 1
    let body :=
      match style.positional with
      | some (least, most) =>
        if leading < least || most ≤ leading then d.scientific else d.positional style.keepsPoint
      | none => d.positional style.keepsPoint
    (if negative then "-" else "") ++ body

/-- A quotient rounded to the nearest integer, a tie to the even one. -/
def divRoundEven (num den : Nat) : Nat :=
  let d := num / den
  let rest := 2 * (num % den)
  if rest < den then d else if den < rest then d + 1 else d + d % 2

/-- The exact value of a float rounded to a number of decimal places, a tie to the even
neighbour. -/
def fixed (places : Nat) (x : Float) : String :=
  match Binary.ofFloat x with
  | .nan => "NaN"
  | .infinite negative => if negative then "-inf" else "inf"
  | .finite negative m q =>
    let one := Nat.pow 10 places
    let units := divRoundEven (m * Nat.pow 2 q.toNat * one) (Nat.pow 2 (-q).toNat)
    let whole := toString (units / one)
    let text := if places == 0 then whole else whole ++ "." ++ padded places (units % one)
    (if negative then "-" else "") ++ text

end NodeWarden.Number
