/-!
# Binary floating point, taken apart

A 64-bit float is either not a number, infinite, or an integer times a power of two. Every exact
statement about a float's text is made on that integer and that power.
-/

namespace NodeWarden.Number

/-- A float as the value it stands for. -/
inductive Binary where
  | nan
  | infinite (negative : Bool)
  /-- The value `significand * 2 ^ exponent`, with its sign kept apart so that a zero has one. -/
  | finite (negative : Bool) (significand : Nat) (exponent : Int)
deriving Repr, DecidableEq

/-- The significand of the least float of a binade, at which the spacing below is half as
wide: two to the power of 52. -/
def leastNormal : Nat := 4503599627370496

/-- What the sign bit adds to the bits of a negative float. -/
def signBit : Nat := 9223372036854775808

/-- The exponent of the subnormal floats, the least of all. -/
def leastExponent : Int := -1074

/-- The value that 64 bits of a float stand for. -/
def Binary.ofBits (bits : UInt64) : Binary :=
  let n := bits.toNat
  let negative := n / signBit == 1
  let field : Nat := n / leastNormal % 2048
  let fraction : Nat := n % leastNormal
  if field == 2047 then
    if fraction == 0 then .infinite negative else .nan
  else if field == 0 then
    .finite negative fraction leastExponent
  else
    .finite negative (leastNormal + fraction) ((field : Int) - 1075)

/-- The value of a float. -/
def Binary.ofFloat (x : Float) : Binary :=
  .ofBits x.toBits

/-- A key whose order as an integer is the total order of floats: negative before positive, the
two zeros apart, and the infinities outside of all finite values. -/
def totalOrderKey (x : Float) : Int :=
  let n := x.toBits.toNat
  if n < signBit then n else (signBit - 1 : Int) - n

end NodeWarden.Number
