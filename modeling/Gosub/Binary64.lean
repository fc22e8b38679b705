/-!
Double-precision numbers in exact terms. A finite double is `± m · 2 ^ q` with a natural `m`, so
what is printed, read or tested for being whole is settled in natural-number arithmetic.
-/

namespace Gosub.Binary64

/-- The exponent of the smallest positive double, below which no significand is scaled. -/
def minExponent : Int := -1074

/-- The magnitude bits of infinity, one more than those of the largest finite double. -/
def infinityBits : Nat := 0x7ff0000000000000

/-- The bit that carries the sign. -/
def signBit : Nat := 0x8000000000000000

/-- The bit above the fraction, which is not stored: two to the power of 52. -/
def hiddenBit : Nat := 0x10000000000000

/-- What a double stands for. -/
inductive View where
  /-- The number `± significand · 2 ^ exponent`. -/
  | finite (negative : Bool) (significand : Nat) (exponent : Int)
  | infinite (negative : Bool)
  | notANumber
deriving DecidableEq, Repr

/-- Reads the sign, the exponent field and the fraction off the bits. A zero exponent field shares
the exponent of field one and has no hidden leading bit. -/
def view (x : Float) : View :=
  let bits := x.toBits.toNat
  let negative := signBit ≤ bits
  let magnitude := bits % signBit
  if magnitude = infinityBits then .infinite negative
  else if infinityBits < magnitude then .notANumber
  else
    let field := magnitude / hiddenBit
    let fraction := magnitude % hiddenBit
    let significand := if field = 0 then fraction else fraction + hiddenBit
    .finite negative significand ((max field 1 : Nat) - 1 + minExponent)

/-- The integer `± m · 2 ^ q`, where that is one. -/
def whole? (x : Float) : Option Int :=
  match view x with
  | .finite negative m q =>
    let magnitude : Option Nat :=
      if 0 ≤ q then some (m * Nat.pow 2 q.toNat)
      else if m % Nat.pow 2 (-q).toNat = 0 then some (m / Nat.pow 2 (-q).toNat)
      else none
    magnitude.map fun n => if negative then -(n : Int) else n
  | _ => none

/-- The quotient `num / den` as a natural number, a half going to the even neighbour. -/
def roundHalfEven (num den : Nat) : Nat :=
  let quotient := num / den
  let twice := 2 * (num % den)
  if twice < den then quotient
  else if den < twice then quotient + 1
  else quotient + quotient % 2

/-- The exponent of the last bit that a double near `num / den` can hold: the least one, from
`minExponent` on, that leaves the quotient below `2 ^ 53`. -/
def unitExponent (num den : Nat) : Int :=
  let guess : Int := (num.log2 : Int) - den.log2 - 53
  let fits := num * Nat.pow 2 (-(guess + 53)).toNat < den * Nat.pow 2 (guess + 53).toNat
  max (if fits then guess else guess + 1) minExponent

/-- The magnitude bits of the double nearest to `num / den`, a tie going to the even significand.
A significand rounded up to `2 ^ 53` carries into the exponent field by itself. -/
def nearestBits (num den : Nat) : Nat :=
  if num = 0 then 0
  else
    let q := unitExponent num den
    let significand := roundHalfEven (num * Nat.pow 2 (-q).toNat) (den * Nat.pow 2 q.toNat)
    min infinityBits ((q - minExponent).toNat * hiddenBit + significand)

/-- The double with the given sign and magnitude bits. -/
def ofMagnitudeBits (negative : Bool) (bits : Nat) : Float :=
  Float.ofBits (UInt64.ofNat (if negative then signBit + bits else bits))

/-- The double nearest to `± num / den`; infinite where that is beyond the largest double. -/
def ofRatio (negative : Bool) (num den : Nat) : Float :=
  ofMagnitudeBits negative (nearestBits num den)

/-- The double nearest to an integer. -/
def ofInt (n : Int) : Float :=
  ofRatio (n < 0) n.natAbs 1

/-- The infinite double of the given sign. -/
def infinity (negative : Bool) : Float :=
  ofMagnitudeBits negative infinityBits

/-- The double that is no number. -/
def nan : Float :=
  ofMagnitudeBits false (infinityBits + hiddenBit / 2)

end Gosub.Binary64
