/-!
# Binary floating point

A magnitude is `mantissa * 2 ^ exponent` with a mantissa below 2^53 and an exponent between -1074
and 971; above the least exponent the mantissa is at least 2^52, so each value has one form. A
quotient of natural numbers is rounded to the nearest magnitude, and a tie goes to the even
mantissa. Quotients beyond the greatest magnitude have no rounding. Everything is computed in
natural numbers; nothing here depends on the processor.
-/

namespace ToastRelay
set_option autoImplicit false

structure Magnitude where
  mantissa : Nat
  exponent : Int
  deriving DecidableEq, Repr, Inhabited

/-- A signed binary floating point number; zero has two signs. -/
structure Binary64 where
  negative : Bool
  magnitude : Magnitude
  deriving DecidableEq, Repr, Inhabited

/-- The quotient rounded to the nearest natural number, a half to the even neighbour. -/
def nearestEven (num den : Nat) : Nat :=
  let q := num / den
  let r := num % den
  if 2 * r < den then q
  else if den < 2 * r then q + 1
  else if q % 2 = 0 then q else q + 1

namespace Magnitude

def leastExponent : Int := -1074

def greatestExponent : Int := 971

/-- The highest bit of a mantissa above the least exponent, which is `2 ^ 52`. -/
def hiddenBit : Nat := 0x10000000000000

def zero : Magnitude := ⟨0, leastExponent⟩

/-- The quotient divided by `2 ^ e`, as a quotient. -/
def scaled (num den : Nat) (e : Int) : Nat × Nat :=
  if 0 ≤ e then (num, den * Nat.pow 2 e.toNat) else (num * Nat.pow 2 (-e).toNat, den)

/-- The exponent at which the mantissa of a quotient has 53 bits, or the least exponent. -/
def exponentFor (num den : Nat) : Int :=
  let guess : Int := (num.log2 : Int) - (den.log2 : Int) - 52
  let (n, d) := scaled num den guess
  max leastExponent (if n / d < hiddenBit then guess - 1 else guess)

/-- The magnitude nearest to a quotient, if it is not too great. -/
def ofRatio? (num den : Nat) : Option Magnitude :=
  if num = 0 then some zero
  else
    let e := exponentFor num den
    let (n, d) := scaled num den e
    let m := nearestEven n d
    let (m, e) := if m = 2 * hiddenBit then (hiddenBit, e + 1) else (m, e)
    if m = 0 then some zero else if greatestExponent < e then none else some ⟨m, e⟩

def toRatio (x : Magnitude) : Nat × Nat :=
  if 0 ≤ x.exponent then (x.mantissa * Nat.pow 2 x.exponent.toNat, 1)
  else (x.mantissa, Nat.pow 2 (-x.exponent).toNat)

def mul? (x y : Magnitude) : Option Magnitude :=
  ofRatio? (x.toRatio.1 * y.toRatio.1) (x.toRatio.2 * y.toRatio.2)

def div? (x y : Magnitude) : Option Magnitude :=
  ofRatio? (x.toRatio.1 * y.toRatio.2) (x.toRatio.2 * y.toRatio.1)

def powerOfTen (k : Nat) : Magnitude := (ofRatio? (Nat.pow 10 k) 1).getD zero

/-- The greatest power of ten below the greatest magnitude. -/
def greatestPower : Nat := 308

/-- Divides by the greatest power of ten at most `steps` times, as long as something is left. -/
def shrink (x : Magnitude) : Nat → Magnitude
  | 0 => x
  | steps + 1 =>
    if x.mantissa = 0 then x
    else shrink ((x.div? (powerOfTen greatestPower)).getD zero) steps

/-- `digits * 10 ^ exponent`, each factor and each product or quotient rounded in turn. -/
def ofDecimal? (digits : Nat) (exponent : Int) : Option Magnitude :=
  match ofRatio? digits 1 with
  | none => none
  | some x =>
    let size := exponent.natAbs
    if 0 ≤ exponent then
      if size ≤ greatestPower then x.mul? (powerOfTen size)
      else if x.mantissa = 0 then some x else none
    else
      let steps := (size - 1) / greatestPower
      let y := x.shrink steps
      if y.mantissa = 0 then some y else y.div? (powerOfTen (size - steps * greatestPower))

end Magnitude

end ToastRelay
