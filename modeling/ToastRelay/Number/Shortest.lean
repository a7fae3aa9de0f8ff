import ToastRelay.Number.Binary64

/-!
# Shortest decimal text of a floating point number

Of the decimals that round to a given number, the one with the fewest digits is written, and of
those the one nearest to the number. Numbers whose first digit stands between the fifth place
behind the point and the sixteenth before it are written in full, with at least one digit on each
side of the point; the others with an exponent that always carries a sign.
-/

namespace ToastRelay
set_option autoImplicit false

namespace Magnitude

/-- A decimal: its digits as one number, and the power of ten of the last of them. -/
structure Decimal where
  digits : Nat
  place : Int
  deriving DecidableEq, Repr, Inhabited

/-- A magnitude with the ends of the interval that rounds to it, over one denominator. -/
structure Interval where
  low : Nat
  value : Nat
  high : Nat
  den : Nat
  closed : Bool

def interval (x : Magnitude) : Interval :=
  let below := if x.mantissa = hiddenBit && leastExponent < x.exponent then 1 else 2
  let e := x.exponent - 2
  let up := Nat.pow 2 e.toNat
  ⟨(4 * x.mantissa - below) * up, 4 * x.mantissa * up, (4 * x.mantissa + 2) * up, Nat.pow 2 (-e).toNat,
    x.mantissa % 2 = 0⟩

def Interval.holds (i : Interval) (d : Nat) (place : Int) : Bool :=
  let a := d * Nat.pow 10 place.toNat * i.den
  let up := Nat.pow 10 (-place).toNat
  if i.closed then i.low * up ≤ a && a ≤ i.high * up else i.low * up < a && a < i.high * up

/-- The decimals with that last place that are next to the magnitude, the nearer one first. -/
def Interval.neighbours (i : Interval) (place : Int) : List Nat :=
  let num := i.value * Nat.pow 10 (-place).toNat
  let den := i.den * Nat.pow 10 place.toNat
  let d := num / den
  let r := num % den
  if 2 * r < den || (2 * r = den && d % 2 = 0) then [d, d + 1] else [d + 1, d]

/-- The place before the first digit of the magnitude. -/
def Interval.firstPlace (i : Interval) : Int :=
  let guess : Int := ((i.value.log2 : Int) - (i.den.log2 : Int)) * 30103 / 100000
  let atLeast := fun k : Int => i.den * Nat.pow 10 k.toNat ≤ i.value * Nat.pow 10 (-k).toNat
  if atLeast (guess + 1) then guess + 2 else if atLeast guess then guess + 1 else guess

/-- The shortest decimal that rounds to the magnitude, looking for it at `count` places from
`place` downwards. -/
def Interval.search (i : Interval) (place : Int) : Nat → Decimal
  | 0 => ⟨0, 0⟩
  | count + 1 =>
    match (i.neighbours place).find? (i.holds · place) with
    | some d => ⟨d, place⟩
    | none => i.search (place - 1) count

def shortest (x : Magnitude) : Decimal :=
  if x.mantissa = 0 then ⟨0, 0⟩ else x.interval.search (x.interval.firstPlace - 1) 18

def Decimal.trimmed (d : Decimal) : Nat → Decimal
  | 0 => d
  | n + 1 =>
    if d.digits ≠ 0 && d.digits % 10 = 0 then Decimal.trimmed ⟨d.digits / 10, d.place + 1⟩ n else d

/-- The least and the greatest place of a first digit that is written without an exponent. -/
def leastFixed : Int := -5

def greatestFixed : Int := 15

def Decimal.text (d : Decimal) : String :=
  let digits := (Nat.toDigits 10 d.digits)
  let first : Int := d.place + digits.length - 1
  if leastFixed ≤ first && first ≤ greatestFixed then
    if 0 ≤ d.place then
      String.ofList (digits ++ List.replicate d.place.toNat '0' ++ ['.', '0'])
    else if 0 ≤ first then
      let whole := first.toNat + 1
      String.ofList (digits.take whole ++ '.' :: digits.drop whole)
    else
      String.ofList (['0', '.'] ++ List.replicate (-first - 1).toNat '0' ++ digits)
  else
    let sign := if first < 0 then '-' else '+'
    let tail := digits.drop 1
    String.ofList (digits.take 1 ++ (if tail.isEmpty then [] else '.' :: tail) ++
      'e' :: sign :: Nat.toDigits 10 first.natAbs)

end Magnitude

def Binary64.text (x : Binary64) : String :=
  let t := (x.magnitude.shortest.trimmed 400).text
  if x.negative then "-" ++ t else t

end ToastRelay
