import ToastRelay.Surroundings

/-!
# The lifetime of a token

A token is granted for a number of seconds, of which no more than thirty days are believed. It is
used up to five minutes before its end and not later, so that it does not end on its way. Instants
have a last one, and a token that would outlive it is not accepted. In the five minutes before it
there is no instant five minutes later, and a clock with such a reading would end the program where
it looks at a kept token; this is left out, and instants later than the last one are compared like
all others.

Lifetimes come as numbers without a sign, while spans of time count in numbers with one, and not even
all of these are spans. So a lifetime becomes a signed number before it is cut short, and the greatest
one stands for all that are none.
-/

namespace ToastRelay.Token
set_option autoImplicit false

def second : Int := 1000000000

/-- The last instant of the last year of the calendar. -/
def latest : Instant := 8210266876799 * second + 999999999

/-- How long before its end a token is no longer used. -/
def margin : Int := 300 * second

/-- The longest lifetime that is believed, in seconds. -/
def longestLifetime : Nat := 2592000

/-- The seconds for which a token is believed to live. -/
def believed (lifetime : UInt64) : Nat := min lifetime.toNat longestLifetime

/-- A number as a signed one of 64 bits, if it is one. -/
def signed? (n : UInt64) : Option Int64 :=
  if n.toNat ≤ Int64.maxValue.toInt then some (Int64.ofNat n.toNat) else none

def seconds (lifetime : UInt64) : Int64 :=
  min ((signed? lifetime).getD Int64.maxValue) (Int64.ofNat longestLifetime)

theorem toInt_getD_signed? (n : UInt64) :
    ((signed? n).getD Int64.maxValue).toInt = min (n.toNat : Int) Int64.maxValue.toInt := by
  rw [signed?]
  split
  · next h =>
    have hlt : n.toNat < 2 ^ 63 := by
      rw [Int64.toInt_maxValue] at h
      omega
    rw [Option.getD_some, Int64.toInt_ofNat_of_lt hlt, Int.min_eq_left h]
  · next h =>
    rw [Option.getD_none]
    omega

theorem toInt_min (a b : Int64) : (min a b).toInt = min a.toInt b.toInt := by
  change (if a ≤ b then a else b).toInt = _
  split
  · next h => exact (Int.min_eq_left (Int64.le_iff_toInt_le.mp h)).symm
  · next h =>
    rw [Int64.le_iff_toInt_le] at h
    omega

/-- No lifetime is lost or wraps around on its way. -/
theorem toInt_seconds (lifetime : UInt64) : (seconds lifetime).toInt = believed lifetime := by
  have hlongest : (Int64.ofNat longestLifetime).toInt = 2592000 := by decide
  rw [seconds, toInt_min, toInt_getD_signed?, Int64.toInt_maxValue, hlongest, believed,
    longestLifetime]
  omega

/-- A span of time in seconds. Its milliseconds, forward or backward, are a signed number of 64
bits. -/
structure Span where
  seconds : Int64
  fits : 1000 * seconds.toInt.natAbs ≤ Int64.maxValue.toInt

theorem seconds_fits (lifetime : UInt64) :
    1000 * (seconds lifetime).toInt.natAbs ≤ Int64.maxValue.toInt := by
  rw [toInt_seconds, Int64.toInt_maxValue, believed, longestLifetime]
  omega

def Span.after? (span : Span) (now : Instant) : Option Instant :=
  let later := now + span.seconds.toInt * second
  if later ≤ latest then some later else none

/-- The end of a token that is granted now, unless it lies beyond all instants. -/
def expiry? (now : Instant) (lifetime : UInt64) : Option Instant :=
  Span.after? ⟨seconds lifetime, seconds_fits lifetime⟩ now

theorem expiry?_eq (now : Instant) (lifetime : UInt64) :
    expiry? now lifetime =
      if now + believed lifetime * second ≤ latest then some (now + believed lifetime * second)
      else none := by
  rw [expiry?, Span.after?, toInt_seconds]

def isUsable (expiry now : Instant) : Bool := now + margin ≤ expiry

end ToastRelay.Token
