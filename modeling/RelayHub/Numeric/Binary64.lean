/-
Binary floating point numbers of 64 bits, on whole numbers.

A finite number is a mantissa below `2 ^ 53` times a power of two no smaller
than `2 ^ -1074`. Rounding a quotient of natural numbers to the nearest such
number, a tie to the even mantissa, gives products and quotients without any
floating point operation. The text of a number has the fewest digits that
read back as it, found by trying one digit, two digits, and so on up to
seventeen, on the exact value.
-/
import RelayHub.Numeric.Power

set_option autoImplicit false

namespace RelayHub

/-- The finite number `mantissa * 2 ^ exponent`, or its negation. -/
structure Binary64 where
  negative : Bool
  mantissa : Nat
  exponent : Int
deriving DecidableEq, Repr

namespace Binary64

/-! ## Rounding -/

/-- A quotient times `2 ^ -e`, as a quotient. -/
def scale (num den : Nat) (e : Int) : Nat × Nat :=
  (num * twoTo (-e).toNat, den * twoTo e.toNat)

/-- The whole number nearest a quotient; a tie goes to the even one. -/
def roundHalfEven (num den : Nat) : Nat :=
  let low := num / den
  let twice := 2 * (num % den)
  if twice < den then low
  else if den < twice then low + 1
  else low + low % 2

/-- The nearest mantissa and exponent to a quotient, or nothing when it lies
past the largest finite number. -/
def roundQuotient (num den : Nat) : Option (Nat × Int) :=
  if num = 0 then some (0, -1074)
  else
    let guess : Int := (Nat.log2 num : Int) - (Nat.log2 den : Int) - 52
    let (n, d) := scale num den guess
    let fitted := if n < twoTo 52 * d then guess - 1 else guess
    let e := max fitted (-1074)
    let (n, d) := scale num den e
    let m := roundHalfEven n d
    let (m, e) := if m = twoTo 53 then (twoTo 52, e + 1) else (m, e)
    if 971 < e then none else some (m, e)

/-- The number nearest a quotient. -/
def ofQuotient? (negative : Bool) (num den : Nat) : Option Binary64 :=
  (roundQuotient num den).map fun (m, e) => ⟨negative, m, e⟩

/-- The number nearest a natural number below `2 ^ 64`; there always is one. -/
def ofWord (negative : Bool) (n : Nat) : Binary64 :=
  (ofQuotient? negative n 1).getD ⟨negative, 0, 0⟩

/-- The size of a number, as a quotient. -/
def size (x : Binary64) : Nat × Nat :=
  (x.mantissa * twoTo x.exponent.toNat, twoTo (-x.exponent).toNat)

/-- Whether a number is zero of either sign. -/
def isZero (x : Binary64) : Bool :=
  x.mantissa == 0

/-- The product, rounded; nothing when it is not finite. -/
def mul? (x y : Binary64) : Option Binary64 :=
  ofQuotient? (x.negative != y.negative) (x.size.1 * y.size.1) (x.size.2 * y.size.2)

/-- The quotient by a number that is not zero, rounded. -/
def div? (x y : Binary64) : Option Binary64 :=
  ofQuotient? (x.negative != y.negative) (x.size.1 * y.size.2) (x.size.2 * y.size.1)

/-- The number nearest a power of ten that is at most `10 ^ 308`. -/
def powerOfTen (n : Nat) : Binary64 :=
  (ofQuotient? false (tenTo n) 1).getD ⟨false, 0, 0⟩

/-! ## The fewest digits -/

/-- The exponent of the leading digit of a quotient that is not zero. -/
def leadingExponent (num den : Nat) : Int :=
  let guess := ((Nat.log2 num : Int) - (Nat.log2 den : Int)) * 30103 / 100000
  let reaches (x : Int) : Bool := den * tenTo x.toNat ≤ num * tenTo (-x).toNat
  (([guess + 2, guess + 1, guess, guess - 1].find? reaches).getD (guess - 2))

/-- The ends of the interval of values that round to a number, as numerators
over `den`, and whether the ends belong to it. -/
structure Interval where
  low : Nat
  value : Nat
  high : Nat
  den : Nat
  closed : Bool

/-- The interval of a number: half way to each neighbour. The neighbour below
a power of two is nearer than the one above. -/
def interval (x : Binary64) : Interval :=
  let unit := twoTo x.exponent.toNat
  let below := if x.mantissa = twoTo 52 ∧ -1074 < x.exponent then 1 else 2
  { low := (4 * x.mantissa - below) * unit
    value := 4 * x.mantissa * unit
    high := (4 * x.mantissa + 2) * unit
    den := 4 * twoTo (-x.exponent).toNat
    closed := x.mantissa % 2 == 0 }

/-- Whether `c * 10 ^ unit` lies in the interval. -/
def Interval.holds (i : Interval) (c : Nat) (unit : Int) : Bool :=
  let v := c * tenTo unit.toNat * i.den
  let s := tenTo (-unit).toNat
  if i.closed then i.low * s ≤ v && v ≤ i.high * s else i.low * s < v && v < i.high * s

/-- The multiple of `10 ^ unit` in the interval that is nearest its value. -/
def Interval.nearest? (i : Interval) (unit : Int) : Option Nat :=
  let num := i.value * tenTo (-unit).toNat
  let den := i.den * tenTo unit.toNat
  let low := num / den
  let near := roundHalfEven num den
  let far := if near = low then low + 1 else low
  if i.holds near unit then some near
  else if i.holds far unit then some far
  else none

/-- A natural number without the zeros at its end, and how many there were. -/
def dropZeros : Nat → Nat → Nat × Nat
  | 0, n => (n, 0)
  | fuel + 1, n =>
    if n ≠ 0 ∧ n % 10 = 0 then
      let (m, k) := dropZeros fuel (n / 10)
      (m, k + 1)
    else (n, 0)

/-- The shortest decimal of a number that is not zero: its digits and the
power of ten of the last one. -/
def shortest (x : Binary64) : Nat × Int :=
  let i := x.interval
  let lead := leadingExponent i.value i.den
  let tries := (List.range 17).filterMap fun (n : Nat) =>
    let unit := lead - (n : Int)
    (i.nearest? unit).map fun c => (c, unit)
  match tries.head? with
  | none => (x.mantissa, 0)
  | some (c, unit) =>
    let (m, k) := dropZeros 17 c
    (m, unit + k)

/-! ## Text -/

/-- The text of a number. Its digits stand around a point when the exponent of
the leading one is between -5 and 15; otherwise one digit stands before the
point and the exponent is written with its sign. -/
def text (x : Binary64) : String :=
  let sign := if x.negative then "-" else ""
  if x.isZero then sign ++ "0.0"
  else
    let (c, unit) := x.shortest
    let digits := Nat.toDigits 10 c
    let lead := unit + (digits.length : Int) - 1
    let body :=
      if 0 ≤ unit ∧ lead ≤ 15 then
        String.ofList (digits ++ List.replicate unit.toNat '0') ++ ".0"
      else if 0 ≤ lead ∧ lead ≤ 15 then
        let whole := lead.toNat + 1
        String.ofList (digits.take whole) ++ "." ++ String.ofList (digits.drop whole)
      else if -5 ≤ lead ∧ lead < 0 then
        "0." ++ String.ofList (List.replicate (-lead - 1).toNat '0' ++ digits)
      else
        let tail := if digits.length = 1 then "" else "." ++ String.ofList (digits.drop 1)
        let power := (if lead < 0 then "-" else "+") ++ toString lead.natAbs
        String.ofList (digits.take 1) ++ tail ++ "e" ++ power
    sign ++ body

end Binary64

end RelayHub
