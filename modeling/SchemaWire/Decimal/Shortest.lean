/-!
The fewest decimal digits that read back as a given binary fraction, found in exact arithmetic.
A finite float is `m * 2^q`; the reals that round to it form an interval around it, and of all
decimals in that interval the one with the fewest digits, then the nearest, is chosen.
-/
namespace SchemaWire.Decimal

def twoTo (n : Nat) : Nat := Nat.pow 2 n

def tenTo (n : Nat) : Nat := Nat.pow 10 n

/-- The widths of the fraction and exponent fields of a binary float. -/
structure FloatFormat where
  fractionBits : Nat
  exponentBits : Nat
deriving DecidableEq, Repr

def FloatFormat.single : FloatFormat := ⟨23, 8⟩
def FloatFormat.double : FloatFormat := ⟨52, 11⟩

/-- What a bit pattern stands for. A finite magnitude is `significand * 2^power`; it is `narrow`
when the float below it is only half as far away as the one above. -/
inductive FloatValue where
  | nan
  | infinite (negative : Bool)
  | finite (negative : Bool) (significand : Nat) (power : Int) (narrow : Bool)
deriving DecidableEq, Repr

def FloatFormat.read (format : FloatFormat) (bits : Nat) : FloatValue :=
  let fraction := bits % twoTo format.fractionBits
  let exponent := bits / twoTo format.fractionBits % twoTo format.exponentBits
  let negative := bits / twoTo (format.fractionBits + format.exponentBits) % 2 == 1
  let least : Int := 2 - (twoTo (format.exponentBits - 1) : Int) - format.fractionBits
  if exponent == twoTo format.exponentBits - 1 then
    if fraction == 0 then .infinite negative else .nan
  else if exponent == 0 then .finite negative fraction least false
  else .finite negative (twoTo format.fractionBits + fraction) (least + exponent - 1)
    (fraction == 0 && exponent != 1)

/-- Which of two equally near decimals is taken. -/
inductive Tie where
  | up
  | toEven
deriving DecidableEq, Repr

/-- Significant digits, the first of them standing at `10^exponent`. -/
structure Digits where
  digits : List Char
  exponent : Int
deriving DecidableEq, Repr

def digitCount (n : Nat) : Nat := (Nat.toDigits 10 n).length

/-- The power of ten at or just below `num / den`. -/
def leadingExponent (num den : Nat) : Int :=
  if den ≤ num then (digitCount (num / den) : Int) - 1
  else -(digitCount ((den + num - 1) / num - 1) : Int)

/-- The interval of reals that round to a float, its ends and its middle over one denominator. -/
structure Interval where
  low : Nat
  middle : Nat
  high : Nat
  den : Nat
  closed : Bool

/-- The interval around `significand * 2^power`; an even significand owns the ends. -/
def Interval.around (significand : Nat) (power : Int) (narrow : Bool) : Interval :=
  let scale := twoTo (power - 2).toNat
  { low := (4 * significand - if narrow then 1 else 2) * scale
    middle := 4 * significand * scale
    high := (4 * significand + 2) * scale
    den := twoTo (2 - power).toNat
    closed := significand % 2 == 0 }

/-- `count` units of `10^unit` lie in the interval. -/
def Interval.holds (i : Interval) (unit : Int) (count : Nat) : Bool :=
  let point := count * tenTo unit.toNat * i.den
  let scale := tenTo (-unit).toNat
  if i.closed then i.low * scale ≤ point && point ≤ i.high * scale
  else i.low * scale < point && point < i.high * scale

/-- The neighbour of the middle on the grid of `10^unit` that lies in the interval, if any. -/
def Interval.nearest? (i : Interval) (tie : Tie) (unit : Int) : Option Nat :=
  let num := i.middle * tenTo (-unit).toNat
  let den := i.den * tenTo unit.toNat
  let below := num / den
  match i.holds unit below, i.holds unit (below + 1) with
  | false, false => none
  | true, false => some below
  | false, true => some (below + 1)
  | true, true =>
    let twice := 2 * (num % den)
    if twice < den then some below
    else if den < twice then some (below + 1)
    else match tie with
      | .up => some (below + 1)
      | .toEven => some (if below % 2 == 0 then below else below + 1)

/-- Digits of `count` units of `10^unit`, without trailing zeros. -/
def Digits.ofUnits (count : Nat) (unit : Int) : Digits :=
  let all := Nat.toDigits 10 count
  { digits := (all.reverse.dropWhile (· == '0')).reverse, exponent := unit + all.length - 1 }

/-- Tries grids of more and more digits; `more` bounds how many are left to try. -/
def Interval.search (i : Interval) (tie : Tie) : (more : Nat) → (unit : Int) → Digits
  | 0, unit => Digits.ofUnits (i.middle * tenTo (-unit).toNat / (i.den * tenTo unit.toNat)) unit
  | more + 1, unit =>
    match i.nearest? tie unit with
    | some count => Digits.ofUnits count unit
    | none => Interval.search i tie more (unit - 1)

/-- The shortest digits of a positive magnitude; seventeen always suffice. -/
def shortest (tie : Tie) (significand : Nat) (power : Int) (narrow : Bool) : Digits :=
  let i := Interval.around significand power narrow
  i.search tie 17 (leadingExponent i.middle i.den)

end SchemaWire.Decimal
