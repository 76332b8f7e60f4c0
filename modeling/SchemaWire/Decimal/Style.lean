import SchemaWire.Decimal.Shortest

/-! Floats as text: where the decimal point goes and when an exponent is written. -/
namespace SchemaWire.Decimal

/-- The decisions of a float format that its digits do not settle. -/
structure FloatStyle where
  /-- Exponents from `leastFixed` to `greatestFixed` are written positionally. -/
  leastFixed : Int
  greatestFixed : Int
  /-- A positive exponent carries a plus sign. -/
  plus : Bool
  tie : Tie
  nan : String
  infinity : String
  negativeInfinity : String

/-- Digits around a decimal point, with at least one on either side. -/
def Digits.fixed (d : Digits) : List Char :=
  if d.exponent < 0 then
    ['0', '.'] ++ List.replicate (-d.exponent - 1).toNat '0' ++ d.digits
  else
    let whole := d.exponent.toNat + 1
    let head := d.digits.take whole
    let tail := d.digits.drop whole
    head ++ List.replicate (whole - head.length) '0' ++ '.' :: (if tail.isEmpty then ['0'] else tail)

/-- One digit, the others behind a point, and a power of ten. -/
def Digits.scientific (d : Digits) (plus : Bool) : List Char :=
  let tail := d.digits.drop 1
  d.digits.take 1 ++ (if tail.isEmpty then [] else '.' :: tail) ++ ['e'] ++
    (if plus && 0 ≤ d.exponent then ['+'] else []) ++ (toString d.exponent).toList

def FloatStyle.render (style : FloatStyle) (format : FloatFormat) (bits : Nat) : String :=
  match format.read bits with
  | .nan => style.nan
  | .infinite false => style.infinity
  | .infinite true => style.negativeInfinity
  | .finite negative significand power narrow =>
    let magnitude :=
      if significand == 0 then ['0', '.', '0']
      else
        let d := shortest style.tie significand power narrow
        if style.leastFixed ≤ d.exponent && d.exponent ≤ style.greatestFixed then d.fixed
        else d.scientific style.plus
    String.ofList (if negative then '-' :: magnitude else magnitude)

/-- Readable dumps: positional from `0.0001` up to below `10^16`. -/
def FloatStyle.dump : FloatStyle where
  leastFixed := -4
  greatestFixed := 15
  plus := false
  tie := .up
  nan := "NaN"
  infinity := "inf"
  negativeInfinity := "-inf"

/-- JSON numbers; what has no number is `null`. The positional range depends on the width. -/
def FloatStyle.json (format : FloatFormat) : FloatStyle where
  leastFixed := if format == .single then -6 else -5
  greatestFixed := if format == .single then 12 else 15
  plus := true
  tie := .toEven
  nan := "null"
  infinity := "null"
  negativeInfinity := "null"

end SchemaWire.Decimal
