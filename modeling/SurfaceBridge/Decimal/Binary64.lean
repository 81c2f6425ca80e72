/-! Decimal literals and the numbers of the binary64 format: rounding a literal to the nearest number, and
the shortest digits that round back to a number. -/
namespace SurfaceBridge.Decimal

/-- A binary64 number. A finite one is `mantissa * 2 ^ exponent` up to its sign. -/
inductive Binary64 where
  | finite (negative : Bool) (mantissa : Nat) (exponent : Int)
  | infinite (negative : Bool)
  | notANumber
  deriving DecidableEq

/-- The ratio of two numbers, rounded to the nearest whole number; of two equally near ones to the even one. -/
def roundHalfEven (num den : Nat) : Nat :=
  let q := num / den
  let r := 2 * (num % den)
  if r < den then q else if den < r then q + 1 else if q % 2 = 0 then q else q + 1

/-- A power of ten. -/
def tenTo (n : Nat) : Nat := Nat.pow 10 n

/-- A ratio scaled by a power of two. -/
private def scaled (num den : Nat) (exponent : Int) : Nat × Nat :=
  if 0 ≤ exponent then (num, den <<< exponent.toNat) else (num <<< (-exponent).toNat, den)

namespace Binary64

/-- The least mantissa of a number that is not subnormal: 53 binary digits. -/
def leastMantissa : Nat := 1 <<< 52

/-- The number nearest to a positive ratio. -/
def ofRatio (negative : Bool) (num den : Nat) : Binary64 :=
  let magnitude : Int := (Nat.log2 num : Int) - Nat.log2 den
  let (a, b) := scaled num den magnitude
  let exponent := max ((if a < b then magnitude - 1 else magnitude) - 52) (-1074)
  let (a, b) := scaled num den exponent
  let mantissa := roundHalfEven a b
  let (mantissa, exponent) :=
    if mantissa = 2 * leastMantissa then (leastMantissa, exponent + 1) else (mantissa, exponent)
  if exponent > 971 then infinite negative else finite negative mantissa exponent

/-- The number nearest to `digits * 10 ^ exponent`. Numbers far outside the range are not computed. -/
def ofDecimal (negative : Bool) (digits : Nat) (exponent : Int) : Binary64 :=
  let places : Int := (Nat.toDigits 10 digits).length + exponent
  if digits = 0 ∨ places < -400 then finite negative 0 (-1074)
  else if places > 400 then infinite negative
  else if 0 ≤ exponent then ofRatio negative (digits * tenTo exponent.toNat) 1
  else ofRatio negative digits (tenTo (-exponent).toNat)

end Binary64

/-- The shortest digits `d` and the power `e` for which `d * 10 ^ e` lies between the two bounds around the
value, as numerators over one denominator. The nearer of two wins, and a tie goes up. -/
def shortest (low value high den : Nat) (inclusive : Bool) : Nat × Int :=
  let inside (num : Nat) (scale : Nat) : Bool :=
    if inclusive then low * scale ≤ num && num ≤ high * scale else low * scale < num && num < high * scale
  let whole := value / den
  let top : Int :=
    if whole ≠ 0 then (Nat.toDigits 10 whole).length
    else 1 - ((List.range 400).find? fun n => den ≤ value * tenTo n).getD 400
  let attempt (count : Nat) : Option (Nat × Int) :=
    let e : Int := top - count
    let unit := if 0 ≤ e then den * tenTo e.toNat else den
    let scale := if 0 ≤ e then 1 else tenTo (-e).toNat
    let d := value * scale / unit
    let down := inside (d * unit) scale
    let up := inside ((d + 1) * unit) scale
    let rest := 2 * (value * scale % unit)
    if down && (!up || rest < unit) then some (d, e)
    else if up then some (d + 1, e)
    else none
  (((List.range 17).map (· + 1)).findSome? attempt).getD (0, 0)

/-- Digits and a power of ten without an exponent: at least one digit on both sides of the point. -/
def positional (digits : Nat) (exponent : Int) : String :=
  let ds := Nat.toDigits 10 digits
  if 0 ≤ exponent then String.ofList (ds ++ List.replicate exponent.toNat '0') ++ ".0"
  else
    let places := (-exponent).toNat
    let padded := List.replicate (places + 1 - ds.length) '0' ++ ds
    let cut := padded.length - places
    let fraction := ((padded.drop cut).reverse.dropWhile (· = '0')).reverse
    String.ofList (padded.take cut) ++ "." ++ (if fraction.isEmpty then "0" else String.ofList fraction)

/-- The shortest decimal that reads back as the number, without an exponent. -/
def Binary64.text : Binary64 → String
  | .notANumber => "NaN"
  | .infinite negative => if negative then "-inf" else "inf"
  | .finite negative mantissa exponent =>
    let sign := if negative then "-" else ""
    if mantissa = 0 then sign ++ "0.0"
    else
      let edge := mantissa = leastMantissa ∧ -1074 < exponent
      let scale := if 0 ≤ exponent then 1 <<< exponent.toNat else 1
      let den := 4 * (if 0 ≤ exponent then 1 else 1 <<< (-exponent).toNat)
      let value := 4 * mantissa * scale
      let low := value - (if edge then 1 else 2) * scale
      let high := value + 2 * scale
      let (digits, power) := shortest low value high den (mantissa % 2 = 0)
      sign ++ positional digits power

end SurfaceBridge.Decimal
