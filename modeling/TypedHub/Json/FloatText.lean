import TypedHub.Decimal.Shortest
import TypedHub.Json.Value

/-!
# Floating point numbers as text

Reading takes the digits of a number as a 64-bit significand and a power of ten, and scales the
significand by that power in floating point arithmetic: one rounding for the significand, one for
the product or quotient. Writing takes the shortest digits that read back and lays them out.
-/

namespace TypedHub.Json

/-! ## Reading -/

/-- The float nearest to `10 ^ exponent`. -/
def powerOfTen (exponent : Nat) : Float := Float.ofScientific 1 false exponent

/-- The largest power of ten that is a finite float. -/
def maxPower : Nat := 308

/-- `x` divided by `10 ^ exponent`, in steps of at most `10 ^ maxPower`. -/
def scaleDown (x : Float) (exponent : Nat) : Float :=
  if exponent ≤ maxPower then x / powerOfTen exponent
  else if x == 0 then x
  else scaleDown (x / powerOfTen maxPower) (exponent - maxPower)
termination_by exponent
decreasing_by simp only [maxPower] at *; omega

/-- The significand times `10 ^ exponent`, or nothing where that is beyond the finite floats. -/
def scaled? (significand : Nat) (exponent : Int) : Option Float :=
  let x := significand.toUInt64.toFloat
  match exponent with
  | .negSucc n => some (scaleDown x (n + 1))
  | .ofNat n =>
    if n ≤ maxPower then
      let product := x * powerOfTen n
      if product.isInf then none else some product
    else if x == 0 then some x
    else none

/-! ## Writing -/

/-- How digits are laid out: positional between two exponents, with an exponent outside. -/
structure FloatLayout where
  leastPositional : Int
  greatestPositional : Int

/-- Numbers from 0.00001 to below 10^16 are positional. -/
def floatLayout : FloatLayout := ⟨-5, 15⟩

/-- Positional notation always has a fraction. -/
def positional (number : Decimal.Digits) : List Char :=
  let digits := number.digits
  match number.exponent with
  | .negSucc n => ['0', '.'] ++ List.replicate n '0' ++ digits
  | .ofNat n =>
    let whole := digits.take (n + 1)
    let fraction := digits.drop (n + 1)
    whole ++ List.replicate (n + 1 - whole.length) '0' ++
      '.' :: (if fraction.isEmpty then ['0'] else fraction)

/-- Scientific notation has a fraction only if there is more than one digit, and always the sign of
the exponent. -/
def scientific (number : Decimal.Digits) : List Char :=
  let fraction := number.digits.drop 1
  number.digits.take 1 ++ (if fraction.isEmpty then [] else '.' :: fraction) ++
    ['e', if number.exponent < 0 then '-' else '+'] ++ Nat.toDigits 10 number.exponent.natAbs

/-- The value of the bit that holds the sign of a float. -/
def signWeight : Nat := Nat.pow 2 63

/-- The text of a finite float: the shortest digits that read back. -/
def floatText (x : Float) : String :=
  let bits := x.toBits.toNat
  let magnitude := bits % signWeight
  let sign := if bits / signWeight = 0 then [] else ['-']
  let unsigned :=
    if magnitude = 0 then ['0', '.', '0']
    else
      let number := Decimal.shortest magnitude
      if floatLayout.leastPositional ≤ number.exponent &&
          number.exponent ≤ floatLayout.greatestPositional then positional number
      else scientific number
  String.ofList (sign ++ unsigned)

/-- The text of a number. -/
def Number.text : Number → String
  | .integer value => toString value
  | .float value => floatText value

end TypedHub.Json
