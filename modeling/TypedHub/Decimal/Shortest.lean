/-!
# The shortest decimal that reads back

A positive binary number `m * 2 ^ q` stands for all reals that round to it. Among the decimals in
that interval there are some with the fewest digits, and among those one is nearest to the number;
of two equally near ones the even one is taken.

## How it works

The number is compared with the grid of decimals with `n` significant digits, for `n = 1, 2, ...`.
Only the two grid points around the number can be the nearest one, so both are tested against the
interval, and the first grid with a hit gives the digits. Everything is exact arithmetic on natural
numbers: a grid point `d * 10 ^ k` is compared with the number by the integers `d * unit` and
`value`, where both have been multiplied by the powers of 2 and 10 that make them integers.
-/

namespace TypedHub.Decimal

/-- A positive binary number `m * 2 ^ q` with what is needed to know its neighbours: `closeBelow`
says that the next number below is only half as far away as the next one above, which is so where
`m` is the least mantissa of its exponent. -/
structure Binary where
  m : Nat
  q : Int
  closeBelow : Bool

/-- The number held by the bits of a positive 64-bit float. -/
def Binary.ofBits (bits : Nat) : Binary :=
  let fraction : Nat := bits % Nat.pow 2 52
  let exponent : Nat := bits / Nat.pow 2 52 % Nat.pow 2 11
  if exponent = 0 then ⟨fraction, -1074, false⟩
  else ⟨Nat.pow 2 52 + fraction, (exponent : Int) - 1075, fraction == 0 && exponent != 1⟩

/-- The number, the ends of its interval and the step of a grid as integers in one unit. -/
structure Scaled where
  value : Nat
  lower : Nat
  upper : Nat
  unit : Nat

/-- The number compared with the grid of multiples of `10 ^ k`. The unit is a quarter of the last
binary place, where the ends of the interval are integers. -/
def Binary.scale (x : Binary) (k : Int) : Scaled :=
  let factor := Nat.pow 2 (x.q - 2).toNat * Nat.pow 10 (-k).toNat
  { value := 4 * x.m * factor
    lower := (4 * x.m - if x.closeBelow then 1 else 2) * factor
    upper := (4 * x.m + 2) * factor
    unit := Nat.pow 2 (2 - x.q).toNat * Nat.pow 10 k.toNat }

/-- Whether the multiple `d` of the unit rounds to the number: the ends of the interval do so
exactly if the mantissa is even. -/
def Binary.contains (x : Binary) (s : Scaled) (d : Nat) : Bool :=
  if x.m % 2 = 0 then s.lower ≤ d * s.unit && d * s.unit ≤ s.upper
  else s.lower < d * s.unit && d * s.unit < s.upper

/-- The multiple of `10 ^ k` that rounds to the number and is nearest to it, if there is one. -/
def Binary.onGrid? (x : Binary) (k : Int) : Option Nat :=
  let s := x.scale k
  let below := s.value / s.unit
  let above := below + 1
  match x.contains s below, x.contains s above with
  | false, false => none
  | true, false => some below
  | false, true => some above
  | true, true =>
    let toBelow := s.value - below * s.unit
    let toAbove := above * s.unit - s.value
    if toBelow < toAbove then some below
    else if toAbove < toBelow then some above
    else some (if below % 2 = 0 then below else above)

/-- The number of decimal digits of `n`. -/
def digitCount (n : Nat) : Nat := (Nat.toDigits 10 n).length

/-- The exponent of the first significant decimal digit. -/
def Binary.leadingExponent (x : Binary) : Int :=
  let s := x.scale 0
  if s.unit ≤ s.value then (digitCount (s.value / s.unit) : Int) - 1
  else
    -- The reciprocal of a power of ten begins one place earlier than those of what lies above it.
    let places := digitCount (s.unit / s.value)
    if s.unit ≤ s.value * Nat.pow 10 (places - 1) then 1 - (places : Int) else -(places : Int)

/-- Decimal digits `d₁ d₂ ... dₙ` and the exponent `e` of the first one: the number
`d₁.d₂...dₙ * 10 ^ e`. The last digit is no zero unless it is the only one. -/
structure Digits where
  digits : List Char
  exponent : Int
  deriving DecidableEq

/-- The digits of `d * 10 ^ k` without the zeros at their end. -/
def Digits.ofMultiple (d : Nat) (k : Int) : Digits :=
  let digits := Nat.toDigits 10 d
  { digits := (digits.reverse.dropWhile (· = '0')).reverse
    exponent := k + digits.length - 1 }

/-- The decimal with `n` digits that rounds to the number and is nearest to it, if there is one. -/
def Binary.withDigits? (x : Binary) (n : Nat) : Option Digits :=
  let k := x.leadingExponent - n + 1
  (x.onGrid? k).map (Digits.ofMultiple · k)

/-- The shortest decimal that rounds to the number, the nearest one of that length. Seventeen digits
always suffice. -/
def Binary.shortest (x : Binary) : Digits :=
  ((List.range' 1 17).findSome? x.withDigits?).getD ⟨['0'], 0⟩

/-- The shortest decimal of the positive 64-bit float with the given bits. -/
def shortest (bits : Nat) : Digits := (Binary.ofBits bits).shortest

example : shortest 0x3FB999999999999A = ⟨['1'], -1⟩ := by decide +kernel

example : shortest 1 = ⟨['5'], -324⟩ := by decide +kernel

example : shortest 0x44B52D02C7E14AF6 = ⟨['1'], 23⟩ := by decide +kernel

end TypedHub.Decimal
