import StatementLine.Host.ByteText

/-! Binary floating point numbers as fractions, and their texts. Every rounding goes to the nearest,
and to the even of two that are equally near. -/

namespace StatementLine.Host

structure Fraction where
  numerator : Nat
  denominator : Nat
deriving Repr, DecidableEq

namespace Fraction

def roundQuotient (numerator denominator : Nat) : Nat :=
  let quotient := numerator / denominator
  let twice := 2 * (numerator % denominator)
  if twice < denominator ∨ (twice = denominator ∧ quotient % 2 = 0) then quotient else quotient + 1

def scaled (base : Nat) (power : Int) (fraction : Fraction) : Nat :=
  if power < 0 then
    roundQuotient (fraction.numerator * Nat.pow base power.natAbs) fraction.denominator
  else roundQuotient fraction.numerator (fraction.denominator * Nat.pow base power.natAbs)

def ofScaled (base digits : Nat) (power : Int) : Fraction :=
  if power < 0 then ⟨digits, Nat.pow base power.natAbs⟩ else ⟨digits * Nat.pow base power.natAbs, 1⟩

def bits : Nat := 53

/-- The nearest number with so many binary digits, and the power of two that its digits count. -/
def mantissa (fraction : Fraction) : Nat × Int :=
  if fraction.numerator = 0 then (0, 0)
  else
    let power : Int := (fraction.numerator.log2 : Int) - fraction.denominator.log2 - bits
    if fraction.scaled 2 power < Nat.pow 2 bits then (fraction.scaled 2 power, power)
    else (fraction.scaled 2 (power + 1), power + 1)

def rounded (fraction : Fraction) : Fraction :=
  let (digits, power) := fraction.mantissa
  ofScaled 2 digits power

def pointed (showsPoint : Bool) (whole places : List Char) : List Char :=
  if places.isEmpty && !showsPoint then whole else whole ++ '.' :: places

def fixed (places : Nat) (showsPoint : Bool) (fraction : Fraction) : List Char :=
  let digits := (padded 10 (places + 1) (fraction.scaled 10 (-places))).toList
  let whole := digits.length - places
  pointed showsPoint (digits.take whole) (digits.drop whole)

def significant (count : Nat) (fraction : Fraction) : List Char × Int :=
  let length (value : Nat) : Int := (Nat.toDigits 10 value).length
  let guess := length fraction.numerator - length fraction.denominator
  let power := Nat.pow 10 guess.natAbs
  let reaches := if guess < 0 then fraction.denominator ≤ fraction.numerator * power
    else fraction.denominator * power ≤ fraction.numerator
  let exponent := if fraction.numerator = 0 then 0 else if reaches then guess else guess - 1
  let digits := (padded 10 count (fraction.scaled 10 (exponent - (count - 1 : Nat)))).toList
  if digits.length > count then (digits.take count, exponent + 1) else (digits, exponent)

def exponentText (letter : Char) (width : Nat) (exponent : Int) : List Char :=
  letter :: (if exponent < 0 then '-' else '+') :: (padded 10 width exponent.natAbs).toList

def scientific (places : Nat) (showsPoint : Bool) (fraction : Fraction) : List Char :=
  let (digits, exponent) := fraction.significant (places + 1)
  pointed showsPoint (digits.take 1) (digits.drop 1) ++ exponentText 'e' 2 exponent

def dropTrailingZeros (digits : List Char) : List Char :=
  (digits.reverse.dropWhile (· == '0')).reverse

/-- With a number of significant digits, in the shorter of the two ways. Zeros at the end of the
places behind the point are dropped unless the point is always shown. -/
def general (count : Nat) (showsPoint : Bool) (fraction : Fraction) : List Char :=
  let count := max 1 count
  let shown (places : List Char) : List Char :=
    if showsPoint then places else dropTrailingZeros places
  let (digits, exponent) := fraction.significant count
  if exponent < -4 || exponent ≥ count then
    pointed showsPoint (digits.take 1) (shown (digits.drop 1)) ++ exponentText 'e' 2 exponent
  else
    let text := fraction.fixed ((count : Int) - 1 - exponent).toNat true
    pointed showsPoint (text.takeWhile (· ≠ '.')) (shown ((text.dropWhile (· ≠ '.')).drop 1))

def hexadecimal (places? : Option Nat) (showsPoint : Bool) (fraction : Fraction) : List Char :=
  let (digits, power) := fraction.mantissa
  let most := (bits - 1) / 4
  let places := min (places?.getD most) most
  let digits := roundQuotient digits (Nat.pow 16 (most - places))
  let written := (padded 16 (places + 1) digits).toList
  let behind := written.drop (written.length - places)
  let behind := match places? with
    | none => dropTrailingZeros behind
    | some asked => behind ++ List.replicate (asked - places) '0'
  let exponent := if fraction.numerator = 0 then 0 else power + (bits - 1 : Nat)
  pointed showsPoint (written.take (written.length - places)) behind ++ exponentText 'p' 1 exponent

def read? (input : List Char) : Option (Bool × Fraction × List Char) :=
  let (negative, input) := cutSign (input.dropWhile isSpaceByte)
  let whole := input.takeWhile Char.isDigit
  let rest := input.drop whole.length
  let places := if rest.head? == some '.' then (rest.drop 1).takeWhile Char.isDigit else []
  let rest := if rest.head? == some '.' then rest.drop (places.length + 1) else rest
  if whole.isEmpty && places.isEmpty then none
  else
    let (isBelow, power) := cutSign (rest.drop 1)
    let digits := power.takeWhile Char.isDigit
    let hasPower := (rest.head? == some 'e' || rest.head? == some 'E') && !digits.isEmpty
    let size : Int := (min (numberIn 10 digits) 5000 : Nat)
    let exponent := if !hasPower then 0 else if isBelow then -size else size
    let rest := if hasPower then power.drop digits.length else rest
    some (negative, ofScaled 10 (numberIn 10 (whole ++ places)) (exponent - places.length), rest)

end Fraction

end StatementLine.Host
