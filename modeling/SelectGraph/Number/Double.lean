import SelectGraph.Text.Parts

/-!
# Double precision numbers

A double is the 64 bits of its binary interchange format, so equality is decidable and
every bit pattern is a value. Reading a decimal rounds it to the nearest double, ties to
the even significand. The shortest decimal of a double is the one with the fewest digits
that reads back as the same double, and among those the nearest to it.
-/

namespace SelectGraph

open List

/-- A double precision number, given by its 64 bits. -/
structure Double where
  bits : UInt64
  deriving DecidableEq, Inhabited

namespace Double

def negative (d : Double) : Bool :=
  Nat.pow 2 63 ≤ d.bits.toNat

def exponentBits (d : Double) : Nat :=
  d.bits.toNat / Nat.pow 2 52 % Nat.pow 2 11

def fractionBits (d : Double) : Nat :=
  d.bits.toNat % Nat.pow 2 52

/-- Whether the double is neither an infinity nor a NaN. -/
def isFinite (d : Double) : Bool :=
  d.exponentBits != 2047

/-- The integer significand and the power of two of a finite double's magnitude. -/
def magnitude (d : Double) : Nat × Int :=
  if d.exponentBits = 0 then (d.fractionBits, -1074)
  else (Nat.pow 2 52 + d.fractionBits, Int.ofNat d.exponentBits - 1075)

/-- The integer part of a finite double, toward zero. -/
def truncate? (d : Double) : Option Int :=
  if !d.isFinite then none
  else
    let (significand, power) := d.magnitude
    let size : Nat :=
      if 0 ≤ power then significand * Nat.pow 2 power.toNat else significand / Nat.pow 2 (-power).toNat
    some (if d.negative then -(Int.ofNat size) else Int.ofNat size)

/-- The quotient rounded to the nearest integer, a half to the even neighbour. -/
def roundHalfEven (numerator denominator : Nat) : Nat :=
  let quotient := numerator / denominator
  let twice := 2 * (numerator % denominator)
  if twice < denominator then quotient
  else if twice = denominator then quotient + quotient % 2
  else quotient + 1

/-- The largest `e` with `2 ^ e ≤ numerator / denominator`, for positive arguments. -/
def floorLog2 (numerator denominator : Nat) : Int :=
  let guess : Int := Int.ofNat numerator.log2 - Int.ofNat denominator.log2
  let fits : Bool :=
    if 0 ≤ guess then denominator * Nat.pow 2 guess.toNat ≤ numerator
    else denominator ≤ numerator * Nat.pow 2 (-guess).toNat
  if fits then guess else guess - 1

/-- The double nearest to a positive fraction, or `none` when it exceeds all doubles. -/
def ofFraction? (isNegative : Bool) (numerator denominator : Nat) : Option Double :=
  let power : Int := max (floorLog2 numerator denominator - 52) (-1074)
  let significand :=
    if 0 ≤ power then roundHalfEven numerator (denominator * Nat.pow 2 power.toNat)
    else roundHalfEven (numerator * Nat.pow 2 (-power).toNat) denominator
  let (significand, power) :=
    if significand = Nat.pow 2 53 then (Nat.pow 2 52, power + 1) else (significand, power)
  let sign := if isNegative then Nat.pow 2 63 else 0
  if power > 971 then none
  else if significand < Nat.pow 2 52 then some ⟨UInt64.ofNat (sign + significand)⟩
  else some ⟨UInt64.ofNat (sign + (power + 1075).toNat * Nat.pow 2 52 + (significand - Nat.pow 2 52))⟩

def zero (isNegative : Bool) : Double :=
  ⟨if isNegative then 0x8000000000000000 else 0⟩

/-- The double nearest to `digits * 10 ^ exponent`, or `none` when it exceeds all doubles. -/
def ofDecimal? (isNegative : Bool) (digits : Nat) (exponent : Int) : Option Double :=
  let size : Int := Int.ofNat (Nat.toDigits 10 digits).length + exponent
  if digits = 0 then some (zero isNegative)
  else if size > 310 then none
  else if size < -330 then some (zero isNegative)
  else if 0 ≤ exponent then ofFraction? isNegative (digits * Nat.pow 10 exponent.toNat) 1
  else ofFraction? isNegative digits (Nat.pow 10 (-exponent).toNat)

/-- The double of an integer; every integer a message or a setting holds is in range. -/
def ofInt (value : Int) : Double :=
  (ofDecimal? (value < 0) value.natAbs 0).getD (zero false)

/-- A decimal in scientific form: `digits * 10 ^ exponent`, read with a sign. -/
structure Decimal where
  negative : Bool
  digits : Nat
  exponent : Int

/-- Read `[+-]digits[.digits][(e|E)[+-]digits]`, with at least one digit in the significand. -/
def Decimal.read? (chars : List Char) : Option Decimal :=
  let (isNegative, chars) := match chars with
    | '-' :: rest => (true, rest)
    | '+' :: rest => (false, rest)
    | rest => (false, rest)
  let whole := chars.takeWhile Text.isDigit
  let chars := chars.dropWhile Text.isDigit
  let (fraction, chars) := match chars with
    | '.' :: rest => (rest.takeWhile Text.isDigit, rest.dropWhile Text.isDigit)
    | rest => ([], rest)
  if whole.isEmpty && fraction.isEmpty then none
  else
    let digits := Text.digitsValue (whole ++ fraction)
    let shift : Int := -(Int.ofNat fraction.length)
    match chars with
    | [] => some ⟨isNegative, digits, shift⟩
    | mark :: rest =>
      if mark = 'e' || mark = 'E' then
        let (down, exponent) := match rest with
          | '-' :: rest => (true, rest)
          | '+' :: rest => (false, rest)
          | rest => (false, rest)
        if exponent.isEmpty || !exponent.all Text.isDigit then none
        else
          let power := Int.ofNat (Text.digitsValue exponent)
          some ⟨isNegative, digits, shift + if down then -power else power⟩
      else none

inductive ReadError where
  | malformed
  | outOfRange
  deriving DecidableEq

def read (text : String) : Except ReadError Double :=
  match Decimal.read? text.toList with
  | none => .error .malformed
  | some decimal =>
    match ofDecimal? decimal.negative decimal.digits decimal.exponent with
    | none => .error .outOfRange
    | some d => .ok d

/-- The largest `e` with `10 ^ e ≤ numerator / denominator`, for positive arguments. -/
def floorLog10 (numerator denominator : Nat) : Int :=
  let guess : Int :=
    Int.ofNat (Nat.toDigits 10 numerator).length - Int.ofNat (Nat.toDigits 10 denominator).length
  let fits : Bool :=
    if 0 ≤ guess then denominator * Nat.pow 10 guess.toNat ≤ numerator
    else denominator ≤ numerator * Nat.pow 10 (-guess).toNat
  if fits then guess else guess - 1

/-- Whether a decimal with this many digits lies in the interval of reals that round to the
double; the first of the two grid neighbours of the value that does, the nearer one first. -/
def gridHit? (low value high denominator : Nat) (closed : Bool) (exponent : Int) : Option Nat :=
  let up := if 0 ≤ exponent then Nat.pow 10 exponent.toNat else 1
  let down := if 0 ≤ exponent then 1 else Nat.pow 10 (-exponent).toNat
  let unit := denominator * up
  let below := value * down / unit
  let inside (candidate : Nat) : Bool :=
    let scaled := candidate * unit
    if closed then low * down ≤ scaled && scaled ≤ high * down
    else low * down < scaled && scaled < high * down
  let belowFirst : Bool := 2 * (value * down - below * unit) ≤ unit
  let order := if belowFirst then [below, below + 1] else [below + 1, below]
  order.find? inside

/-- The digits and the power of ten of the shortest decimal of a positive finite double. -/
def shortestOf (significand : Nat) (power : Int) : Nat × Int :=
  let lowGap := if significand = Nat.pow 2 52 ∧ power > -1074 then 1 else 2
  let scale := if 0 ≤ power - 2 then Nat.pow 2 (power - 2).toNat else 1
  let denominator := if 0 ≤ power - 2 then 1 else Nat.pow 2 (2 - power).toNat
  let value := 4 * significand * scale
  let low := (4 * significand - lowGap) * scale
  let high := (4 * significand + 2) * scale
  let closed := significand % 2 == 0
  let top := floorLog10 value denominator
  let hits := (range 17).filterMap fun count =>
    let exponent := top - Int.ofNat count
    (gridHit? low value high denominator closed exponent).map fun digits => (digits, exponent)
  hits.headD (0, 0)

/-- Drop trailing zeros of a digit string, raising the exponent. -/
def stripZeros (digits : List Char) (exponent : Int) : List Char × Int :=
  let kept := (digits.reverse.dropWhile (· == '0')).reverse
  (kept, exponent + Int.ofNat (digits.length - kept.length))

/-- The significant digits of a finite double and the position of its decimal point: the value
is `0.d₁d₂… * 10 ^ point`. Zero has the digit string `0` with its point after it. -/
def decimalForm (d : Double) : List Char × Int :=
  let (significand, power) := d.magnitude
  if significand = 0 then (['0'], 1)
  else
    let (digits, exponent) := shortestOf significand power
    let (text, exponent) := stripZeros (Nat.toDigits 10 digits) exponent
    (text, Int.ofNat text.length + exponent)

def positional (digits : List Char) (point : Int) : List Char :=
  if point ≤ 0 then '0' :: '.' :: replicate (-point).toNat '0' ++ digits
  else
    let whole := point.toNat
    if digits.length ≤ whole then digits ++ replicate (whole - digits.length) '0'
    else digits.take whole ++ '.' :: digits.drop whole

/-- Exponent notation with at least `width` exponent digits. -/
def scientific (width : Nat) (digits : List Char) (point : Int) : List Char :=
  let exponent := point - 1
  let mantissa := match digits with
    | [] => []
    | [first] => [first]
    | first :: rest => first :: '.' :: rest
  let power := Nat.toDigits 10 exponent.natAbs
  mantissa ++ 'e' :: (if exponent < 0 then '-' else '+') ::
    (replicate (width - power.length) '0' ++ power)

/-- Which decimal exponents are written positionally, and the least width of an exponent. -/
structure Style where
  least : Int
  bound : Int
  width : Nat

def isNaN (d : Double) : Bool :=
  !d.isFinite && d.fractionBits != 0

/-- The place of a double among all doubles; both zeros have the same place. -/
def place (d : Double) : Int :=
  let distance : Int := (Nat.pow 2 52 * d.exponentBits + d.fractionBits : Nat)
  if d.negative then -distance else distance

/-- Whether a double is less than another; what is no number is neither less nor greater. -/
def less (left right : Double) : Bool :=
  !left.isNaN && !right.isNaN && left.place < right.place

/-- Render a double; infinities and NaN have fixed names. -/
def render (style : Style) (d : Double) : String :=
  if !d.isFinite then
    if d.fractionBits != 0 then "NaN" else if d.negative then "-Inf" else "+Inf"
  else
    let (digits, point) := d.decimalForm
    let body :=
      if d.magnitude.1 != 0 && (point - 1 < style.least || style.bound ≤ point - 1) then
        scientific style.width digits point
      else positional digits point
    String.ofList (if d.negative then '-' :: body else body)

/-- JSON numbers are positional from `10 ^ -6` up to below `10 ^ 21`, exponents unpadded. -/
def toJsonText (d : Double) : String :=
  render ⟨-6, 21, 1⟩ d

/-- The text of a double in messages and argument lists: exponents from `-4` up to `5` are
written positionally, all others with at least two exponent digits. -/
def toText (d : Double) : String :=
  render ⟨-4, 6, 2⟩ d

end Double

end SelectGraph

namespace SelectGraph.Word

/-! ## Words

The integers that fit words of 64 bits. -/

/-- One more than the greatest signed integer of 64 bits. -/
def signedLimit : Int := 9223372036854775808

/-- One more than the greatest unsigned integer of 64 bits. -/
def unsignedLimit : Nat := 18446744073709551616

def fitsSigned (value : Int) : Bool :=
  decide (-signedLimit ≤ value ∧ value < signedLimit)

end SelectGraph.Word
