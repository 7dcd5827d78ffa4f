import SelectGraph.Text.Parts

/-!
# Durations

A duration is a whole number of nanoseconds. It is written with the units hours, minutes and
seconds, or, below a second, with the largest unit that gives a whole part.
-/

namespace SelectGraph

/-- A span of time in nanoseconds. -/
structure Duration where
  nanoseconds : Int
  deriving DecidableEq, Inhabited, Repr

namespace Duration

def perSecond : Nat := 1000000000

def ofSeconds (count : Int) : Duration := ⟨count * perSecond⟩

/-- A whole number of units with the fraction that is left, without trailing zeros. -/
def withFraction (places value : Nat) : String :=
  let whole := value / Nat.pow 10 places
  let digits := (Text.paddedDigits places (value % Nat.pow 10 places)).toList
  let kept := (digits.reverse.dropWhile (· == '0')).reverse
  toString whole ++ (if kept.isEmpty then "" else "." ++ String.ofList kept)

def magnitudeText (value : Nat) : String :=
  if value = 0 then "0s"
  else if value < 1000 then toString value ++ "ns"
  else if value < 1000000 then withFraction 3 value ++ "µs"
  else if value < perSecond then withFraction 6 value ++ "ms"
  else
    let minutes := value / perSecond / 60
    let seconds := withFraction 9 (value - minutes * 60 * perSecond) ++ "s"
    if minutes = 0 then seconds
    else if minutes < 60 then toString minutes ++ "m" ++ seconds
    else toString (minutes / 60) ++ "h" ++ toString (minutes % 60) ++ "m" ++ seconds

def toText (duration : Duration) : String :=
  (if duration.nanoseconds < 0 then "-" else "") ++ magnitudeText duration.nanoseconds.natAbs

def unit? : String → Option Nat
  | "ns" => some 1
  | "us" | "µs" | "μs" => some 1000
  | "ms" => some 1000000
  | "s" => some perSecond
  | "m" => some (60 * perSecond)
  | "h" => some (3600 * perSecond)
  | _ => none

inductive Fault where
  | malformed
  | missingUnit
  | unknownUnit (unit : String)
  deriving DecidableEq

/-- The largest span, in nanoseconds. -/
def largest : Nat := Nat.pow 2 63

/-- The sum of the parts of a text: numbers, each with a unit. The fraction of a number counts as
far as whole nanoseconds. -/
def partsWithin : Nat → Nat → List Char → Except Fault Nat
  | 0, _, _ => .error .malformed
  | _ + 1, total, [] => .ok total
  | count + 1, total, chars =>
    let whole := chars.takeWhile Text.isDigit
    let rest := chars.drop whole.length
    let (fraction, rest) := match rest with
      | '.' :: rest =>
        (rest.takeWhile Text.isDigit, rest.dropWhile Text.isDigit)
      | rest => ([], rest)
    let unitChars := rest.takeWhile fun c => c != '.' && !Text.isDigit c
    let rest := rest.drop unitChars.length
    if whole.isEmpty ∧ fraction.isEmpty then
      .error .malformed
    else if Text.digitsValue whole > largest then .error .malformed
    else if unitChars.isEmpty then .error .missingUnit
    else
      match unit? (String.ofList unitChars) with
      | none => .error (.unknownUnit (String.ofList unitChars))
      | some unit =>
        let value := Text.digitsValue whole * unit +
          Text.digitsValue fraction * unit / Nat.pow 10 fraction.length
        if total + value > largest then .error .malformed
        else partsWithin count (total + value) rest

/-- Read a duration: an optional sign, then numbers with units; a bare zero needs no unit. -/
def read (text : String) : Except Fault Duration :=
  let (isNegative, chars) := match text.toList with
    | '-' :: rest => (true, rest)
    | '+' :: rest => (false, rest)
    | chars => (false, chars)
  if chars = ['0'] then .ok ⟨0⟩
  else if chars.isEmpty then .error .malformed
  else
    match partsWithin (chars.length + 1) 0 chars with
    | .error fault => .error fault
    | .ok value =>
      if isNegative then .ok ⟨-(value : Int)⟩
      else if value ≥ largest then .error .malformed
      else .ok ⟨value⟩

end Duration

end SelectGraph
