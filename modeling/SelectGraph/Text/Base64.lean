/-!
# Base64

Four characters of a 64 letter alphabet stand for three bytes; padding completes the last group.
Line ends are skipped.
-/

namespace SelectGraph.Text

def sextet? (c : Char) : Option Nat :=
  if 'A' ≤ c ∧ c ≤ 'Z' then some (c.toNat - 'A'.toNat)
  else if 'a' ≤ c ∧ c ≤ 'z' then some (c.toNat - 'a'.toNat + 26)
  else if '0' ≤ c ∧ c ≤ '9' then some (c.toNat - '0'.toNat + 52)
  else if c = '+' then some 62
  else if c = '/' then some 63
  else none

/-- The bytes of groups of four letters; padding may stand in the last group only. -/
def decodeGroups : List Char → Option (List UInt8)
  | [] => some []
  | [a, b, '=', '='] => do
      let value := 64 * (← sextet? a) + (← sextet? b)
      return [UInt8.ofNat (value / 16)]
  | [a, b, c, '='] => do
      let value := 4096 * (← sextet? a) + 64 * (← sextet? b) + (← sextet? c)
      return [UInt8.ofNat (value / 1024), UInt8.ofNat (value / 4)]
  | a :: b :: c :: d :: rest => do
      let value := 262144 * (← sextet? a) + 4096 * (← sextet? b) + 64 * (← sextet? c) + (← sextet? d)
      let bytes ← decodeGroups rest
      return UInt8.ofNat (value / 65536) :: UInt8.ofNat (value / 256) :: UInt8.ofNat value :: bytes
  | _ => none

def decodeBase64? (text : List Char) : Option (List UInt8) :=
  decodeGroups (text.filter fun c => c != '\n' && c != '\r')

end SelectGraph.Text
