import SelectGraph.Literal.Basic
import SelectGraph.Proofs.Json.Tokens

/-!
# Reading integers

Decimal digits, with or without a minus sign, are read as the integer they denote: as a machine
integer if there is one, and otherwise as a text, which is the digits themselves.  A plus sign is read
before an integer of the signed range only, and nothing else is read at all.
-/

namespace SelectGraph

open Json (IsDigits)

/-- The number that decimal digits denote: the last one counts ones, and each other one ten times as
much as the next. -/
def Text.placeValue (digits : List Char) : Nat :=
  Nat.ofDigits 10 (digits.reverse.map fun c => c.toNat - '0'.toNat)

theorem Text.digitsValue_eq_placeValue (digits : List Char) :
    digitsValue digits = placeValue digits := by
  induction digits using List.reverseRecOn with
  | nil => rfl
  | append_singleton digits last ih =>
    have step : digitsValue (digits ++ [last]) =
        10 * digitsValue digits + (last.toNat - '0'.toNat) := by
      simp [digitsValue]
    rw [step, ih]
    simp [placeValue, Nat.ofDigits_cons, Nat.add_comm]

namespace Literal

def IntegerText (chars : List Char) (value : Int) : Prop :=
  IsDigits chars ∧ value = Text.digitsValue chars ∨
    ∃ digits, chars = '-' :: digits ∧ IsDigits digits ∧ value = -Text.digitsValue digits

/-- An optional sign and at least one decimal digit. -/
def SignedText (chars : List Char) : Prop :=
  ∃ sign digits, chars = sign ++ digits ∧ (sign = [] ∨ sign = ['-'] ∨ sign = ['+']) ∧ IsDigits digits

theorem decimal?_eq_some_iff {chars : List Char} {value : Nat} :
    decimal? chars = some value ↔ IsDigits chars ∧ Text.digitsValue chars = value := by
  simp [decimal?, IsDigits]

theorem decimal?_of_digits {chars : List Char} (digits : IsDigits chars) :
    decimal? chars = some (Text.digitsValue chars) :=
  decimal?_eq_some_iff.mpr ⟨digits, rfl⟩

theorem isDigits_ne {chars rest : List Char} {c : Char} (digits : IsDigits chars)
    (noDigit : Text.isDigit c = false) : chars ≠ c :: rest := by
  rintro rfl
  rw [digits.2 c List.mem_cons_self] at noDigit
  cases noDigit

theorem signed?_of_text {digits : String} {value : Int} (written : IntegerText digits.toList value) :
    signed? digits = if minInt ≤ value ∧ value ≤ maxInt then some value else none := by
  have read : signed? digits =
      (some value).filter fun value => decide (minInt ≤ value ∧ value ≤ maxInt) := by
    rw [signed?]
    rcases written with ⟨is, rfl⟩ | ⟨rest, split, is, rfl⟩
    · split
      · next minus => exact absurd minus (isDigits_ne is rfl)
      · next plus => exact absurd plus (isDigits_ne is rfl)
      · rw [decimal?_of_digits is]
        rfl
    · simp [split, decimal?_of_digits is]
  rw [read, Option.filter_some]
  simp only [decide_eq_true_eq]

/-- What a written integer is read as, by the word that holds it. -/
theorem ofDigits?_of_text {digits : String} {value : Int}
    (written : IntegerText digits.toList value) :
    ofDigits? digits = some (if minInt ≤ value ∧ value ≤ maxInt then .int value
      else if maxInt < value ∧ value ≤ maxUInt then .uint value.toNat else .text digits) := by
  rw [ofDigits?, signed?_of_text written]
  by_cases signed : minInt ≤ value ∧ value ≤ maxInt
  · simp [signed]
  · have limits : minInt ≤ 0 ∧ 0 ≤ maxInt := by decide
    rw [if_neg signed, if_neg signed, unsigned?]
    rcases written with ⟨is, rfl⟩ | ⟨rest, minus, is, rfl⟩
    · -- Without a sign the integer lies above the signed range.
      have above : maxInt < Text.digitsValue digits.toList := by omega
      rw [decimal?_of_digits is, Option.filter_some]
      by_cases unsigned : Text.digitsValue digits.toList ≤ maxUInt
      · simp [unsigned, above]
      · simp only [unsigned, decide_false, Bool.false_eq_true, if_false, Nat.cast_le, and_false]
        split
        · next rest found => exact absurd found (isDigits_ne is rfl)
        · rw [decimal?_of_digits is]
          rfl
    · -- With a minus sign it lies below, and no unsigned integer is read.
      have below : ¬ maxInt < -(Text.digitsValue rest : Int) := by omega
      have sign : decimal? ('-' :: rest) = none := by simp [decimal?, Text.isDigit]
      simp [minus, sign, below, decimal?_of_digits is]

/-- A plus sign is taken by the signed integers only. -/
theorem ofDigits?_of_plus {text : String} {digits : List Char} (plus : text.toList = '+' :: digits)
    (is : IsDigits digits) :
    ofDigits? text =
      if (Text.digitsValue digits : Int) ≤ maxInt then some (.int (Text.digitsValue digits))
      else none := by
  have sign : decimal? ('+' :: digits) = none := by simp [decimal?, Text.isDigit]
  have limit : minInt ≤ (Text.digitsValue digits : Int) := by
    have low : minInt ≤ 0 := by decide
    omega
  by_cases fits : (Text.digitsValue digits : Int) ≤ maxInt
  · simp [ofDigits?, signed?, plus, decimal?_of_digits is, Option.filter_some, limit, fits]
  · simp [ofDigits?, signed?, unsigned?, plus, decimal?_of_digits is, sign, Option.filter_some, fits]

/-- What is read has at least one digit, and nothing but a sign before the digits. -/
theorem signedText_of_ofDigits? {text : String} {literal : Literal}
    (read : ofDigits? text = some literal) : SignedText text.toList := by
  by_contra unsigned
  have plain (sign digits : List Char) (known : sign = [] ∨ sign = ['-'] ∨ sign = ['+'])
      (split : text.toList = sign ++ digits) : decimal? digits = none := by
    by_contra found
    obtain ⟨value, isSome⟩ := Option.ne_none_iff_exists'.mp found
    exact unsigned ⟨sign, digits, split, known, (decimal?_eq_some_iff.mp isSome).1⟩
  have whole := plain [] text.toList (.inl rfl) rfl
  have minus (digits : List Char) := plain ['-'] digits (.inr (.inl rfl))
  have plus (digits : List Char) := plain ['+'] digits (.inr (.inr rfl))
  have noneSigned : signed? text = none := by
    rw [signed?]
    split
    · next digits found => simp [minus _ found]
    · next digits found => simp [plus _ found]
    · simp [whole]
  rw [ofDigits?, noneSigned, unsigned?, whole] at read
  obtain ⟨value, found, -⟩ := Option.map_eq_some_iff.mp read
  split at found
  · next digits split =>
      rw [minus _ split] at found
      cases found
  · rw [whole] at found
    cases found

/-- An integer that decimal digits with or without a minus sign denote is read without loss: as a
signed word if it fits one, as an unsigned word if it fits that, and else as its digits.  With a plus
sign it is read as a signed word or not at all, and a text that is no sign followed by digits is not
read. -/
theorem ofDigits?_lossless (text : String) :
    (∀ digits (value : Int), IsDigits digits →
      text.toList = digits ∧ value = Text.placeValue digits ∨
        text.toList = '-' :: digits ∧ value = -Text.placeValue digits →
      (-2 ^ 63 ≤ value ∧ value < 2 ^ 63 → ofDigits? text = some (.int value)) ∧
      (∀ magnitude : Nat, value = magnitude → 2 ^ 63 ≤ magnitude ∧ magnitude < 2 ^ 64 →
        ofDigits? text = some (.uint magnitude)) ∧
      (value < -2 ^ 63 ∨ 2 ^ 64 ≤ value → ofDigits? text = some (.text text))) ∧
    (∀ digits, IsDigits digits → text.toList = '+' :: digits →
      ofDigits? text = if Text.placeValue digits < 2 ^ 63 then some (.int (Text.placeValue digits))
        else none) ∧
    (¬ SignedText text.toList → ofDigits? text = none) := by
  have signedLimits : minInt = -2 ^ 63 ∧ maxInt = 2 ^ 63 - 1 := by decide
  have unsignedLimit : maxUInt = 2 ^ 64 - 1 := by decide
  refine ⟨?_, ?_, ?_⟩
  · intro digits value is denoted
    have written : IntegerText text.toList value := by
      rw [← Text.digitsValue_eq_placeValue] at denoted
      rcases denoted with ⟨plain, same⟩ | ⟨minus, same⟩
      · rw [plain]
        exact .inl ⟨is, same⟩
      · exact .inr ⟨digits, minus, is, same⟩
    rw [ofDigits?_of_text written, signedLimits.1, signedLimits.2, unsignedLimit]
    refine ⟨?_, ?_, ?_⟩
    · intro fits
      rw [if_pos (by omega)]
    · intro magnitude same fits
      rw [if_neg (by omega), if_pos (by omega), same, Int.toNat_natCast]
    · intro wide
      rw [if_neg (by omega), if_neg (by omega)]
  · intro digits is plus
    rw [ofDigits?_of_plus plus is, Text.digitsValue_eq_placeValue, signedLimits.2]
    exact if_congr (by omega) rfl rfl
  · intro other
    by_contra found
    obtain ⟨literal, read⟩ := Option.ne_none_iff_exists'.mp found
    exact other (signedText_of_ofDigits? read)

theorem ofDigits?_lossless_limits :
    ofDigits? "-9223372036854775808" = some (.int (-2 ^ 63)) ∧
      ofDigits? "018446744073709551615" = some (.uint (2 ^ 64 - 1)) ∧
      ofDigits? "-9223372036854775809" = some (.text "-9223372036854775809") := by
  have digits (chars : List Char) (all : chars ≠ [] ∧ chars.all Text.isDigit = true) :
      IsDigits chars := ⟨all.1, List.all_eq_true.mp all.2⟩
  refine ⟨?_, ?_, ?_⟩
  · apply ((ofDigits?_lossless "-9223372036854775808").1 "9223372036854775808".toList _
      (digits _ (by decide)) (.inr ⟨rfl, by decide⟩)).1
    decide
  · apply ((ofDigits?_lossless "018446744073709551615").1 "018446744073709551615".toList
      (2 ^ 64 - 1) (digits _ (by decide)) (.inl ⟨rfl, by decide⟩)).2.1
    · norm_num
    · decide
  · apply ((ofDigits?_lossless "-9223372036854775809").1 "9223372036854775809".toList
      (-2 ^ 63 - 1) (digits _ (by decide)) (.inr ⟨rfl, by decide⟩)).2.2
    decide

end Literal

end SelectGraph
