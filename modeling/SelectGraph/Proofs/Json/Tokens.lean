import Mathlib
import SelectGraph.Json.Value

/-!
# How tokens are written

How strings, numbers and the other tokens are written, and the texts of tokens: the tokens one after
the other, with blanks before, between and after them.  The tokens that are read from a text without
faults are those it was written from.
-/

namespace SelectGraph.Json

open List

variable {others left : List Char} {decoded : Char}
  {chars rest digits body written after value whole fraction exponent blanks word : List Char}
  {code count : Nat} {c : Char} {token : Token}

/-! ## Strings -/

/-- The characters between the quotes of a string, and what they stand for.  A code of the first half
of a pair stands for a character together with the second half that follows; a half that is not
followed by the other, or does not follow it, stands for the replacement character. -/
inductive StringText : (written value : List Char) → Prop where
  | nil : StringText [] []
  | plain {c : Char} {written value : List Char} (visible : 0x20 ≤ c.toNat) (noQuote : c ≠ '"')
      (noEscape : c ≠ '\\') (rest : StringText written value) :
      StringText (c :: written) (c :: value)
  | short {e c : Char} {written value : List Char} (escape : shortEscape? e = some c)
      (rest : StringText written value) : StringText ('\\' :: e :: written) (c :: value)
  | code {digits written value : List Char} {code : Nat} (quad : hexQuad? digits = some (code, []))
      (single : code < 0xD800 ∨ 0xE000 ≤ code) (rest : StringText written value) :
      StringText ('\\' :: 'u' :: (digits ++ written)) (Char.ofNat code :: value)
  | pair {digits others written value : List Char} {high low : Nat}
      (first : hexQuad? digits = some (high, [])) (isHigh : 0xD800 ≤ high ∧ high < 0xDC00)
      (second : hexQuad? others = some (low, [])) (isLow : 0xDC00 ≤ low ∧ low < 0xE000)
      (rest : StringText written value) :
      StringText ('\\' :: 'u' :: (digits ++ '\\' :: 'u' :: (others ++ written)))
        (Char.ofNat (0x10000 + (high - 0xD800) * 0x400 + (low - 0xDC00)) :: value)
  | half {digits written value : List Char} {code : Nat} (quad : hexQuad? digits = some (code, []))
      (isHalf : 0xD800 ≤ code ∧ code < 0xE000)
      (alone : code < 0xDC00 → ∀ {others more low}, written = '\\' :: 'u' :: (others ++ more) →
        hexQuad? others = some (low, []) → ¬ (0xDC00 ≤ low ∧ low < 0xE000))
      (rest : StringText written value) :
      StringText ('\\' :: 'u' :: (digits ++ written)) (replacement :: value)

/-- One character of a string, given the first character of its text. -/
def stringChar? (c : Char) (rest : List Char) : Option (Char × List Char) :=
  if c.toNat < 0x20 then none
  else if c = '\\' then
    match rest with
    | [] => none
    | e :: tail =>
      if e = 'u' then (hexQuad? tail).map fun (code, tail) => joinSurrogates code tail
      else (shortEscape? e).map fun decoded => (decoded, tail)
  else some (c, rest)

theorem stringBody?_cons (count : Nat) (c : Char) (rest : List Char) :
    stringBody? (count + 1) (c :: rest) =
      if c = '"' then some ([], rest)
      else (stringChar? c rest).bind fun (decoded, tail) =>
        (stringBody? count tail).map fun (chars, after) => (decoded :: chars, after) := by
  rw [stringBody?.eq_def, stringChar?.eq_def]
  simp only
  split
  · rfl
  · split
    · rfl
    · split
      · cases rest with
        | nil => rfl
        | cons e tail =>
          simp only
          split
          · cases hexQuad? tail <;> rfl
          · cases shortEscape? e <;> rfl
      · rfl

/-- The second half that an escape may need. -/
def lowHalf? : List Char → Option (Nat × List Char)
  | '\\' :: 'u' :: digits => hexQuad? digits
  | _ => none

theorem joinSurrogates_eq (code : Nat) (rest : List Char) :
    joinSurrogates code rest =
      if code < 0xD800 || 0xE000 ≤ code then (Char.ofNat code, rest)
      else match lowHalf? rest with
        | some (second, tail) =>
          if code < 0xDC00 && 0xDC00 ≤ second && second < 0xE000 then
            (Char.ofNat (0x10000 + (code - 0xD800) * 0x400 + (second - 0xDC00)), tail)
          else (replacement, rest)
        | none => (replacement, rest) := rfl

theorem hexQuad?_cases (read : hexQuad? chars = some (code, rest)) :
    ∃ digits, chars = digits ++ rest ∧ '"' ∉ digits ∧
      ∀ after, hexQuad? (digits ++ after) = some (code, after) := by
  match chars with
  | [] | [_] | [_, _] | [_, _, _] => simp [hexQuad?] at read
  | a :: b :: c :: d :: tail =>
    simp only [hexQuad?, bind, Option.bind_eq_some_iff] at read
    obtain ⟨a', readA, b', readB, c', readC, d', readD, same⟩ := read
    cases same
    refine ⟨[a, b, c, d], rfl, ?_, fun after => by simp [hexQuad?, readA, readB, readC, readD]⟩
    have noDigit : Text.hexValue? '"' = none := by decide
    intro mem
    simp only [mem_cons, not_mem_nil, or_false] at mem
    rcases mem with rfl | rfl | rfl | rfl <;> simp_all

theorem hexQuad?_append (quad : hexQuad? digits = some (code, [])) (after : List Char) :
    hexQuad? (digits ++ after) = some (code, after) := by
  obtain ⟨digits, rfl, -, reads⟩ := hexQuad?_cases quad
  rw [append_nil]
  exact reads _

theorem hexQuad?_eq_some (read : hexQuad? chars = some (code, rest)) :
    ∃ digits, chars = digits ++ rest ∧ hexQuad? digits = some (code, []) := by
  obtain ⟨digits, split, -, reads⟩ := hexQuad?_cases read
  exact ⟨digits, split, by simpa using reads []⟩

theorem lowHalf?_eq_some (read : lowHalf? chars = some (code, rest)) :
    ∃ digits, chars = '\\' :: 'u' :: digits ∧ hexQuad? digits = some (code, rest) := by
  unfold lowHalf? at read
  split at read
  · exact ⟨_, rfl, read⟩
  · cases read

theorem stringBody?_eq_some (read : stringBody? count chars = some (body, rest)) :
    ∃ count' c tail, count = count' + 1 ∧ chars = c :: tail ∧
      (c = '"' ∧ body = [] ∧ rest = tail ∨
        c ≠ '"' ∧ ∃ decoded left more, stringChar? c tail = some (decoded, left) ∧
          stringBody? count' left = some (more, rest) ∧ body = decoded :: more) := by
  match count, chars with
  | 0, _ => cases read
  | _ + 1, [] => cases read
  | count + 1, c :: tail =>
    rw [stringBody?_cons] at read
    refine ⟨count, c, tail, rfl, rfl, ?_⟩
    split at read
    · next quote =>
        cases read
        exact .inl ⟨quote, rfl, rfl⟩
    · next other =>
        obtain ⟨⟨decoded, left⟩, first, others⟩ := Option.bind_eq_some_iff.mp read
        obtain ⟨⟨more, rest⟩, body, same⟩ := Option.map_eq_some_iff.mp others
        cases same
        exact .inr ⟨other, decoded, left, more, first, body, rfl⟩

/-- Digits do not go beyond a quote. -/
theorem hexQuad?_append_quote (read : hexQuad? (written ++ '"' :: after) = some (code, rest)) :
    ∃ digits more, written = digits ++ more ∧ rest = more ++ '"' :: after ∧
      hexQuad? digits = some (code, []) := by
  obtain ⟨digits, split, noQuote, reads⟩ := hexQuad?_cases read
  have quad : hexQuad? digits = some (code, []) := by simpa using reads []
  rcases append_eq_append_iff.mp split with ⟨more, rfl, ends⟩ | ⟨more, rfl, rfl⟩
  · cases more with
    | nil => exact ⟨written, [], by simp, by simpa using ends.symm, by simpa using quad⟩
    | cons c more =>
      obtain ⟨rfl, -⟩ := cons.inj ends
      exact absurd (by simp) noQuote
  · exact ⟨digits, more, rfl, rfl, quad⟩

theorem lowHalf?_of_quad {low : Nat} (quad : hexQuad? others = some (low, [])) (more : List Char) :
    lowHalf? ('\\' :: 'u' :: (others ++ more)) = some (low, more) :=
  hexQuad?_append quad more

theorem lowHalf?_append_quote {tail : List Char} {low : Nat}
    (read : lowHalf? (written ++ '"' :: after) = some (low, tail)) :
    ∃ others more, written = '\\' :: 'u' :: (others ++ more) ∧
      hexQuad? others = some (low, []) := by
  obtain ⟨digits, split, quad⟩ := lowHalf?_eq_some read
  match written with
  | [] => simp at split
  | [_] => simp at split
  | a :: b :: written =>
    obtain ⟨rfl, rfl, rfl⟩ := split
    obtain ⟨others, more, rfl, -, quad⟩ := hexQuad?_append_quote quad
    exact ⟨others, more, rfl, quad⟩

/-- An escape with a code, and what is left to read behind it. -/
theorem StringText.of_joinSurrogates (quad : hexQuad? digits = some (code, []))
    (joined : joinSurrogates code left = (decoded, written ++ '"' :: rest))
    (text : StringText written value) :
    ∃ more, left = more ++ '"' :: rest ∧
      StringText ('\\' :: 'u' :: (digits ++ more)) (decoded :: value) := by
  rw [joinSurrogates_eq] at joined
  split at joined
  · next single =>
      cases joined
      exact ⟨written, rfl, .code quad (by simpa using single) text⟩
  · next half =>
      have isHalf : 0xD800 ≤ code ∧ code < 0xE000 := by simpa using half
      split at joined
      · next second tail low =>
          split at joined
          · next isPair =>
              simp only [Bool.and_eq_true, decide_eq_true_eq] at isPair
              obtain ⟨rfl, rfl⟩ := Prod.mk.inj joined
              obtain ⟨quads, rfl, second⟩ := lowHalf?_eq_some low
              obtain ⟨others, rfl, codes⟩ := hexQuad?_eq_some second
              refine ⟨'\\' :: 'u' :: (others ++ written), by simp, ?_⟩
              exact .pair quad ⟨isHalf.1, isPair.1.1⟩ codes ⟨isPair.1.2, isPair.2⟩ text
          · next noPair =>
              cases joined
              refine ⟨written, rfl, .half quad isHalf ?_ text⟩
              rintro high others more other rfl quad' isLow
              simp only [cons_append, append_assoc] at low
              rw [lowHalf?_of_quad quad'] at low
              cases low
              exact noPair (by simp [high, isLow])
      · next none =>
          cases joined
          refine ⟨written, rfl, .half quad isHalf ?_ text⟩
          rintro - others more other rfl quad' -
          simp only [cons_append, append_assoc] at none
          rw [lowHalf?_of_quad quad'] at none
          cases none

theorem joinSurrogates_half (isHalf : 0xD800 ≤ code ∧ code < 0xE000)
    (alone : code < 0xDC00 → ∀ {others more low}, written = '\\' :: 'u' :: (others ++ more) →
      hexQuad? others = some (low, []) → ¬ (0xDC00 ≤ low ∧ low < 0xE000)) (after : List Char) :
    joinSurrogates code (written ++ '"' :: after) = (replacement, written ++ '"' :: after) := by
  rw [joinSurrogates_eq, if_neg (by simp; omega)]
  split
  · next second tail low =>
      obtain ⟨others, more, rfl, quad⟩ := lowHalf?_append_quote low
      rw [if_neg]
      simp only [Bool.and_eq_true, decide_eq_true_eq]
      exact fun isPair => alone isPair.1.1 rfl quad ⟨isPair.1.2, isPair.2⟩
  · rfl

theorem stringBody?_sound (read : stringBody? count chars = some (body, rest)) :
    ∃ written, chars = written ++ '"' :: rest ∧ StringText written body := by
  induction count generalizing chars body with
  | zero => cases read
  | succ count ih =>
    obtain ⟨_, c, tail, same, rfl, ends | ⟨other, decoded, left, more, first, others, rfl⟩⟩ :=
      stringBody?_eq_some read
    · obtain ⟨rfl, rfl, rfl⟩ := ends
      exact ⟨[], rfl, .nil⟩
    · cases same
      obtain ⟨written, rfl, text⟩ := ih others
      unfold stringChar? at first
      split at first
      · cases first
      · next visible =>
          split at first
          · next escape =>
              subst escape
              cases tail with
              | nil => cases first
              | cons e tail =>
                dsimp only at first
                split at first
                · next unicode =>
                    subst unicode
                    obtain ⟨⟨code, left⟩, quad, joined⟩ := Option.map_eq_some_iff.mp first
                    obtain ⟨digits, rfl, codes⟩ := hexQuad?_eq_some quad
                    obtain ⟨more, rfl, text⟩ := StringText.of_joinSurrogates codes joined text
                    exact ⟨_, by simp, text⟩
                · obtain ⟨decoded, escape, same⟩ := Option.map_eq_some_iff.mp first
                  cases same
                  exact ⟨_, rfl, .short escape text⟩
          · next noEscape =>
              cases first
              exact ⟨c :: written, rfl, .plain (Nat.le_of_not_lt visible) other noEscape text⟩

theorem stringBody?_of_char (noQuote : c ≠ '"')
    (first : stringChar? c chars = some (decoded, left))
    (others : stringBody? count left = some (body, after)) :
    stringBody? (count + 1) (c :: chars) = some (decoded :: body, after) := by
  rw [stringBody?_cons, if_neg noQuote, first, Option.bind_some]
  dsimp only
  rw [others]
  rfl

theorem stringChar?_code (quad : hexQuad? digits = some (code, [])) :
    stringChar? '\\' ('u' :: (digits ++ chars)) = some (joinSurrogates code chars) := by
  have read : hexQuad? _ = some (code, chars) := hexQuad?_append quad _
  simp [stringChar?, read]

theorem stringBody?_complete (text : StringText written value) (after : List Char)
    (enough : written.length < count) :
    stringBody? count (written ++ '"' :: after) = some (value, after) := by
  induction text generalizing count with
  | nil =>
    obtain ⟨count, rfl⟩ := Nat.exists_eq_add_of_lt enough
    rfl
  | plain visible noQuote noEscape rest ih =>
    obtain ⟨count, rfl⟩ := Nat.exists_eq_add_of_lt enough
    refine stringBody?_of_char noQuote ?_ (ih (by simp only [length_cons]; omega))
    simp [stringChar?, noEscape, Nat.not_lt.mpr visible]
  | @short e c written value escape rest ih =>
    obtain ⟨count, rfl⟩ := Nat.exists_eq_add_of_lt enough
    refine stringBody?_of_char (by decide) ?_ (ih (by simp only [length_cons]; omega))
    have other : e ≠ 'u' := by
      rintro rfl
      cases escape
    simp [stringChar?, other, escape]
  | @code digits written value code quad single rest ih =>
    obtain ⟨count, rfl⟩ := Nat.exists_eq_add_of_lt enough
    simp only [cons_append, append_assoc]
    refine stringBody?_of_char (by decide) ((stringChar?_code quad).trans ?_)
      (ih (by simp only [length_cons, length_append]; omega))
    rw [joinSurrogates_eq, if_pos (by simpa using single)]
  | @pair digits others written value high low first isHigh second isLow rest ih =>
    obtain ⟨count, rfl⟩ := Nat.exists_eq_add_of_lt enough
    simp only [cons_append, append_assoc]
    refine stringBody?_of_char (by decide) ((stringChar?_code first).trans ?_)
      (ih (by simp only [length_cons, length_append]; omega))
    rw [joinSurrogates_eq, if_neg (by simp; omega), lowHalf?_of_quad second]
    dsimp only
    rw [if_pos (by simp [isHigh, isLow])]
  | @half digits written value code quad isHalf alone rest ih =>
    obtain ⟨count, rfl⟩ := Nat.exists_eq_add_of_lt enough
    simp only [cons_append, append_assoc]
    refine stringBody?_of_char (by decide) ((stringChar?_code quad).trans ?_)
      (ih (by simp only [length_cons, length_append]; omega))
    rw [joinSurrogates_half isHalf alone]

/-! ## Numbers -/

/-- At least one digit, and nothing else. -/
def IsDigits (chars : List Char) : Prop :=
  chars ≠ [] ∧ ∀ c ∈ chars, Text.isDigit c = true

/-- The whole part of a number: zero alone, or digits that do not begin with zero. -/
def IsWhole (chars : List Char) : Prop :=
  chars = ['0'] ∨ IsDigits chars ∧ chars.head? ≠ some '0'

/-- The fraction of a number, which may be missing. -/
def IsFraction (chars : List Char) : Prop :=
  chars = [] ∨ ∃ digits, chars = '.' :: digits ∧ IsDigits digits

/-- The exponent of a number, which may be missing. -/
def IsExponent (chars : List Char) : Prop :=
  chars = [] ∨ ∃ mark sign digits, chars = mark :: (sign ++ digits) ∧ (mark = 'e' ∨ mark = 'E') ∧
    (sign = [] ∨ sign = ['+'] ∨ sign = ['-']) ∧ IsDigits digits

/-- The characters of a number. -/
def NumberText (chars : List Char) : Prop :=
  ∃ sign whole fraction exponent, chars = sign ++ whole ++ fraction ++ exponent ∧
    (sign = [] ∨ sign = ['-']) ∧ IsWhole whole ∧ IsFraction fraction ∧ IsExponent exponent

/-- The text does not go on with a number that stands before it. -/
def EndsNumber (after : List Char) : Prop :=
  ∀ c ∈ after.head?, Text.isDigit c = false ∧ c ≠ '.' ∧ c ≠ 'e' ∧ c ≠ 'E'

theorem digits?_eq_some :
    digits? chars = some (digits, rest) ↔
      digits ≠ [] ∧ chars.takeWhile Text.isDigit = digits ∧
        chars.dropWhile Text.isDigit = rest := by
  unfold digits?
  split
  · next empty =>
      constructor
      · intro impossible
        cases impossible
      · rintro ⟨some, rfl, _⟩
        exact absurd empty some
  · next some =>
      constructor
      · intro same
        cases same
        exact ⟨some, rfl, rfl⟩
      · rintro ⟨_, rfl, rfl⟩
        rfl

theorem digits?_sound (read : digits? chars = some (digits, rest)) :
    chars = digits ++ rest ∧ IsDigits digits := by
  obtain ⟨some, rfl, rfl⟩ := digits?_eq_some.mp read
  exact ⟨takeWhile_append_dropWhile.symm, some, fun c mem => mem_takeWhile_imp mem⟩

theorem digits?_complete (is : IsDigits digits) (ends : ∀ c ∈ after.head?, Text.isDigit c = false) :
    digits? (digits ++ after) = some (digits, after) := by
  apply digits?_eq_some.mpr
  refine ⟨is.1, ?_, ?_⟩
  · rw [takeWhile_append_of_pos is.2]
    cases after with
    | nil => simp
    | cons c after => simp [ends c rfl]
  · rw [dropWhile_append_of_pos is.2]
    cases after with
    | nil => rfl
    | cons c after => simp [ends c rfl]

theorem wholePart?_sound (read : wholePart? chars = some (whole, rest)) :
    chars = whole ++ rest ∧ IsWhole whole := by
  unfold wholePart? at read
  split at read
  · cases read
    exact ⟨rfl, .inl rfl⟩
  · next other =>
      obtain ⟨rfl, is⟩ := digits?_sound read
      refine ⟨rfl, .inr ⟨is, ?_⟩⟩
      intro zero
      obtain ⟨tail, rfl⟩ := head?_eq_some_iff.mp zero
      exact other _ rfl

theorem wholePart?_complete (is : IsWhole whole)
    (ends : ∀ c ∈ after.head?, Text.isDigit c = false) :
    wholePart? (whole ++ after) = some (whole, after) := by
  rcases is with rfl | ⟨is, noZero⟩
  · rfl
  · rw [wholePart?.eq_2]
    · exact digits?_complete is ends
    · intro rest same
      cases whole with
      | nil => exact is.1 rfl
      | cons c whole => exact noZero (congrArg some (cons.inj same).1)

theorem fractionPart?_sound (read : fractionPart? chars = some (fraction, rest)) :
    chars = fraction ++ rest ∧ IsFraction fraction := by
  unfold fractionPart? at read
  split at read
  · obtain ⟨⟨digits, left⟩, found, same⟩ := Option.map_eq_some_iff.mp read
    cases same
    obtain ⟨rfl, is⟩ := digits?_sound found
    exact ⟨rfl, .inr ⟨digits, rfl, is⟩⟩
  · cases read
    exact ⟨rfl, .inl rfl⟩

theorem fractionPart?_complete (is : IsFraction fraction)
    (ends : ∀ c ∈ after.head?, Text.isDigit c = false ∧ c ≠ '.') :
    fractionPart? (fraction ++ after) = some (fraction, after) := by
  rcases is with rfl | ⟨digits, rfl, is⟩
  · rw [nil_append, fractionPart?.eq_2]
    rintro rest rfl
    exact (ends '.' rfl).2 rfl
  · rw [cons_append, fractionPart?, digits?_complete is fun c mem => (ends c mem).1]
    rfl

theorem exponentPart?_sound (read : exponentPart? chars = some (exponent, rest)) :
    chars = exponent ++ rest ∧ IsExponent exponent := by
  cases chars with
  | nil =>
    cases read
    exact ⟨rfl, .inl rfl⟩
  | cons mark chars =>
    rw [exponentPart?.eq_def] at read
    dsimp only at read
    split at read
    · next marked =>
        have marked : mark = 'e' ∨ mark = 'E' := by simpa using marked
        cases chars with
        | nil => cases read
        | cons sign chars =>
          dsimp only at read
          split at read
          all_goals
            obtain ⟨⟨digits, left⟩, found, same⟩ := Option.map_eq_some_iff.mp read
            cases same
            obtain ⟨split, is⟩ := digits?_sound found
          · next signed =>
              refine ⟨by rw [split]; rfl, .inr ⟨mark, [sign], digits, rfl, marked, .inr ?_, is⟩⟩
              simpa using signed
          · exact ⟨by rw [split]; rfl, .inr ⟨mark, [], digits, rfl, marked, .inl rfl, is⟩⟩
    · cases read
      exact ⟨rfl, .inl rfl⟩

theorem IsDigits.head (is : IsDigits digits) :
    ∃ c tail, digits = c :: tail ∧ Text.isDigit c = true := by
  cases digits with
  | nil => exact absurd rfl is.1
  | cons c tail => exact ⟨c, tail, rfl, is.2 c mem_cons_self⟩

theorem exponentPart?_complete (is : IsExponent exponent) (ends : EndsNumber after) :
    exponentPart? (exponent ++ after) = some (exponent, after) := by
  rcases is with rfl | ⟨mark, sign, digits, rfl, marked, signed, is⟩
  · cases after with
    | nil => rfl
    | cons c after => simp [exponentPart?, (ends c rfl).2.2]
  · have read := digits?_complete is fun c mem => (ends c mem).1
    have marked : (decide (mark = 'e') || decide (mark = 'E')) = true := by simpa using marked
    rw [cons_append, exponentPart?.eq_def]
    dsimp only
    rw [if_pos marked]
    rcases signed with rfl | rfl | rfl
    · obtain ⟨c, tail, rfl, digit⟩ := is.head
      have unsigned : ¬ (decide (c = '+') || decide (c = '-')) = true := by
        intro sign
        rcases (by simpa using sign : c = '+' ∨ c = '-') with rfl | rfl <;> cases digit
      simp only [nil_append, cons_append] at read ⊢
      rw [if_neg unsigned, read]
      rfl
    · simp [read]
    · simp [read]

theorem numberBody?_eq_some (read : numberBody? chars = some (body, rest)) :
    ∃ sign unsigned whole left fraction final exponent,
      chars = sign ++ unsigned ∧ (sign = ['-'] ∨ sign = [] ∧ unsigned.head? ≠ some '-') ∧
        wholePart? unsigned = some (whole, left) ∧ fractionPart? left = some (fraction, final) ∧
        exponentPart? final = some (exponent, rest) ∧
        body = sign ++ whole ++ fraction ++ exponent := by
  unfold numberBody? at read
  split at read
  next sign unsigned same =>
    have parts : chars = sign ++ unsigned ∧
        (sign = ['-'] ∨ sign = [] ∧ unsigned.head? ≠ some '-') := by
      split at same
      · cases same
        exact ⟨rfl, .inl rfl⟩
      · next other =>
          cases same
          refine ⟨rfl, .inr ⟨rfl, ?_⟩⟩
          intro minus
          obtain ⟨tail, eq⟩ := head?_eq_some_iff.mp minus
          exact other tail eq
    simp only [bind, Option.bind_eq_some_iff] at read
    obtain ⟨⟨whole, left⟩, readWhole, ⟨fraction, final⟩, readFraction, ⟨exponent, final'⟩,
      readExponent, built⟩ := read
    cases built
    exact ⟨sign, unsigned, whole, left, fraction, final, exponent, parts.1, parts.2, readWhole,
      readFraction, readExponent, rfl⟩

theorem numberBody?_sound (read : numberBody? chars = some (body, rest)) :
    chars = body ++ rest ∧ NumberText body := by
  obtain ⟨sign, unsigned, whole, left, fraction, final, exponent, rfl, signed, readWhole,
    readFraction, readExponent, rfl⟩ := numberBody?_eq_some read
  obtain ⟨rfl, isWhole⟩ := wholePart?_sound readWhole
  obtain ⟨rfl, isFraction⟩ := fractionPart?_sound readFraction
  obtain ⟨rfl, isExponent⟩ := exponentPart?_sound readExponent
  refine ⟨by simp, sign, whole, fraction, exponent, rfl, ?_, isWhole, isFraction, isExponent⟩
  exact signed.symm.imp_left And.left

theorem IsExponent.head_append (is : IsExponent exponent) (ends : EndsNumber after) :
    ∀ c ∈ (exponent ++ after).head?, Text.isDigit c = false ∧ c ≠ '.' := by
  rcases is with rfl | ⟨mark, sign, digits, rfl, marked, -⟩
  · exact fun c mem => ⟨(ends c mem).1, (ends c mem).2.1⟩
  · intro c mem
    cases mem
    rcases marked with rfl | rfl <;> decide

theorem IsFraction.head_append (is : IsFraction fraction)
    (ends : ∀ c ∈ after.head?, Text.isDigit c = false ∧ c ≠ '.') :
    ∀ c ∈ (fraction ++ after).head?, Text.isDigit c = false := by
  rcases is with rfl | ⟨digits, rfl, -⟩
  · exact fun c mem => (ends c mem).1
  · intro c mem
    cases mem
    decide

theorem IsWhole.head (is : IsWhole whole) :
    ∃ c tail, whole = c :: tail ∧ Text.isDigit c = true := by
  rcases is with rfl | ⟨is, -⟩
  · exact ⟨'0', [], rfl, by decide⟩
  · exact is.head

theorem numberBody?_complete (number : NumberText body) (ends : EndsNumber after) :
    numberBody? (body ++ after) = some (body, after) := by
  obtain ⟨sign, whole, fraction, exponent, rfl, signed, isWhole, isFraction, isExponent⟩ := number
  have beyond := isExponent.head_append ends
  have readWhole := wholePart?_complete isWhole (isFraction.head_append beyond)
  have readFraction := fractionPart?_complete isFraction beyond
  have readExponent := exponentPart?_complete isExponent ends
  rcases signed with rfl | rfl
  · obtain ⟨c, tail, rfl, digit⟩ := isWhole.head
    have plain : c ≠ '-' := by
      rintro rfl
      cases digit
    simp only [cons_append] at readWhole
    simp [numberBody?, plain, readWhole, readFraction, readExponent]
  · simp [numberBody?, readWhole, readFraction, readExponent]

/-! ## Tokens -/

/-- How a token is written. -/
inductive Token.Writes : Token → List Char → Prop where
  | mark {c : Char} {token : Token} (is : punctuation? c = some token) : Writes token [c]
  | null : Writes .null ['n', 'u', 'l', 'l']
  | true : Writes (.bool true) ['t', 'r', 'u', 'e']
  | false : Writes (.bool false) ['f', 'a', 'l', 's', 'e']
  | number {chars : List Char} (number : NumberText chars) : Writes (.number (String.ofList chars)) chars
  | text {written value : List Char} (text : StringText written value) :
      Writes (.text (String.ofList value)) ('"' :: written ++ ['"'])

def IsBlanks (chars : List Char) : Prop :=
  ∀ c ∈ chars, isBlank c = true

/-- The texts of tokens: the tokens in order, with blanks around them. -/
inductive Spells : List Token → List Char → Prop where
  | nil {blanks : List Char} (blank : IsBlanks blanks) : Spells [] blanks
  | cons {token : Token} {tokens : List Token} {blanks word rest : List Char}
      (blank : IsBlanks blanks) (writes : token.Writes word) (others : Spells tokens rest) :
      Spells (token :: tokens) (blanks ++ word ++ rest)

theorem dropStart?_eq_some {pattern : List Char} :
    Text.dropStart? pattern chars = some rest ↔ chars = pattern ++ rest := by
  induction pattern generalizing chars with
  | nil => simp [Text.dropStart?]
  | cons p pattern ih =>
    cases chars with
    | nil => simp [Text.dropStart?]
    | cons c chars =>
      rw [Text.dropStart?]
      split
      · next same => simp [ih, same]
      · next other => simp [Ne.symm other]

/-- The token that begins with a character that is no punctuation mark. -/
def longToken? (c : Char) (rest : List Char) : Option (Token × List Char) :=
  if c = '"' then
    (stringBody? (rest.length + 1) rest).map fun (chars, after) =>
      (.text (String.ofList chars), after)
  else if c = '-' || Text.isDigit c then
    (numberBody? (c :: rest)).map fun (digits, after) => (.number (String.ofList digits), after)
  else if c = 't' then
    (Text.dropStart? ['r', 'u', 'e'] rest).map fun after => (.bool true, after)
  else if c = 'f' then
    (Text.dropStart? ['a', 'l', 's', 'e'] rest).map fun after => (.bool false, after)
  else if c = 'n' then
    (Text.dropStart? ['u', 'l', 'l'] rest).map fun after => (.null, after)
  else none

theorem nextToken?_eq (chars : List Char) :
    nextToken? chars =
      match chars.dropWhile isBlank with
      | [] => none
      | c :: rest =>
        match punctuation? c with
        | some mark => some (mark, rest)
        | none => some ((longToken? c rest).getD (.malformed, [])) := rfl

theorem dropWhile_blanks (blank : IsBlanks blanks) (rest : List Char) :
    (blanks ++ rest).dropWhile isBlank = rest.dropWhile isBlank :=
  dropWhile_append_of_pos blank

theorem longToken?_sound (read : longToken? c chars = some (token, rest)) :
    ∃ word, token.Writes word ∧ c :: chars = word ++ rest := by
  unfold longToken? at read
  split at read
  · next quote =>
      obtain ⟨⟨body, left⟩, found, same⟩ := Option.map_eq_some_iff.mp read
      cases same
      obtain ⟨written, rfl, text⟩ := stringBody?_sound found
      exact ⟨_, .text text, by simp [quote]⟩
  · split at read
    · obtain ⟨⟨body, left⟩, found, same⟩ := Option.map_eq_some_iff.mp read
      cases same
      obtain ⟨split, number⟩ := numberBody?_sound found
      exact ⟨body, .number number, split⟩
    · split_ifs at read with isTrue isFalse isNull
      all_goals
        obtain ⟨left, dropped, same⟩ := Option.map_eq_some_iff.mp read
        cases same
        rw [dropStart?_eq_some.mp dropped]
      · exact ⟨_, .true, by rw [isTrue]; rfl⟩
      · exact ⟨_, .false, by rw [isFalse]; rfl⟩
      · exact ⟨_, .null, by rw [isNull]; rfl⟩

theorem NumberText.head (number : NumberText chars) :
    ∃ c tail, chars = c :: tail ∧ (c = '-' ∨ Text.isDigit c = true) := by
  obtain ⟨sign, whole, fraction, exponent, rfl, rfl | rfl, isWhole, -⟩ := number
  · obtain ⟨c, tail, rfl, digit⟩ := isWhole.head
    exact ⟨c, _, rfl, .inr digit⟩
  · exact ⟨'-', _, rfl, .inl rfl⟩

theorem Token.Writes.ne_nil (writes : token.Writes word) : word ≠ [] := by
  cases writes with
  | number number =>
    obtain ⟨c, tail, rfl, -⟩ := number.head
    exact cons_ne_nil _ _
  | _ => exact cons_ne_nil _ _

/-- A token that is read has been written, unless it is a fault, behind which nothing is read. -/
theorem nextToken?_sound (read : nextToken? chars = some (token, rest)) :
    (token = .malformed ∧ rest = [] ∧ chars ≠ []) ∨
      ∃ blanks word, IsBlanks blanks ∧ token.Writes word ∧ chars = blanks ++ word ++ rest := by
  have split := (takeWhile_append_dropWhile (p := isBlank) (l := chars)).symm
  have blank : IsBlanks (chars.takeWhile _) := fun c mem => mem_takeWhile_imp mem
  rw [nextToken?_eq] at read
  cases front : chars.dropWhile isBlank with
  | nil => simp [front] at read
  | cons c tail =>
    rw [front] at split
    simp only [front] at read
    split at read
    · next mark =>
        cases read
        exact .inr ⟨_, [c], blank, .mark mark, by rw [append_assoc]; exact split⟩
    · cases long : longToken? c tail with
      | none =>
        rw [long] at read
        cases read
        exact .inl ⟨rfl, rfl, by rintro rfl; cases front⟩
      | some found =>
        rw [long] at read
        cases read
        obtain ⟨word, writes, same⟩ := longToken?_sound long
        exact .inr ⟨_, word, blank, writes, by rw [append_assoc, ← same]; exact split⟩

theorem nextToken?_length (read : nextToken? chars = some (token, rest)) :
    rest.length < chars.length := by
  obtain ⟨-, rfl, some⟩ | ⟨blanks, word, -, writes, rfl⟩ := nextToken?_sound read
  · exact length_pos_iff.mpr some
  · have written := length_pos_iff.mpr writes.ne_nil
    simp only [length_append]
    omega

theorem tokensWithin_congr {other : Nat} (enough : chars.length < count)
    (otherEnough : chars.length < other) : tokensWithin count chars = tokensWithin other chars := by
  induction count generalizing other chars with
  | zero => cases enough
  | succ count ih =>
    cases other with
    | zero => cases otherEnough
    | succ other =>
      rw [tokensWithin, tokensWithin]
      cases read : nextToken? _ with
      | none => rfl
      | some next =>
        have shorter := nextToken?_length read
        exact congrArg _ (ih (by omega) (by omega))

def charTokens (chars : List Char) : List Token :=
  tokensWithin (chars.length + 1) chars

theorem tokens_eq_charTokens (text : String) : tokens text = charTokens text.toList := rfl

theorem charTokens_of_none (read : nextToken? chars = none) : charTokens chars = [] := by
  rw [charTokens, tokensWithin, read]

theorem charTokens_of_some (read : nextToken? chars = some (token, rest)) :
    charTokens chars = token :: charTokens rest := by
  rw [charTokens, tokensWithin, read]
  simp only
  rw [charTokens, tokensWithin_congr (nextToken?_length read) (Nat.lt_succ_self _)]

theorem isBlanks_of_nextToken? (read : nextToken? chars = none) : IsBlanks chars := by
  rw [nextToken?_eq] at read
  cases front : chars.dropWhile _ with
  | nil => exact fun c mem => dropWhile_eq_nil_iff.mp front c mem
  | cons c tail =>
    rw [front] at read
    dsimp only at read
    split at read <;> cases read

theorem isBlanks_of_charTokens (none : charTokens chars = []) : IsBlanks chars := by
  cases read : nextToken? _ with
  | none => exact isBlanks_of_nextToken? read
  | some found =>
    rw [charTokens_of_some read] at none
    cases none

/-- A text without a fault is a text of its tokens. -/
theorem spells_charTokens (sound : Token.malformed ∉ charTokens chars) :
    Spells (charTokens chars) chars := by
  induction size : chars.length using Nat.strong_induction_on generalizing chars with
  | _ size ih =>
    subst size
    cases read : nextToken? _ with
    | none =>
      rw [charTokens_of_none read]
      exact .nil (isBlanks_of_nextToken? read)
    | some found =>
      rw [charTokens_of_some read] at sound ⊢
      obtain ⟨first, others⟩ := not_or.mp (mem_cons.not.mp sound)
      obtain ⟨blanks, word, blank, writes, rfl⟩ :=
        (nextToken?_sound read).resolve_left fun fault => first fault.1.symm
      exact .cons blank writes (ih _ (nextToken?_length read) others rfl)

theorem isBlank_of_punctuation? (is : punctuation? c = some token) : isBlank c = false := by
  unfold punctuation? at is
  split at is <;> first | decide | cases is

theorem nextToken?_of_long (visible : isBlank c = false) (noMark : punctuation? c = none)
    (read : longToken? c chars = some (token, rest)) (blank : IsBlanks blanks) :
    nextToken? (blanks ++ c :: chars) = some (token, rest) := by
  rw [nextToken?_eq, dropWhile_blanks blank, dropWhile_cons, visible]
  simp [noMark, read]

theorem isBlank_of_number (first : c = '-' ∨ Text.isDigit c = true) : isBlank c = false := by
  refine Bool.eq_false_iff.mpr fun blank => ?_
  have cases : c = ' ' ∨ c = '\t' ∨ c = '\n' ∨ c = '\r' := by
    simpa [isBlank, or_assoc] using blank
  rcases cases with rfl | rfl | rfl | rfl <;> revert first <;> decide

theorem punctuation?_of_number (first : c = '-' ∨ Text.isDigit c = true) :
    punctuation? c = none := by
  unfold punctuation?
  split
  all_goals first | rfl | (revert first; decide)

theorem nextToken?_complete (blank : IsBlanks blanks) (writes : token.Writes word)
    (ends : (∃ digits, token = .number digits) → EndsNumber rest) :
    nextToken? (blanks ++ word ++ rest) = some (token, rest) := by
  rw [append_assoc]
  cases writes with
  | mark is =>
    rw [nextToken?_eq, dropWhile_blanks blank, singleton_append, dropWhile_cons,
      isBlank_of_punctuation? is]
    simp [is]
  | null => exact nextToken?_of_long (by decide) rfl rfl blank
  | true => exact nextToken?_of_long (by decide) rfl rfl blank
  | false => exact nextToken?_of_long (by decide) rfl rfl blank
  | number number =>
    have read := numberBody?_complete number (ends ⟨_, rfl⟩)
    obtain ⟨c, tail, rfl, first⟩ := number.head
    refine nextToken?_of_long (isBlank_of_number first) (punctuation?_of_number first) ?_ blank
    have noQuote : c ≠ '"' := by
      rintro rfl
      revert first
      decide
    rw [longToken?, if_neg noQuote, if_pos (by simpa using first)]
    exact congrArg _ read
  | @text written value text =>
    rw [cons_append, cons_append, append_assoc, singleton_append]
    refine nextToken?_of_long (by decide) rfl ?_ blank
    have read := stringBody?_complete text rest
      (by simp : written.length < (written ++ '"' :: rest).length + 1)
    rw [longToken?, read]
    rfl

def Token.isMark : Token → Bool
  | .openBrace | .closeBrace | .openBracket | .closeBracket | .colon | .comma => true
  | _ => false

theorem endsNumber_of_blank (blank : isBlank c = true) (rest : List Char) :
    EndsNumber (c :: rest) := by
  have cases : c = ' ' ∨ c = '\t' ∨ c = '\n' ∨ c = '\r' := by
    simpa [isBlank, or_assoc] using blank
  intro other mem
  cases mem
  rcases cases with rfl | rfl | rfl | rfl <;> decide

theorem endsNumber_of_mark (is : punctuation? c = some token) (rest : List Char) :
    EndsNumber (c :: rest) := by
  intro other mem
  cases mem
  unfold punctuation? at is
  split at is <;> first | decide | cases is

/-- The text of tokens does not go on with a number if it begins with a mark, or if there are none and
what follows does not. -/
theorem Spells.endsNumber {tokens : List Token} (spells : Spells tokens chars)
    (marked : ∀ token ∈ tokens.head?, token.isMark = true) (ends : EndsNumber after) :
    EndsNumber (chars ++ after) := by
  cases spells with
  | nil blank =>
    cases chars with
    | nil => exact ends
    | cons c blanks => exact endsNumber_of_blank (blank c mem_cons_self) _
  | @cons token _ blanks word rest blank writes others =>
    cases blanks with
    | cons c blanks => exact endsNumber_of_blank (blank c mem_cons_self) _
    | nil =>
      have isMark := marked _ rfl
      cases writes with
      | mark is => exact endsNumber_of_mark is _
      | _ => cases isMark

/-- Tokens without faults in which no number stands before anything but a mark. -/
structure Parted (tokens : List Token) : Prop where
  sound : .malformed ∉ tokens
  chain : tokens.IsChain fun first second =>
    (∃ digits, first = .number digits) → second.isMark = true

theorem charTokens_blanks (blank : IsBlanks blanks) (after : List Char) :
    charTokens (blanks ++ after) = charTokens after := by
  have same : nextToken? (blanks ++ after) = nextToken? after := by
    rw [nextToken?_eq, nextToken?_eq, dropWhile_blanks blank]
  cases read : nextToken? after with
  | none => rw [charTokens_of_none read, charTokens_of_none (same.trans read)]
  | some found => rw [charTokens_of_some read, charTokens_of_some (same.trans read)]

/-- The tokens of a text are those that it was written from, and then those of what follows it. -/
theorem Spells.charTokens_append {tokens : List Token} (spells : Spells tokens chars)
    (parted : Parted tokens) (ends : EndsNumber after) :
    charTokens (chars ++ after) = tokens ++ charTokens after := by
  induction spells with
  | nil blank => exact charTokens_blanks blank _
  | @cons token tokens blanks word rest blank writes others ih =>
    obtain ⟨first, chain⟩ := isChain_cons.mp parted.chain
    have endsFirst : (∃ digits, token = .number _) → EndsNumber _ := fun number =>
      others.endsNumber (fun next mem => first next mem number) ends
    have sound : .malformed ∉ tokens := fun mem => parted.sound (mem_cons_of_mem _ mem)
    rw [append_assoc, charTokens_of_some (nextToken?_complete blank writes endsFirst),
      ih ⟨sound, chain⟩, cons_append]

/-! ## Written texts -/

theorem Spells.none : Spells [] [] :=
  .nil (forall_mem_nil _)

theorem Spells.of_blanks {tokens : List Token} (blank : IsBlanks blanks)
    (spells : Spells tokens chars) : Spells tokens (blanks ++ chars) := by
  have both {more : List Char} (also : IsBlanks more) : IsBlanks _ :=
    forall_mem_append.mpr ⟨blank, also⟩
  cases spells with
  | nil also => exact .nil (both also)
  | cons also writes others =>
    rw [← append_assoc, ← append_assoc]
    exact .cons (both also) writes others

theorem Spells.append {first second : List Token} (spells : Spells first chars)
    (more : Spells second others) : Spells (first ++ second) (chars ++ others) := by
  induction spells with
  | nil blank => exact more.of_blanks blank
  | cons blank writes _ ih =>
    rw [append_assoc]
    exact .cons blank writes ih

theorem Token.Writes.spells {tokens : List Token} (writes : token.Writes word)
    (others : Spells tokens chars) : Spells (token :: tokens) (word ++ chars) := by
  have blank : IsBlanks [] := forall_mem_nil _
  exact .cons blank writes others

theorem hexQuad?_hexDigits (escaped : code < 0x40 ∨ code = 0x2028 ∨ code = 0x2029) :
    hexQuad? (Text.hexDigits 4 code) = some (code, []) := by
  rcases escaped with small | rfl | rfl
  · revert code
    decide
  · decide
  · decide

/-- A character between quotes is read back, whatever it is. -/
theorem StringText.escapeChar (c : Char) (rest : StringText written value) :
    StringText (Json.escapeChar true c ++ written) (c :: value) := by
  unfold Json.escapeChar
  split
  iterate 5 · exact .short rfl rest
  · next noQuote noEscape _ _ _ =>
      have named : ∀ code, c.toNat = code → .ofNat code = c := by
        intro code same
        rw [← same, Char.ofNat_toNat]
      split_ifs with backspace formFeed escaped
      · rw [← named 8 backspace]
        exact .short rfl rest
      · rw [← named 12 formFeed]
        exact .short rfl rest
      · have listed : c.toNat < 0x40 ∨ c.toNat = 0x2028 ∨ c.toNat = 0x2029 := by
          simp only [Bool.or_eq_true, Bool.and_eq_true, decide_eq_true_eq] at escaped
          rcases escaped with ((low | line) | paragraph) | ⟨_, (rfl | rfl) | rfl⟩
          · exact .inl (Nat.lt_trans low (by decide))
          · exact .inr (.inl line)
          · exact .inr (.inr paragraph)
          all_goals exact .inl (by decide)
        have text := StringText.code (hexQuad?_hexDigits listed) (.inl (by omega)) rest
        rwa [Char.ofNat_toNat] at text
      · simp only [Bool.or_eq_true, decide_eq_true_eq, not_or] at escaped
        exact .plain (Nat.le_of_not_lt escaped.1.1.1) noQuote noEscape rest

theorem writes_quote (text : String) : Token.Writes (.text text) (quote text).toList := by
  have escaped : StringText (text.toList.flatMap (escapeChar true)) text.toList := by
    induction text.toList with
    | nil => exact .nil
    | cons c chars ih => exact .escapeChar c ih
  have writes := Token.Writes.text escaped
  rw [String.ofList_toList] at writes
  rw [quote, String.toList_ofList]
  exact writes

end SelectGraph.Json
