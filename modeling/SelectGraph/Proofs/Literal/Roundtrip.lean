import SelectGraph.Proofs.Json.Grammar
import SelectGraph.Proofs.Literal.Integers

/-!
# Literals written as JSON

Literals of null, booleans, texts, words, lists and objects have JSON texts, and every such text is read
back as the literal itself, with the fields of objects in their order and repeated names kept.  With
anything but blanks behind it the text is refused.
-/

namespace SelectGraph

open List

variable {value : Literal} {json : Json} {text : String}

/-! ## Numbers -/

namespace Literal

open Json (IsDigits IsWhole NumberText)

/-- How the values of a row stand in an object: integers of 64 bits, signed or unsigned, as numbers
without fraction or exponent. -/
inductive Renders : Json → Literal → Prop where
  | null : Renders .null .null
  | bool (value : Bool) : Renders (.bool value) (.bool value)
  | text (value : String) : Renders (.text value) (.text value)
  | int {digits : String} {value : Int} (written : IntegerText digits.toList value)
      (fits : minInt ≤ value ∧ value ≤ maxInt) : Renders (.number digits) (.int value)
  | uint {digits : String} {value : Nat} (written : IntegerText digits.toList value)
      (fits : maxInt < value ∧ value ≤ maxUInt) : Renders (.number digits) (.uint value)

/-- An integer has neither a fraction nor an exponent. -/
theorem ofNumber_of_text {digits : String} {value : Int}
    (written : IntegerText digits.toList value) {literal : Literal}
    (read : ofDigits? digits = some literal) : ofNumber digits = .ok literal := by
  have plain : ∀ c ∈ digits.toList, Text.isDigit c = true ∨ c = '-' := by
    rcases written with ⟨is, -⟩ | ⟨rest, split, is, -⟩
    · exact fun c mem => .inl (is.2 c mem)
    · rw [split, forall_mem_cons]
      exact ⟨.inr rfl, fun c mem => .inl (is.2 c mem)⟩
  rw [ofNumber, if_neg, read]
  intro marked
  obtain ⟨c, mem, mark⟩ := any_eq_true.mp marked
  have marks : c = '.' ∨ c = 'e' ∨ c = 'E' := by simpa [or_assoc] using mark
  have digit := plain c mem
  rcases marks with rfl | rfl | rfl <;> revert digit <;> decide

theorem Renders.fold {literal : Literal} (renders : Renders json literal) (fault : Json.Fault) :
    json.fold (algebra fault) = .ok literal := by
  cases renders with
  | null | bool | text => rfl
  | @int digits value written fits =>
    apply ofNumber_of_text written
    rw [ofDigits?_of_text written, if_pos fits]
  | @uint digits value written fits =>
    apply ofNumber_of_text written
    rw [ofDigits?_of_text written, if_neg (by omega), if_pos (by omega), Int.toNat_natCast]

theorem isDigits_toDigits (n : Nat) : IsDigits (Nat.toDigits 10 n) :=
  ⟨Nat.toDigits_ne_nil, fun _ mem => Nat.isDigit_of_mem_toDigits (by decide) (by decide) mem⟩

theorem head?_toDigits {n : Nat} (positive : 0 < n) : (Nat.toDigits 10 n).head? ≠ some '0' := by
  have single : ∀ n < 10, 0 < n → [n.digitChar].head? ≠ some '0' := by decide
  induction n using Nat.strong_induction_on with
  | _ n ih =>
    rw [Nat.toDigits_eq_if (by decide)]
    split
    · next small => exact single n small positive
    · rw [head?_append_of_ne_nil _ Nat.toDigits_ne_nil]
      exact ih _ (by omega) (by omega)

theorem isWhole_toDigits (n : Nat) : IsWhole (Nat.toDigits 10 n) := by
  rcases Nat.eq_zero_or_pos n with rfl | positive
  · exact .inl (Nat.toDigits_zero 10)
  · exact .inr ⟨isDigits_toDigits n, head?_toDigits positive⟩

theorem toList_toString (value : Int) : ∃ sign, (sign = [] ∧ 0 ≤ value ∨ sign = ['-'] ∧ value < 0) ∧
    (toString value).toList = sign ++ Nat.toDigits 10 value.natAbs := by
  rw [Int.toString_eq_repr, Int.repr_eq_if]
  split
  · next positive =>
      refine ⟨[], .inl ⟨rfl, positive⟩, ?_⟩
      have same : value.toNat = value.natAbs := by omega
      simp [same]
  · next negative =>
      refine ⟨['-'], .inr ⟨rfl, by omega⟩, ?_⟩
      have same : (-value).toNat = value.natAbs := by omega
      simp [same]

theorem integerText_toString (value : Int) : IntegerText (toString value).toList value := by
  have same : Text.digitsValue (Nat.toDigits 10 value.natAbs) = value.natAbs := by
    rw [Text.digitsValue, ← Nat.ofDigitChars_eq_foldl, Nat.ofDigitChars_ten_toDigits]
  obtain ⟨sign, ⟨rfl, positive⟩ | ⟨rfl, negative⟩, written⟩ := toList_toString _
  · rw [written]
    exact .inl ⟨isDigits_toDigits _, by rw [nil_append]; omega⟩
  · exact .inr ⟨Nat.toDigits 10 _, written, isDigits_toDigits _, by rw [same]; omega⟩

theorem numberText_toString (value : Int) : NumberText (toString value).toList := by
  obtain ⟨sign, signed, written⟩ := toList_toString _
  refine ⟨sign, Nat.toDigits 10 _, [], [], by simpa using written, ?_,
    isWhole_toDigits _, .inl rfl, .inl rfl⟩
  exact signed.imp And.left And.left

end Literal

/-! ## Values -/

namespace Json

theorem spells_compactItems {items : List Json}
    (each : ∀ item ∈ items, Spells item.flat item.compact.toList) :
    Spells (flatItems items) (",".intercalate (compactItems items)).toList := by
  induction items with
  | nil => exact .none
  | cons item items ih =>
    rw [forall_mem_cons] at each
    have others := ih each.2
    cases items with
    | nil => simpa [flatItems, moreItems, compactItems] using each.1
    | cons second items =>
      have comma : Token.Writes .comma [','] := .mark rfl
      have spells := each.1.append (comma.spells others)
      simpa [flatItems, moreItems, compactItems] using spells

theorem spells_compactMembers {members : List (String × Json)}
    (each : ∀ member ∈ members, Spells member.2.flat member.2.compact.toList) :
    Spells (flatMembers members) (",".intercalate (compactMembers members)).toList := by
  induction members with
  | nil => exact .none
  | cons member members ih =>
    obtain ⟨key, value⟩ := member
    rw [forall_mem_cons] at each
    have others := ih each.2
    have colon : Token.Writes .colon [':'] := .mark rfl
    have comma : Token.Writes .comma [','] := .mark rfl
    cases members with
    | nil =>
      have spells := (writes_quote key).spells (colon.spells each.1)
      simpa [flatMembers, moreMembers, compactMembers] using spells
    | cons second members =>
      have spells := (writes_quote key).spells (colon.spells (each.1.append (comma.spells others)))
      simpa [flatMembers, moreMembers, compactMembers] using spells

end Json

namespace Literal

open Json (IsBlanks IsText Spells Token foldItems foldMembers)

mutual

/-- The JSON value of a literal, with integers in decimal digits. -/
def toJson : Literal → Json
  | .null => .null
  | .int value => .ofInt value
  | .uint value => .ofNat value
  | .float value => .ofDouble value
  | .bool value => .bool value
  | .text value | .enum value => .text value
  | .list items => .list (itemsJson items)
  | .object fields => .object (fieldsJson fields)

def itemsJson : List Literal → List Json
  | [] => []
  | item :: items => toJson item :: itemsJson items

def fieldsJson : List (String × Literal) → List (String × Json)
  | [] => []
  | (name, value) :: fields => (name, toJson value) :: fieldsJson fields

end

theorem itemsJson_eq_map (items : List Literal) : itemsJson items = items.map toJson := by
  induction items with
  | nil => rfl
  | cons item items ih => simp [itemsJson, ih]

theorem fieldsJson_eq_map (fields : List (String × Literal)) :
    fieldsJson fields = fields.map fun field => (field.1, field.2.toJson) := by
  induction fields with
  | nil => rfl
  | cons field fields ih => simp [fieldsJson, ih]

/-- The literals that JSON has a value of their own for: no doubles and no enum names, and unsigned
words only beyond the signed ones. -/
inductive IsExact : Literal → Prop where
  | null : IsExact .null
  | bool (value : Bool) : IsExact (.bool value)
  | text (value : String) : IsExact (.text value)
  | int {value : Int} (fits : minInt ≤ value ∧ value ≤ maxInt) : IsExact (.int value)
  | uint {value : Nat} (fits : maxInt < value ∧ value ≤ maxUInt) : IsExact (.uint value)
  | list {items : List Literal} (each : ∀ item ∈ items, IsExact item) : IsExact (.list items)
  | object {fields : List (String × Literal)} (each : ∀ field ∈ fields, IsExact field.2) :
      IsExact (.object fields)

/-- The compact form of a literal is a text of it. -/
theorem IsExact.isText_compact (exact : value.IsExact) :
    IsText value.toJson.compact value.toJson := by
  have word (value : Int) : IsText (Json.ofInt value).compact (.ofInt value) := by
    have writes := Token.Writes.number (numberText_toString value)
    simpa [IsText, Json.flat, Json.compact, Json.ofInt] using writes.spells .none
  induction exact with
  | null => exact Token.Writes.null.spells .none
  | bool value =>
    cases value
    · exact Token.Writes.false.spells .none
    · exact Token.Writes.true.spells .none
  | text value =>
    have spells := (Json.writes_quote value).spells .none
    rwa [append_nil] at spells
  | @int value _ => exact word _
  | @uint value _ => exact word value
  | @list items _ ih =>
    have inner := Json.spells_compactItems (forall_mem_map.mpr ih)
    have opening : Token.Writes .openBracket ['['] := .mark rfl
    have closing : Token.Writes .closeBracket [']'] := .mark rfl
    have spells := opening.spells (inner.append (closing.spells .none))
    simpa [IsText, toJson, itemsJson_eq_map, Json.flat, Json.compact] using spells
  | @object fields _ ih =>
    have each : ∀ member ∈ fields.map fun field => (field.1, field.2.toJson),
        Spells member.2.flat member.2.compact.toList := forall_mem_map.mpr ih
    have inner := Json.spells_compactMembers each
    have opening : Token.Writes .openBrace ['{'] := .mark rfl
    have closing : Token.Writes .closeBrace ['}'] := .mark rfl
    have spells := opening.spells (inner.append (closing.spells .none))
    simpa [IsText, toJson, fieldsJson_eq_map, Json.flat, Json.compact] using spells

theorem foldItems_toJson {fault : Json.Fault} {items : List Literal}
    (each : ∀ item ∈ items, item.toJson.fold (algebra fault) = .ok item) :
    foldItems (algebra fault) (items.map toJson) = .ok items := by
  induction items with
  | nil => rfl
  | cons item items ih =>
    rw [forall_mem_cons] at each
    rw [map_cons, foldItems, each.1, ih each.2]
    rfl

theorem IsExact.fold_toJson (exact : value.IsExact) (fault : Json.Fault) :
    value.toJson.fold (algebra fault) = .ok value := by
  induction exact with
  | null => rfl
  | bool => rfl
  | text => rfl
  | int fits => exact (Renders.int (integerText_toString _) fits).fold _
  | uint fits => exact (Renders.uint (integerText_toString _) fits).fold _
  | list _ ih =>
    rw [toJson, itemsJson_eq_map, Json.fold, foldItems_toJson ih]
    rfl
  | @object fields _ ih =>
    have folded : foldMembers (algebra fault) (fields.map fun field => (field.1, field.2.toJson)) =
        .ok fields := by
      rw [Json.foldMembers_eq_ok, forall₂_map_left_iff, forall₂_same]
      exact fun field mem => ⟨rfl, ih _ mem⟩
    rw [toJson, fieldsJson_eq_map, Json.fold, folded]
    rfl

/-- Nothing but blanks may follow the text of a value. -/
theorem ofJson_append (isText : IsText text json) {blanks rest : String} (some : blanks ≠ "")
    (blank : IsBlanks blanks.toList) (visible : ¬ IsBlanks rest.toList) :
    ∃ fault, ofJson (text ++ blanks ++ rest) = .error fault := by
  cases read : ofJson _ with
  | error fault => exact ⟨fault, rfl⟩
  | ok value =>
    obtain ⟨other, isOther, -⟩ := ofJson_eq_ok.mp read
    rw [String.append_assoc] at isOther
    refine absurd isOther (isText.not_isText_append ?_ ?_ _)
    · cases front : blanks.toList with
      | nil => exact absurd (String.toList_eq_nil_iff.mp front) some
      | cons c others =>
        rw [String.toList_append, front]
        exact Json.endsNumber_of_blank (blank c (front ▸ mem_cons_self)) _
    · rw [String.toList_append]
      exact fun all => visible fun c mem => all c (mem_append_right _ mem)

/-- Every literal of null, booleans, texts, words, lists and objects has a JSON text, and each of its
texts, with blanks anywhere, is read as the literal itself.  With blanks and then anything visible
behind it no text of it is read. -/
theorem ofJson_lossless (exact : value.IsExact) :
    IsText value.toJson.compact value.toJson ∧
    ∀ text, IsText text value.toJson → ofJson text = .ok value ∧
      ∀ blanks rest : String, blanks ≠ "" → IsBlanks blanks.toList → ¬ IsBlanks rest.toList →
        ∃ fault, ofJson (text ++ blanks ++ rest) = .error fault := by
  refine ⟨exact.isText_compact, fun text isText => ⟨?_, ?_⟩⟩
  · exact ofJson_eq_ok.mpr ⟨value.toJson, isText, exact.fold_toJson _⟩
  · exact fun blanks rest some blank visible => ofJson_append isText some blank visible

/-- Names that come twice, an unsigned word and blanks inside and outside of the brackets. -/
theorem ofJson_lossless_nested :
    let value : Literal := .object [("b", .list [.null, .int (-5), .object []]),
      ("a", .text "x\n"), ("b", .uint 18446744073709551615)]
    let text := "\t\x7b \"b\":[null , -5,\x7b\x7d],\"\\u0061\" : \"x\\n\",\n\"b\":18446744073709551615\x7d "
    ofJson text = .ok value ∧ ∃ fault, ofJson (text ++ " " ++ "\x7d") = .error fault := by
  intro value text
  have exact : value.IsExact := by
    refine .object fun field mem => ?_
    simp only [List.mem_cons, List.not_mem_nil, or_false] at mem
    rcases mem with rfl | rfl | rfl
    · refine .list fun item mem => ?_
      simp only [List.mem_cons, List.not_mem_nil, or_false] at mem
      rcases mem with rfl | rfl | rfl
      · exact .null
      · exact .int (by decide)
      · exact .object (List.forall_mem_nil _)
    · exact .text _
    · exact .uint (by decide)
  have isText : IsText text value.toJson := Json.isText_iff.mpr (by decide +kernel)
  have lossless := (ofJson_lossless exact).2 text isText
  exact ⟨lossless.1, lossless.2 " " "\x7d" (by decide) (by simp [IsBlanks, Json.isBlank])
    (by simp [IsBlanks, Json.isBlank])⟩

end Literal

end SelectGraph
