import SelectGraph.Literal.Json
import SelectGraph.Proofs.Json.Tokens
import SelectGraph.Proofs.Json.Trees

/-!
# The grammar of JSON

The texts of a value are those of its tokens.  A text is read as a value just if it is a text of that
value.
-/

namespace SelectGraph.Json

open List

/-! ## Texts of a value -/

theorem Parted.cons {token : Token} {rest : List Token} (parted : Parted rest)
    (sound : .malformed ≠ token)
    (marked : (∃ digits, token = .number digits) → ∀ next ∈ rest.head?, next.isMark = true) :
    Parted (token :: rest) where
  sound := not_mem_cons_of_ne_of_not_mem sound parted.sound
  chain := isChain_cons.mpr ⟨fun next mem number => marked number next mem, parted.chain⟩

mutual

theorem flat_parted (value : Json) {rest : List Token} (parted : Parted rest)
    (marked : ∀ token ∈ rest.head?, token.isMark = true) : Parted (value.flat ++ rest) := by
  cases value with
  | null | bool | number | text => exact parted.cons nofun fun _ => marked
  | list items =>
    rw [flat, cons_append, cons_append, append_assoc]
    refine .cons ?_ nofun nofun
    have closed : Parted (.closeBracket :: rest) := parted.cons nofun nofun
    cases items with
    | nil => exact closed
    | cons item items =>
      rw [flatItems, append_assoc]
      obtain ⟨others, comma⟩ := moreItems_parted _ closed fun _ mem => by cases mem; rfl
      exact flat_parted item others comma
  | object members =>
    rw [flat, cons_append, cons_append]
    refine .cons ?_ nofun nofun
    have closed : Parted (.closeBrace :: rest) := parted.cons nofun nofun
    cases members with
    | nil => exact closed
    | cons member members =>
      obtain ⟨key, value⟩ := member
      rw [flatMembers]
      simp only [append_assoc]
      obtain ⟨others, comma⟩ := moreMembers_parted _ closed fun _ mem => by cases mem; rfl
      exact .cons (.cons (flat_parted _ others comma) nofun nofun) nofun nofun

theorem moreItems_parted (items : List Json) {rest : List Token} (parted : Parted rest)
    (marked : ∀ token ∈ rest.head?, token.isMark = true) :
    Parted (moreItems items ++ rest) ∧
      ∀ token ∈ (moreItems items ++ rest).head?, token.isMark = true := by
  cases items with
  | nil => exact ⟨parted, marked⟩
  | cons item items =>
    rw [moreItems]
    simp only [append_assoc]
    obtain ⟨others, comma⟩ := moreItems_parted _ parted marked
    exact ⟨.cons (flat_parted item others comma) nofun nofun, fun _ mem => by cases mem; rfl⟩

theorem moreMembers_parted (members : List (String × Json)) {rest : List Token}
    (parted : Parted rest) (marked : ∀ token ∈ rest.head?, token.isMark = true) :
    Parted (moreMembers members ++ rest) ∧
      ∀ token ∈ (moreMembers members ++ rest).head?, token.isMark = true := by
  cases members with
  | nil => exact ⟨parted, marked⟩
  | cons member members =>
    obtain ⟨key, value⟩ := member
    rw [moreMembers]
    simp only [append_assoc]
    obtain ⟨others, comma⟩ := moreMembers_parted members parted marked
    exact ⟨.cons (.cons (.cons (flat_parted _ others comma) nofun nofun) nofun nofun) nofun nofun,
      fun _ mem => by cases mem; rfl⟩

end

theorem parted_flat (value : Json) : Parted value.flat := by
  have parted := flat_parted value ⟨not_mem_nil, .nil⟩ nofun
  rwa [append_nil] at parted

def IsText (text : String) (value : Json) : Prop :=
  Spells value.flat text.toList

theorem IsText.tokens_append {text after : String} {value : Json} (isText : IsText text value)
    (ends : EndsNumber after.toList) : tokens (text ++ after) = value.flat ++ tokens after := by
  rw [tokens_eq_charTokens, String.toList_append]
  exact isText.charTokens_append (parted_flat _) ends

/-- A text is read as the tokens of a value just if it is a text of the value. -/
theorem isText_iff {text : String} {value : Json} : IsText text value ↔ tokens text = value.flat := by
  constructor
  · intro isText
    have ends : EndsNumber "".toList := nofun
    have read := isText.tokens_append ends
    rwa [String.append_empty, show tokens "" = [] from rfl, List.append_nil] at read
  · intro read
    rw [tokens_eq_charTokens] at read
    have spells := spells_charTokens (read ▸ (parted_flat _).sound)
    rwa [read] at spells

/-- A reader that takes a whole text for a value has been given a text of one. -/
theorem readValue_tokens_eq_ok {α ε : Type} {algebra : Algebra α ε} {text : String} {value : α} :
    readValue algebra (tokens text) = .ok (value, []) ↔
      ∃ json, IsText text json ∧ json.fold algebra = .ok value := by
  simp only [readValue_eq_ok, append_nil, isText_iff]

theorem IsText.unique {text : String} {value other : Json} (isText : IsText text value)
    (isOther : IsText text other) : value = other := by
  have read := readValue_tokens_eq_ok.mpr ⟨value, isText, fold_plainAlgebra _⟩
  have readOther := readValue_tokens_eq_ok.mpr ⟨other, isOther, fold_plainAlgebra _⟩
  cases read.symm.trans readOther
  rfl

/-- A text of a value with something visible after it is no text of a value. -/
theorem IsText.not_isText_append {text after : String} {value : Json} (isText : IsText text value)
    (ends : EndsNumber after.toList) (visible : ¬ IsBlanks after.toList) (other : Json) :
    ¬ IsText (text ++ after) other := by
  intro isOther
  have split : other.flat = value.flat ++ tokens _ :=
    (isText_iff.mp isOther).symm.trans (isText.tokens_append ends)
  have whole : readValue _ _ = .ok (other, []) :=
    readValue_eq_ok.mpr ⟨other, (append_nil _).symm, fold_plainAlgebra _⟩
  have part : readValue _ _ = .ok (value, tokens _) :=
    readValue_eq_ok.mpr ⟨value, split, fold_plainAlgebra _⟩
  have nothing : [] = tokens _ := congrArg Prod.snd (Except.ok.inj (whole.symm.trans part))
  exact visible (isBlanks_of_charTokens nothing.symm)

/-- The text is written by the rules of JSON and stands for the value, however deep it nests. -/
def Denotes (text : String) (value : Json) : Prop :=
  readValue plainAlgebra (tokens text) = .ok (value, [])

theorem parse?_eq_some {text : String} {value : Json} :
    parse? text = some value ↔ Denotes text value ∧ nesting 0 (tokens text) ≤ maxDepth := by
  unfold parse? Denotes
  simp only
  split
  · next found read =>
      rw [read]
      split
      · next flat => simp [flat]
      · next deep => simp [deep]
  · next unread =>
      constructor
      · intro impossible
        cases impossible
      · intro read
        exact absurd read.1 (unread _)

theorem denotes_iff {text : String} {value : Json} : Denotes text value ↔ IsText text value := by
  rw [Denotes, readValue_tokens_eq_ok]
  constructor
  · rintro ⟨json, isText, made⟩
    rw [fold_plainAlgebra] at made
    cases made
    exact isText
  · exact fun isText => ⟨value, isText, fold_plainAlgebra _⟩

end SelectGraph.Json

namespace SelectGraph.Literal

/-- The literal of a text is that of the value of which it is a text. -/
theorem ofJson_eq_ok {text : String} {value : Literal} :
    ofJson text = .ok value ↔
      ∃ json, Json.IsText text json ∧ json.fold (algebra (Json.faultOf text)) = .ok value := by
  rw [← Json.readValue_tokens_eq_ok, ofJson]
  split
  · next read => simp [read]
  · next read => simp [read]
  · next read => simp [read]

end SelectGraph.Literal
