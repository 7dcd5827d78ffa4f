import SelectGraph.Proofs.Json.Grammar
import SelectGraph.Response.Body

/-!
# What bodies with data stand for

The values of root fields are JSON texts of any origin.  Put together they are a JSON text again, an
object with the names of the root fields and their values.
-/

namespace SelectGraph.Response

open List

open Json (Denotes IsText Spells Token flatMembers tokens writes_quote)

variable {values : List RootValue} {jsons : List Json}

/-- What the cell of a root field stands for: null without a text, and nothing for a text that is no
JSON. -/
def cellJson? : Option String → Option Json
  | none => some .null
  | some text => Json.parse? text

namespace RootValue

/-- The text of a root value whether it is JSON or not. -/
def shown (value : RootValue) : String :=
  value.text?.getD "null"

/-- What a root value stands for. -/
def json? (value : RootValue) : Option Json :=
  cellJson? value.text?

theorem written_of_none {value : RootValue} (invalid : value.json? = none) :
    value.written = none := by
  obtain ⟨name, text?⟩ := value
  cases text? with
  | none => cases invalid
  | some text => simp_all [json?, cellJson?, written, Json.isValid]

variable {value : RootValue} {json : Json} (valid : value.json? = some json)

include valid

theorem written_of_some : value.written = some value.shown := by
  obtain ⟨name, text?⟩ := value
  cases text? with
  | none => rfl
  | some text => simp_all [json?, cellJson?, written, Json.isValid, shown]

theorem parse?_shown : Json.parse? value.shown = some json := by
  obtain ⟨name, text?⟩ := value
  cases text? with
  | none =>
    cases valid
    have null : tokens "null" = [.null] := by decide
    rw [show (RootValue.mk name none).shown = "null" from rfl, Json.parse?]
    rfl
  | some text => exact valid

theorem isText_shown : IsText value.shown json :=
  Json.denotes_iff.mp (Json.parse?_eq_some.mp (parse?_shown valid)).1

end RootValue

/-! ## Members -/

def memberText (value : RootValue) : String :=
  Json.quote value.name ++ ":" ++ value.shown

theorem dataMembers_eq
    (valid : List.Forall₂ (fun value json => value.json? = some json) values jsons) :
    dataMembers values = .ok (values.map memberText) := by
  induction valid with
  | nil => rfl
  | cons first _ ih =>
    rw [dataMembers, RootValue.written_of_some first, ih]
    rfl

/-- The first value that is no JSON is the one that is reported. -/
theorem dataMembers_eq_error {before after : List RootValue} {value : RootValue}
    (valid : ∀ earlier ∈ before, earlier.json?.isSome) (invalid : value.json? = none) :
    dataMembers (before ++ value :: after) = .error value.name := by
  induction before with
  | nil => rw [nil_append, dataMembers, RootValue.written_of_none invalid]
  | cons first before ih =>
    rw [forall_mem_cons] at valid
    obtain ⟨json, found⟩ := Option.isSome_iff_exists.mp valid.1
    rw [cons_append, dataMembers, RootValue.written_of_some found, ih valid.2]
    rfl

theorem spells_member {value : RootValue} {json : Json} (valid : value.json? = some json)
    {tokens : List Token} {chars : List Char} (others : Spells tokens chars) :
    Spells (.text value.name :: .colon :: json.flat ++ tokens)
      ((memberText value).toList ++ chars) := by
  have text : Spells _ _ := RootValue.isText_shown valid
  have spells := (writes_quote value.name).spells
    ((.mark rfl : Token.Writes .colon [':']).spells (text.append others))
  simpa [memberText] using spells

section

variable (valid : List.Forall₂ (fun value json => value.json? = some json) values jsons)

include valid

/-- Members with commas between them are those of an object. -/
theorem spells_members :
    Spells (flatMembers ((values.map RootValue.name).zip jsons))
      (Text.join "," (values.map memberText)).toList := by
  induction valid with
  | nil => exact .none
  | @cons value json values jsons first others ih =>
    cases others with
    | nil =>
      have spells := spells_member first .none
      simpa [flatMembers, Json.moreMembers, Text.join] using spells
    | cons second others =>
      have spells := spells_member first
        ((.mark rfl : Token.Writes .comma [',']).spells ih)
      simpa [flatMembers, Json.moreMembers, Text.join] using spells

/-! ## Bodies -/

/-- Values that are all JSON have a body, which stands for an object of them by their names. -/
theorem dataBody_of_json :
    ∃ body, dataBody values = .ok body ∧
      Denotes body (.object [("data", .object ((values.map RootValue.name).zip jsons))]) := by
  have opening : Spells [.openBrace, .text "data", .colon, .openBrace]
      "\x7b\"data\":\x7b".toList := by
    have parts : "\x7b\"data\":\x7b".toList =
        ['{'] ++ ((Json.quote "data").toList ++ ([':'] ++ (['{'] ++ []))) := by decide
    rw [parts]
    exact (Token.Writes.mark rfl).spells ((writes_quote "data").spells
      ((Token.Writes.mark rfl).spells ((Token.Writes.mark rfl).spells .none)))
  have closing : Spells [.closeBrace, .closeBrace] "\x7d\x7d".toList :=
    (.mark rfl : Token.Writes _ ['}']).spells
      ((.mark rfl : Token.Writes _ ['}']).spells .none)
  refine ⟨_, by rw [dataBody, dataMembers_eq valid]; rfl, Json.denotes_iff.mpr ?_⟩
  have spells := opening.append ((spells_members valid).append closing)
  simpa [IsText, Json.flat, flatMembers, Json.moreMembers] using spells

end

/-- Values of which one is no JSON have no body; the first of these values is reported. -/
theorem dataBody_of_none (invalid : ∃ value ∈ values, value.json? = none) :
    ∃ value ∈ values, value.json? = none ∧ dataBody values = .error value.name := by
  obtain ⟨value, mem, isInvalid⟩ := invalid
  have found : (values.find? fun value => value.json?.isNone).isSome :=
    find?_isSome.mpr ⟨value, mem, Option.isNone_iff_eq_none.mpr isInvalid⟩
  obtain ⟨first, first_eq⟩ := Option.isSome_iff_exists.mp found
  obtain ⟨isFirst, before, after, rfl, valid⟩ := find?_eq_some_iff_append.mp first_eq
  have firstInvalid := Option.isNone_iff_eq_none.mp isFirst
  have reported : dataMembers (before ++ first :: after) = .error first.name := by
    apply dataMembers_eq_error _ firstInvalid
    intro earlier earlierMem
    have checked := valid _ earlierMem
    rwa [Bool.not_eq_true', Option.isNone_eq_false_iff] at checked
  refine ⟨first, by simp, firstInvalid, ?_⟩
  rw [dataBody, reported]
  rfl

end SelectGraph.Response
