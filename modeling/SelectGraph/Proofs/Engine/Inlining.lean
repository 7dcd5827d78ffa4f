import SelectGraph.Proofs.Engine.Execution
import SelectGraph.Proofs.Plan.Inlining

/-!
# Requests that give constants in variables

A client may write the constants of a request where they are used, or give them in variables.  The
request reads the same values either way, up to enums, and it compiles to the same statements.
-/

namespace SelectGraph

open List

open GraphQL (Argument Assignment Name Operation Selection Value VariableDefinition)
open Literal (Supplies plainly)
open Sql (Parallel bind_eq_ok)

/-! ## Variables -/

/-- An assignment with one more constant. -/
def GraphQL.Assignment.set (assigned : Assignment) (name : String) (constant : Value) : Assignment :=
  fun other => if other = name then some constant else assigned other

namespace Literal.Supplies

variable {assigned : Assignment} {other env : Environment}

theorem none (env : Environment) : Supplies (fun _ => .none) env env :=
  ⟨nofun, fun _ _ => rfl⟩

/-- A constant can be moved into a variable if its JSON form can be read. -/
theorem set (supplies : Supplies assigned other env) (name : String) {constant : Value}
    {text : String} {literal : Literal} (isConstant : constant.isConstant = true)
    (isText : Json.IsText text constant.json) (decoded : ofJson text = .ok literal) :
    Supplies (assigned.set name constant) other ((name, literal) :: env) := by
  constructor
  · intro wanted found given
    rw [GraphQL.Assignment.set] at given
    split at given
    · next same =>
        cases given
        refine ⟨isConstant, text, literal, isText, decoded, ?_⟩
        rw [lookup_cons, beq_iff_eq.mpr same]
    · next different =>
        obtain ⟨foundConstant, foundText, foundLiteral, isFound, read, known⟩ :=
          supplies.constants _ _ given
        refine ⟨foundConstant, foundText, foundLiteral, isFound, read, ?_⟩
        rw [lookup_cons, beq_eq_false_iff_ne.mpr different]
        exact known
  · intro wanted free
    rw [GraphQL.Assignment.set] at free
    split at free
    · cases free
    · next different =>
        rw [lookup_cons, beq_eq_false_iff_ne.mpr different]
        exact supplies.others _ free

/-- A default that is added on both sides. -/
theorem append (supplies : Supplies assigned other env) (added : Environment) :
    Supplies assigned (other ++ added) (env ++ added) := by
  constructor
  · intro name constant given
    obtain ⟨isConstant, text, literal, isText, decoded, known⟩ :=
      supplies.constants name _ given
    refine ⟨isConstant, text, literal, isText, decoded, ?_⟩
    rw [lookup_append, known]
    rfl
  · intro name free
    rw [lookup_append, lookup_append, supplies.others name free]

end Literal.Supplies

namespace Tree

variable {assigned : Assignment} {other env : Environment} {decl : VariableDefinition}

/-- The variables with one more of them completed. -/
def completeOne (env : Environment) (decl : VariableDefinition) :
    Except ResolutionError Environment :=
  let name := decl.name.value
  match env.lookup name, decl.default? with
  | none, some value =>
    match Literal.ofValue [] value with
    | .error error => .error ⟨"default of $" ++ name ++ ": " ++ error.message⟩
    | .ok (some found) => .ok (env ++ [(name, found)])
    | .ok none => .ok env
  | _, _ => .ok env

section

variable (supplies : Supplies assigned other env)

include supplies

theorem completeOne_fill (free : assigned decl.name.value = none) :
    Parallel (fun completed completed' => Supplies assigned completed' completed)
      (completeOne env decl) (completeOne other decl) := by
  rw [completeOne, completeOne, supplies.others _ free]
  split
  · split
    · exact .error trivial
    · exact .ok (supplies.append _)
    · exact .ok supplies
  · exact .ok supplies

theorem foldlM_completeOne_fill (decls : List VariableDefinition) :
    Parallel (fun completed completed' => Supplies assigned completed' completed)
      (decls.foldlM completeOne env)
      ((decls.filter fun decl => (assigned decl.name.value).isNone).foldlM
        completeOne other) := by
  induction decls generalizing other env with
  | nil => exact .ok supplies
  | cons decl decls ih =>
    cases given : assigned _ with
    | none =>
      rw [filter_cons_of_pos (by rw [given]; rfl)]
      exact (completeOne_fill supplies given).bind fun completed completed' kept => ih kept
    | some constant =>
      obtain ⟨-, -, literal, -, -, known⟩ := supplies.constants _ _ given
      rw [filter_cons_of_neg (by rw [given]; exact Bool.false_ne_true), foldlM_cons,
        completeOne, known]
      exact ih supplies

/-- Variables with defaults are completed alike whether constants are given in variables or not. -/
theorem completeVariables_fill (op : Operation) :
    Parallel (fun completed completed' => Supplies assigned completed' completed)
      (completeVariables op env)
      (completeVariables (op.fill assigned) other) := foldlM_completeOne_fill supplies _

end

/-- An argument whose variable has no value is absent. -/
theorem givenArguments_unset {ctx : Context} {name : Name}
    (unset : ctx.environment.lookup name.value = none) (field : String)
    (before after : List Argument) (arg : Name) (start : Nat) :
    Builder.givenArguments ctx field (before ++ ⟨arg, .variable name start⟩ :: after) =
      Builder.givenArguments ctx field (before ++ after) := by
  induction before with
  | nil =>
    rw [nil_append, Builder.givenArguments]
    rw [Literal.ofValue_unset unset]
    exact bind_pure _
  | cons first before ih =>
    rw [cons_append, cons_append, Builder.givenArguments, Builder.givenArguments, ih]

end Tree

/-! ## Statements -/

namespace Engine

variable {model : Model} {doc : GraphQL.Document} {op : Operation}
  {supplied : Environment} {stmts : List Plan.Statement}

theorem compileOperation_eq_ok :
    compileOperation model doc op supplied = .ok stmts ↔
      ∃ env roots, Tree.completeVariables op supplied = .ok env ∧
        Tree.build ⟨model.schema, doc, env⟩ op.selections = .ok roots ∧
        roots.mapM (Plan.compile model.sources) = .ok stmts := by
  simp only [compileOperation, bind_eq_ok, mapError_eq_ok, exists_and_left]

theorem mapM_compile_plain {src : Plan.Sources} {roots others : List Tree.Root}
    (same : List.Forall₂ (fun root other => root.plain = other.plain) roots others) :
    roots.mapM (Plan.compile src) = .ok stmts ↔
      others.mapM (Plan.compile src) = .ok stmts := by
  have compiles {root other : Tree.Root} (equal : root.plain = other.plain)
      {stmt : Plan.Statement} :
      Plan.compile src root = .ok stmt ↔ Plan.compile src other = .ok stmt := by
    rw [← Plan.compile_plain, equal, Plan.compile_plain]
  induction same generalizing stmts with
  | nil => exact .rfl
  | cons first _ ih => simp only [mapM_cons, bind_eq_ok, compiles first, ih]

theorem compileOperation_fill {assigned : Assignment} {other : Environment}
    (supplies : Supplies assigned other supplied)
    (plain : ∀ frag ∈ (doc.fill assigned).fragments,
      Selection.havePlainCursors frag.selections = true)
    (plainSelections : Selection.havePlainCursors (op.fill assigned).selections = true) :
    compileOperation model doc op supplied = .ok stmts ↔
      compileOperation model (doc.fill assigned) (op.fill assigned) other =
        .ok stmts := by
  rw [compileOperation_eq_ok, compileOperation_eq_ok]
  obtain ⟨error, failed, failedOther⟩ | ⟨env, environment', completed, completedOther, kept⟩ :=
    (Tree.completeVariables_fill supplies op).outcomes
  · simp [failed, failedOther]
  · have trees := Tree.build_fill ⟨model.schema, doc, env⟩ kept plain plainSelections
    simp only [completed, completedOther, Except.ok.injEq, exists_and_left, exists_eq_left']
    change (∃ roots, Tree.build ⟨model.schema, doc, env⟩ _ = _ ∧ _) ↔
      ∃ roots, Tree.build ⟨model.schema, doc.fill _, environment'⟩
        (Selection.fillAll _ _) = _ ∧ _
    generalize Tree.build ⟨model.schema, doc, env⟩ _ = built,
      Tree.build ⟨model.schema, doc.fill _, environment'⟩
        _ = builtOther at trees ⊢
    cases trees with
    | error _ => simp
    | ok same => simp [mapM_compile_plain same]

/-- A value with variables is read as the value with constants in place of those variables for which
they are given as JSON, except that an enum among them is read as a text; failures are the same.  A
variable without a value is null in a list, takes its field away in an object, and leaves an argument
absent.  So a request whose cursors contain no enum compiles to the same statements, whether it gives
constants in variables or not. -/
theorem inline_and_variable_arguments_agree {assigned : Assignment} {other supplied : Environment}
    (supplies : Supplies assigned other supplied) :
    (∀ value,
      Literal.ofValue supplied value = Literal.ofValue other (value.fill assigned.quoted) ∧
        plainly (Literal.ofValue supplied value) =
          plainly (Literal.ofValue other (value.fill assigned))) ∧
    (∀ name : Name, assigned name.value = none → other.lookup name.value = none →
      (∀ before after start place,
        Literal.ofValue supplied (.list (before ++ .variable name start :: after) place) = (do
          let first ← Literal.ofItems supplied before
          let others ← Literal.ofItems supplied after
          return some (.list (first ++ .null :: others)))) ∧
      (∀ before after field start place,
        Literal.ofValue supplied (.object (before ++ (field, .variable name start) :: after) place) =
          Literal.ofValue supplied (.object (before ++ after) place)) ∧
      ∀ schema document field before after argument start,
        Tree.Builder.givenArguments ⟨schema, document, supplied⟩ field
            (before ++ ⟨argument, .variable name start⟩ :: after) =
          Tree.Builder.givenArguments ⟨schema, document, supplied⟩ field (before ++ after)) ∧
    ∀ (model : Model) (document : GraphQL.Document) (operation : Operation),
      Selection.havePlainCursors (operation.fill assigned).selections = true →
      (∀ fragment ∈ (document.fill assigned).fragments,
        Selection.havePlainCursors fragment.selections = true) →
      ∀ statements,
        compileOperation model document operation supplied = .ok statements ↔
          compileOperation model (document.fill assigned) (operation.fill assigned) other =
            .ok statements := by
  refine ⟨fun value => ⟨supplies.ofValue_fill value, supplies.plainly_fill value⟩, ?_,
    fun model document operation plainSelections plain statements =>
      compileOperation_fill supplies plain plainSelections⟩
  intro name free unknown
  have unset : supplied.lookup name.value = none := (supplies.others _ free).trans unknown
  refine ⟨fun before after start place => ?_, fun before after field start place => ?_,
    fun schema document field before after argument start =>
      Tree.givenArguments_unset unset field before after argument start⟩
  · rw [Literal.ofValue, Literal.ofItems_unset unset]
    cases Literal.ofItems supplied before <;> cases Literal.ofItems supplied after <;> rfl
  · rw [Literal.ofValue, Literal.ofValue, Literal.ofFields_unset unset]

/-! ## An example -/

def ratedModel : Model where
  schema := {
    queryType := "Query"
    types := [
      ⟨"Query", .object [⟨"films", [], .list (.named "Film"), none⟩]⟩,
      ⟨"Film", .object [⟨"id", [], .named "Int", none⟩]⟩, ⟨"Int", .scalar⟩]
    defaults := [] }
  sources := {
    catalog := {
      tables := [⟨"film", [⟨"id", "int", false⟩, ⟨"rating", "text", true⟩], ["id"], [], []⟩]
      typeTables := [("Film", "film")] }
    registry := .empty }

/-- A variable where a value is expected. -/
def variableValue (name : String) : Value := .variable ⟨name, 0⟩ 0

def variableOf (name type : String) : VariableDefinition := ⟨⟨name, 0⟩, .named ⟨type, 0⟩, none, 0⟩

/-- Films of one rating, in an order and after a cursor, with every constant in a variable.  One
variable has no value. -/
def ratedOperation : Operation where
  kind := .query
  name? := none
  variableDefinitions := [variableOf "rating" "Rating", variableOf "id" "Int", variableOf "no" "Int",
    variableOf "size" "Int", variableOf "cursor" "String", variableOf "order" "Order"]
  directives := []
  selections := [.field none ⟨"films", 0⟩ [
      ⟨⟨"rating", 0⟩, variableValue "rating"⟩,
      ⟨⟨"id", 0⟩, .list [variableValue "id", variableValue "no"] 0⟩,
      ⟨⟨"first", 0⟩, variableValue "size"⟩,
      ⟨⟨"after", 0⟩, variableValue "cursor"⟩,
      ⟨⟨"orderBy", 0⟩, .object [(⟨"id", 0⟩, variableValue "order")] 0⟩]
    [] [Plan.renamedField "id" "id" []] 0 0]
  start := 0
  setStart := 0

def ratedConstants : Assignment :=
  Assignment.set (Assignment.set (Assignment.set (Assignment.set (Assignment.set (fun _ => none)
    "order" (.enum "DESC" 0)) "cursor" (.string "\x7b\"id\":7\x7d" 0)) "size" (.int "2" 0))
    "id" (.int "18446744073709551615" 0)) "rating" (.enum "PG" 0)

def ratedVariables : Environment :=
  [("rating", .text "PG"), ("id", .uint 18446744073709551615), ("size", .int 2),
    ("cursor", .text "\x7b\"id\":7\x7d"), ("order", .text "DESC")]

theorem ratedVariables_supplied : Supplies ratedConstants [] ratedVariables := by
  have reads (text : String) (json : Json) {literal : Literal}
      (read : Json.tokens text = json.flat)
      (folded : json.fold (Literal.algebra (Json.faultOf text)) = .ok literal) :
      Json.IsText text json ∧ Literal.ofJson text = .ok literal := by
    have isText := Json.isText_iff.mpr read
    exact ⟨isText, Literal.ofJson_eq_ok.mpr ⟨json, isText, folded⟩⟩
  obtain ⟨orderText, order⟩ := reads "\"DESC\"" (.text "DESC") (by decide +kernel) rfl
  obtain ⟨cursorText, cursor⟩ := reads "\"\x7b\\\"id\\\":7\x7d\"" (.text "\x7b\"id\":7\x7d")
    (by decide +kernel) rfl
  obtain ⟨sizeText, size⟩ := reads " 2" (.number "2") (by decide +kernel) rfl
  obtain ⟨idText, id⟩ := reads "18446744073709551615" (.number "18446744073709551615")
    (by decide +kernel) rfl
  obtain ⟨ratingText, rating⟩ := reads "\"PG\"" (.text "PG") (by decide +kernel) rfl
  exact (((((Supplies.none []).set "order" rfl orderText order).set "cursor" rfl cursorText cursor).set
    "size" rfl sizeText size).set "id" rfl idText id).set "rating" rfl ratingText rating

theorem ratedOperation_compiles : ∃ stmts,
    compileOperation ratedModel ⟨[.operation ratedOperation]⟩ ratedOperation ratedVariables =
      .ok stmts := by
  let head : Tree.Head := ⟨"films", "films", "films-1", ⟨"Film", true⟩, [("rating", .text "PG"),
    ("id", .list [.uint 18446744073709551615, .null]), ("first", .int 2),
    ("after", .text "\x7b\"id\":7\x7d"), ("orderBy", .object [("id", .text "DESC")])], none⟩
  have trees : Tree.build ⟨ratedModel.schema, ⟨[.operation ratedOperation]⟩, ratedVariables⟩
      ratedOperation.selections = .ok [⟨head, [.attribute "id" "id"]⟩] := rfl
  let order : List Keyset.OrderField := [⟨"id", .descending⟩]
  let cursor : Keyset.Cursor := [("id", .int 7)]
  have covers : cursor.Covers order := .refl _
  obtain ⟨pred, bound⟩ := Plan.boundaryOf_of_covers (by decide) (by decide) covers head
  obtain ⟨frame, made, id⟩ : ∃ frame, Plan.frameOf ratedModel.sources none head = .ok frame ∧
      frame.column "id" = .ok _ :=
    ⟨_, Plan.frameOf_eq_ok.mpr ⟨_, _, _, _, _, rfl, rfl, rfl, rfl, bound, rfl⟩, rfl⟩
  obtain ⟨slots, nodes⟩ : ∃ slots, Plan.compileNodes _ frame []
      [.attribute "id" "id"] = .ok slots := by
    simp [Plan.compileNodes, Plan.compileNode, id, Except.map]
  obtain ⟨stmt, compiled⟩ : ∃ stmt,
      Plan.compile _ ⟨head, [.attribute "id" "id"]⟩ = .ok _ :=
    Plan.compile_of_slots made nodes
  refine ⟨[stmt], compileOperation_eq_ok.mpr ⟨_, _, rfl, trees, ?_⟩⟩
  rw [mapM_cons, compiled]
  rfl

theorem inline_and_variable_arguments_agree_rated : Supplies ratedConstants [] ratedVariables ∧
    Selection.havePlainCursors (ratedOperation.fill ratedConstants).selections = true ∧
    ∃ statements,
      compileOperation ratedModel ⟨[.operation ratedOperation]⟩ ratedOperation ratedVariables =
        .ok statements ∧
      compileOperation ratedModel (GraphQL.Document.fill ratedConstants ⟨[.operation ratedOperation]⟩)
        (ratedOperation.fill ratedConstants) [] = .ok statements := by
  obtain ⟨statements, compiled⟩ := ratedOperation_compiles
  have agree := (inline_and_variable_arguments_agree ratedVariables_supplied).2.2
  exact ⟨ratedVariables_supplied, rfl, statements, compiled,
    (agree ratedModel ⟨[.operation ratedOperation]⟩ ratedOperation rfl nofun statements).mp compiled⟩

end Engine

end SelectGraph
