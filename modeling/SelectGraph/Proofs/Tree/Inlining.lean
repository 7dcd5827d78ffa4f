import SelectGraph.Proofs.Literal.Inlining
import SelectGraph.Proofs.Tree.Transparency

/-!
# Requests with constants in place of variables

Writing constants in place of the variables of a request changes neither which fields are collected
nor how relations are numbered.  The trees that are built differ at most in enums that stand for the
texts of their names, and cursors do not differ at all if no enum stands in them.
-/

namespace SelectGraph.GraphQL

open List

/-! ## Requests -/

def Argument.fill (assigned : Assignment) (arg : Argument) : Argument :=
  { arg with value := arg.value.fill assigned }

def Directive.fill (assigned : Assignment) (directive : Directive) : Directive :=
  { directive with arguments := directive.arguments.map (Argument.fill assigned) }

/-- Whether an argument is no cursor, or a cursor without enums. -/
def Argument.isPlainCursor (argument : Argument) : Bool :=
  argument.name.value != "after" || !argument.value.hasEnum

namespace Selection

mutual

/-- A selection with constants in place of variables. -/
def fill (assigned : Assignment) : Selection → Selection
  | .field responseName? name args dirs sels start setStart =>
    .field responseName? name (args.map (Argument.fill assigned))
      (dirs.map (Directive.fill assigned)) (fillAll assigned sels) start setStart
  | .spread name dirs start =>
    .spread name (dirs.map (Directive.fill assigned)) start
  | .inline condition? dirs sels start setStart =>
    .inline condition? (dirs.map (Directive.fill assigned)) (fillAll assigned sels)
      start setStart

def fillAll (assigned : Assignment) : List Selection → List Selection
  | [] => []
  | sel :: sels => fill assigned sel :: fillAll assigned sels

end

mutual

/-- Whether no enum stands in a cursor that is given inside a selection. -/
def hasPlainCursors : Selection → Bool
  | .field _ _ args _ sels _ _ =>
    args.all Argument.isPlainCursor && havePlainCursors sels
  | .spread _ _ _ => true
  | .inline _ _ sels _ _ => havePlainCursors sels

/-- Whether no enum stands in a cursor that is given inside selections. -/
def havePlainCursors : List Selection → Bool
  | [] => true
  | sel :: sels => hasPlainCursors sel && havePlainCursors sels

end

end Selection

def Fragment.fill (assigned : Assignment) (frag : Fragment) : Fragment :=
  { frag with
    directives := frag.directives.map (Directive.fill assigned)
    selections := Selection.fillAll assigned frag.selections }

/-- An operation with constants in place of variables, which are then no longer variables of it. -/
def Operation.fill (assigned : Assignment) (op : Operation) : Operation :=
  { op with
    variableDefinitions := op.variableDefinitions.filter fun decl =>
      (assigned decl.name.value).isNone
    directives := op.directives.map (Directive.fill assigned)
    selections := Selection.fillAll assigned op.selections }

def Definition.fill (assigned : Assignment) : Definition → Definition
  | .operation given => .operation (given.fill assigned)
  | .fragment given => .fragment (given.fill assigned)
  | definition => definition

def Document.fill (assigned : Assignment) (document : Document) : Document :=
  ⟨document.definitions.map (Definition.fill assigned)⟩

variable (assigned : Assignment)

namespace Selection

theorem fillAll_append (first second : List Selection) :
    fillAll assigned (first ++ second) = fillAll assigned first ++ fillAll assigned second := by
  induction first with
  | nil => rfl
  | cons sel first ih => rw [cons_append, fillAll, fillAll, ih, cons_append]

theorem havePlainCursors_append (first second : List Selection) :
    havePlainCursors (first ++ second) = (havePlainCursors first && havePlainCursors second) := by
  induction first with
  | nil => rfl
  | cons sel first ih =>
    rw [cons_append, havePlainCursors, havePlainCursors, ih, Bool.and_assoc]

theorem isEmpty_fillAll (sels : List Selection) :
    (fillAll assigned sels).isEmpty = sels.isEmpty := by
  cases sels <;> rfl

mutual

theorem count_fill (sel : Selection) : (sel.fill assigned).count = sel.count := by
  match sel with
  | .field _ _ _ _ sels _ _ | .inline _ _ sels _ _ =>
    rw [fill, count, count, countAll_fillAll _]
  | .spread _ _ _ => rfl

theorem countAll_fillAll (sels : List Selection) :
    countAll (fillAll assigned sels) = countAll sels := by
  match sels with
  | [] => rfl
  | sel :: sels =>
    rw [fillAll, countAll, countAll, count_fill _, countAll_fillAll _]

end

end Selection

namespace Document

variable (document : Document)

theorem fragments_fill :
    (document.fill assigned).fragments = document.fragments.map (Fragment.fill assigned) := by
  rw [fragments, fragments, fill, filterMap_map, map_filterMap]
  congr 1
  funext definition
  cases definition <;> rfl

theorem operations_fill :
    (document.fill assigned).operations = document.operations.map (Operation.fill assigned) := by
  rw [operations, operations, fill, filterMap_map, map_filterMap]
  congr 1
  funext definition
  cases definition <;> rfl

theorem fragment?_fill (name : String) :
    (document.fill assigned).fragment? name = (document.fragment? name).map (Fragment.fill assigned) := by
  rw [fragment?, fragments_fill, ← map_reverse, find?_map]
  rfl

theorem selectionCount_fill :
    (document.fill assigned).selectionCount = document.selectionCount := by
  have op (op : Operation) :
      Selection.countAll (op.fill _).selections =
        Selection.countAll _ :=
    Selection.countAll_fillAll assigned _
  have frag (frag : Fragment) :
      Selection.countAll (frag.fill _).selections =
        Selection.countAll _ :=
    Selection.countAll_fillAll assigned _
  simp only [selectionCount, operations_fill, fragments_fill, map_map, Function.comp_def,
    op, frag]

end Document

end SelectGraph.GraphQL

namespace SelectGraph.Literal

/-- Readings that differ in enums at most fail alike, are absent alike, or yield such literals. -/
theorem plainly_eq_cases {reading other : Except ValueError (Option Literal)}
    (same : plainly reading = plainly other) :
    (∃ error, reading = .error error ∧ other = .error error) ∨
      (reading = .ok none ∧ other = .ok none) ∨
        ∃ value value', reading = .ok (some value) ∧ other = .ok (some value') ∧
          value.plain = value'.plain := by
  match reading, other with
  | .error error, .error _ =>
    cases same
    exact .inl ⟨error, rfl, rfl⟩
  | .error _, .ok _ | .ok _, .error _ => cases same
  | .ok none, .ok none => exact .inr (.inl ⟨rfl, rfl⟩)
  | .ok none, .ok (some _) | .ok (some _), .ok none => cases same
  | .ok (some value), .ok (some value') =>
    exact .inr (.inr ⟨value, value', rfl, rfl, Option.some.inj (Except.ok.inj same)⟩)

theorem plain_eq_bool {value : Literal} {flag : Bool} :
    value.plain = .bool flag ↔ value = .bool flag := by
  cases value <;> simp [plain]

end SelectGraph.Literal

namespace SelectGraph.Tree

open GraphQL (Argument Assignment Directive Document Selection)
open Literal (Supplies plainly_eq_cases)
open Sql (Corresponds Parallel)

variable {assigned : Assignment} {env other : Environment}

/-- Selections with constants in place of the variables of others, and without enums in cursors. -/
structure Fills (assigned : Assignment) (sels others : List Selection) : Prop where
  filled : others = Selection.fillAll assigned sels
  plain : Selection.havePlainCursors others = true

/-- Arguments with constants in place of the variables of others, and without enums in cursors. -/
structure ArgumentsFill (assigned : Assignment) (given others : List Argument) : Prop where
  filled : others = given.map (Argument.fill assigned)
  plain : others.all Argument.isPlainCursor = true

/-- Fields with constants in place of the variables of others, one by one. -/
abbrev FieldsFill (assigned : Assignment) : List Field → List Field → Prop :=
  List.Forall₂ (FieldAlike (ArgumentsFill assigned) (Fills assigned))

theorem Fills.append {first first' second second' : List Selection}
    (left : Fills assigned first first') (right : Fills assigned second second') :
    Fills assigned (first ++ second) (first' ++ second') := by
  constructor
  · rw [Selection.fillAll_append, left.filled, right.filled]
  · rw [Selection.havePlainCursors_append, left.plain, right.plain]
    rfl

/-! ## Collecting fields -/

section Directives

variable (supplies : Supplies assigned other env)

include supplies

theorem condition_fill (directive : Directive) :
    condition env directive = condition other (directive.fill assigned) := by
  have found : (directive.fill assigned).arguments.find? (fun arg => arg.name.value == "if") =
      (directive.arguments.find? fun arg => arg.name.value == "if").map
        (.fill assigned) := by
    rw [Directive.fill, List.find?_map]
    rfl
  rw [condition, condition, found]
  cases directive.arguments.find? fun arg => arg.name.value == "if" with
  | none => rfl
  | some arg =>
    dsimp only [Option.map_some, Argument.fill]
    obtain ⟨error, read, readOther⟩ | ⟨read, readOther⟩ | ⟨value, value', read, readOther, same⟩ :=
      plainly_eq_cases (supplies.plainly_fill _)
    · rw [read, readOther]
    · rw [read, readOther]
      rfl
    · have flags (flag : Bool) : value = .bool flag ↔ value' = .bool flag := by
        rw [← Literal.plain_eq_bool, same, Literal.plain_eq_bool]
      rw [read, readOther]
      cases value with
      | bool flag =>
        rw [(flags flag).mp rfl]
      | _ =>
        cases value' with
        | bool flag => cases (flags flag).mpr rfl
        | _ => rfl

theorem included_fill (dirs : List Directive) :
    included env dirs = included other (dirs.map (Directive.fill assigned)) := by
  induction dirs with
  | nil => rfl
  | cons directive dirs ih =>
    rw [List.map_cons, included, condition_fill supplies, ih]
    rfl

end Directives

/-- Ways to collect fragments that take fields with constants in place of variables alike. -/
def SpreadsFill (assigned : Assignment)
    (spread spread' : String → List Field → Except BuildError (List Field)) : Prop :=
  ∀ (name : String) {fields fields' : List Field}, FieldsFill assigned fields fields' →
    Parallel (FieldsFill assigned) (spread name fields) (spread' name fields')

section Collecting

variable {spread spread' : String → List Field → Except BuildError (List Field)}

mutual

theorem collectOne_fill (supplies : Supplies assigned other env)
    (spreads : SpreadsFill assigned spread spread') {sel : Selection}
    (plain : (sel.fill assigned).hasPlainCursors = true) {fields fields' : List Field}
    (alike : FieldsFill assigned fields fields') :
    Parallel (FieldsFill assigned) (collectOne env spread sel fields)
      (collectOne other spread' (sel.fill assigned) fields') := by
  have dirs : (sel.fill assigned).directives =
      sel.directives.map (.fill assigned) := by
    cases sel <;> rfl
  rw [collectOne_eq, collectOne_eq, dirs, included_fill supplies]
  apply (Corresponds.refl _).bind
  rintro kept _ rfl
  split
  · match sel with
    | .field _ _ _ _ sels _ _ =>
      obtain ⟨plainGiven, plainBelow⟩ := Bool.and_eq_true_iff.mp plain
      apply Corresponds.ok
      apply addField_alike .append _ alike
      exact ⟨rfl, rfl, ⟨rfl, plainGiven⟩, (Selection.isEmpty_fillAll assigned _).symm,
        rfl, plainBelow⟩
    | .spread name _ _ => exact spreads _ alike
    | .inline _ _ _ _ _ => exact collectAll_fill supplies spreads plain alike
  · exact .ok alike

theorem collectAll_fill (supplies : Supplies assigned other env)
    (spreads : SpreadsFill assigned spread spread') {sels : List Selection}
    (plain : Selection.havePlainCursors (Selection.fillAll assigned sels) = true)
    {fields fields' : List Field} (alike : FieldsFill assigned fields fields') :
    Parallel (FieldsFill assigned) (collectAll env spread sels fields)
      (collectAll other spread' (Selection.fillAll assigned sels) fields') := by
  match sels with
  | [] => exact .ok alike
  | sel :: sels =>
    obtain ⟨first, rest⟩ := Bool.and_eq_true_iff.mp plain
    apply (collectOne_fill supplies spreads first alike).bind
    intro next next' kept
    exact collectAll_fill supplies spreads rest kept

end

variable (supplies : Supplies assigned other env)

include supplies

theorem collectFragment_fill {document : Document}
    (plain : ∀ frag ∈ (document.fill assigned).fragments,
      Selection.havePlainCursors frag.selections = true)
    (budget : Nat) (visiting : List String) :
    SpreadsFill assigned (collectFragment document env budget visiting)
      (collectFragment (document.fill assigned) other budget visiting) := by
  induction budget generalizing visiting with
  | zero =>
    intro name fields fields' alike
    exact .error trivial
  | succ budget ih =>
    intro name fields fields' alike
    rw [collectFragment, collectFragment, Document.fragment?_fill]
    cases found : document.fragment? name with
    | none => exact .error trivial
    | some frag =>
      dsimp only
      split
      · exact .error trivial
      · have mem : frag ∈ document.fragments :=
          List.mem_reverse.mp (List.mem_of_find?_eq_some found)
        rw [Document.fragments_fill] at plain
        exact collectAll_fill supplies (ih _)
          (plain _ (List.mem_map_of_mem mem)) alike

/-- Fields are collected alike from selections with constants in place of variables. -/
theorem collect_fill {document : Document}
    (plain : ∀ frag ∈ (document.fill assigned).fragments,
      Selection.havePlainCursors frag.selections = true)
    {sels others : List Selection} (fills : Fills assigned sels others) :
    Parallel (FieldsFill assigned) (collect document env sels)
      (collect (document.fill assigned) other others) := by
  obtain ⟨rfl, plainSelections⟩ := fills
  rw [collect, collect, Document.fragments_fill, List.length_map]
  exact collectAll_fill supplies (collectFragment_fill supplies plain _ []) plainSelections .nil

end Collecting

/-! ## Trees -/

/-- An argument with texts in place of enums, unless it is a cursor. -/
def plainArgument (arg : String × Literal) : String × Literal :=
  if arg.1 = "after" then arg else (arg.1, arg.2.plain)

/-- A relation with texts in place of enums in its arguments, except cursors. -/
def Head.plain (head : Head) : Head :=
  { head with arguments := head.arguments.map plainArgument }

mutual

def Node.plain : Node → Node
  | .attribute field responseName => .attribute field responseName
  | .relation head children => .relation head.plain (Node.plainAll children)

def Node.plainAll : List Node → List Node
  | [] => []
  | node :: nodes => node.plain :: Node.plainAll nodes

end

def Root.plain (root : Root) : Root :=
  ⟨root.head.plain, Node.plainAll root.children⟩

theorem plainArgument_fst (arg : String × Literal) :
    (plainArgument arg).1 = arg.1 := by
  rw [plainArgument]
  split <;> rfl

theorem any_plainArgument (found : List (String × Literal)) (name : String) :
    ((found.map plainArgument).any fun known => known.1 == name) =
      found.any fun known => known.1 == name := by
  simp only [List.any_map, Function.comp_def, plainArgument_fst]

theorem plainAll_eq_of_forall₂ {nodes others : List Node}
    (same : List.Forall₂ (fun node other => node.plain = other.plain) nodes others) :
    Node.plainAll nodes = Node.plainAll others := by
  induction same with
  | nil => rfl
  | cons first _ ih => rw [Node.plainAll, Node.plainAll, first, ih]

section Building

variable {ctx : Context} (supplies : Supplies assigned other ctx.environment)

include supplies

/-- What a value is read as in an argument: an enum makes no difference, and there is none in a
cursor. -/
theorem plainArgument_fill {arg : Argument} {value value' : Literal}
    (plain : (arg.fill assigned).isPlainCursor = true)
    (read : Literal.ofValue ctx.environment arg.value = .ok (some value))
    (readOther : Literal.ofValue other (arg.fill assigned).value = .ok (some value')) :
    plainArgument (arg.name.value, value) = plainArgument (arg.name.value, value') := by
  rw [plainArgument, plainArgument]
  split
  · next cursor =>
      have noEnum : (arg.value.fill assigned).hasEnum = false := by
        have unnamed : (arg.name.value != "after") = false := bne_eq_false_iff_eq.mpr cursor
        simpa [Argument.isPlainCursor, Argument.fill, unnamed] using plain
      have same := supplies.ofValue_fill arg.value
      rw [GraphQL.Value.fill_quoted noEnum, read] at same
      cases same.trans readOther
      rfl
  · have same := supplies.plainly_fill arg.value
    rw [read] at same
    change _ = Literal.plainly (Literal.ofValue _ (arg.fill _).value) at same
    rw [readOther] at same
    rw [Option.some.inj (Except.ok.inj same)]

variable {document : Document}

theorem givenArguments_fill (field : String) {given others : List Argument}
    (fills : ArgumentsFill assigned given others) :
    Builder.Agree (fun _ => True) (fun found found' => found.map plainArgument = found'.map plainArgument)
      (Builder.givenArguments ctx field given)
      (Builder.givenArguments ⟨ctx.schema, document, other⟩ field others) := by
  obtain ⟨rfl, plain⟩ := fills
  induction given with
  | nil => exact .pure rfl
  | cons arg given ih =>
    obtain ⟨plainFirst, plainRest⟩ := Bool.and_eq_true_iff.mp plain
    rw [List.map_cons, Builder.givenArguments, Builder.givenArguments]
    obtain ⟨error, read, readOther⟩ | ⟨read, readOther⟩ | ⟨value, value', read, readOther, same⟩ :=
      plainly_eq_cases (supplies.plainly_fill _)
    · rw [read, show Literal.ofValue _ (arg.fill _).value = _ from readOther]
      exact .throw trivial
    · rw [read, show Literal.ofValue _ (arg.fill _).value = _ from readOther]
      apply (ih plainRest).bind
      intro others others' sameOthers
      exact .pure sameOthers
    · rw [read, show Literal.ofValue _ (arg.fill _).value = _ from readOther]
      apply (ih plainRest).bind
      intro others others' sameOthers
      apply Builder.Agree.pure
      rw [List.map_cons, sameOthers]
      exact congrArg (· :: _) (plainArgument_fill supplies plainFirst read readOther)

theorem arguments_fill (parent field : String) {given others : List Argument}
    (fills : ArgumentsFill assigned given others) :
    Builder.Agree (fun _ => True) (fun found found' => found.map plainArgument = found'.map plainArgument)
      (Builder.arguments ctx parent field given)
      (Builder.arguments ⟨ctx.schema, document, other⟩ parent field others) := by
  apply (givenArguments_fill supplies _ fills).bind
  intro found found' same
  apply Builder.Agree.pure
  have names (name : String) :
      (found.any fun known => known.1 == name) = found'.any fun known => known.1 == name := by
    rw [← any_plainArgument _, same, any_plainArgument]
  simp only [List.map_append, same, names]

end Building

/-- Builds that end with trees that differ in enums at most. -/
def Comparison.filling (assigned : Assignment) : Comparison where
  shared _ := True
  given := ArgumentsFill assigned
  literals found found' := found.map plainArgument = found'.map plainArgument
  nodes node other := node.plain = other.plain

theorem fill_lockstep {context : Context} (supplies : Supplies assigned other context.environment)
    (plain : ∀ fragment ∈ (context.document.fill assigned).fragments,
      Selection.havePlainCursors fragment.selections = true) :
    Lockstep (.filling assigned) context
      ⟨context.schema, context.document.fill assigned, other⟩ fun _ => Fills assigned where
  schema := rfl
  resolution _ := trivial
  collects fills := collect_fill supplies plain fills
  arguments parent field _ _ fills := arguments_fill supplies _ _ fills
  attributes _ _ := rfl
  relations {head head' children children'} heads literals nodes := by
    change .relation _ _ = Node.relation _ _
    rw [plainAll_eq_of_forall₂ nodes, heads]
    exact congrArg (fun arguments => Node.relation { head with arguments } _) literals

/-- A request with constants in place of variables is built into the trees of the request, up to enums,
or fails with the same error. -/
theorem build_fill (ctx : Context) (supplies : Supplies assigned other ctx.environment)
    (plain : ∀ frag ∈ (ctx.document.fill assigned).fragments,
      Selection.havePlainCursors frag.selections = true)
    {sels : List Selection}
    (plainSelections : Selection.havePlainCursors (Selection.fillAll assigned sels) = true) :
    Parallel (List.Forall₂ fun root other => root.plain = other.plain)
      (build ctx sels)
      (build ⟨ctx.schema, ctx.document.fill assigned, other⟩
        (Selection.fillAll assigned sels)) := by
  have bound : Context.depthBound ⟨ctx.schema, ctx.document.fill assigned, other⟩ =
      ctx.depthBound := by
    rw [Context.depthBound, Context.depthBound, Document.selectionCount_fill]
  rw [build_eq, build_eq, bound]
  have fueled : Fueled (.filling assigned) (fun _ => Fills assigned) (0 - 1) _
      ctx.depthBound := .inr ⟨rfl, trivial⟩
  apply ((fill_lockstep supplies plain).buildWithin fueled ⟨rfl, plainSelections⟩).imp
  apply List.Forall₂.imp
  rintro root other same
  obtain ⟨heads, children⟩ := Node.relation.inj same
  rw [Root.plain, Root.plain, heads, children]

end SelectGraph.Tree
