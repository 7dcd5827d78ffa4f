import SelectGraph.Engine.Failure
import SelectGraph.Proofs.Tree.Ending

/-!
# Why builds fail

A build that ends without trees has met something that is not in the schema, which the client is
told, or a directive whose condition cannot be read.  The latter is not told as a fault of the request
but as a failure inside the server.
-/

namespace SelectGraph.GraphQL

theorem Selection.directivesWithinAll_eq (sels : List Selection) :
    directivesWithinAll sels = sels.flatMap directivesWithin := by
  induction sels with
  | nil => rfl
  | cons sel sels ih => rw [directivesWithinAll, List.flatMap_cons, ih]

/-- The directives of all selections of a document. -/
def Document.directivesWithin (doc : Document) : List Directive :=
  doc.operations.flatMap (fun op => Selection.directivesWithinAll op.selections) ++
    doc.fragments.flatMap fun frag => Selection.directivesWithinAll frag.selections

end SelectGraph.GraphQL

namespace SelectGraph.Tree

open GraphQL (Directive Document Operation Selection)
open Sql (Corresponds FailsOnly)

section

variable {doc : Document} {env : Environment} {kept : List Directive → Prop}
  {sels : List Selection} {dirs : List Directive}

variable (written : ∀ frag ∈ doc.fragments, Selection.directivesWithinAll frag.selections ⊆ dirs)

include written

theorem Shows.directivesWithin {sel : Selection}
    (shown : Shows doc kept sels sel)
    (sub : Selection.directivesWithinAll sels ⊆ dirs) :
    sel.directivesWithin ⊆ dirs := by
  induction shown with
  | here mem keeps =>
    intro directive within
    apply sub
    rw [Selection.directivesWithinAll_eq]
    exact List.mem_flatMap.mpr ⟨_, mem, within⟩
  | inline mem keeps shown ih =>
    apply ih
    intro directive within
    apply sub
    rw [Selection.directivesWithinAll_eq]
    exact List.mem_flatMap.mpr ⟨_, mem, List.mem_append_right _ within⟩
  | spread mem keeps found shown ih => exact ih (written _ (Document.mem_of_fragment? found).1)

/-- Collected fields select only what is written in the set and in the fragments. -/
theorem collect_directivesWithin (sub : Selection.directivesWithinAll sels ⊆ dirs)
    {fields : List Field} (collected : collect doc env sels = .ok fields) :
    ∀ field ∈ fields, Selection.directivesWithinAll field.selections ⊆ dirs := by
  have below : ∀ inner, Selects doc (Kept env) sels inner →
      ∀ sel ∈ inner, sel.directivesWithin ⊆ dirs := by
    rintro inner ⟨responseName?, name, args, own, start, setStart, shown⟩ sel mem
      directive within
    apply shown.directivesWithin written sub
    apply List.mem_append_right
    rw [Selection.directivesWithinAll_eq]
    exact List.mem_flatMap.mpr ⟨sel, mem, within⟩
  intro field mem directive within
  rw [Selection.directivesWithinAll_eq] at within
  obtain ⟨sel, inside, own⟩ := List.mem_flatMap.mp within
  exact collect_gathers collected below _ mem _ inside own

end

/-- Sets that are the same on both sides and have none but the given directives. -/
def Confined (dirs : List Directive) (_depth : Nat) (sels others : List Selection) :
    Prop :=
  sels = others ∧ Selection.directivesWithinAll sels ⊆ dirs

/-- A build with a bound on its levels fails with an explained error, or because its levels are used
up. -/
theorem buildWithin_explained {ctx : Context} {dirs : List Directive}
    (written : ∀ frag ∈ ctx.document.fragments,
      Selection.directivesWithinAll frag.selections ⊆ dirs)
    {sels : List Selection} (sub : Selection.directivesWithinAll sels ⊆ dirs)
    (fuel : Nat) :
    FailsOnly (fun error => error ≠ .unfinished → error.Explained ctx.environment dirs)
      (buildWithin ctx fuel sels) := by
  -- The build is compared with itself, so that each of its errors is one that both sides share.
  have lockstep : Lockstep ⟨fun error => error ≠ .unfinished →
      error.Explained ctx.environment dirs, Eq, Eq, Eq⟩ ctx ctx
      (Confined dirs) := by
    apply lockstep_of_collects (fun error _ => trivial)
    rintro depth sels others ⟨rfl, sub⟩
    cases collected : collect _ _ _ with
    | error error => exact .error fun _ => collect_explained written sub _ collected
    | ok fields =>
      apply Corresponds.ok
      apply List.forall₂_same.mpr
      intro field mem
      exact ⟨rfl, rfl, rfl, rfl, rfl, collect_directivesWithin written sub collected _ mem⟩
  have confined : Confined _ 0 _ _ := ⟨rfl, sub⟩
  exact (lockstep.buildWithin (.inr ⟨rfl, absurd rfl⟩) confined).failsOnly

/-- A build of fragments that do not lead back to themselves fails with a resolution error, which is
the client's, unless a directive has a condition that cannot be read, which is reported as a failure
inside the server. -/
theorem build_fails_by_resolution_or_condition (context : Context) {operation : Operation}
    (listed : operation ∈ context.document.operations)
    (calm : ∀ name, Reaches context.document (Kept context.environment) operation.selections name →
      ¬ Recurs context.document (Kept context.environment) name)
    {error : BuildError} (failed : build context operation.selections = .error error) :
    (∃ fault, error = .resolution fault ∧ (Engine.Failure.build error).code = .schemaResolution ∧
        (Engine.Failure.build error).status = 200) ∨
      ∃ cause, ∃ directive ∈ context.document.directivesWithin, error = .value cause ∧
        Unreadable context.environment cause directive ∧
        (Engine.Failure.build error).code = .internal ∧ (Engine.Failure.build error).status = 500 := by
  have fragments : ∀ fragment ∈ context.document.fragments,
      Selection.directivesWithinAll fragment.selections ⊆ context.document.directivesWithin := by
    intro fragment mem directive within
    exact List.mem_append_right _ (List.mem_flatMap.mpr ⟨fragment, mem, within⟩)
  have own : Selection.directivesWithinAll operation.selections ⊆
      context.document.directivesWithin := by
    intro directive within
    exact List.mem_append_left _ (List.mem_flatMap.mpr ⟨operation, listed, within⟩)
  have enough := selectionCount_le_depthBound context
  have ends := ne_unfinished (buildWithin_ends listed calm enough enough)
  rw [build_eq] at failed
  have explained := buildWithin_explained fragments own _ _ failed
  cases error with
  | resolution fault => exact .inl ⟨fault, rfl, rfl, rfl⟩
  | value cause =>
    obtain ⟨directive, mem, unreadable⟩ := explained (by simp)
    exact .inr ⟨cause, directive, mem, rfl, unreadable, rfl, rfl⟩
  | unfinished => exact absurd failed ends

/-- A query whose only field is skipped if a number is true. -/
def doubtfulQuery (number : String) : Operation :=
  ⟨.query, none, [], [], [.field none ⟨"me", 0⟩ []
    [⟨⟨"skip", 0⟩, [⟨⟨"if", 0⟩, .float number 0⟩], 0⟩] [bareField "id" []] 0 0], 0, 0⟩

def doubtfulContext (number : String) : Context :=
  ⟨personSchema, ⟨[.operation (doubtfulQuery number)]⟩, []⟩

theorem build_fails_by_resolution_or_condition_skip :
    build (doubtfulContext "1e999") (doubtfulQuery "1e999").selections =
        .error (.value (.float "1e999" .outOfRange)) ∧
      ∃ directive ∈ (doubtfulContext "1e999").document.directivesWithin,
        Unreadable [] (.float "1e999" .outOfRange) directive := by
  refine ⟨rfl, ?_⟩
  have calm : ∀ name, Reaches (doubtfulContext "1e999").document (Kept [])
      (doubtfulQuery "1e999").selections name →
      ¬ Recurs (doubtfulContext "1e999").document (Kept []) name := by
    rintro name - ⟨fragment, inner, ⟨⟩, -⟩
  rcases build_fails_by_resolution_or_condition (doubtfulContext "1e999")
    (List.mem_singleton.mpr rfl) calm rfl with ⟨fault, ⟨⟩, -⟩ | ⟨cause, directive, mem, same, unreadable, -⟩
  cases same
  exact ⟨directive, mem, unreadable⟩

/-- A condition beyond all doubles is a failure inside the server. -/
theorem unreadable_condition_is_internal :
    (doubtfulContext "1e999").document.fragments = [] ∧
      ∃ error, build (doubtfulContext "1e999") (doubtfulQuery "1e999").selections = .error error ∧
        (∀ fault, error ≠ .resolution fault) ∧
        (Engine.Failure.build error).code = .internal ∧
        (Engine.Failure.build error).status = 500 := by
  refine ⟨rfl, .value (.float "1e999" .outOfRange), ?_, ?_, rfl, rfl⟩
  · rfl
  · rintro fault ⟨⟩

end SelectGraph.Tree
