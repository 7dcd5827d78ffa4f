import SelectGraph.Proofs.Tree.Ending

/-!
# Normal forms of selection sets

The normal form of a selection set has each spread replaced by an inline fragment, the selections that
directives exclude deleted, inline fragments flattened, and fields with one response key merged into
the first, at every level.  It consists of fields only, which are kept and have different keys.
-/

namespace SelectGraph.GraphQL

/-! ## Definitions -/

/-- The selections inside a selection. -/
def Selection.selections : Selection → List Selection
  | .field _ _ _ _ sels _ _ | .inline _ _ sels _ _ => sels
  | .spread _ _ _ => []

/-- A selection with other selections inside. -/
def Selection.withSelections (inner : List Selection) : Selection → Selection
  | .field responseName? name args dirs _ start setStart =>
    .field responseName? name args dirs inner start setStart
  | .inline condition? dirs _ start setStart =>
    .inline condition? dirs inner start setStart
  | .spread name dirs start => .spread name dirs start

/-- The response key of a field; a fragment has none. -/
def Selection.key? : Selection → Option String
  | .field (some given) _ _ _ _ _ _ => some given.value
  | .field none name _ _ _ _ _ => some name.value
  | .spread _ _ _ | .inline _ _ _ _ _ => none

mutual

def Selection.replace (spread : Name → List Directive → Nat → Selection) : Selection → Selection
  | .field responseName? name args dirs sels start setStart =>
    .field responseName? name args dirs (replaceAll spread sels) start setStart
  | .spread name dirs start => spread name dirs start
  | .inline condition? dirs sels start setStart =>
    .inline condition? dirs (replaceAll spread sels) start setStart

def Selection.replaceAll (spread : Name → List Directive → Nat → Selection) :
    List Selection → List Selection
  | [] => []
  | sel :: sels => sel.replace spread :: replaceAll spread sels

end

/-- Replace each spread by an inline fragment with the same directives and the body of the fragment,
in which spreads are replaced in turn; the budget bounds how often. -/
def Document.inlinedWithin (doc : Document) : (budget : Nat) → List Selection → List Selection
  | 0, sels => sels
  | budget + 1, sels =>
    Selection.replaceAll (fun name dirs start =>
      match doc.fragment? name.value with
      | some frag => .inline (some frag.condition) dirs
          (doc.inlinedWithin budget frag.selections) start frag.setStart
      | none => .spread name dirs start) sels

/-- Replace each spread by an inline fragment. Fragments that do not reach themselves nest at most as
deeply as there are fragments. -/
def Document.inlined (doc : Document) (sels : List Selection) : List Selection :=
  doc.inlinedWithin (doc.fragments.length + 1) sels

mutual

/-- The selections that take the place of one when inline fragments are flattened. -/
def Selection.flatten : Selection → List Selection
  | .field responseName? name args dirs sels start setStart =>
    [.field responseName? name args dirs (flattenAll sels) start setStart]
  | .spread name dirs start => [.spread name dirs start]
  | .inline _ _ sels _ _ => flattenAll sels

/-- Flatten inline fragments. -/
def Selection.flattenAll : List Selection → List Selection
  | [] => []
  | sel :: sels => sel.flatten ++ flattenAll sels

end

/-- Add a selection: one with a known response key is merged into the first that has it. -/
def Selection.mergeInto (sel : Selection) : List Selection → List Selection
  | [] => [sel]
  | known :: others =>
    if known.key? = sel.key? ∧ sel.key?.isSome then
      known.withSelections (known.selections ++ sel.selections) :: others
    else known :: mergeInto sel others

/-- Merge the fields of one level. -/
def Selection.mergeLevel (sels : List Selection) : List Selection :=
  sels.foldl (fun merged sel => sel.mergeInto merged) []

/-- Merge the fields of as many levels as a depth says. -/
def Selection.mergedWithin : (depth : Nat) → List Selection → List Selection
  | 0, sels => sels
  | depth + 1, sels =>
    (mergeLevel sels).map fun sel =>
      sel.withSelections (mergedWithin depth sel.selections)

/-- Merge the fields of every level; there are at most as many levels as selections. -/
def Selection.merged (sels : List Selection) : List Selection :=
  mergedWithin (countAll sels) sels

end SelectGraph.GraphQL

namespace SelectGraph.Tree

open GraphQL (Argument Directive Document Fragment Name Selection)

mutual

/-- Delete the selections inside a selection that directives exclude. -/
def prune (env : Environment) : Selection → Selection
  | .field responseName? name args dirs sels start setStart =>
    .field responseName? name args dirs (pruneAll env sels) start setStart
  | .spread name dirs start => .spread name dirs start
  | .inline condition? dirs sels start setStart =>
    .inline condition? dirs (pruneAll env sels) start setStart

/-- Delete the selections that directives exclude. -/
def pruneAll (env : Environment) : List Selection → List Selection
  | [] => []
  | sel :: sels =>
    match included env sel.directives with
    | .ok false => pruneAll env sels
    | _ => prune env sel :: pruneAll env sels

end

def normalForm (doc : Document) (env : Environment) (sels : List Selection) :
    List Selection :=
  Selection.merged (Selection.flattenAll (pruneAll env (doc.inlined sels)))

/-- Whether a selection set consists of fields that directives keep, with different response keys, at
every level. -/
inductive Normal (env : Environment) : List Selection → Prop
  | intro {sels : List Selection}
      (fields : ∀ sel ∈ sels, sel.key?.isSome)
      (kept : ∀ sel ∈ sels, Kept env sel.directives)
      (distinct : (sels.map Selection.key?).Nodup)
      (inner : ∀ sel ∈ sels, Normal env sel.selections) :
      Normal env sels

/-- Whether the directives of selections can be read, and leave each selection set of a field that
is kept with at least one field. -/
inductive Keeps (env : Environment) : List Selection → Prop
  | nil : Keeps env []
  | dropped {sel : Selection} {sels : List Selection}
      (excluded : included env sel.directives = .ok false)
      (rest : Keeps env sels) : Keeps env (sel :: sels)
  | field {responseName? : Option Name} {name : Name} {args : List Argument}
      {dirs : List Directive} {inner sels : List Selection} {start setStart : Nat}
      (kept : Kept env dirs) (below : Keeps env inner)
      (fields : inner ≠ [] → Selection.flattenAll (pruneAll env inner) ≠ [])
      (rest : Keeps env sels) :
      Keeps env
        (.field responseName? name args dirs inner start setStart :: sels)
  | inline {condition? : Option Name} {dirs : List Directive}
      {inner sels : List Selection} {start setStart : Nat}
      (kept : Kept env dirs) (below : Keeps env inner)
      (rest : Keeps env sels) :
      Keeps env (.inline condition? dirs inner start setStart :: sels)

/-! ## Simpler selection sets -/

/-- Whether a spread is kept whatever its directives say. -/
def Always (_ : List Directive) : Prop := True

/-- Whether one selection set comes from another by replacing all spreads, and by deleting selections
that are excluded and opening inline fragments that are kept.  Spread fragments do not reach
themselves, and no set of a field becomes empty. -/
inductive Simplifies (doc : Document) (env : Environment) :
    List Selection → List Selection → Prop
  | nil : Simplifies doc env [] []
  | field {responseName? : Option Name} {name : Name} {args : List Argument}
      {dirs : List Directive} {inner inner' sels others : List Selection}
      {start setStart : Nat} (below : Simplifies doc env inner inner')
      (same : inner.isEmpty = inner'.isEmpty)
      (rest : Simplifies doc env sels others) :
      Simplifies doc env
        (.field responseName? name args dirs inner start setStart :: sels)
        (.field responseName? name args dirs inner' start setStart :: others)
  | spread {name : Name} {dirs : List Directive} {start : Nat} {frag : Fragment}
      {body sels others : List Selection}
      (found : doc.fragment? name.value = some frag)
      (once : ¬ Reaches doc Always frag.selections name.value)
      (below : Simplifies doc env frag.selections body)
      (rest : Simplifies doc env sels others) :
      Simplifies doc env (.spread name dirs start :: sels)
        (.inline (some frag.condition) dirs body start frag.setStart :: others)
  | inline {condition? : Option Name} {dirs : List Directive}
      {inner inner' sels others : List Selection} {start setStart : Nat}
      (below : Simplifies doc env inner inner')
      (rest : Simplifies doc env sels others) :
      Simplifies doc env
        (.inline condition? dirs inner start setStart :: sels)
        (.inline condition? dirs inner' start setStart :: others)
  | opened {condition? : Option Name} {dirs : List Directive}
      {inner inner' sels others : List Selection} {start setStart : Nat}
      (kept : Kept env dirs) (below : Simplifies doc env inner inner')
      (rest : Simplifies doc env sels others) :
      Simplifies doc env
        (.inline condition? dirs inner start setStart :: sels) (inner' ++ others)
  | dropped {sel : Selection} {sels others : List Selection}
      (excluded : included env sel.directives = .ok false)
      (rest : Simplifies doc env sels others) :
      Simplifies doc env (sel :: sels) others

section

variable {doc : Document} {env : Environment} {sels others : List Selection}

theorem Simplifies.append {more more' : List Selection}
    (first : Simplifies doc env sels others)
    (second : Simplifies doc env more more') :
    Simplifies doc env (sels ++ more) (others ++ more') := by
  induction first with
  | nil => exact second
  | field below same rest _ ih => exact .field below same ih
  | spread found once below rest _ ih => exact .spread found once below ih
  | inline below rest _ ih => exact .inline below ih
  | opened kept below rest _ ih =>
    rw [List.append_assoc]
    exact .opened kept below ih
  | dropped excluded rest ih => exact .dropped excluded ih

theorem pruneAll_dropped {sel : Selection}
    (excluded : included env sel.directives = .ok false) :
    pruneAll env (sel :: sels) = pruneAll env sels := by
  rw [pruneAll, excluded]

theorem pruneAll_kept {sel : Selection} (kept : Kept env sel.directives) :
    pruneAll env (sel :: sels) =
      prune env sel :: pruneAll env sels := by
  rw [pruneAll, kept]

/-- Deleting what directives exclude and flattening what is left simplifies a set. -/
theorem Keeps.simplifies (keeps : Keeps env sels) :
    Simplifies doc env sels
      (Selection.flattenAll (pruneAll env sels)) := by
  induction keeps with
  | nil => exact .nil
  | dropped excluded rest ih =>
    rw [pruneAll_dropped excluded]
    exact .dropped excluded ih
  | @field responseName? name args dirs inner sels start setStart kept below fields
      rest belowIh ih =>
    rw [pruneAll_kept kept]
    refine .field belowIh ?_ ih
    cases inner with
    | nil => rfl
    | cons first inner =>
      have some := fields (List.cons_ne_nil _ _)
      simpa [List.isEmpty_iff] using some
  | inline kept below rest belowIh ih =>
    rw [pruneAll_kept kept]
    exact .opened kept belowIh ih

mutual

theorem reaches_of_mem_spreadNames {sel : Selection} {name : String}
    (mem : name ∈ sel.spreadNames) : Reaches doc Always [sel] name := by
  match sel with
  | .field responseName? field args dirs _ start setStart =>
    refine .of_selects ⟨responseName?, field, args, dirs, start, setStart, ?_⟩
      (reaches_of_mem_spreadNamesAll mem)
    exact .here (List.mem_singleton.mpr rfl) trivial
  | .spread written dirs start =>
    refine Spreads.reaches ⟨written, dirs, start, ?_, (List.mem_singleton.mp mem).symm⟩
    exact .here (List.mem_singleton.mpr rfl) trivial
  | .inline _ _ _ _ _ =>
    apply Reaches.of_shows _ (reaches_of_mem_spreadNamesAll mem)
    intro shown shows_
    exact .inline (List.mem_singleton.mpr rfl) trivial shows_

/-- A fragment that is spread in selections at any level is reached. -/
theorem reaches_of_mem_spreadNamesAll {sels : List Selection} {name : String}
    (mem : name ∈ Selection.spreadNamesAll sels) : Reaches doc Always sels name := by
  match sels with
  | [] => cases mem
  | sel :: sels =>
    rcases List.mem_append.mp mem with first | rest
    · exact (reaches_of_mem_spreadNames first).of_mem List.mem_cons_self
    · apply Reaches.of_shows _ (reaches_of_mem_spreadNamesAll rest)
      intro shown shows_
      exact shows_.mono (List.subset_cons_self _ _)

end

/-- Whether a way to replace spreads puts simpler inline fragments in their place. -/
def Replaces (doc : Document) (env : Environment)
    (spread : Name → List Directive → Nat → Selection) (names : List String) : Prop :=
  ∀ name dirs start, name.value ∈ names → ∃ frag body,
    doc.fragment? name.value = some frag ∧
    ¬ Reaches doc Always frag.selections name.value ∧
    Simplifies doc env frag.selections body ∧
    spread name dirs start =
      .inline (some frag.condition) dirs body start frag.setStart

variable {spread : Name → List Directive → Nat → Selection}

theorem Replaces.mono {names more : List String}
    (replaces : Replaces doc env spread more) (sub : names ⊆ more) :
    Replaces doc env spread names := by
  intro name dirs start mem
  exact replaces name _ _ (sub mem)

theorem replaceAll_simplifies (sels : List Selection)
    (replaces : Replaces doc env spread (Selection.spreadNamesAll sels)) :
    Simplifies doc env sels (Selection.replaceAll spread sels) := by
  match sels with
  | [] => exact .nil
  | .field _ name _ _ inner _ _ :: sels =>
    refine .field (replaceAll_simplifies _ ?_) (by cases inner <;> rfl)
      (replaceAll_simplifies _ ?_)
    · exact replaces.mono (List.subset_append_left _ _)
    · exact replaces.mono (List.subset_append_right _ _)
  | .spread name dirs start :: sels =>
    obtain ⟨frag, body, found, once, below, same⟩ :=
      replaces name _ _ List.mem_cons_self
    rw [Selection.replaceAll, Selection.replace, same]
    refine .spread found once below (replaceAll_simplifies _ ?_)
    exact replaces.mono (List.subset_append_right _ _)
  | .inline _ _ inner _ _ :: sels =>
    refine .inline (replaceAll_simplifies _ ?_) (replaceAll_simplifies _ ?_)
    · exact replaces.mono (List.subset_append_left _ _)
    · exact replaces.mono (List.subset_append_right _ _)

/-- Whether every fragment that a set reaches is defined and does not reach itself. -/
structure Settled (doc : Document) (sels : List Selection) : Prop where
  defined : ∀ name, Reaches doc Always sels name → (doc.fragment? name).isSome
  acyclic : ∀ name frag, Reaches doc Always sels name →
    doc.fragment? name = some frag → ¬ Reaches doc Always frag.selections name

/-- A document in which all spreads are defined, and fragments can be ranked so that each spreads only
lower ones, is settled. -/
theorem settled_of_ranked (rank : String → Nat)
    (ranked : ∀ frag ∈ doc.fragments,
      ∀ other ∈ Selection.spreadNamesAll frag.selections, rank other < rank frag.name.value)
    (known : ∀ frag ∈ doc.fragments,
      ∀ other ∈ Selection.spreadNamesAll frag.selections, (doc.fragment? other).isSome)
    (start : ∀ name ∈ Selection.spreadNamesAll sels, (doc.fragment? name).isSome) :
    Settled doc sels := by
  constructor
  · intro name reached
    have passes : Passes doc fun name => (doc.fragment? name).isSome := by
      intro name frag isKnown found
      exact known _ (Document.mem_of_fragment? found).1
    exact reached.every passes start
  · intro name frag reached found
    obtain ⟨listed, rfl⟩ := Document.mem_of_fragment? found
    exact not_reaches_of_ranked rank ranked listed

theorem Settled.body (settled : Settled doc sels) {name : String} {frag : Fragment}
    (reached : Reaches doc Always sels name)
    (found : doc.fragment? name = some frag) : Settled doc frag.selections := by
  constructor
  · intro other again
    exact settled.defined _ (reached.trans found again)
  · intro other body again
    exact settled.acyclic _ body (reached.trans found again)

theorem inlinedWithin_simplifies {budget : Nat} {visiting : List String}
    (trail : Trail doc budget visiting) (settled : Settled doc sels)
    (apart : ∀ name ∈ visiting, ¬ Reaches doc Always sels name) :
    Simplifies doc env sels (doc.inlinedWithin budget sels) := by
  induction budget generalizing visiting sels with
  | zero => exact absurd rfl trail.budget_ne_zero
  | succ budget ih =>
    apply replaceAll_simplifies
    intro name dirs start mem
    have reached : Reaches doc _ _ _ :=
      reaches_of_mem_spreadNamesAll mem
    obtain ⟨frag, found⟩ := Option.isSome_iff_exists.mp (settled.defined _ reached)
    have once := settled.acyclic _ _ reached found
    have new : name.value ∉ visiting := fun visited => apart _ visited reached
    have below : Simplifies doc env frag.selections
        (doc.inlinedWithin budget frag.selections) := by
      apply ih (trail.cons found new) (settled.body reached found)
      intro other visited again
      rcases List.mem_cons.mp visited with rfl | earlier
      · exact once again
      · exact apart _ earlier (reached.trans found again)
    refine ⟨frag, _, found, once, below, ?_⟩
    dsimp only
    rw [found]

end

/-! ## Sets of fields -/

/-- Whether a selection set consists of fields that directives keep, at every level. -/
inductive Flat (env : Environment) : List Selection → Prop
  | nil : Flat env []
  | cons {responseName? : Option Name} {name : Name} {args : List Argument}
      {dirs : List Directive} {inner sels : List Selection} {start setStart : Nat}
      (kept : Kept env dirs) (below : Flat env inner)
      (rest : Flat env sels) :
      Flat env
        (.field responseName? name args dirs inner start setStart :: sels)

section

variable {env : Environment} {sels others : List Selection}

theorem Flat.append (first : Flat env sels) (second : Flat env others) :
    Flat env (sels ++ others) := by
  induction first with
  | nil => exact second
  | cons kept below rest _ ih => exact .cons kept below ih

theorem Keeps.flat (keeps : Keeps env sels) :
    Flat env (Selection.flattenAll (pruneAll env sels)) := by
  induction keeps with
  | nil => exact .nil
  | dropped excluded rest ih =>
    rw [pruneAll_dropped excluded]
    exact ih
  | field kept below fields rest belowIh ih =>
    rw [pruneAll_kept kept]
    exact .cons kept belowIh ih
  | inline kept below rest belowIh ih =>
    rw [pruneAll_kept kept]
    exact belowIh.append ih

end

end SelectGraph.Tree
