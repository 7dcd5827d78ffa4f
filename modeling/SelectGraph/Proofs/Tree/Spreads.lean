import SelectGraph.Tree.Build
import SelectGraph.Proofs.Sql.Evaluation

/-!
# Fragments and what they reach

A selection set shows the selections that stand in it once fragments are expanded, and the selection
set of each field it shows is one level below it.  It reaches a fragment if that fragment is spread in
it or at some level below.  Collecting a set always ends and never enters a fragment twice on one
path.
-/

namespace SelectGraph.GraphQL

open List

def Selection.directives : Selection → List Directive
  | .field _ _ _ dirs _ _ _ | .spread _ dirs _ | .inline _ dirs _ _ _ => dirs

mutual

/-- The names of the fragments that are spread in a selection, at any level. -/
def Selection.spreadNames : Selection → List String
  | .field _ _ _ _ sels _ _ => spreadNamesAll sels
  | .spread name _ _ => [name.value]
  | .inline _ _ sels _ _ => spreadNamesAll sels

/-- The names of the fragments that are spread in selections, at any level. -/
def Selection.spreadNamesAll : List Selection → List String
  | [] => []
  | sel :: sels => sel.spreadNames ++ spreadNamesAll sels

end

mutual

/-- The directives of a selection and of all selections in it. -/
def Selection.directivesWithin : Selection → List Directive
  | .field _ _ _ dirs sels _ _ => dirs ++ directivesWithinAll sels
  | .spread _ dirs _ => dirs
  | .inline _ dirs sels _ _ => dirs ++ directivesWithinAll sels

def Selection.directivesWithinAll : List Selection → List Directive
  | [] => []
  | sel :: sels => sel.directivesWithin ++ directivesWithinAll sels

end

theorem Selection.spreadNames_subset {sel : Selection} {sels : List Selection}
    (mem : sel ∈ sels) : sel.spreadNames ⊆ spreadNamesAll sels := by
  induction sels with
  | nil => cases mem
  | cons first sels ih =>
    rcases mem_cons.mp mem with rfl | later
    · exact subset_append_left _ _
    · exact subset_append_of_subset_right _ (ih later)

theorem Document.mem_of_fragment? {doc : Document} {name : String} {frag : Fragment}
    (found : doc.fragment? name = some frag) :
    frag ∈ doc.fragments ∧ frag.name.value = name := by
  constructor
  · exact mem_reverse.mp (mem_of_find?_eq_some found)
  · simpa using find?_some found

/-- The number of names of fragments in a document that have not been seen. -/
def Document.unseen (doc : Document) (seen : List String) : Nat :=
  ((doc.fragments.map fun frag => frag.name.value).toFinset \ seen.toFinset).card

theorem Document.unseen_le (doc : Document) (seen : List String) :
    doc.unseen seen ≤ doc.fragments.length := by
  have names := toFinset_card_le (doc.fragments.map fun frag => frag.name.value)
  rw [length_map] at names
  exact (Finset.card_le_card Finset.sdiff_subset).trans names

theorem Document.unseen_anti (doc : Document) {seen more : List String} (sub : seen ⊆ more) :
    doc.unseen more ≤ doc.unseen seen := by
  apply Finset.card_le_card
  apply Finset.sdiff_subset_sdiff (Finset.Subset.refl _)
  intro name known
  simpa using sub (mem_toFinset.mp known)

theorem Document.unseen_cons_lt {doc : Document} {seen : List String} {name : String}
    {frag : Fragment} (found : doc.fragment? name = some frag) (new : name ∉ seen) :
    doc.unseen (name :: seen) < doc.unseen seen := by
  obtain ⟨mem, named⟩ := Document.mem_of_fragment? found
  rw [unseen, toFinset_cons, Finset.sdiff_insert]
  apply Finset.card_erase_lt_of_mem
  simp only [Finset.mem_sdiff, mem_toFinset, mem_map]
  exact ⟨⟨frag, mem, named⟩, new⟩

end SelectGraph.GraphQL

namespace SelectGraph.Tree

open GraphQL (Argument Directive Document Fragment Name Selection)
open Sql (FailsOnly bind_eq_ok)

variable {sel : Selection} {name : String} {budget : Nat} {visiting : List String}

/-! ## Levels of a document -/

/-- The selections that stand in a selection set once its inline fragments and spreads are expanded,
as far as directives keep them. -/
inductive Shows (doc : Document) (kept : List Directive → Prop) :
    List Selection → Selection → Prop
  | here {sels : List Selection} {sel : Selection} (mem : sel ∈ sels)
      (keeps : kept sel.directives) : Shows doc kept sels sel
  | inline {sels inner : List Selection} {sel : Selection} {condition? : Option Name}
      {dirs : List Directive} {start setStart : Nat}
      (mem : .inline condition? dirs inner start setStart ∈ sels)
      (keeps : kept dirs) (shown : Shows doc kept inner sel) :
      Shows doc kept sels sel
  | spread {sels : List Selection} {sel : Selection} {name : Name}
      {dirs : List Directive} {start : Nat} {frag : Fragment}
      (mem : .spread name dirs start ∈ sels) (keeps : kept dirs)
      (found : doc.fragment? name.value = some frag)
      (shown : Shows doc kept frag.selections sel) :
      Shows doc kept sels sel

section Levels

variable (doc : Document) (kept : List Directive → Prop)

/-- Whether a set is that of a field which another set shows. -/
def Selects (sels inner : List Selection) : Prop :=
  ∃ responseName? name args dirs start setStart,
    Shows doc kept sels
      (.field responseName? name args dirs inner start setStart)

/-- Whether a fragment is spread in a set, outside of its fields. -/
def Spreads (sels : List Selection) (frag : String) : Prop :=
  ∃ name dirs start, Shows doc kept sels (.spread name dirs start) ∧
    name.value = frag

/-- Whether a fragment is spread in a set or at a level below it. -/
def Reaches (sels : List Selection) (frag : String) : Prop :=
  ∃ inner, Relation.ReflTransGen (Selects doc kept) sels inner ∧
    Spreads doc kept inner frag

/-- Whether a fragment is spread again below one of its own fields. -/
def Recurs (name : String) : Prop :=
  ∃ frag inner, doc.fragment? name = some frag ∧
    Selects doc kept frag.selections inner ∧ Reaches doc kept inner name

end Levels

section

variable {doc : Document} {kept : List Directive → Prop} {sels others : List Selection}
  {outer : Selection} {weaker : List Directive → Prop} {holds : String → Prop}

theorem Shows.mono (sub : sels ⊆ others) (shown : Shows doc kept sels sel) :
    Shows doc kept others sel := by
  cases shown with
  | here mem keeps => exact .here (sub mem) keeps
  | inline mem keeps shown => exact .inline (sub mem) keeps shown
  | spread mem keeps found shown => exact .spread (sub mem) keeps found shown

theorem Shows.of_mem (mem : outer ∈ sels) (shown : Shows doc kept [outer] sel) :
    Shows doc kept sels sel :=
  shown.mono (by simpa using mem)

theorem Shows.keeps (shown : Shows doc kept sels sel) :
    kept sel.directives := by
  induction shown with
  | here mem keeps => exact keeps
  | inline mem keeps shown ih => exact ih
  | spread mem keeps found shown ih => exact ih

theorem Shows.weaken (weakens : ∀ dirs, kept dirs →
    weaker dirs) (shown : Shows doc kept sels sel) :
    Shows doc weaker sels sel := by
  induction shown with
  | here mem keeps => exact .here mem (weakens _ keeps)
  | inline mem keeps shown ih => exact .inline mem (weakens _ keeps) ih
  | spread mem keeps found shown ih => exact .spread mem (weakens _ keeps) found ih

/-- A set reaches what another reaches, if it shows all that the other shows. -/
theorem Reaches.of_shows (shown_ : ∀ sel, Shows doc kept sels sel →
    Shows doc kept others sel) {frag : String}
    (reached : Reaches doc kept sels frag) :
    Reaches doc kept others frag := by
  rcases reached with ⟨inner, path, name, dirs, start, shown, named⟩
  rcases path.cases_head with same | ⟨next, ⟨field, step⟩, rest⟩
  · subst same
    exact ⟨others, .refl, name, dirs, start, shown_ _ shown, named⟩
  · rcases step with ⟨fieldName, args, given, begins, setStart, shownField⟩
    have first : Selects _ kept _ next :=
      ⟨field, fieldName, args, given, begins, setStart, shown_ _ shownField⟩
    exact ⟨inner, .head first rest, name, dirs, start, shown, named⟩

theorem Reaches.of_mem (mem : outer ∈ sels) {frag : String}
    (reached : Reaches doc kept [outer] frag) :
    Reaches doc kept sels frag :=
  reached.of_shows fun _ shown => shown.of_mem mem

theorem Reaches.of_selects (selected : Selects doc kept sels others) {frag : String}
    (reached : Reaches doc kept others frag) :
    Reaches doc kept sels frag := by
  rcases reached with ⟨inner, path, spread⟩
  exact ⟨inner, .head selected path, spread⟩

/-- A set shows what the fragments it spreads show. -/
theorem Shows.through {name : Name} {dirs : List Directive} {start : Nat}
    {frag : Fragment} (shown : Shows doc kept sels (.spread name dirs start))
    (found : doc.fragment? name.value = some frag)
    (inner : Shows doc kept frag.selections sel) :
    Shows doc kept sels sel := by
  generalize spread : Selection.spread name _ _ = outer at shown
  induction shown with
  | here mem keeps =>
    subst spread
    exact .spread mem keeps found inner
  | inline mem keeps shown ih => exact .inline mem keeps (ih spread)
  | spread mem keeps foundOuter shown ih => exact .spread mem keeps foundOuter (ih spread)

/-- A set reaches what the fragments it reaches reach. -/
theorem Reaches.trans {other : String} {frag : Fragment}
    (reached : Reaches doc kept sels name)
    (found : doc.fragment? name = some frag)
    (again : Reaches doc kept frag.selections other) :
    Reaches doc kept sels other := by
  rcases reached with ⟨inner, path, written, dirs, start, shown, rfl⟩
  have within : Reaches _ kept _ _ :=
    again.of_shows fun sel shownInner => shown.through found shownInner
  rcases within with ⟨last, pathLast, spread⟩
  exact ⟨last, path.trans pathLast, spread⟩

theorem Spreads.reaches {frag : String} (spread : Spreads doc kept sels frag) :
    Reaches doc kept sels frag :=
  ⟨sels, .refl, spread⟩

theorem Reaches.weaken (weakens : ∀ dirs, kept dirs → weaker dirs)
    {frag : String} (reached : Reaches doc kept sels frag) :
    Reaches doc weaker sels frag := by
  rcases reached with ⟨inner, path, name, dirs, start, shown, named⟩
  have weakened : Relation.ReflTransGen (Selects doc weaker) sels inner := by
    refine .mono ?_ _ _ path
    rintro outer below ⟨responseName?, field, args, given, begins, setStart, shownField⟩
    exact ⟨responseName?, field, args, given, begins, setStart, shownField.weaken weakens⟩
  exact ⟨inner, weakened, name, dirs, start, shown.weaken weakens, named⟩

/-! ## Conditions on reached fragments -/

/-- Whether a condition passes from the name of a fragment to the names it spreads at any level. -/
def Passes (doc : Document) (holds : String → Prop) : Prop :=
  ∀ name frag, holds name → doc.fragment? name = some frag →
    ∀ other ∈ Selection.spreadNamesAll frag.selections, holds other

theorem Shows.every (passes : Passes doc holds)
    (shown : Shows doc kept sels sel)
    (every : ∀ name ∈ Selection.spreadNamesAll sels, holds name) :
    ∀ name ∈ sel.spreadNames, holds name := by
  induction shown with
  | here mem keeps =>
    intro name found
    exact every name (Selection.spreadNames_subset mem found)
  | inline mem keeps shown ih =>
    apply ih
    intro name found
    exact every name (Selection.spreadNames_subset mem found)
  | spread mem keeps found shown ih =>
    apply ih
    apply passes _ _ _ found
    exact every _ (Selection.spreadNames_subset mem (List.mem_singleton.mpr rfl))

/-- A condition that passes on holds of every fragment that is reached. -/
theorem Reaches.every (passes : Passes doc holds) {frag : String}
    (reached : Reaches doc kept sels frag)
    (every : ∀ name ∈ Selection.spreadNamesAll sels, holds name) : holds frag := by
  rcases reached with ⟨inner, path, name, dirs, start, shown, named⟩
  induction path using Relation.ReflTransGen.head_induction_on with
  | refl =>
    rw [← named]
    exact shown.every passes every _ (List.mem_singleton.mpr rfl)
  | head step rest ih =>
    rcases step with ⟨responseName?, field, args, given, begins, setStart, shownField⟩
    exact ih (shownField.every passes every)

/-- Fragments that can be ranked, so that each spreads only lower ones, do not reach themselves. -/
theorem not_reaches_of_ranked (rank : String → Nat)
    (ranked : ∀ frag ∈ doc.fragments,
      ∀ other ∈ Selection.spreadNamesAll frag.selections, rank other < rank frag.name.value)
    {frag : Fragment} (listed : frag ∈ doc.fragments) :
    ¬ Reaches doc kept frag.selections frag.name.value := by
  intro reached
  have passes : Passes doc fun other => rank other < rank frag.name.value := by
    intro name next lower found other mem
    obtain ⟨listedNext, rfl⟩ := Document.mem_of_fragment? found
    exact (ranked next listedNext _ mem).trans lower
  exact lt_irrefl _ (reached.every passes (ranked _ listed))

end

/-! ## Collecting -/

/-- Whether directives keep a selection in an environment. -/
def Kept (env : Environment) (dirs : List Directive) : Prop :=
  included env dirs = .ok true

/-- The response name of a field as written. -/
def responseNameOf (responseName? : Option Name) (name : Name) : String :=
  match responseName? with
  | some given => given.value
  | none => name.value

section Collecting

variable {doc : Document} {env : Environment} {dirs : List Directive}
  {spread : String → List Field → Except BuildError (List Field)} {fields result : List Field}
  {sels : List Selection} {field : Field}

/-- Collect a selection that directives keep. -/
def collectKept (env : Environment)
    (spread : String → List Field → Except BuildError (List Field)) (fields : List Field) :
    Selection → Except BuildError (List Field)
  | .field responseName? name args _ sels _ _ =>
    .ok (addField ⟨responseNameOf responseName? name, name.value, args, sels⟩ fields)
  | .spread name _ _ => spread name.value fields
  | .inline _ _ sels _ _ => collectAll env spread sels fields

theorem collectOne_eq (sel : Selection) :
    collectOne env spread sel fields = (do
      if ← included env sel.directives then
        collectKept env spread fields sel
      else return fields) := by
  cases sel <;> rfl

section

variable (kept : Kept env dirs)

include kept

theorem collectOne_spread (name : Name) (start : Nat) :
    collectOne env spread (.spread name dirs start) fields =
      spread name.value fields := by
  rw [collectOne, kept]
  rfl

theorem collectOne_inline (condition? : Option Name) (sels : List Selection)
    (start setStart : Nat) :
    collectOne env spread (.inline condition? dirs sels start setStart) fields =
      collectAll env spread sels fields := by
  rw [collectOne, kept]
  rfl

end

/-- A collected set collects each of its selections. -/
theorem collectAll_mem (mem : sel ∈ sels)
    (collected : collectAll env spread sels fields = .ok result) :
    ∃ before after, collectOne env spread sel before = .ok after := by
  induction sels generalizing fields with
  | nil => cases mem
  | cons first sels ih =>
    obtain ⟨next, collectedOne, rest⟩ := bind_eq_ok.mp collected
    rcases List.mem_cons.mp mem with rfl | later
    · exact ⟨fields, next, collectedOne⟩
    · exact ih later rest

/-! ### Why collecting fails -/

/-- Whether a directive has a condition that cannot be read. -/
def Unreadable (env : Environment) (cause : Literal.ValueError) (directive : Directive) :
    Prop :=
  (directive.name.value = "skip" ∨ directive.name.value = "include") ∧
    ∃ arg ∈ directive.arguments, arg.name.value = "if" ∧
      Literal.ofValue env arg.value = .error cause

/-- Whether an error has one of two causes: the request does not fit the schema, or one of the given
directives has a condition that cannot be read. -/
def BuildError.Explained (env : Environment) (dirs : List Directive) :
    BuildError → Prop
  | .resolution _ => True
  | .value cause => ∃ directive ∈ dirs, Unreadable env cause directive
  | .unfinished => False

theorem condition_explained {directive : Directive} (mem : directive ∈ dirs)
    (named : directive.name.value = "skip" ∨ directive.name.value = "include") :
    FailsOnly (BuildError.Explained env dirs) (condition env directive) := by
  rw [condition]
  split
  · exact .error trivial
  · rename_i arg found
    split
    · rename_i failed
      apply FailsOnly.error
      refine ⟨directive, mem, named, arg, List.mem_of_find?_eq_some found, ?_, failed⟩
      simpa using List.find?_some found
    · exact .ok _
    · exact .error trivial

theorem included_explained {own : List Directive} (sub : own ⊆ dirs) :
    FailsOnly (BuildError.Explained env dirs) (included env own) := by
  induction own with
  | nil => exact .ok true
  | cons directive own ih =>
    obtain ⟨mem, rest⟩ := List.cons_subset.mp sub
    rw [included]
    split
    · rename_i named
      apply (condition_explained mem named).bind
      intro value
      split
      · exact .ok _
      · exact ih rest
    · exact ih rest

mutual

theorem collectOne_explained
    (spreads : ∀ name fields,
      FailsOnly (BuildError.Explained env dirs) (spread name fields))
    {sel : Selection} (sub : sel.directivesWithin ⊆ dirs) (fields : List Field) :
    FailsOnly (BuildError.Explained env dirs)
      (collectOne env spread sel fields) := by
  have own : sel.directives ⊆ dirs := by
    refine List.Subset.trans ?_ sub
    cases sel <;> simp [Selection.directives, Selection.directivesWithin]
  rw [collectOne_eq]
  apply (included_explained own).bind
  intro kept
  split
  · match sel with
    | .field _ _ _ _ _ _ _ => exact .ok _
    | .spread name _ _ => exact spreads _ _
    | .inline _ _ _ _ _ =>
      exact collectAll_explained spreads (List.append_subset.mp sub).2 _
  · exact .ok _

theorem collectAll_explained
    (spreads : ∀ name fields,
      FailsOnly (BuildError.Explained env dirs) (spread name fields))
    {sels : List Selection} (sub : Selection.directivesWithinAll sels ⊆ dirs)
    (fields : List Field) :
    FailsOnly (BuildError.Explained env dirs)
      (collectAll env spread sels fields) := by
  match sels with
  | [] => exact .ok _
  | sel :: sels =>
    obtain ⟨first, rest⟩ := List.append_subset.mp sub
    apply (collectOne_explained spreads first _).bind
    intro next
    exact collectAll_explained spreads rest next

end

/-- A path of distinct fragments of a document that leaves a budget for all the others. -/
structure Trail (doc : Document) (budget : Nat) (visiting : List String) : Prop where
  distinct : visiting.Nodup
  known : visiting ⊆ doc.fragments.map fun frag => frag.name.value
  spent : budget + visiting.length = doc.fragments.length + 1

theorem Trail.start (doc : Document) : Trail doc (doc.fragments.length + 1) [] :=
  ⟨List.nodup_nil, List.nil_subset _, rfl⟩

theorem Trail.cons (trail : Trail doc (budget + 1) visiting) {frag : Fragment}
    (found : doc.fragment? name = some frag) (new : name ∉ visiting) :
    Trail doc budget (name :: visiting) := by
  obtain ⟨mem, named⟩ := Document.mem_of_fragment? found
  constructor
  · exact List.nodup_cons.mpr ⟨new, trail.distinct⟩
  · apply List.cons_subset.mpr
    exact ⟨List.mem_map.mpr ⟨frag, mem, named⟩, trail.known⟩
  · have spent := trail.spent
    rw [List.length_cons]
    omega

theorem Trail.budget_ne_zero (trail : Trail doc budget visiting) : budget ≠ 0 := by
  have short := (List.subperm_of_subset trail.distinct trail.known).length_le
  have spent := trail.spent
  rw [List.length_map] at short
  omega

theorem collectFragment_explained (written : ∀ frag ∈ doc.fragments,
      Selection.directivesWithinAll frag.selections ⊆ dirs)
    (trail : Trail doc budget visiting) (name : String) (fields : List Field) :
    FailsOnly (BuildError.Explained env dirs)
      (collectFragment doc env budget visiting name fields) := by
  induction budget generalizing visiting name fields with
  | zero => exact absurd rfl trail.budget_ne_zero
  | succ budget ih =>
    rw [collectFragment]
    split
    · exact .error trivial
    · rename_i frag found
      split
      · exact .error trivial
      · rename_i new
        exact collectAll_explained (ih (trail.cons found new))
          (written _ (Document.mem_of_fragment? found).1) _

/-- A collection does not run out of its budget, and its errors are explained by the directives that
are written in the set and in the fragments. -/
theorem collect_explained (written : ∀ frag ∈ doc.fragments,
      Selection.directivesWithinAll frag.selections ⊆ dirs)
    (sub : Selection.directivesWithinAll sels ⊆ dirs) :
    FailsOnly (BuildError.Explained env dirs)
      (collect doc env sels) :=
  collectAll_explained (collectFragment_explained written (.start _)) sub []

theorem collect_ne_unfinished (doc : Document) (env : Environment)
    (sels : List Selection) :
    collect doc env sels ≠ .error .unfinished := by
  have written : ∀ frag ∈ doc.fragments,
      Selection.directivesWithinAll frag.selections ⊆
        Selection.directivesWithinAll sels ++ doc.fragments.flatMap
          fun frag => Selection.directivesWithinAll frag.selections := by
    intro frag mem directive within
    exact List.mem_append_right _ (List.mem_flatMap.mpr ⟨frag, mem, within⟩)
  intro failed
  exact collect_explained written (List.subset_append_left _ _) _ failed

/-! ### Collecting enters no fragment inside itself -/

/-- What a collected set shows has been collected, on a path that extends the one so far. -/
theorem Shows.collected (shown : Shows doc (Kept env) sels sel)
    (collected : collectAll env (collectFragment doc env budget visiting)
      sels fields = .ok result) :
    ∃ left path before after, visiting ⊆ path ∧
      collectOne env (collectFragment doc env left path) sel before =
        .ok after := by
  induction shown generalizing budget visiting fields result with
  | here mem keeps =>
    obtain ⟨before, after, collectedOne⟩ := collectAll_mem mem collected
    exact ⟨budget, visiting, before, after, .refl _, collectedOne⟩
  | inline mem keeps shown ih =>
    obtain ⟨before, after, collectedOne⟩ := collectAll_mem mem collected
    rw [collectOne_inline keeps] at collectedOne
    exact ih collectedOne
  | spread mem keeps found shown ih =>
    obtain ⟨before, after, collectedOne⟩ := collectAll_mem mem collected
    rw [collectOne_spread keeps] at collectedOne
    cases budget with
    | zero => cases collectedOne
    | succ budget =>
      rw [collectFragment, found] at collectedOne
      dsimp only at collectedOne
      split at collectedOne
      · cases collectedOne
      · obtain ⟨left, path, before, after, extended, collectedInner⟩ := ih collectedOne
        exact ⟨left, path, before, after, (List.cons_subset.mp extended).2, collectedInner⟩

/-- A fragment that a collected set spreads is new on its path, and its body is collected. -/
theorem Spreads.collected (spread : Spreads doc (Kept env) sels name)
    (collected : collectAll env (collectFragment doc env budget visiting)
      sels fields = .ok result) :
    name ∉ visiting ∧ ∃ frag left path before after, doc.fragment? name = some frag ∧
      name ∈ path ∧ collectAll env (collectFragment doc env left path)
        frag.selections before = .ok after := by
  obtain ⟨written, dirs, start, shown, named⟩ := spread
  obtain ⟨left, path, before, after, extended, collectedOne⟩ := shown.collected collected
  have keeps : Kept _ dirs := shown.keeps
  rw [collectOne_spread keeps, named] at collectedOne
  cases left with
  | zero => cases collectedOne
  | succ left =>
    rw [collectFragment] at collectedOne
    split at collectedOne
    · cases collectedOne
    · rename_i frag found
      split at collectedOne
      · cases collectedOne
      · rename_i new
        constructor
        · intro visited
          exact new (extended visited)
        · exact ⟨frag, left, name :: path, before, after, found, List.mem_cons_self,
            collectedOne⟩

/-- A set that spreads a fragment which spreads itself cannot be collected. -/
theorem collect_ne_ok_of_spreads_self {frag : Fragment}
    (spread : Spreads doc (Kept env) sels name)
    (found : doc.fragment? name = some frag)
    (again : Spreads doc (Kept env) frag.selections name) (fields : List Field) :
    collect doc env sels ≠ .ok fields := by
  intro collected
  obtain ⟨-, body, left, path, before, after, foundBody, visited, collectedBody⟩ :=
    spread.collected collected
  rw [found] at foundBody
  cases foundBody
  exact (again.collected collectedBody).1 visited

end Collecting

def bareField (name : String) (sels : List Selection) : Selection :=
  .field none ⟨name, 0⟩ [] [] sels 0 0

def bareSpread (name : String) : Selection :=
  .spread ⟨name, 0⟩ [] 0

def personFragment (name : String) (sels : List Selection) : GraphQL.Definition :=
  .fragment ⟨⟨name, 0⟩, ⟨"Person", 0⟩, [], sels, 0, 0⟩

end SelectGraph.Tree
