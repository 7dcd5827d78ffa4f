import SelectGraph.Proofs.Tree.NormalForm

/-!
# Transparency of fragments, directives and repeated fields

A selection set and its normal form are built into the same trees, or fail with the same error.  Both
steps towards the normal form, simplifying a set and merging its fields, change what is collected only
in the selections of the collected fields, which are related by the same step one level below.
-/

namespace SelectGraph.GraphQL

theorem Selection.countAll_append (first second : List Selection) :
    countAll (first ++ second) = countAll first + countAll second := by
  induction first with
  | nil => rw [List.nil_append, countAll, Nat.zero_add]
  | cons sel first ih => rw [List.cons_append, countAll, countAll, ih, Nat.add_assoc]

end SelectGraph.GraphQL

namespace SelectGraph.Tree

open GraphQL (Argument Directive Document Name Operation Selection)
open Sql (Corresponds ok_bind)

variable {depth : Nat} {visiting : List String} {others inner : List Selection}

/-! ## Simplifying -/

section Simplifying

variable {doc : Document} {env : Environment} {fields fields' : List Field}
  {sel : Selection} {sels : List Selection}

theorem collectAll_append (spread : String → List Field → Except BuildError (List Field))
    (first second : List Selection) (fields : List Field) :
    collectAll env spread (first ++ second) fields =
      collectAll env spread first fields >>= collectAll env spread second := by
  induction first generalizing fields with
  | nil => rfl
  | cons sel first ih =>
    rw [List.cons_append, collectAll, collectAll, bind_assoc]
    congr 1
    funext next
    exact ih next

theorem isEmpty_append {α : Type} (first second : List α) :
    (first ++ second).isEmpty = (first.isEmpty && second.isEmpty) := by
  cases first <;> rfl

theorem addField_alike {given : List Argument → List Argument → Prop}
    {related : List Selection → List Selection → Prop}
    (append : ∀ {first first' second second'}, related first first' → related second second' →
      related (first ++ second) (first' ++ second')) {field field' : Field}
    (same : FieldAlike given related field field')
    (alike : List.Forall₂ (FieldAlike given related) fields fields') :
    List.Forall₂ (FieldAlike given related) (addField field fields) (addField field' fields') := by
  induction alike with
  | nil => exact .cons same .nil
  | cons first rest ih =>
    rw [addField, addField, first.responseName, same.responseName]
    split
    · refine .cons ⟨rfl, first.name, first.arguments, ?_, ?_⟩ rest
      · rw [isEmpty_append, isEmpty_append, first.isEmpty, same.isEmpty]
      · exact append first.selections same.selections
    · exact .cons first ih

/-- Whether one set simplifies another, and how much is written in each of its selections. -/
def SimplifiesWithin (doc : Document) (env : Environment) (depth : Nat)
    (sels others : List Selection) : Prop :=
  Simplifies doc env sels others ∧
    ∀ sel ∈ others, sel.count ≤ depth

theorem SimplifiesWithin.append {first first' second second' : List Selection}
    (left : SimplifiesWithin doc env depth first first')
    (right : SimplifiesWithin doc env depth second second') :
    SimplifiesWithin doc env depth (first ++ second) (first' ++ second') :=
  ⟨left.1.append right.1, List.forall_mem_append.mpr ⟨left.2, right.2⟩⟩

/-- A directive is read the same way twice. -/
theorem included_corresponds (env : Environment) (dirs : List Directive) :
    Corresponds BuildError.Finished (· = ·) (included env dirs)
      (included env dirs) := by
  apply corresponds_of_ne (included_explained (.refl _) _)
  intro kept read
  rfl

/-- Whether a set reaches none of the fragments on a path. -/
def Avoids (doc : Document) (visiting : List String) (sels : List Selection) : Prop :=
  ∀ name ∈ visiting, ¬ Reaches doc Always sels name

theorem Avoids.of_shows (avoids : Avoids doc visiting others)
    (more : ∀ sel, Shows doc Always sels sel →
      Shows doc Always others sel) : Avoids doc visiting sels := by
  intro name visited reached
  exact avoids name visited (reached.of_shows more)

theorem Avoids.tail (avoids : Avoids doc visiting (sel :: sels)) :
    Avoids doc visiting sels :=
  avoids.of_shows fun _ shown => shown.mono (List.subset_cons_self _ _)

theorem Avoids.inline {condition? : Option Name} {dirs : List Directive}
    {start setStart : Nat} (avoids : Avoids doc visiting
      (.inline condition? dirs inner start setStart :: sels)) :
    Avoids doc visiting inner :=
  avoids.of_shows fun _ shown => .inline List.mem_cons_self trivial shown

theorem reaches_spread (doc : Document) (name : Name) (dirs : List Directive) (start : Nat)
    (sels : List Selection) :
    Reaches doc Always (.spread name dirs start :: sels) name.value :=
  Spreads.reaches ⟨name, dirs, start, .here List.mem_cons_self trivial, rfl⟩

theorem count_le_of_mem (bounded : 1 + Selection.countAll inner ≤ depth) (mem : sel ∈ inner) :
    sel.count ≤ depth - 1 := by
  have part := Selection.count_le_countAll mem
  omega

/-- Sets of which one simplifies the other are collected alike.  No fragment on the path is reached,
so none is found to spread itself. -/
theorem Simplifies.collectAll (simplifies : Simplifies doc env sels others)
    (bounded : ∀ sel ∈ others, sel.count ≤ depth) {budget : Nat}
    (trail : Trail doc budget visiting) (avoids : Avoids doc visiting sels)
    (spread : String → List Field → Except BuildError (List Field))
    (alike : List.Forall₂ (FieldAlike Eq (SimplifiesWithin doc env (depth - 1)))
      fields fields') :
    Corresponds BuildError.Finished
      (List.Forall₂ (FieldAlike Eq (SimplifiesWithin doc env (depth - 1))))
      (collectAll env (collectFragment doc env budget visiting) sels
        fields)
      (collectAll env spread others fields') := by
  induction simplifies generalizing budget visiting fields fields' with
  | nil => exact .ok alike
  | @field responseName? name args dirs inner inner' sels others start setStart below
      same rest belowIh ih =>
    obtain ⟨boundedFirst, boundedRest⟩ := List.forall_mem_cons.mp bounded
    refine .bind ?_ fun next next' kept => ih boundedRest trail avoids.tail kept
    apply (included_corresponds _ _).bind
    rintro kept _ rfl
    split
    · apply Corresponds.ok
      apply addField_alike .append _ alike
      exact ⟨rfl, rfl, rfl, same, below, fun sel mem => count_le_of_mem boundedFirst mem⟩
    · exact .ok alike
  | @spread name dirs start frag body sels others found once below rest belowIh ih =>
    obtain ⟨boundedFirst, boundedRest⟩ := List.forall_mem_cons.mp bounded
    have reached := reaches_spread doc name dirs start sels
    have new : name.value ∉ visiting := fun visited => avoids _ visited reached
    refine .bind ?_ fun next next' kept => ih boundedRest trail avoids.tail kept
    apply (included_corresponds _ _).bind
    rintro kept _ rfl
    split
    · cases budget with
      | zero => exact absurd rfl trail.budget_ne_zero
      | succ budget =>
        rw [collectFragment, found]
        dsimp only
        rw [if_neg new]
        apply belowIh _ (trail.cons found new) _ alike
        · intro sel mem
          exact (count_le_of_mem boundedFirst mem).trans (Nat.sub_le _ _)
        · intro other visited again
          rcases List.mem_cons.mp visited with rfl | earlier
          · exact once again
          · exact avoids _ earlier (reached.trans found again)
    · exact .ok alike
  | @inline condition? dirs inner inner' sels others start setStart below rest belowIh
      ih =>
    obtain ⟨boundedFirst, boundedRest⟩ := List.forall_mem_cons.mp bounded
    refine .bind ?_ fun next next' kept => ih boundedRest trail avoids.tail kept
    apply (included_corresponds _ _).bind
    rintro kept _ rfl
    split
    · apply belowIh _ trail avoids.inline alike
      intro sel mem
      exact (count_le_of_mem boundedFirst mem).trans (Nat.sub_le _ _)
    · exact .ok alike
  | opened kept below rest belowIh ih =>
    obtain ⟨boundedInner, boundedRest⟩ := List.forall_mem_append.mp bounded
    rw [Tree.collectAll, collectAll_append, collectOne_inline kept]
    apply (belowIh boundedInner trail avoids.inline alike).bind
    intro next next' keptNext
    exact ih boundedRest trail avoids.tail keptNext
  | dropped excluded rest ih =>
    rw [Tree.collectAll, collectOne_eq, excluded]
    exact ih bounded trail avoids.tail alike

/-- A build of a set and one of a simpler set, in a document of any fragments, agree. -/
theorem simplifies_mirrors (ctx : Context) (doc : Document) :
    Mirrors ctx doc (SimplifiesWithin ctx.document ctx.environment) := by
  constructor
  · rintro sels others ⟨simplifies, bounded⟩
    apply List.eq_nil_iff_forall_not_mem.mpr
    intro sel mem
    exact absurd (bounded _ mem) (Nat.not_le.mpr sel.count_pos)
  · rintro depth sels others ⟨simplifies, bounded⟩
    apply simplifies.collectAll bounded (.start _) _ _ .nil
    rintro name ⟨⟩

end Simplifying

/-! ## Merging -/

section Merging

variable {env : Environment} {sel : Selection} {field : Field}
  {sels : List Selection} {fields : List Field} {known : List Field}

/-- Whether a selection is a kept field of a set of fields, and a field is what it is collected to. -/
inductive Written (env : Environment) : Selection → Field → Prop
  | intro {responseName? : Option Name} {name : Name} {args : List Argument}
      {dirs : List Directive} {inner : List Selection} {start setStart : Nat}
      (kept : Kept env dirs) (below : Flat env inner) :
      Written env (.field responseName? name args dirs inner start setStart)
        ⟨responseNameOf responseName? name, name.value, args, inner⟩

namespace Written

variable (written : Written env sel field)

include written

theorem key? : sel.key? = some field.responseName := by
  obtain @⟨responseName?⟩ := written
  cases responseName? <;> rfl

theorem selections_eq : sel.selections = field.selections := by
  cases written with
  | intro kept below => rfl

theorem kept : Kept env sel.directives := by
  cases written with
  | intro kept below => exact kept

theorem flat : Flat env field.selections := by
  cases written with
  | intro kept below => exact below

theorem withSelections (below : Flat env inner) :
    Written env (sel.withSelections inner) { field with selections := inner } := by
  cases written with
  | intro kept known => exact .intro kept below

end Written

theorem Flat.written (flat : Flat env sels) :
    ∃ fields, List.Forall₂ (Written env) sels fields := by
  induction flat with
  | nil => exact ⟨[], .nil⟩
  | cons kept below rest _ ih =>
    obtain ⟨fields, written⟩ := ih
    exact ⟨_ :: fields, .cons (.intro kept below) written⟩

theorem flat_of_written (written : List.Forall₂ (Written env) sels fields) :
    Flat env sels := by
  induction written with
  | nil => exact .nil
  | cons first rest ih =>
    cases first with
    | intro kept below => exact .cons kept below ih

theorem collectAll_written (spread : String → List Field → Except BuildError (List Field))
    (written : List.Forall₂ (Written env) sels fields) (known : List Field) :
    collectAll env spread sels known = .ok (addFields known fields) := by
  induction written generalizing known with
  | nil => rfl
  | cons first rest ih =>
    cases first with
    | intro kept below =>
      rw [collectAll, collectOne_eq, Selection.directives, kept]
      exact ih _

theorem mergeInto_written (written : Written env sel field)
    (known : List.Forall₂ (Written env) others fields) :
    List.Forall₂ (Written env) (sel.mergeInto others) (addField field fields) := by
  induction known with
  | nil => exact .cons written .nil
  | @cons other first others fields writtenFirst rest ih =>
    rw [Selection.mergeInto, addField, writtenFirst.key?, written.key?]
    by_cases same : first.responseName = field.responseName
    · rw [if_pos ⟨by rw [same], rfl⟩, if_pos same, writtenFirst.selections_eq, written.selections_eq]
      exact .cons (writtenFirst.withSelections (writtenFirst.flat.append written.flat)) rest
    · rw [if_neg (by simp [same]), if_neg same]
      exact .cons writtenFirst ih

theorem mergeLevel_written (written : List.Forall₂ (Written env) sels fields) :
    List.Forall₂ (Written env) (Selection.mergeLevel sels) (addFields [] fields) := by
  have merged : ∀ {known : List _} {others : List _},
      List.Forall₂ (Written env) known others → List.Forall₂ (Written env)
        (sels.foldl (fun merged sel => sel.mergeInto merged) known)
        (addFields others fields) := by
    induction written with
    | nil =>
      intro known others written
      exact written
    | cons first rest ih =>
      intro known others written
      exact ih (mergeInto_written first written)
  exact merged .nil

/-- Fields with different response names are not merged. -/
theorem addFields_of_nodup (distinct : ((known ++ fields).map Field.responseName).Nodup) :
    addFields known fields = known ++ fields := by
  induction fields generalizing known with
  | nil => exact (List.append_nil _).symm
  | cons field fields ih =>
    have new : field.responseName ∉ known.map Field.responseName := by
      intro mem
      rw [List.map_append, List.nodup_append] at distinct
      exact distinct.2.2 _ mem _ (by simp) rfl
    change addFields (addField _ _) _ = _
    rw [addField_of_not_mem new, ih (by simpa using distinct)]
    simp

/-- The number of selections that fields select, themselves included. -/
def fieldsCount (fields : List Field) : Nat :=
  (fields.map fun field => 1 + Selection.countAll field.selections).sum

theorem fieldsCount_addField (field : Field) (fields : List Field) :
    fieldsCount (addField field fields) ≤
      fieldsCount fields + (1 + Selection.countAll field.selections) := by
  induction fields with
  | nil => simp [addField, fieldsCount]
  | cons first fields ih =>
    rw [addField]
    split
    · simp only [fieldsCount, List.map_cons, List.sum_cons, Selection.countAll_append]
      omega
    · simp only [fieldsCount, List.map_cons, List.sum_cons] at ih ⊢
      omega

theorem fieldsCount_addFields (known fields : List Field) :
    fieldsCount (addFields known fields) ≤ fieldsCount known + fieldsCount fields := by
  induction fields generalizing known with
  | nil => exact le_rfl
  | cons field fields ih =>
    have more := ih (addField field known)
    have first := fieldsCount_addField field known
    simp only [fieldsCount, List.map_cons, List.sum_cons] at more first ⊢
    exact more.trans (by omega)

theorem fieldsCount_written (written : List.Forall₂ (Written env) sels fields) :
    fieldsCount fields = Selection.countAll sels := by
  induction written with
  | nil => rfl
  | cons first rest ih =>
    cases first with
    | intro kept below =>
      rw [Selection.countAll, ← ih]
      rfl

theorem exists_of_mem {α β : Type} {linked : α → β → Prop} {items : List α} {others : List β}
    (alike : List.Forall₂ linked items others) : ∀ item ∈ items, ∃ other ∈ others, linked item other :=
  Sql.forall_mem_of_forall₂ alike fun _ other mem holds => ⟨other, mem, holds⟩

theorem mergeInto_ne_nil (sel : Selection) (others : List Selection) :
    sel.mergeInto others ≠ [] := by
  cases others with
  | nil => simp [Selection.mergeInto]
  | cons known others =>
    rw [Selection.mergeInto]
    split
    · simp
    · simp

theorem foldl_mergeInto_ne_nil (sels : List Selection) {known : List Selection}
    (some : known ≠ []) :
    sels.foldl (fun merged sel => sel.mergeInto merged) known ≠ [] := by
  induction sels generalizing known with
  | nil => exact some
  | cons sel sels ih => exact ih (mergeInto_ne_nil _ _)

theorem mergeLevel_isEmpty (sels : List Selection) :
    (Selection.mergeLevel sels).isEmpty = sels.isEmpty := by
  cases sels with
  | nil => rfl
  | cons sel sels =>
    have some := foldl_mergeInto_ne_nil sels (mergeInto_ne_nil sel [])
    rw [List.isEmpty_cons, List.isEmpty_eq_false_iff]
    exact some

theorem mergedWithin_isEmpty (depth : Nat) (sels : List Selection) :
    (Selection.mergedWithin depth sels).isEmpty = sels.isEmpty := by
  cases depth with
  | zero => rfl
  | succ depth =>
    rw [Selection.mergedWithin, List.isEmpty_map, mergeLevel_isEmpty]

/-- Merge what each field selects. -/
def mergeBelow (depth : Nat) (field : Field) : Field :=
  { field with selections := Selection.mergedWithin depth field.selections }

theorem mergedWithin_written
    (below : ∀ inner, Flat env inner → Flat env (Selection.mergedWithin depth inner))
    (written : List.Forall₂ (Written env) sels fields) :
    List.Forall₂ (Written env) (Selection.mergedWithin (depth + 1) sels)
      ((addFields [] fields).map (mergeBelow depth)) := by
  rw [Selection.mergedWithin, List.forall₂_map_left_iff, List.forall₂_map_right_iff]
  apply (mergeLevel_written written).imp
  intro sel field writtenField
  rw [writtenField.selections_eq]
  exact writtenField.withSelections (below _ writtenField.flat)

theorem Flat.mergedWithin (flat : Flat env sels) (depth : Nat) :
    Flat env (Selection.mergedWithin depth sels) := by
  induction depth generalizing sels with
  | zero => exact flat
  | succ depth ih =>
    obtain ⟨fields, written⟩ := flat.written
    exact flat_of_written (mergedWithin_written (fun inner flatInner => ih flatInner) written)

theorem mergeBelow_nodup (depth : Nat) (fields : List Field) :
    (((addFields [] fields).map (mergeBelow depth)).map Field.responseName).Nodup := by
  have names : Field.responseName ∘ mergeBelow depth = Field.responseName := rfl
  rw [List.map_map]
  exact addFields_nodup List.nodup_nil

section

variable (written : List.Forall₂ (Written env) sels fields)

include written

/-- What is collected has as many selections as what is written, at most. -/
theorem count_addFields (bounded : Selection.countAll sels ≤ depth + 1)
    (mem : field ∈ addFields [] fields) : Selection.countAll field.selections ≤ depth := by
  have total := fieldsCount_addFields [] fields
  rw [fieldsCount_written written] at total
  have part : 1 + Selection.countAll _ ≤ fieldsCount _ :=
    List.single_le_sum (by simp) _ (List.mem_map_of_mem mem)
  have none : fieldsCount [] = 0 := rfl
  omega

theorem addFields_flat (mem : field ∈ addFields [] fields) : Flat env field.selections := by
  obtain ⟨sel, -, writtenField⟩ := exists_of_mem (mergeLevel_written written).flip _ mem
  exact writtenField.flat

end

/-- Whether one set is another with the fields of every level merged, of as many levels as a depth
says. -/
structure MergesWithin (env : Environment) (depth : Nat)
    (sels others : List Selection) : Prop where
  merged : others = Selection.mergedWithin depth sels
  flat : Flat env sels
  bounded : Selection.countAll sels ≤ depth

theorem eq_nil_of_countAll (none : Selection.countAll sels ≤ 0) : sels = [] := by
  apply List.eq_nil_iff_forall_not_mem.mpr
  intro sel mem
  have part := Selection.count_le_countAll mem
  have some := sel.count_pos
  omega

/-- A build of a set of fields and one of the merged fields agree. -/
theorem merges_mirrors (ctx : Context) (doc : Document) :
    Mirrors ctx doc (MergesWithin ctx.environment) := by
  constructor
  · intro sels others merges
    rw [merges.merged, eq_nil_of_countAll merges.bounded]
    rfl
  · rintro depth sels others ⟨rfl, flat, bounded⟩
    obtain ⟨fields, written⟩ := flat.written
    have collected := collectAll_written (collectFragment ctx.document ctx.environment
      (ctx.document.fragments.length + 1) []) written []
    rw [collect, collected]
    cases depth with
    | zero =>
      rw [eq_nil_of_countAll bounded] at written ⊢
      cases written
      exact .ok .nil
    | succ depth =>
      have writtenMerged := mergedWithin_written (fun inner flatInner => flatInner.mergedWithin depth)
        written
      have unmerged : addFields [] _ =
          [] ++ (addFields [] _).map _ :=
        addFields_of_nodup (mergeBelow_nodup depth fields)
      rw [collect, collectAll_written _ writtenMerged, unmerged]
      apply Corresponds.ok
      rw [List.nil_append, List.forall₂_map_right_iff, List.forall₂_same]
      intro field mem
      refine ⟨rfl, rfl, rfl, (mergedWithin_isEmpty _ _).symm, rfl, ?_, ?_⟩
      · exact addFields_flat written mem
      · exact count_addFields written bounded mem

theorem normal_of_written (written : List.Forall₂ (Written env) sels fields)
    (distinct : (fields.map Field.responseName).Nodup)
    (inner : ∀ field ∈ fields, Normal env field.selections) :
    Normal env sels := by
  have keys : sels.map Selection.key? = (fields.map Field.responseName).map some := by
    clear distinct inner
    induction written with
    | nil => rfl
    | cons first rest ih => rw [List.map_cons, List.map_cons, List.map_cons, first.key?, ih]
  constructor
  · intro sel mem
    obtain ⟨field, -, writtenField⟩ := exists_of_mem written _ mem
    rw [writtenField.key?]
    rfl
  · intro sel mem
    obtain ⟨field, -, writtenField⟩ := exists_of_mem written _ mem
    exact writtenField.kept
  · rw [keys]
    exact distinct.map (Option.some_injective _)
  · intro sel mem
    obtain ⟨field, memField, writtenField⟩ := exists_of_mem written _ mem
    rw [writtenField.selections_eq]
    exact inner _ memField

/-- Merging the fields of every level gives a normal set. -/
theorem Flat.normal (flat : Flat env sels)
    (bounded : Selection.countAll sels ≤ depth) :
    Normal env (Selection.mergedWithin depth sels) := by
  induction depth generalizing sels with
  | zero =>
    rw [eq_nil_of_countAll bounded]
    exact normal_of_written .nil List.nodup_nil (by simp)
  | succ depth ih =>
    obtain ⟨fields, written⟩ := flat.written
    apply normal_of_written
      (mergedWithin_written (fun inner flatInner => flatInner.mergedWithin _) written)
      (mergeBelow_nodup _ _)
    rw [List.forall_mem_map]
    intro field mem
    exact ih (addFields_flat written mem) (count_addFields written bounded mem)

end Merging

/-! ## Normal forms -/

theorem Settled.not_recurs {doc : Document} {sels : List Selection}
    (settled : Settled doc sels) {kept : List Directive → Prop} {name : String}
    (reached : Reaches doc kept sels name) : ¬ Recurs doc kept name := by
  rintro ⟨frag, inner, found, selected, again⟩
  have always : ∀ dirs, kept dirs → Always dirs := fun _ _ => trivial
  apply settled.acyclic name _ (reached.weaken always) found
  exact (again.of_selects selected).weaken always

/-- An operation and its normal form are built into the same trees, or fail with the same error, if
the fragments it reaches are defined and do not reach themselves, its directives can be read, and they
leave each set with a field.  The normal form consists of kept fields with different keys. -/
theorem build_normalForm (context : Context) {operation : Operation}
    (listed : operation ∈ context.document.operations)
    (settled : Settled context.document operation.selections)
    (keeps : Keeps context.environment (context.document.inlined operation.selections)) :
    let normal := normalForm context.document context.environment operation.selections
    Normal context.environment normal ∧
      build context operation.selections =
        build { context with document := ⟨[.operation { operation with selections := normal }]⟩ }
          normal := by
  intro normal
  refine ⟨keeps.flat.normal le_rfl, ?_⟩
  let inlined := context.document.inlined operation.selections
  let flattened := Selection.flattenAll (pruneAll context.environment inlined)
  let document : Document := ⟨[.operation { operation with selections := normal }]⟩
  let flat : Context := { context with document }
  -- Fuel for both builds and for the two sets on the way from one to the other.
  let fuel := context.depthBound + flat.depthBound + Selection.countAll inlined +
    Selection.countAll flattened
  have inlines : SimplifiesWithin context.document context.environment
      (Selection.countAll inlined) operation.selections inlined :=
    ⟨inlinedWithin_simplifies (.start _) settled (by simp), fun _ => Selection.count_le_countAll⟩
  have flattens : SimplifiesWithin document context.environment
      (Selection.countAll flattened) inlined flattened :=
    ⟨keeps.simplifies, fun _ => Selection.count_le_countAll⟩
  have merges : MergesWithin context.environment (Selection.countAll flattened) flattened normal :=
    ⟨rfl, keeps.flat, le_rfl⟩
  have listedNormal : { operation with selections := normal } ∈ document.operations :=
    List.mem_singleton.mpr rfl
  have calm : ∀ name, Reaches document (Kept context.environment) normal name →
      ¬ Recurs document (Kept context.environment) name := by
    rintro name reached ⟨fragment, inner, found, -, -⟩
    cases found
  have enough : flat.depthBound ≤ fuel := by omega
  calc build context operation.selections
      = buildWithin context fuel operation.selections :=
        (buildWithin_eq_build listed (fun _ => settled.not_recurs) (by omega)).symm
    _ = buildWithin flat fuel inlined :=
        (buildWithin_agree (simplifies_mirrors context document) (by omega) (by omega) inlines).eq
    _ = buildWithin flat fuel flattened :=
        (buildWithin_agree (simplifies_mirrors flat document) (by omega) (by omega) flattens).eq
    _ = buildWithin flat fuel normal :=
        (buildWithin_agree (merges_mirrors flat document) (by omega) (by omega) merges).eq
    _ = build flat normal :=
        buildWithin_eq_build listedNormal calm enough

def conditional (name : String) (condition : GraphQL.Value) : Directive :=
  ⟨⟨name, 0⟩, [⟨⟨"if", 0⟩, condition⟩], 0⟩

/-- A query of a person with fragments inside each other, a selection that is skipped, and fields that
are selected more than once. -/
def cardQuery : Operation :=
  ⟨.query, none, [], [], [bareField "me" [
    .spread ⟨"Card", 0⟩ [conditional "include" (.variable ⟨"wide", 0⟩ 0)] 0,
    .field none ⟨"id", 0⟩ [] [conditional "skip" (.variable ⟨"wide", 0⟩ 0)] [] 0 0,
    .inline none [] [bareField "friend" [bareField "friend" [bareField "id" []]]] 0 0]], 0, 0⟩

/-- The query of a person with its fragments and the variable on which they depend. -/
def cardContext : Context :=
  ⟨personSchema, ⟨[.operation cardQuery,
    personFragment "Card" [bareField "__typename" [], bareSpread "Friends"],
    personFragment "Friends" [bareField "friend" [bareField "id" []]]]⟩, [("wide", .bool true)]⟩

theorem cardContext_settled : Settled cardContext.document cardQuery.selections := by
  apply settled_of_ranked (fun name => if name = "Card" then 1 else 0)
  · decide
  · decide
  · decide

theorem cardContext_keeps :
    Keeps cardContext.environment (cardContext.document.inlined cardQuery.selections) := by
  have inlined : cardContext.document.inlined cardQuery.selections = [bareField "me" [
      .inline _ [conditional "include" _]
        [bareField "__typename" [],
          .inline _ [] [bareField "friend" [bareField "id" []]] 0 0] 0 0,
      .field none ⟨"id", 0⟩ [] [conditional "skip" _] [] 0 0,
      .inline none [] [bareField "friend" [bareField "friend" [bareField "id" []]]] 0 0]] := rfl
  have leaf {name : String} {sels : List _}
      (rest : Keeps _ _) :
      Keeps cardContext.environment (bareField name [] :: sels) :=
    .field rfl .nil (by simp) rest
  have parent {name inner : String} {below : List _}
      (keeps : Keeps _ [bareField _ _]) :
      Keeps cardContext.environment [bareField name [bareField inner below]] :=
    .field rfl keeps (by rintro - ⟨⟩) .nil
  refine .field rfl (.inline (by rfl) ?_ (.dropped rfl (.inline (by rfl) ?_ .nil)))
    (by rintro - ⟨⟩) .nil
  · exact leaf (.inline (by rfl) (parent (leaf .nil)) .nil)
  · exact parent (parent (leaf .nil))

/-- The normal form of the query of a person. -/
def cardNormal : List Selection :=
  [bareField "me" [bareField "__typename" [],
    bareField "friend" [bareField "id" [], bareField "friend" [bareField "id" []]]]]

theorem build_normalForm_card :
    ∃ roots, build cardContext cardQuery.selections = .ok roots ∧
      normalForm cardContext.document cardContext.environment cardQuery.selections = cardNormal ∧
      Normal cardContext.environment cardNormal ∧
      build { cardContext with document := ⟨[.operation { cardQuery with selections := cardNormal }]⟩ }
        cardNormal = .ok roots := by
  have listed : cardQuery ∈ cardContext.document.operations := List.mem_singleton.mpr rfl
  obtain ⟨normal, same⟩ := build_normalForm cardContext listed cardContext_settled cardContext_keeps
  exact ⟨_, rfl, rfl, normal, same.symm⟩

end SelectGraph.Tree
