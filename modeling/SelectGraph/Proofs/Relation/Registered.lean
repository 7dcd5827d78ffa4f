import SelectGraph.Proofs.Relation.Inverse

/-!
# Relations in a registry

A registry holds for each key the last relation that was registered under it.  The key has the names
of the two tables as the relation spells them, but a relation is checked against tables that are found
without regard to case.  So a relation that is accepted, and that no later one replaces, is found by
the names of its tables exactly if it spells them as the catalog does.
-/

namespace SelectGraph

open Sql (bind_eq_ok)

variable {rel : Relation} {rels : List Relation} {result : Registry} {table : Table}

namespace Relation

/-- What a relation is registered under. -/
def key (rel : Relation) : String × String × String :=
  (rel.name, rel.left, rel.right)

theorem sameKey_iff {other : Relation} :
    rel.sameKey other = true ↔ rel.key = other.key := by
  simp [sameKey, key, and_assoc]

/-- The last relation with a key. -/
def last? (wanted : String × String × String) (rels : List Relation) : Option Relation :=
  rels.reverse.find? fun rel => decide (rel.key = wanted)

theorem last?_cons (wanted : String × String × String) (rel : Relation)
    (rels : List Relation) :
    last? wanted (rel :: rels) =
      (last? wanted rels).or (if rel.key = wanted then some rel else none) := by
  rw [last?, List.reverse_cons, List.find?_append, List.find?_singleton, ← last?]
  simp only [decide_eq_true_eq]

theorem last?_eq_some_iff {wanted : String × String × String} :
    last? wanted rels = some rel ↔ rel.key = wanted ∧ ∃ before later,
      rels = before ++ rel :: later ∧ ∀ other ∈ later, other.key ≠ wanted := by
  rw [last?, List.find?_eq_some_iff_append]
  simp only [decide_eq_true_eq, Bool.not_eq_true', decide_eq_false_iff_not]
  refine and_congr_right fun _ => ⟨?_, ?_⟩
  · rintro ⟨later, before, split, others⟩
    refine ⟨before.reverse, later.reverse, ?_, by simpa using others⟩
    simpa using congrArg List.reverse split
  · rintro ⟨before, later, rfl, others⟩
    exact ⟨later.reverse, before.reverse, by simp, by simpa using others⟩

theorem last?_eq_none_iff {wanted : String × String × String} :
    last? wanted rels = none ↔ ∀ rel ∈ rels, rel.key ≠ wanted := by
  simp [last?]

end Relation

namespace Registry

theorem lookup?_eq_find? (registry : Registry) (name left right : String) :
    registry.lookup? name left right =
      registry.relations.find? fun rel => decide (rel.key = (name, left, right)) := by
  rw [lookup?]
  congr
  funext rel
  simp [Relation.key, Bool.decide_and, beq_eq_decide, Bool.and_assoc]

theorem register_lookup? {registry : Registry}
    (registered : registry.register rel = .ok result) (name left right : String) :
    result.lookup? name left right =
      if rel.key = (name, left, right) then some rel
      else registry.lookup? name left right := by
  rw [register] at registered
  cases validated : rel.validate with
  | error error =>
    rw [validated] at registered
    cases registered
  | ok _ =>
    rw [validated] at registered
    cases registered
    rw [lookup?_eq_find?, lookup?_eq_find?, List.find?_append, List.find?_filter,
      List.find?_singleton]
    by_cases same : rel.key = (name, left, right)
    · -- What had this key has been taken out.
      rw [List.find?_eq_none.mpr]
      · simp [same]
      · simp [← same, ← Relation.sameKey_iff]
    · have kept : (fun known : Relation => decide ((!known.sameKey rel) = true ∧
          decide (known.key = (name, left, right)) = true)) =
            fun known => decide (known.key = (name, left, right)) := by
        funext known
        rw [decide_eq_decide, Bool.not_eq_true', ← Bool.not_eq_true, Relation.sameKey_iff,
          decide_eq_true_eq]
        exact and_iff_right_of_imp fun found equal => same (equal ▸ found)
      rw [kept]
      simp [same]

/-- Of the relations with one key the last one registered is found. -/
theorem registerAll_lookup? {catalog : Catalog} {registry : Registry}
    (registered : registry.registerAll catalog rels = .ok result) (name left right : String) :
    result.lookup? name left right =
      (Relation.last? (name, left, right) rels).or (registry.lookup? name left right) := by
  induction rels generalizing registry with
  | nil =>
    cases registered
    rfl
  | cons rel rels ih =>
    rw [registerAll] at registered
    obtain ⟨_, -, rest⟩ := bind_eq_ok.mp registered
    obtain ⟨next, added, others⟩ := bind_eq_ok.mp rest
    rw [ih others, register_lookup? added, Relation.last?_cons, Option.or_assoc]
    split <;> rfl

theorem registerAll_eq_ok_iff {catalog : Catalog} {registry : Registry} :
    (∃ result, registry.registerAll catalog rels = .ok result) ↔
      ∀ rel ∈ rels, rel.check catalog = .ok () ∧ rel.validate = .ok () := by
  induction rels generalizing registry with
  | nil => simp [registerAll]
  | cons rel rels ih =>
    rw [registerAll, List.forall_mem_cons]
    cases rel.check catalog <;> cases validated : rel.validate <;>
      simp [register, validated, Except.map, bind, Except.bind, ih]

/-- The relations that a registry is built from, in the order in which they are registered. -/
def given (catalog : Catalog) (names : Naming) (derive : Bool) (declared : List Relation) :
    List Relation :=
  (if derive then catalog.derivedRelations names else []) ++ declared

variable {catalog : Catalog} {names : Naming} {derive : Bool} {declared : List Relation}
  {registry : Registry}

theorem build_lookup? (built : Registry.build catalog names derive declared = .ok registry)
    (name left right : String) :
    registry.lookup? name left right =
      Relation.last? (name, left, right) (given catalog names derive declared) := by
  rw [registerAll_lookup? built]
  exact Option.or_none

theorem resolve_eq_error_iff {name : String} {left right : TableRef} :
    registry.resolve name left right = .error ⟨name, left.table, right.table⟩ ↔
      registry.lookup? name left.table right.table = none := by
  rw [resolve]
  cases registry.lookup? name left.table right.table <;> simp

end Registry

/-! ## Implied relations -/

/-- Whether a junction relates two tables, in one direction or the other. -/
def Junction.Relates (junction : Junction) (source target : JunctionSide) : Prop :=
  source = junction.left ∧ target = junction.right ∨ source = junction.right ∧ target = junction.left

/-- A junction relates the tables of two foreign keys of its own table. -/
theorem Junction.Relates.keys {catalog : Catalog} {junction : Junction}
    {source target : JunctionSide} (relates : junction.Relates source target)
    (mem : junction ∈ catalog.junctions) :
    ∃ table ∈ catalog.tables, junction.table = table.name ∧ ∃ first second,
      first ∈ table.constraints ∧ second ∈ table.constraints ∧
        source = side first ∧ target = side second := by
  obtain ⟨table, memTable, found⟩ := Catalog.junctions_ofTable? mem
  obtain ⟨left, right, connects, rfl⟩ := ofTable?_eq_some_iff.mp found
  have memLeft := connects.constraints.mem_iff.mpr List.mem_cons_self
  have memRight := connects.constraints.mem_iff.mpr (List.mem_cons_of_mem left List.mem_cons_self)
  rcases relates with ⟨rfl, rfl⟩ | ⟨rfl, rfl⟩
  · exact ⟨table, memTable, rfl, left, right, memLeft, memRight, rfl, rfl⟩
  · exact ⟨table, memTable, rfl, right, left, memRight, memLeft, rfl, rfl⟩

namespace Catalog

variable {catalog : Catalog} {names : Naming}

/-- How a catalog implies a relation. -/
inductive Implies (catalog : Catalog) (names : Naming) : Relation → Prop where
  | toOne {table : Table} (mem : table ∈ catalog.tables) {key : Constraint}
      (memKey : key ∈ table.constraints) : Implies catalog names (key.toOne table)
  | toMany {table : Table} (mem : table ∈ catalog.tables) {key : Constraint}
      (memKey : key ∈ table.constraints) : Implies catalog names (key.toMany names table)
  | through {junction : Junction} (mem : junction ∈ catalog.junctions)
      {source target : JunctionSide} (relates : junction.Relates source target) :
      Implies catalog names (Junction.relation names junction.table source target)

theorem mem_derivedRelations_iff {rel : Relation} :
    rel ∈ catalog.derivedRelations names ↔ catalog.Implies names rel := by
  rw [derivedRelations, List.mem_append, List.mem_flatMap, List.mem_flatMap]
  constructor
  · rintro (⟨table, mem, memKeys⟩ | ⟨junction, mem, memBoth⟩)
    · obtain ⟨key, memKey, memBoth⟩ := List.mem_flatMap.mp memKeys
      simp only [List.mem_cons, List.not_mem_nil, or_false] at memBoth
      rcases memBoth with rfl | rfl
      · exact .toOne mem memKey
      · exact .toMany mem memKey
    · simp only [List.mem_cons, List.not_mem_nil, or_false] at memBoth
      rcases memBoth with rfl | rfl
      · exact .through mem (.inl ⟨rfl, rfl⟩)
      · exact .through mem (.inr ⟨rfl, rfl⟩)
  · rintro (⟨mem, memKey⟩ | ⟨mem, memKey⟩ | ⟨mem, relates⟩)
    · exact .inl ⟨_, mem, List.mem_flatMap.mpr ⟨_, memKey, by simp⟩⟩
    · exact .inl ⟨_, mem, List.mem_flatMap.mpr ⟨_, memKey, by simp⟩⟩
    · rcases relates with ⟨rfl, rfl⟩ | ⟨rfl, rfl⟩
      · exact .inr ⟨_, mem, by simp⟩
      · exact .inr ⟨_, mem, by simp⟩


/-- Whether some table has a name, spelled like this. -/
def Spells (catalog : Catalog) (name : String) : Prop :=
  ∃ table ∈ catalog.tables, table.name = name

theorem check_references (checked : catalog.check = .ok ())
    (mem : table ∈ catalog.tables) {key : ForeignKey} (memKey : key ∈ table.foreignKeys) :
    catalog.Spells key.table := by
  obtain ⟨_, -, references⟩ := bind_eq_ok.mp checked
  rw [checkReferences] at references
  split at references
  · cases references
  · rename_i none
    have found := List.findSome?_eq_none_iff.mp none table mem
    rw [Option.map_eq_none_iff, List.find?_eq_none] at found
    simpa [Spells] using found key memKey

theorem check_constraints (checked : catalog.check = .ok ())
    (mem : table ∈ catalog.tables) {constraint : Constraint}
    (memConstraint : constraint ∈ table.constraints) : catalog.Spells constraint.table := by
  obtain ⟨key, memKey, same⟩ := Table.constraints_table memConstraint
  exact same ▸ check_references checked mem memKey

/-- The relations that a checked catalog implies spell their tables as it does. -/
theorem derivedRelations_spelled (checked : catalog.check = .ok ())
    (derived : rel ∈ catalog.derivedRelations names) :
    catalog.Spells rel.left ∧ catalog.Spells rel.right := by
  cases mem_derivedRelations_iff.mp derived with
  | toOne mem memKey => exact ⟨⟨_, mem, rfl⟩, check_constraints checked mem memKey⟩
  | toMany mem memKey => exact ⟨check_constraints checked mem memKey, ⟨_, mem, rfl⟩⟩
  | through mem relates =>
    obtain ⟨table, memTable, -, first, second, memFirst, memSecond, rfl, rfl⟩ := relates.keys mem
    exact ⟨check_constraints checked memTable memFirst,
      check_constraints checked memTable memSecond⟩

end Catalog

/-! ## Resolving by the names of tables -/

namespace Registry

variable {catalog : Catalog} {names : Naming} {derive : Bool} {declared : List Relation}
  {registry : Registry}

/-- A relation that is accepted and that no later one replaces is held under the names that it gives
to its tables.  By the names that the catalog gives to them it is found exactly if the two agree, as
they do for the relations that a checked catalog implies; otherwise there is what was given under
the names of the catalog, or nothing. -/
theorem resolve_by_table_names
    (built : Registry.build catalog names derive declared = .ok registry)
    {before later : List Relation} {relation : Relation}
    (listed : given catalog names derive declared = before ++ relation :: later)
    (unreplaced : ∀ other ∈ later, other.key ≠ relation.key) :
    ∃ left right, catalog.table? relation.left = some left ∧
      catalog.table? relation.right = some right ∧
      registry.lookup? relation.name relation.left relation.right = some relation ∧
      (registry.lookup? relation.name left.name right.name = some relation ↔
        left.name = relation.left ∧ right.name = relation.right) ∧
      (catalog.check = .ok () → relation ∈ catalog.derivedRelations names →
        left.name = relation.left ∧ right.name = relation.right) ∧
      ∀ leftAlias rightAlias,
        (left.name = relation.left → right.name = relation.right →
          registry.resolve relation.name ⟨left.name, leftAlias⟩ ⟨right.name, rightAlias⟩ =
            .ok (relation.predicate ⟨left.name, leftAlias⟩ ⟨right.name, rightAlias⟩)) ∧
        (registry.resolve relation.name ⟨left.name, leftAlias⟩ ⟨right.name, rightAlias⟩ =
            .error ⟨relation.name, left.name, right.name⟩ ↔
          ∀ other ∈ given catalog names derive declared,
            other.key ≠ (relation.name, left.name, right.name)) := by
  have mem : relation ∈ given catalog names derive declared := listed ▸ by simp
  obtain ⟨left, right, known⟩ := 
    Relation.check_eq_ok_iff.mp (registerAll_eq_ok_iff.mp ⟨registry, built⟩ relation mem).1
  have held : registry.lookup? relation.name relation.left relation.right = some relation := by
    rw [build_lookup? built, Relation.last?_eq_some_iff]
    exact ⟨rfl, before, later, listed, unreplaced⟩
  refine ⟨left, right, known.foundLeft, known.foundRight, held, ⟨?_, ?_⟩, ?_, ?_⟩
  · intro found
    obtain ⟨-, sameLeft, sameRight⟩ := lookup?_eq_some found
    exact ⟨sameLeft.symm, sameRight.symm⟩
  · rintro ⟨sameLeft, sameRight⟩
    rw [sameLeft, sameRight, held]
  · intro checked derived
    obtain ⟨spelledLeft, spelledRight⟩ := Catalog.derivedRelations_spelled checked derived
    exact ⟨(findNamed?_name_eq_iff known.foundLeft).mpr spelledLeft,
      (findNamed?_name_eq_iff known.foundRight).mpr spelledRight⟩
  · intro leftAlias rightAlias
    refine ⟨?_, ?_⟩
    · intro sameLeft sameRight
      rw [resolve, sameLeft, sameRight, held]
    · rw [resolve_eq_error_iff, build_lookup? built, Relation.last?_eq_none_iff]

def filmTable : Table :=
  ⟨"film", [⟨"film_id", "int", false⟩, ⟨"language_id", "int", false⟩], ["film_id"],
    [⟨"language_id", "language", "language_id", "", 0⟩], []⟩

def languageTable : Table :=
  ⟨"language", [⟨"language_id", "int", false⟩], ["language_id"], [], []⟩

def filmCatalog : Catalog := ⟨[filmTable, languageTable], []⟩

def languageRelation : Relation :=
  ⟨"language", "film", "language", .direct, [("language_id", "language_id")], none⟩

/-- The same relation under another name, with the name of the table in capital letters. -/
def spokenRelation : Relation :=
  { languageRelation with name := "spoken", left := "FILM" }

def filmsRelation : Relation :=
  ⟨"films", "language", "film", .reverse, [("language_id", "language_id")], none⟩

theorem filmCatalog_derived :
    filmCatalog.derivedRelations .default = [languageRelation, filmsRelation] := by
  decide +kernel

theorem resolve_by_table_names_film : ∃ registry,
    Registry.build filmCatalog .default true [spokenRelation] = .ok registry ∧
      registry.resolve "language" ⟨"film", "f"⟩ ⟨"language", "l"⟩ =
        .ok (.joined [(⟨"f", "language_id"⟩, ⟨"l", "language_id"⟩)]) ∧
      registry.lookup? "spoken" "FILM" "language" = some spokenRelation ∧
      registry.lookup? "spoken" "film" "language" ≠ some spokenRelation := by
  have built : Registry.build filmCatalog .default true [spokenRelation] =
      .ok ⟨[languageRelation, filmsRelation, spokenRelation]⟩ := by
    rw [Registry.build, if_pos rfl, filmCatalog_derived]
    rfl
  have listed : given filmCatalog .default true [spokenRelation] =
      [] ++ languageRelation :: [filmsRelation, spokenRelation] := by
    rw [given, if_pos rfl, filmCatalog_derived]
    rfl
  have listedLast : given filmCatalog .default true [spokenRelation] =
      [languageRelation, filmsRelation] ++ spokenRelation :: [] := listed
  refine ⟨_, built, ?_⟩
  obtain ⟨left, right, foundLeft, foundRight, -, -, -, resolved⟩ :=
    resolve_by_table_names built listed (by decide)
  cases foundLeft
  cases foundRight
  obtain ⟨left, right, foundLeft, foundRight, held, spelled, -⟩ :=
    resolve_by_table_names built listedLast (by simp)
  cases foundLeft
  cases foundRight
  refine ⟨(resolved "f" "l").1 rfl rfl, held, fun found => ?_⟩
  have same : "film" = "FILM" := (spelled.mp found).1
  revert same
  decide

/-- A relation can be accepted, as its table is found in another case, and yet not be found by the
name of that table. -/
theorem accepted_relation_not_found : ∃ registry,
    spokenRelation.check filmCatalog = .ok () ∧
      Registry.build filmCatalog .default false [spokenRelation] = .ok registry ∧
      filmCatalog.table? spokenRelation.left = some filmTable ∧
      filmCatalog.table? spokenRelation.right = some languageTable ∧
      registry.resolve spokenRelation.name ⟨filmTable.name, "f"⟩ ⟨languageTable.name, "l"⟩ =
        .error ⟨"spoken", "film", "language"⟩ :=
  ⟨⟨[spokenRelation]⟩, rfl, rfl, rfl, rfl, rfl⟩

end Registry

end SelectGraph
