import SelectGraph.Proofs.Relation.Registered

/-!
# Relations under one key

The relations that a catalog implies get their names from columns and tables, and two of them can get
the same key.  The registry then holds only the later one.  This happens in five situations, which can
be told from the foreign keys and the junctions alone; in all other catalogs every relation is found
again.
-/

namespace SelectGraph

open List

/-- Every relation of a list is the last with its key exactly if no two of them share a key. -/
theorem Relation.forall_last?_iff {rels : List Relation} :
    (∀ rel ∈ rels, last? rel.key rels = some rel) ↔
      ∀ rel ∈ rels, ∀ other ∈ rels, rel.key = other.key → rel = other := by
  constructor
  · intro found rel mem other memOther same
    have first := found rel mem
    rw [same, found other memOther] at first
    exact (Option.some.inj first).symm
  · intro apart rel mem
    cases found : last? rel.key rels with
    | none => exact absurd rfl (last?_eq_none_iff.mp found rel mem)
    | some other =>
      obtain ⟨same, before, later, split, -⟩ := last?_eq_some_iff.mp found
      have memOther : other ∈ rels := by simp [split]
      rw [apart rel mem other memOther same.symm]

/-! ## Foreign keys -/

namespace Constraint

variable {names : Naming} {table other : Table} {constraint second : Constraint}

/-- Whether a table has no other foreign key to the same table. -/
def IsOnly (table : Table) (constraint : Constraint) : Prop :=
  table.constraints.countP (fun other => other.table == constraint.table) = 1

theorem IsOnly.eq (only : constraint.IsOnly table) (mem : constraint ∈ table.constraints)
    (memSecond : second ∈ table.constraints) (same : second.table = constraint.table) :
    second = constraint := by
  rw [IsOnly, countP_eq_length_filter, length_eq_one_iff] at only
  obtain ⟨single, filtered⟩ := only
  have isSingle : ∀ known ∈ table.constraints, known.table = constraint.table → known = single := by
    intro known memKnown sameTable
    rw [← mem_singleton, ← filtered, mem_filter]
    exact ⟨memKnown, beq_iff_eq.mpr sameTable⟩
  rw [isSingle second memSecond same, isSingle constraint mem rfl]

theorem toMany_name_of_isOnly (only : constraint.IsOnly table) :
    (constraint.toMany names table).name = names.throughName table.name := by
  rw [IsOnly] at only
  simp [toMany, only, Naming.toManyName, Naming.throughName]

theorem toMany_name_of_not_isOnly (several : ¬ constraint.IsOnly table) :
    (constraint.toMany names table).name =
      Naming.toOneName constraint.columns ++ "_" ++ names.throughName table.name := by
  rw [IsOnly] at several
  simp [toMany, several, Naming.toManyName, Naming.throughName]

/-- The relation back is called like one through a junction exactly if no other foreign key leads to
the same table. -/
theorem toMany_name_eq_throughName_iff :
    (constraint.toMany names table).name = names.throughName table.name ↔
      constraint.IsOnly table := by
  refine ⟨fun same => ?_, toMany_name_of_isOnly⟩
  by_contra several
  rw [toMany_name_of_not_isOnly several] at same
  have lengths := congrArg String.length same
  simp only [String.length_append] at lengths
  have underscore : "_".length = 1 := rfl
  omega

theorem toOne_eq_iff (same : constraint.table = second.table)
    (named : Naming.toOneName constraint.columns = Naming.toOneName second.columns) :
    constraint.toOne table = second.toOne table ↔ constraint.pairs = second.pairs := by
  simp [toOne, same, named]

/-- Two relations back to one table share their name only if the foreign keys are named alike. -/
theorem toOneName_eq_of_toMany_name (mem : constraint ∈ table.constraints)
    (memSecond : second ∈ table.constraints) (same : constraint.table = second.table)
    (named : (constraint.toMany names table).name = (second.toMany names table).name) :
    Naming.toOneName constraint.columns = Naming.toOneName second.columns := by
  by_cases only : constraint.IsOnly table
  · rw [only.eq mem memSecond same.symm]
  · rw [toMany_name_of_not_isOnly only,
      toMany_name_of_not_isOnly (by rw [IsOnly, ← same]; exact only)] at named
    rwa [String.append_assoc, String.append_assoc, String.append_left_inj] at named

theorem toMany_eq_of_pairs_eq (same : constraint.table = second.table)
    (named : (constraint.toMany names table).name = (second.toMany names table).name)
    (equal : constraint.pairs = second.pairs) :
    constraint.toMany names table = second.toMany names table := by
  rw [toMany, toMany, Relation.mk.injEq]
  exact ⟨named, same, rfl, by rw [same], by rw [equal], rfl⟩

/-- A relation to one row and a relation back between the same tables differ, unless a table
references itself with the pairs turned round. -/
theorem toOne_eq_toMany_iff (forth : constraint.table = other.name)
    (back : second.table = table.name)
    (named : Naming.toOneName constraint.columns = (second.toMany names other).name) :
    constraint.toOne table = second.toMany names other ↔
      table.name = other.name ∧ constraint.pairs = second.pairs.map Prod.swap := by
  have name : Naming.toOneName constraint.columns = _ := named
  simp only [toMany] at name
  by_cases self : table.name = other.name
  · simp [toOne, toMany, forth, back, self, name]
  · have turned : other.name ≠ table.name := fun same => self same.symm
    simp [toOne, toMany, forth, back, self, turned]

end Constraint

/-! ## Junctions -/

namespace Junction

variable {catalog : Catalog} {junction other : Junction}

theorem left_lt_right (mem : junction ∈ catalog.junctions) :
    junction.left.table < junction.right.table := by
  obtain ⟨table, -, found⟩ := Catalog.junctions_ofTable? mem
  obtain ⟨left, right, connects, rfl⟩ := ofTable?_eq_some_iff.mp found
  exact connects.ordered

/-- A catalog has one junction for a table. -/
theorem eq_of_table_eq (consistent : catalog.Consistent) (mem : junction ∈ catalog.junctions)
    (memOther : other ∈ catalog.junctions) (same : junction.table = other.table) :
    junction = other := by
  obtain ⟨table, memTable, found⟩ := Catalog.junctions_ofTable? mem
  obtain ⟨table', memTable', found'⟩ := Catalog.junctions_ofTable? memOther
  have named := (ofTable?_table found).symm.trans (same.trans (ofTable?_table found'))
  rw [inj_on_of_nodup_map consistent.distinct memTable memTable' named] at found
  exact Option.some.inj (found.symm.trans found')

/-- The sides of junctions of the same two tables stand in the same order. -/
theorem Relates.aligned (mem : junction ∈ catalog.junctions) (memOther : other ∈ catalog.junctions)
    {source target source' target' : JunctionSide} (relates : junction.Relates source target)
    (relates' : other.Relates source' target') (src : source.table = source'.table)
    (targets : target.table = target'.table) :
    junction.left.table = other.left.table ∧ junction.right.table = other.right.table ∧
      (junction = other → source = source' ∧ target = target') := by
  have ordered := left_lt_right mem
  have ordered' := left_lt_right memOther
  rcases relates with ⟨rfl, rfl⟩ | ⟨rfl, rfl⟩ <;> rcases relates' with ⟨rfl, rfl⟩ | ⟨rfl, rfl⟩
  · exact ⟨src, targets, fun same => same ▸ ⟨rfl, rfl⟩⟩
  · rw [src, targets] at ordered
    exact absurd ordered ordered'.not_gt
  · rw [src, targets] at ordered
    exact absurd ordered ordered'.not_gt
  · exact ⟨targets, src, fun same => same ▸ ⟨rfl, rfl⟩⟩

end Junction

/-! ## Clashes -/

namespace Catalog

variable {catalog : Catalog} {names : Naming}

/-- Two different relations of a catalog get one key. -/
inductive Clashes (catalog : Catalog) (names : Naming) : Prop where
  /-- Foreign keys of one table to the same table are named alike. -/
  | sameName {table : Table} (mem : table ∈ catalog.tables) {first second : Constraint}
      (memFirst : first ∈ table.constraints) (memSecond : second ∈ table.constraints)
      (sameTable : first.table = second.table)
      (named : Naming.toOneName first.columns = Naming.toOneName second.columns)
      (differ : first.pairs ≠ second.pairs)
  /-- A foreign key is named like the relation back of one in the opposite direction. -/
  | opposite {table other : Table} (mem : table ∈ catalog.tables) (memOther : other ∈ catalog.tables)
      {first second : Constraint} (memFirst : first ∈ table.constraints)
      (memSecond : second ∈ other.constraints) (forth : first.table = other.name)
      (back : second.table = table.name)
      (named : Naming.toOneName first.columns = (second.toMany names other).name)
      (differ : ¬ (table.name = other.name ∧ first.pairs = second.pairs.map Prod.swap))
  /-- Two junctions join the same tables. -/
  | junctions {first second : Junction} (mem : first ∈ catalog.junctions)
      (memSecond : second ∈ catalog.junctions) (differ : first.table ≠ second.table)
      (sameLeft : first.left.table = second.left.table)
      (sameRight : first.right.table = second.right.table)
  /-- A foreign key between the tables of a junction is named like the relation through it. -/
  | across {junction : Junction} (mem : junction ∈ catalog.junctions) {source target : JunctionSide}
      (relates : junction.Relates source target) {table : Table} (memTable : table ∈ catalog.tables)
      {key : Constraint} (memKey : key ∈ table.constraints) (forth : source.table = table.name)
      (back : target.table = key.table)
      (named : Naming.toOneName key.columns = names.throughName target.table)
  /-- A table of a junction has one foreign key to the other. -/
  | only {junction : Junction} (mem : junction ∈ catalog.junctions) {source target : JunctionSide}
      (relates : junction.Relates source target) {table : Table} (memTable : table ∈ catalog.tables)
      {key : Constraint} (memKey : key ∈ table.constraints) (forth : target.table = table.name)
      (back : source.table = key.table) (alone : key.IsOnly table)

/-- Different relations under one key come from one of the five situations. -/
theorem clashes_of_key_eq (consistent : catalog.Consistent) {rel other : Relation}
    (implied : catalog.Implies names rel) (impliedOther : catalog.Implies names other)
    (same : rel.key = other.key) (differ : rel ≠ other) : catalog.Clashes names := by
  simp only [Relation.key, Prod.mk.injEq] at same
  obtain ⟨named, left, right⟩ := same
  cases implied with
  | toOne mem memKey =>
    cases impliedOther with
    | toOne mem' memKey' =>
      obtain rfl := inj_on_of_nodup_map consistent.distinct mem mem' left
      exact .sameName mem memKey memKey' right named
        fun pairs => differ ((Constraint.toOne_eq_iff right named).mpr pairs)
    | toMany mem' memKey' =>
      exact .opposite mem mem' memKey memKey' right left.symm named fun equal =>
        differ ((Constraint.toOne_eq_toMany_iff right left.symm named).mpr equal)
    | through mem' relates => exact .across mem' relates mem memKey left.symm right.symm named
  | toMany mem memKey =>
    cases impliedOther with
    | toOne mem' memKey' =>
      exact .opposite mem' mem memKey' memKey right.symm left named.symm fun equal =>
        differ ((Constraint.toOne_eq_toMany_iff right.symm left named.symm).mpr equal).symm
    | toMany mem' memKey' =>
      obtain rfl := inj_on_of_nodup_map consistent.distinct mem mem' right
      exact .sameName mem memKey memKey' left
        (Constraint.toOneName_eq_of_toMany_name memKey memKey' left named)
        fun pairs => differ (Constraint.toMany_eq_of_pairs_eq left named pairs)
    | through mem' relates =>
      exact .only mem' relates mem memKey right.symm left.symm
        (Constraint.toMany_name_eq_throughName_iff.mp (named.trans (congrArg names.throughName right.symm)))
  | through mem relates =>
    cases impliedOther with
    | toOne mem' memKey' => exact .across mem relates mem' memKey' left right named.symm
    | toMany mem' memKey' =>
      exact .only mem relates mem' memKey' right left
        (Constraint.toMany_name_eq_throughName_iff.mp (named.symm.trans (congrArg names.throughName right)))
    | through mem' relates' =>
      obtain ⟨sameLeft, sameRight, equal⟩ := relates.aligned mem mem' relates' left right
      refine .junctions mem mem' (fun sameTable => differ ?_) sameLeft sameRight
      obtain rfl := Junction.eq_of_table_eq consistent mem mem' sameTable
      obtain ⟨rfl, rfl⟩ := equal rfl
      rfl

/-- In each of the five situations there are different relations under one key. -/
theorem Clashes.exists_key_eq (clashes : catalog.Clashes names) : ∃ rel other,
    catalog.Implies names rel ∧ catalog.Implies names other ∧ rel.key = other.key ∧
      rel ≠ other := by
  cases clashes with
  | sameName mem memFirst memSecond sameTable named differ =>
    refine ⟨_, _, .toOne mem memFirst, .toOne mem memSecond, ?_, ?_⟩
    · simp [Relation.key, Constraint.toOne, named, sameTable]
    · exact fun equal => differ ((Constraint.toOne_eq_iff sameTable named).mp equal)
  | opposite mem memOther memFirst memSecond forth back named differ =>
    refine ⟨_, _, .toOne mem memFirst, .toMany memOther memSecond, ?_, ?_⟩
    · rw [Relation.key, Relation.key, ← named]
      simp [Constraint.toOne, Constraint.toMany, forth, back]
    · exact fun equal => differ ((Constraint.toOne_eq_toMany_iff forth back named).mp equal)
  | junctions mem memSecond differ sameLeft sameRight =>
    refine ⟨_, _, .through mem (.inl ⟨rfl, rfl⟩), .through memSecond (.inl ⟨rfl, rfl⟩), ?_, ?_⟩
    · simp [Relation.key, Junction.relation, sameLeft, sameRight]
    · intro equal
      simp [Junction.relation, differ] at equal
  | across mem relates memTable memKey forth back named =>
    refine ⟨_, _, .toOne memTable memKey, .through mem relates, ?_, ?_⟩
    · simp [Relation.key, Constraint.toOne, Junction.relation, named, forth, back]
    · intro equal
      simp [Constraint.toOne, Junction.relation] at equal
  | only mem relates memTable memKey forth back alone =>
    refine ⟨_, _, .toMany memTable memKey, .through mem relates, ?_, ?_⟩
    · rw [Relation.key, Relation.key, Constraint.toMany_name_of_isOnly alone]
      simp [Constraint.toMany, Junction.relation, forth, back]
    · intro equal
      simp [Constraint.toMany, Junction.relation] at equal

/-- Looking up a relation that a catalog implies gives the last one with its key.  Every relation is
found again exactly if the catalog has none of the five clashes. -/
theorem derived_relations_kept_iff {text : String} {registry : Registry}
    (accepted : Catalog.parse text = .ok catalog)
    (built : Registry.build catalog names true [] = .ok registry) :
    (∀ relation ∈ catalog.derivedRelations names,
      registry.lookup? relation.name relation.left relation.right =
        Relation.last? relation.key (catalog.derivedRelations names)) ∧
    ((∀ relation ∈ catalog.derivedRelations names,
      registry.lookup? relation.name relation.left relation.right = some relation) ↔
        ¬ catalog.Clashes names) := by
  have given : Registry.given catalog names true [] = catalog.derivedRelations names :=
    List.append_nil _
  have found : ∀ relation ∈ catalog.derivedRelations names,
      registry.lookup? relation.name relation.left relation.right =
        Relation.last? relation.key (catalog.derivedRelations names) := by
    intro relation _
    rw [Registry.build_lookup? built, given]
    rfl
  refine ⟨found, ?_⟩
  rw [forall₂_congr fun relation mem => by rw [found relation mem], Relation.forall_last?_iff]
  constructor
  · intro apart clashes
    obtain ⟨relation, other, implied, impliedOther, same, differ⟩ := clashes.exists_key_eq
    exact differ (apart relation (mem_derivedRelations_iff.mpr implied) other
      (mem_derivedRelations_iff.mpr impliedOther) same)
  · intro apart relation mem other memOther same
    by_contra differ
    exact apart (clashes_of_key_eq (parse_consistent accepted) (mem_derivedRelations_iff.mp mem)
      (mem_derivedRelations_iff.mp memOther) same differ)

/-- Species, each below another one.  The word has no plural of its own. -/
def speciesText : String :=
  "tables:
- {name: species, columns: [{name: id}, {name: species_id}], primary_key: [id],
   foreign_keys: [{column: species_id, references: species, referenced_column: id}]}
"

def speciesTable : Table :=
  ⟨"species", [⟨"id", "", false⟩, ⟨"species_id", "", false⟩], ["id"],
    [⟨"species_id", "species", "id", "", 0⟩], []⟩

def speciesCatalog : Catalog := ⟨[speciesTable], []⟩

theorem speciesText_parse : Catalog.parse speciesText = .ok speciesCatalog := by
  -- Evaluating the list of characters would encode and decode the text first.
  rw [Catalog.parse, readDocument, Yaml.parse, Yaml.tokens]
  set_option maxRecDepth 4000 in
    rw [show speciesText.toList = _ from String.toList_ofList]
  decide +kernel

def parentRelation : Relation :=
  ⟨"species", "species", "species", .self, [("species_id", "id")], none⟩

def childrenRelation : Relation :=
  ⟨"species", "species", "species", .self, [("id", "species_id")], none⟩

theorem speciesCatalog_derived :
    speciesCatalog.derivedRelations .default = [parentRelation, childrenRelation] := by
  decide +kernel

theorem speciesCatalog_build :
    Registry.build speciesCatalog .default true [] = .ok ⟨[childrenRelation]⟩ := by
  rw [Registry.build, if_pos rfl, speciesCatalog_derived]
  rfl

theorem derived_relations_kept_iff_species : ∃ registry,
    Catalog.parse speciesText = .ok speciesCatalog ∧
      Registry.build speciesCatalog .default true [] = .ok registry ∧
      registry.lookup? "species" "species" "species" = some childrenRelation ∧
      speciesCatalog.Clashes .default := by
  refine ⟨_, speciesText_parse, speciesCatalog_build, ?_⟩
  obtain ⟨found, kept⟩ := derived_relations_kept_iff speciesText_parse speciesCatalog_build
  rw [speciesCatalog_derived] at found kept
  refine ⟨found parentRelation List.mem_cons_self, ?_⟩
  by_contra apart
  have lost := kept.mpr apart parentRelation List.mem_cons_self
  revert lost
  decide

/-- A foreign key can lose one of its directions. -/
theorem derived_relation_lost : ∃ registry,
    Catalog.parse speciesText = .ok speciesCatalog ∧
      Registry.build speciesCatalog .default true [] = .ok registry ∧
      ∃ relation ∈ speciesCatalog.derivedRelations .default,
        registry.lookup? relation.name relation.left relation.right ≠ some relation := by
  refine ⟨_, speciesText_parse, speciesCatalog_build, parentRelation, ?_, by decide⟩
  rw [speciesCatalog_derived]
  exact List.mem_cons_self

end Catalog

end SelectGraph
