import SelectGraph.Catalog.Document
import SelectGraph.Relation.Derive
import SelectGraph.Proofs.Sql.Evaluation

/-!
# Checked catalogs and relations

What can be relied on once a catalog and the relations over it have been checked: a table is found
again by its name, the columns of its key are among its columns, and every relation in a registry
joins columns of the tables that its names lead to.
-/

namespace SelectGraph

open List

open Sql (bind_eq_ok)

variable {table : Table} {catalog : Catalog} {rel : Relation} {registry : Registry}

/-! ## Lookup by name -/

section Lookup

variable {α : Type} {name : α → String} {values : List α}

theorem findNamed?_eq_some {wanted : String} {found : α}
    (known : findNamed? name values wanted = some found) :
    found ∈ values ∧ Text.equalFold (name found) wanted = true := by
  rw [findNamed?] at known
  split at known
  · rename_i exactly matched
    cases known
    have same := find?_some matched
    rw [beq_iff_eq] at same
    exact ⟨mem_of_find?_eq_some matched, same ▸ Text.equalFold_refl _⟩
  · exact ⟨mem_of_find?_eq_some known, find?_some (p := fun value =>
      Text.equalFold (name value) wanted) known⟩

theorem findNamed?_eq_none {wanted : String} (unknown : findNamed? name values wanted = none)
    {value : α} (mem : value ∈ values) : Text.equalFold (name value) wanted = false := by
  rw [findNamed?] at unknown
  split at unknown
  · cases unknown
  · simpa using find?_eq_none.mp unknown value mem

/-- A value that is found has the wanted name exactly, if any value has it. -/
theorem findNamed?_name_eq_iff {wanted : String} {found : α}
    (known : findNamed? name values wanted = some found) :
    name found = wanted ↔ ∃ value ∈ values, name value = wanted := by
  constructor
  · intro same
    exact ⟨found, (findNamed?_eq_some known).1, same⟩
  · rintro ⟨value, mem, same⟩
    rw [findNamed?] at known
    split at known
    · rename_i exactly matched
      cases known
      have same := find?_some matched
      exact beq_iff_eq.mp same
    · rename_i unmatched
      exact absurd (beq_iff_eq.mpr same) (find?_eq_none.mp unmatched value mem)

/-- A value is found by its own name if no other value has it. -/
theorem findNamed?_name (distinct : (values.map name).Nodup) {value : α} (mem : value ∈ values) :
    findNamed? name values (name value) = some value := by
  obtain ⟨before, later, rfl⟩ := append_of_mem mem
  have first : (before ++ value :: later).find? (fun other => name other == name value) =
      some value := by
    rw [map_append, nodup_append] at distinct
    rw [find?_append, find?_eq_none.mpr, Option.none_or, find?_cons_of_pos (by simp)]
    intro other earlier same
    exact distinct.2.2 _ (mem_map_of_mem earlier) _ mem_cons_self (beq_iff_eq.mp same)
  rw [findNamed?, first]

end Lookup

/-! ## Catalogs -/

namespace Catalog

/-- What a check of a catalog establishes about its tables. -/
structure Consistent (catalog : Catalog) : Prop where
  distinct : (catalog.tables.map Table.name).Nodup
  keys : ∀ table ∈ catalog.tables, ∀ col ∈ table.primaryKey, (table.column? col).isSome = true

theorem checkKeys_ok (checked : checkKeys table = .ok ()) :
    (∀ col ∈ table.primaryKey, (table.column? col).isSome = true) ∧
      ∀ key ∈ table.foreignKeys, (table.column? key.column).isSome = true := by
  rw [checkKeys] at checked
  split at checked
  · cases checked
  · rename_i primary
    split at checked
    · cases checked
    · rename_i foreign
      simpa [Option.isSome_iff_ne_none] using
        And.intro (find?_eq_none.mp primary) (find?_eq_none.mp foreign)

theorem checkTables_ok {seen : List String} {tables : List Table}
    (checked : checkTables seen tables = .ok ()) :
    (tables.map Table.name).Nodup ∧ (∀ table ∈ tables, table.name ∉ seen) ∧
      ∀ table ∈ tables, table.name ≠ "" ∧ checkKeys table = .ok () := by
  induction tables generalizing seen with
  | nil => simp
  | cons table tables ih =>
    rw [checkTables] at checked
    split at checked
    · cases checked
    · rename_i named
      split at checked
      · cases checked
      · rename_i fresh
        obtain ⟨_, keys, rest⟩ := bind_eq_ok.mp checked
        obtain ⟨distinct, unseen, others⟩ := ih rest
        refine ⟨?_, ?_, ?_⟩
        · rw [map_cons, nodup_cons]
          refine ⟨?_, distinct⟩
          intro repeated
          obtain ⟨other, mem, same⟩ := mem_map.mp repeated
          exact unseen other mem (same ▸ mem_cons_self)
        · rw [forall_mem_cons]
          exact ⟨fresh, fun other mem seenBefore =>
            unseen other mem (mem_cons_of_mem _ seenBefore)⟩
        · rw [forall_mem_cons]
          exact ⟨⟨named, keys⟩, others⟩

theorem check_tables (checked : catalog.check = .ok ()) : (catalog.tables.map Table.name).Nodup ∧
    ∀ table ∈ catalog.tables, table.name ≠ "" ∧ checkKeys table = .ok () := by
  obtain ⟨_, tables, -⟩ := bind_eq_ok.mp checked
  exact (checkTables_ok tables).imp_right And.right

theorem parse_checked {text : String} (accepted : parse text = .ok catalog) :
    catalog.check = .ok () := by
  rw [parse] at accepted
  split at accepted
  · cases accepted
  · rename_i found _
    cases checked : check found with
    | error error =>
      rw [checked] at accepted
      cases accepted
    | ok _ =>
      rw [checked] at accepted
      cases accepted
      exact checked

/-- A catalog that has been read is consistent. -/
theorem parse_consistent {text : String} (accepted : parse text = .ok catalog) :
    catalog.Consistent := by
  obtain ⟨distinct, keys⟩ := check_tables (parse_checked accepted)
  exact ⟨distinct, fun table mem => (checkKeys_ok (keys table mem).2).1⟩

theorem Consistent.table?_name (consistent : catalog.Consistent) (mem : table ∈ catalog.tables) :
    catalog.table? table.name = some table :=
  findNamed?_name consistent.distinct mem

theorem tableForType_mem {type : String} (found : catalog.tableForType type = .ok table) :
    table ∈ catalog.tables := by
  rw [tableForType] at found
  split at found
  · split at found
    · rename_i known
      cases found
      exact (findNamed?_eq_some known).1
    · cases found
  · split at found
    · rename_i known
      cases found
      exact (findNamed?_eq_some known).1
    · split at found
      · rename_i known
        cases found
        exact (findNamed?_eq_some known).1
      · cases found

end Catalog

/-! ## Relations -/

namespace Relation

/-- Whether pairs name a column of one table and a column of another. -/
def PairsKnown (first second : Table) (pairs : List (String × String)) : Prop :=
  ∀ pair ∈ pairs, (first.column? pair.1).isSome = true ∧ (second.column? pair.2).isSome = true

theorem checkPairs_eq_ok_iff {name : String} {first second : Table × String}
    {pairs : List (String × String)} :
    checkPairs name first second pairs = .ok () ↔ PairsKnown first.1 second.1 pairs := by
  induction pairs with
  | nil => simp [checkPairs, PairsKnown]
  | cons pair pairs ih =>
    rw [checkPairs, PairsKnown, forall_mem_cons, ← PairsKnown, ← ih]
    cases first.1.column? pair.1 <;> cases second.1.column? pair.2 <;> simp

/-- What a check of a relation establishes: its names lead to tables, and its pairs name columns of
them. -/
structure Known (catalog : Catalog) (rel : Relation) (left right : Table) : Prop where
  foundLeft : catalog.table? rel.left = some left
  foundRight : catalog.table? rel.right = some right
  pairs : PairsKnown left right rel.pairs
  junction : ∀ through, rel.through? = some through → ∃ middle,
    catalog.table? through.table = some middle ∧ PairsKnown left middle through.left ∧
      PairsKnown right middle through.right

theorem check_eq_ok_iff :
    rel.check catalog = .ok () ↔ ∃ left right, rel.Known catalog left right := by
  constructor
  · intro checked
    rw [check] at checked
    split at checked
    · cases checked
    · rename_i left foundLeft
      split at checked
      · cases checked
      · rename_i right foundRight
        obtain ⟨_, pairs, rest⟩ := bind_eq_ok.mp checked
        refine ⟨left, right, foundLeft, foundRight, checkPairs_eq_ok_iff.mp pairs, ?_⟩
        intro through given
        rw [given] at rest
        dsimp only at rest
        split at rest
        · cases rest
        · rename_i middle foundMiddle
          obtain ⟨_, leftPairs, rightPairs⟩ := bind_eq_ok.mp rest
          exact ⟨middle, foundMiddle, checkPairs_eq_ok_iff.mp leftPairs,
            checkPairs_eq_ok_iff.mp rightPairs⟩
  · rintro ⟨left, right, foundLeft, foundRight, pairs, junction⟩
    rw [check, foundLeft, foundRight]
    refine bind_eq_ok.mpr ⟨(), checkPairs_eq_ok_iff.mpr pairs, ?_⟩
    cases given : rel.through? with
    | none => rfl
    | some through =>
      obtain ⟨middle, foundMiddle, leftPairs, rightPairs⟩ := junction through given
      dsimp only
      rw [foundMiddle]
      exact bind_eq_ok.mpr ⟨(), checkPairs_eq_ok_iff.mpr leftPairs,
        checkPairs_eq_ok_iff.mpr rightPairs⟩

end Relation

/-! ## Registries -/

namespace Registry

theorem register_mem {result : Registry} {other : Relation}
    (registered : registry.register rel = .ok result) (mem : other ∈ result.relations) :
    other ∈ registry.relations ∨ other = rel := by
  rw [register] at registered
  cases validated : rel.validate with
  | error error =>
    rw [validated] at registered
    cases registered
  | ok _ =>
    rw [validated] at registered
    cases registered
    rcases mem_append.mp mem with kept | added
    · exact .inl (mem_of_mem_filter kept)
    · exact .inr (mem_singleton.mp added)

/-- Every relation in a registry has been checked. -/
theorem registerAll_checked {result : Registry} {rels : List Relation}
    (registered : registry.registerAll catalog rels = .ok result)
    (initial : ∀ rel ∈ registry.relations, rel.check catalog = .ok ()) :
    ∀ rel ∈ result.relations, rel.check catalog = .ok () := by
  induction rels generalizing registry with
  | nil =>
    cases registered
    exact initial
  | cons rel rels ih =>
    rw [registerAll] at registered
    obtain ⟨_, checked, rest⟩ := bind_eq_ok.mp registered
    obtain ⟨next, added, others⟩ := bind_eq_ok.mp rest
    refine ih others fun other mem => ?_
    rcases register_mem added mem with known | rfl
    · exact initial other known
    · exact checked

theorem build_checked {names : Naming} {derive : Bool} {declared : List Relation}
    (built : Registry.build catalog names derive declared = .ok registry) :
    ∀ rel ∈ registry.relations, rel.check catalog = .ok () :=
  registerAll_checked built (by simp [Registry.empty])

theorem lookup?_eq_some {name left right : String}
    (found : registry.lookup? name left right = some rel) :
    rel ∈ registry.relations ∧ rel.left = left ∧ rel.right = right := by
  have matched := find?_some found
  simp only [Bool.and_eq_true, beq_iff_eq] at matched
  exact ⟨mem_of_find?_eq_some found, matched.1.2, matched.2⟩

end Registry

end SelectGraph
