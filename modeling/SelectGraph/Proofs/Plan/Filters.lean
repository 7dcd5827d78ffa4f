import SelectGraph.Proofs.Plan.Meaning

/-!
# Filters select by value

The condition of a filter is true of a row exactly when the column has the value that is asked for,
or one of the values of a list.  Null is a value like others here, although no comparison with null
is true.
-/

namespace SelectGraph.Plan

open List

open Keyset (comparison_decides isNull_decides)
open Sql (Cell ColumnRef Domain Predicate Row Scope Store Truth bind_eq_ok ok_bind)
open Sql.Predicate (Decides decides_all_nil)

variable {col name : String} {value : Literal} {domain : Domain} {store : Store}
  {scope : Scope store} {aliasName : String} {row : Row store}
  {items : List Literal} {pred : Predicate} {table : Table} {filters : List (String × Literal)}
  {preds : List Predicate}

/-! ## Values -/

theorem has_null {row : Row domain} : has row col .null = true ↔ row col = none := by
  rw [has, Option.isNone_iff_eq_none]

theorem has_of_ne_null {row : Row domain} (given : value ≠ .null) :
    has row col value = true ↔ ∃ stored, row col = some stored ∧
      domain.compare stored (domain.argument value.sqlValue) = .eq := by
  rw [has.eq_def]
  split
  · exact absurd rfl given
  · simp_all
  · simp_all

theorem sqlValue_ne_null (given : value ≠ .null) : value.sqlValue ≠ .null := by
  cases value with
  | null => exact absurd rfl given
  | _ => simp [Literal.sqlValue]

theorem ne_null_of_isScalar (scalar : value.isScalar = true) : value ≠ .null := by
  rintro rfl
  cases scalar

theorem equals_decides (binds : scope.Binds aliasName row) (col : String)
    (given : value ≠ .null) :
    Decides store scope (.equals ⟨aliasName, col⟩ value.sqlValue)
      (has row col value = true) :=
  (comparison_decides binds col (sqlValue_ne_null given) rfl).iff (has_of_ne_null given).symm

theorem listScalars_eq {scalars : List Literal} (read : listScalars name items = .ok scalars) :
    scalars = (items.filter fun item => !item.isNull).map Literal.sqlValue := by
  induction items generalizing scalars with
  | nil =>
    cases read
    rfl
  | cons item items ih =>
    rw [listScalars] at read
    split at read
    · rename_i null
      rw [filter_cons_of_neg (by simpa using null), ih read]
    · rename_i given
      split at read
      · obtain ⟨others, readOthers, same⟩ := bind_eq_ok.mp read
        cases same
        rw [filter_cons_of_pos (by simpa using given), map_cons, ih readOthers]
      · cases read

theorem oneOf_decides (binds : scope.Binds aliasName row) (col : String) (items : List Literal)
    (given : ∀ item ∈ items, item ≠ .null) :
    Decides store scope (.oneOf ⟨aliasName, col⟩ (items.map Literal.sqlValue))
      (items.any (has row col) = true) := by
  refine ⟨_, by rw [Predicate.eval, binds.column]; rfl, ?_⟩
  rw [Truth.any_eq_true, any_eq_true, map_map, mem_map]
  refine exists_congr fun item => and_congr_right fun mem => ?_
  rw [has_of_ne_null (given item mem)]
  cases row _ with
  | none => simp [Cell.ofStored, Cell.against]
  | some stored =>
    simp [Cell.ofStored, Keyset.against_of_ne_null (sqlValue_ne_null (given item mem))]

theorem isNull_iff : value.isNull = true ↔ value = .null := by
  cases value <;> simp [Literal.isNull]

/-- A list admits the rows with one of its scalars, and those with null if null is in it. -/
theorem any_has_iff {row : Row domain} (items : List Literal) :
    items.any (has row col) = true ↔
      (items.filter fun item => !item.isNull).any (has row col) = true ∨
        items.any Literal.isNull = true ∧ row col = none := by
  induction items with
  | nil => simp
  | cons item items ih =>
    by_cases null : item.isNull = true
    · have item_eq := isNull_iff.mp null
      subst item_eq
      rw [any_cons, any_cons, Bool.or_eq_true,
        has_null]
      tauto
    · rw [filter_cons_of_pos (by simp [null]), any_cons, any_cons, any_cons,
        Bool.or_eq_true, Bool.or_eq_true, ih, Bool.eq_false_iff.mpr null, Bool.false_or, or_assoc]

/-- The condition of a filter: a test for null, a comparison with a scalar, or a search in a list,
next to a test for null if null is in the list. -/
theorem filterPredicate_eq_ok {col : ColumnRef}
    (built : filterPredicate col name value = .ok pred) :
    (value = .null ∧ pred = .isNull col) ∨
    (value.isScalar = true ∧ pred = .equals col value.sqlValue) ∨
    ∃ items scalars, value = .list items ∧
      scalars = (items.filter fun item => !item.isNull).map Literal.sqlValue ∧
      ((items.any Literal.isNull = false ∧ pred = .oneOf col scalars) ∨
      (items.any Literal.isNull = true ∧ scalars = [] ∧ pred = .isNull col) ∨
      (items.any Literal.isNull = true ∧ scalars ≠ [] ∧
        pred = .any [.oneOf col scalars, .isNull col])) := by
  rw [filterPredicate.eq_def] at built
  split at built
  · cases built
    exact .inl ⟨rfl, rfl⟩
  · rename_i items
    obtain ⟨scalars, read, rest⟩ := bind_eq_ok.mp built
    refine .inr (.inr ⟨items, scalars, rfl, listScalars_eq read, ?_⟩)
    split at rest
    · rename_i someNull
      split at rest
      · rename_i onlyNull
        cases rest
        exact .inr (.inl ⟨someNull, isEmpty_iff.mp onlyNull, rfl⟩)
      · rename_i others
        cases rest
        exact .inr (.inr ⟨someNull, fun none => others (isEmpty_iff.mpr none), rfl⟩)
    · rename_i noNull
      cases rest
      exact .inl ⟨Bool.eq_false_iff.mpr noNull, rfl⟩
  · split at built
    · rename_i scalar
      cases built
      exact .inr (.inl ⟨scalar, rfl⟩)
    · cases built

/-- A filter is true of the rows it admits. -/
theorem filterPredicate_decides (binds : scope.Binds aliasName row)
    (built : filterPredicate ⟨aliasName, col⟩ name value = .ok pred) :
    Decides store scope pred (admits row col value = true) := by
  have null := isNull_decides binds col
  obtain ⟨rfl, rfl⟩ | ⟨scalar, rfl⟩ | ⟨items, scalars, rfl, rfl, cases⟩ :=
    filterPredicate_eq_ok built
  · exact null.iff has_null.symm
  · have single : admits row col value = has row col value := by
      cases value with
      | list items => cases scalar
      | _ => rfl
    rw [single]
    exact equals_decides binds _ (ne_null_of_isScalar scalar)
  · have oneOf := oneOf_decides binds col (items.filter fun item => !item.isNull)
      (by simp [← isNull_iff])
    rw [admits, any_has_iff _]
    obtain ⟨noNull, rfl⟩ | ⟨someNull, onlyNull, rfl⟩ | ⟨someNull, -, rfl⟩ := cases
    · exact oneOf.iff (by simp [noNull])
    · exact null.iff (by simp [someNull, map_eq_nil_iff.mp onlyNull])
    · exact (oneOf.any_single.any_append null.any_single).iff (by simp [someNull])

/-- Every filter is a condition on the column of its name. -/
theorem filterPredicates_eq_ok (built : filterPredicates table aliasName filters = .ok preds) :
    List.Forall₂ (fun filter pred => ∃ col, table.column? filter.1 = some col ∧
      filterPredicate ⟨aliasName, col.name⟩ filter.1 filter.2 = .ok pred)
      filters preds := by
  induction filters generalizing preds with
  | nil =>
    cases built
    exact .nil
  | cons filter filters ih =>
    rw [filterPredicates] at built
    split at built
    · cases built
    · rename_i col found
      obtain ⟨first, builtFirst, rest⟩ := bind_eq_ok.mp built
      obtain ⟨others, builtOthers, same⟩ := bind_eq_ok.mp rest
      cases same
      exact .cons ⟨col, found, builtFirst⟩ (ih builtOthers)

theorem filterPredicates_decide (binds : scope.Binds aliasName row)
    (built : filterPredicates table aliasName filters = .ok preds) :
    Decides store scope (.all preds) (filters.all (fun filter =>
      match table.column? filter.1 with
      | some col => admits row col.name filter.2
      | none => false) = true) := by
  induction filters generalizing preds with
  | nil =>
    cases built
    exact decides_all_nil.iff (by simp)
  | cons filter filters ih =>
    rw [filterPredicates] at built
    split at built
    · cases built
    · rename_i found
      obtain ⟨first, builtFirst, rest⟩ := bind_eq_ok.mp built
      obtain ⟨others, builtOthers, same⟩ := bind_eq_ok.mp rest
      cases same
      refine ((filterPredicate_decides binds builtFirst).all_single.all_append
        (ih builtOthers)).iff ?_
      rw [all_cons, Bool.and_eq_true, found]

/-! ## What a filter means -/

/-- The values that an argument asks for: the items of a list, or the value itself. -/
def wanted : Literal → List Literal
  | .list items => items
  | value => [value]

/-- Whether a value makes no filter: an object, or a list with an item that is neither null nor a
scalar. -/
def Unfit : Literal → Prop
  | .object _ => True
  | .list items => ∃ item ∈ items, item ≠ .null ∧ item.isScalar = false
  | _ => False

/-- A list is read unless it has an item that is neither null nor a scalar. -/
theorem listScalars_ok_iff (name : String) :
    (∃ scalars, listScalars name items = .ok scalars) ↔ ¬Unfit (.list items) := by
  induction items with
  | nil => simp [listScalars, Unfit]
  | cons item items ih =>
    have rest : Unfit (.list (item :: items)) ↔
        (item ≠ .null ∧ item.isScalar = false) ∨ Unfit (.list items) := by
      simp [Unfit]
    rw [listScalars, rest, not_or, ← ih]
    split
    · rename_i null
      simp [isNull_iff.mp null]
    · rename_i given
      split
      · rename_i scalar
        simp [scalar, bind_eq_ok]
      · rename_i notScalar
        simp [isNull_iff.not.mp given, notScalar]

/-- A filter is made of every value but those that are unfit. -/
theorem filterPredicate_ok_iff {col : ColumnRef} :
    (∃ pred, filterPredicate col name value = .ok pred) ↔ ¬Unfit value := by
  cases value with
  | list items =>
    rw [← listScalars_ok_iff name, filterPredicate]
    constructor
    · rintro ⟨_, built⟩
      obtain ⟨scalars, read, -⟩ := bind_eq_ok.mp built
      exact ⟨scalars, read⟩
    · rintro ⟨scalars, read⟩
      rw [read, ok_bind]
      split_ifs <;> exact ⟨_, rfl⟩
  | _ => simp [filterPredicate, Unfit, Literal.isScalar]

/-- A filter that can be made admits a row whose column is null if null is asked for, and any other
row if the column equals a scalar that is asked for. -/
theorem admits_iff {row : Row domain} (fit : ¬Unfit value) :
    admits row col value = true ↔
      (row col = none ∧ .null ∈ wanted value) ∨
      ∃ stored item, row col = some stored ∧ item ∈ wanted value ∧ item.isScalar = true ∧
        domain.compare stored (domain.argument item.sqlValue) = .eq := by
  have scalars : ∀ item ∈ wanted value, item ≠ .null → item.isScalar = true := by
    intro item mem given
    cases value with
    | list items =>
      by_contra notScalar
      exact fit ⟨item, mem, given, by simpa using notScalar⟩
    | object fields => exact absurd trivial fit
    | null => exact absurd (mem_singleton.mp mem) given
    | _ => rw [mem_singleton.mp mem]; rfl
  have some_has : admits row col value = true ↔
      ∃ item ∈ wanted value, has row col item = true := by
    cases value <;> simp [admits, wanted]
  rw [some_has]
  constructor
  · rintro ⟨item, mem, held⟩
    by_cases null : item = .null
    · rw [null] at mem held
      exact .inl ⟨has_null.mp held, mem⟩
    · obtain ⟨stored, found, same⟩ := (has_of_ne_null null).mp held
      exact .inr ⟨stored, item, found, mem, scalars item mem null, same⟩
  · rintro (⟨absent, mem⟩ | ⟨stored, item, found, mem, scalar, same⟩)
    · exact ⟨.null, mem, has_null.mpr absent⟩
    · exact ⟨item, mem, (has_of_ne_null (ne_null_of_isScalar scalar)).mpr ⟨stored, found, same⟩⟩

/-- A filter is made of every value but objects and lists with an item that is neither null nor a
scalar.  It is true of a row exactly if the column is null and null is asked for, or the column
equals a scalar that is asked for; for an empty list it is false of every row. -/
theorem filter_selects_by_value (store : Store) (scope : Scope store.toDomain)
    (aliasName column name : String) (value : Literal) :
    (Unfit value ∧
      ∃ error, filterPredicate ⟨aliasName, column⟩ name value = .error error) ∨
    (¬Unfit value ∧
      ∃ predicate, filterPredicate ⟨aliasName, column⟩ name value = .ok predicate ∧
        ∀ row : Row store.toDomain, ∃ truth,
          predicate.eval store (scope.enter aliasName (.ofRow row)) = .ok truth ∧
          (truth = some true ↔
            (row column = none ∧ .null ∈ wanted value) ∨
            ∃ stored item, row column = some stored ∧ item ∈ wanted value ∧
              item.isScalar = true ∧ store.compare stored (store.argument item.sqlValue) = .eq) ∧
          (value = .list [] → truth = some false)) := by
  by_cases unfit : Unfit value
  · left
    refine ⟨unfit, ?_⟩
    cases built : filterPredicate ⟨aliasName, column⟩ name value with
    | error error => exact ⟨error, rfl⟩
    | ok predicate => exact absurd unfit (filterPredicate_ok_iff.mp ⟨predicate, built⟩)
  · right
    obtain ⟨predicate, built⟩ := filterPredicate_ok_iff.mpr unfit
    refine ⟨unfit, predicate, built, fun row => ?_⟩
    have binds := Scope.binds_enter scope aliasName row
    obtain ⟨truth, evaluated, decided⟩ := filterPredicate_decides binds built
    refine ⟨truth, evaluated, decided.trans (admits_iff unfit), ?_⟩
    rintro rfl
    cases built
    rw [Predicate.eval, binds.column] at evaluated
    cases evaluated
    rfl

end SelectGraph.Plan
