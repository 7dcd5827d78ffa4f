import SelectGraph.Proofs.Plan.Conditions

/-!
# Rows after a cursor

A cursor that reads back to the values of a row stands for that row: the rows after it are those
that the order puts after the row.  Where a primary key tells rows apart, each row has one place in
the order, so nothing is skipped or met again.
-/

namespace SelectGraph.Plan

open List

open Keyset (Cursor OrderField directions given? rowKey)
open Sql (Apart Cell Direction Domain Row Store compareKeys)
open Std (OrientedCmp ReflCmp TransCmp)

variable {domain : Domain} {store : Store}

/-! ## Rows with a primary key -/

/-- What a database keeps for a table with a primary key: no key column is null, and no two rows
agree in all of them. -/
structure KeyHolds (store : Store) (table : Table) : Prop where
  declared : table.primaryKey ≠ []
  present : ∀ row ∈ store.rows table.name, ∀ col ∈ table.primaryKey, (row col).isSome
  unique : (store.rows table.name).Pairwise fun a b =>
    ∃ col ∈ table.primaryKey, agree (a col) (b col) = false

theorem compareKeys_eq_iff {order : List OrderField} {a b : Row domain} :
    compareKeys (directions order) (rowKey order a) (rowKey order b) = .eq ↔
      ∀ field ∈ order,
        (Cell.ofStored (a field.column)).compare (.ofStored (b field.column)) = .eq := by
  induction order with
  | nil => simp [directions, compareKeys]
  | cons field order ih =>
    rw [directions, rowKey, rowKey, map_cons, map_cons, map_cons, compareKeys,
      Ordering.then_eq_eq, forall_mem_cons]
    exact and_congr (by simp [Sql.compareFirst, Direction.apply_eq_eq]) ih

theorem agree_of_compare {a b : Option domain.Value} (present : a.isSome)
    (same : (Cell.ofStored a).compare (.ofStored b) = .eq) : agree a b = true := by
  cases a with
  | none => cases present
  | some a =>
    cases b with
    | none => cases same
    | some b => exact beq_iff_eq.mpr same

/-- Every order of a table with a primary key tells its rows apart. -/
theorem KeyHolds.apart {table : Table} (key : KeyHolds store table) (explicit : List OrderField) :
    Apart (directions (effectiveOrder table explicit)) (rowKey (effectiveOrder table explicit))
      (store.rows table.name) := by
  refine key.unique.imp_of_mem fun {a b} aMem _ differ same => ?_
  obtain ⟨col, mem, disagree⟩ := differ
  obtain ⟨field, memField, rfl⟩ := mem_map.mp (effectiveOrder_key _ mem)
  have level := compareKeys_eq_iff.mp same _ memField
  rw [agree_of_compare (key.present a aMem _ mem) level] at disagree
  cases disagree

/-! ## Cursors that stand for a row -/

/-- Whether a cursor holds exactly the order columns, with the values that a row has there. -/
structure StandsFor (cursor : Cursor) (order : List OrderField) (row : Row domain) : Prop where
  covers : cursor.Covers order
  values : ∀ entry ∈ cursor, has row entry.1 entry.2 = true

theorem compare_of_has {row : Row domain} {col : String} {value : Literal}
    (held : has row col value = true) :
    (Cell.ofStored (given? value.sqlValue)).compare (.ofStored (row col)) = .eq := by
  by_cases null : value = .null
  · rw [null, has_null] at held
    rw [null, held]
    rfl
  · obtain ⟨stored, found, same⟩ := (has_of_ne_null null).mp held
    rw [Keyset.given?_of_ne_null (sqlValue_ne_null null), found]
    exact OrientedCmp.eq_comm.mp same

theorem value_mem {cursor : Cursor} {col : String} (mem : col ∈ cursor.map Prod.fst) :
    (col, cursor.value col) ∈ cursor := by
  have found : (cursor.reverse.lookup col).isSome := by
    obtain ⟨entry, memEntry, rfl⟩ := mem_map.mp mem
    exact lookup_isSome_iff.mpr ⟨entry, mem_reverse.mpr memEntry, beq_self_eq_true _⟩
  obtain ⟨value, found⟩ := Option.isSome_iff_exists.mp found
  obtain ⟨before, rest, split, -⟩ := lookup_eq_some_iff.mp found
  rw [Cursor.value, found, ← mem_reverse, split]
  exact mem_append_right _ mem_cons_self

/-- A cursor that stands for a row compares with other rows as the row does. -/
theorem StandsFor.compareKeys_eq {cursor : Cursor} {order : List OrderField} {row : Row domain}
    (stands : StandsFor cursor order row) (other : List (Cell domain)) :
    compareKeys (directions order) (rowKey order cursor.asRow) other =
      compareKeys (directions order) (rowKey order row) other := by
  have level :
      compareKeys (directions order) (rowKey order cursor.asRow) (rowKey order row) = .eq := by
    refine compareKeys_eq_iff.mpr fun field mem => compare_of_has (stands.values _ (value_mem ?_))
    exact stands.covers.mem_iff.mpr (mem_map_of_mem mem)
  exact TransCmp.congr_left level

/-! ## Requests for a page -/

namespace Criteria

variable (crit : Criteria)

/-- The criteria of a request for a page, from the start or after a cursor. -/
def paged (size : Nat) (cursor? : Option Cursor) : Criteria :=
  { crit with arguments := { crit.arguments with limit? := some size, after? := cursor? } }

def sorted (store : Store) (row? : Option (Row store)) : List (Row store) :=
  store.ordering.sort (directions crit.order) (rowKey crit.order)
    (crit.matching store row?)

def inOrder (store : Store) (rows : List (Row store)) : List (Row store) :=
  store.ordering.sort (directions crit.order) (rowKey crit.order) rows

/-- How the order of a relation compares two rows. -/
def compare (a b : Row domain) : Ordering :=
  compareKeys (directions crit.order) (rowKey crit.order a) (rowKey crit.order b)

/-- The rows that the order puts strictly after a row. -/
def after (row : Row domain) (rows : List (Row domain)) : List (Row domain) :=
  rows.filter fun other => crit.compare row other == .lt

instance instTransCmpCompare : TransCmp (@compare domain crit) :=
  Sql.transCmp_on (rowKey crit.order) (compareKeys (directions crit.order))

theorem compare_self (row : Row domain) : crit.compare row row = .eq :=
  ReflCmp.compare_self

variable {crit} {row? : Option (Row store)}

theorem mem_after {row other : Row domain} {rows : List (Row domain)} :
    other ∈ crit.after row rows ↔ other ∈ rows ∧ crit.compare row other = .lt := by
  rw [after, mem_filter, beq_iff_eq]

/-- After a cursor that stands for a row come the rows after the row. -/
theorem remaining_after (size : Nat) {cursor : Cursor} {row : Row store}
    (stands : StandsFor cursor crit.order row) :
    (crit.paged size (some cursor)).remaining store row? =
      crit.after row (crit.matching store row?) := by
  refine filter_congr fun other _ => ?_
  rw [compare, ← stands.compareKeys_eq]
  rfl

/-- Rows that are level with each other are followed by the same rows. -/
theorem after_congr {row other : Row domain} (level : crit.compare row other = .eq)
    (rows : List (Row domain)) : crit.after row rows = crit.after other rows :=
  filter_congr fun next _ => by rw [TransCmp.congr_left level]

/-- What follows a row among the rows after an earlier one is what follows it among all rows. -/
theorem after_after {first second : Row domain} (before : crit.compare first second = .lt)
    (rows : List (Row domain)) :
    crit.after second (crit.after first rows) = crit.after second rows := by
  rw [after, after, filter_filter]
  refine filter_congr fun next _ => ?_
  by_cases later : crit.compare second next = .lt
  · have last : crit.compare _ next = .lt := TransCmp.lt_trans before later
    simp [last]
  · simp [later]

end Criteria

end SelectGraph.Plan
