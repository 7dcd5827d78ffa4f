import SelectGraph.Proofs.Plan.Resume
import SelectGraph.Proofs.Plan.Scoping

/-!
# Orders are total

The order of a relation begins with what the request asks for and goes on with the key of the table.
Rows that differ in a column of the key are strictly ordered by it, whatever the directions and
wherever there are nulls.  It names nothing twice; but a key may spell a column otherwise than the
table does, and then the order may have that column under both names.
-/

namespace SelectGraph.Plan

open List

open Keyset (OrderField precedes_iff)
open Sql (Cell Domain Row Scope)

variable {table : Table} {name : String} {explicit : List OrderField}

/-- The names that make the order of a table total. -/
def keyNames (table : Table) : List String :=
  if table.primaryKey.isEmpty then table.columnNames else table.primaryKey

/-- Whether a name stands for a column: it is the name of the column or, if it is the name of none,
differs from it in case only. -/
def Resolves (table : Table) (name : String) (col : Column) : Prop :=
  col ∈ table.columns ∧ (col.name = name ∨
    name ∉ table.columnNames ∧ Text.equalFold col.name name = true)

theorem column?_resolves {col : Column} (known : table.column? name = some col) :
    Resolves table name col := by
  refine ⟨(findNamed?_eq_some known).1, ?_⟩
  rw [Table.column?, findNamed?] at known
  split at known
  · rename_i exactly
    cases known
    exact .inl (by simpa using find?_some exactly)
  · rename_i none
    refine .inr ⟨?_, (findNamed?_eq_some (by rwa [findNamed?, none])).2⟩
    intro listed
    obtain ⟨other, mem, same⟩ := mem_map.mp listed
    exact find?_eq_none.mp none _ mem (beq_iff_eq.mpr same)

/-- Names of columns stand for the columns that have them. -/
theorem column?_columnName (listed : name ∈ table.columnNames) :
    ∃ col, table.column? name = some col ∧ col.name = name := by
  rw [Table.column?, findNamed?]
  split
  · rename_i col exactly
    exact ⟨col, rfl, by simpa using find?_some exactly⟩
  · rename_i none
    obtain ⟨other, mem, same⟩ := mem_map.mp listed
    exact absurd (beq_iff_eq.mpr same) (find?_eq_none.mp none _ mem)

/-- Whether an order begins as a request says: with the columns that the fields without null stand
for, as written, each in the first direction given for it. -/
def Leads (table : Table) (value : Literal) (explicit : List OrderField) : Prop :=
  (value = .null ∧ explicit = []) ∨ ∃ fields asked, value = .object fields ∧
    List.Forall₂ (fun entry field => ∃ col, Resolves table entry.1 col ∧
      col.name = field.column ∧ directionOf entry.1 entry.2 = .ok field.direction)
      (fields.filter fun entry => !entry.2.isNull) asked ∧
    explicit = firsts asked

/-- What is true of the order of a table for a request. -/
structure Completes (table : Table) (value : Literal) (order : List OrderField) : Prop where
  /-- First comes what the request says, then what it leaves out of the key, ascending. -/
  led : ∃ (explicit : List OrderField) (added : List String), Leads table value explicit ∧
    order = explicit ++ added.map (⟨·, .ascending⟩) ∧ added.Sublist (keyNames table)
  names : Distinct order
  key : ∀ name ∈ keyNames table, name ∈ order.map OrderField.column
  known : ∀ field ∈ order, (table.column? field.column).isSome = true
  /-- No column is there twice if the key spells the columns as the table does. -/
  columns : (∀ name ∈ table.primaryKey, name ∈ table.columnNames) →
    (order.map fun field => table.column? field.column).Nodup
  /-- Of two rows that differ in the key exactly one comes before the other. -/
  total : ∀ {domain : Domain} {aliasName : String} {scope other : Scope domain} {a b : Row domain},
    scope.Binds aliasName a → other.Binds aliasName b →
    (∃ name ∈ keyNames table, (Cell.ofStored (a name)).compare (.ofStored (b name)) ≠ .eq) →
    let precedes := Scope.Precedes (orderTerms order aliasName)
    (precedes scope other ∨ precedes other scope) ∧ ¬(precedes scope other ∧ precedes other scope)

theorem explicitOrder_leads {value : Literal} (read : explicitOrder table value = .ok explicit) :
    Leads table value explicit := by
  apply (explicitOrder_eq_ok read).imp_right
  rintro ⟨fields, asked, object, each, same⟩
  refine ⟨fields, asked, object, each.imp ?_, same⟩
  rintro entry field ⟨col, known, named, directed⟩
  exact ⟨col, column?_resolves known, named, directed⟩

/-- Every name of an order stands for a column, if those of the key do. -/
theorem effectiveOrder_known
    (keys : ∀ name ∈ table.primaryKey, (table.column? name).isSome = true)
    (given : ∀ field ∈ explicit, field.column ∈ table.columnNames) :
    ∀ field ∈ effectiveOrder table explicit, (table.column? field.column).isSome = true := by
  have listed {name : String} (mem : name ∈ table.columnNames) :
      (table.column? name).isSome = true := by
    obtain ⟨col, known, -⟩ := column?_columnName mem
    simp [known]
  intro field mem
  rcases of_mem_addColumns mem with explicitly | added
  · exact listed (given _ explicitly)
  · split at added
    · exact listed added
    · exact keys _ added

/-- An order names the columns of a table apart, if the key spells them as the table does. -/
theorem effectiveOrder_columns (distinct : Distinct explicit)
    (given : ∀ field ∈ explicit, field.column ∈ table.columnNames)
    (spelled : ∀ name ∈ table.primaryKey, name ∈ table.columnNames) :
    ((effectiveOrder table explicit).map fun field => table.column? field.column).Nodup := by
  have listed : ∀ field ∈ effectiveOrder table explicit, field.column ∈ table.columnNames := by
    intro field mem
    rcases of_mem_addColumns mem with explicitly | added
    · exact given _ explicitly
    · split at added
      · exact added
      · exact spelled _ added
  have names : ((effectiveOrder _ _).map _).Nodup :=
    effectiveOrder_distinct table distinct
  apply names.of_map.map_on
  intro field mem other memOther same
  obtain ⟨col, found, named⟩ := column?_columnName (listed _ mem)
  obtain ⟨otherCol, foundOther, namedOther⟩ := column?_columnName (listed _ memOther)
  rw [found, foundOther, Option.some_inj] at same
  apply inj_on_of_nodup_map names mem memOther
  rw [← named, ← namedOther, same]

/-- Rows that differ in a column an order names are strictly ordered. -/
theorem precedes_of_differ {domain : Domain} {order : List OrderField} {aliasName : String}
    {scope other : Scope domain} {a b : Row domain} (binds : scope.Binds aliasName a)
    (bindsOther : other.Binds aliasName b) (mem : name ∈ order.map OrderField.column)
    (differ : (Cell.ofStored (a name)).compare (.ofStored (b name)) ≠ .eq) :
    let precedes := Scope.Precedes (orderTerms order aliasName)
    (precedes scope other ∨ precedes other scope) ∧
      ¬(precedes scope other ∧ precedes other scope) := by
  obtain ⟨field, memField, rfl⟩ := mem_map.mp mem
  have apart : Sql.compareKeys _ _
      _ ≠ .eq :=
    fun same => differ (compareKeys_eq_iff.mp same _ memField)
  have back : Sql.compareKeys _ _
      _ = (Sql.compareKeys (Keyset.directions order)
        (Keyset.rowKey order a) (Keyset.rowKey order b)).swap := Std.OrientedCmp.eq_swap
  intro precedes
  simp only [precedes, precedes_iff binds bindsOther, precedes_iff bindsOther binds, back]
  cases compared : Sql.compareKeys _ _
      _ with
  | eq => exact absurd compared apart
  | lt => simp
  | gt => simp

/-- The order of every table of a catalog that was read, for every order a request may give, is led
by the request and completed to a total order by the key. -/
theorem effectiveOrder_completes {text : String} {catalog : Catalog} {table : Table}
    {value : Literal} {explicit : List OrderField} (accepted : Catalog.parse text = .ok catalog)
    (listed : table ∈ catalog.tables) (read : explicitOrder table value = .ok explicit) :
    Completes table value (effectiveOrder table explicit) := by
  have key {name : String} (mem : name ∈ keyNames table) :
      name ∈ (effectiveOrder table explicit).map OrderField.column :=
    mem_addColumns (.inr mem)
  have distinct := explicitOrder_distinct read
  have given := explicitOrder_columnNames read
  obtain ⟨added, completed, taken⟩ := addColumns_eq explicit (keyNames table)
  exact {
    led := ⟨explicit, added, explicitOrder_leads read, completed, taken⟩
    names := effectiveOrder_distinct table distinct
    key := fun name mem => key mem
    known := effectiveOrder_known ((Catalog.parse_consistent accepted).keys table listed) given
    columns := effectiveOrder_columns distinct given
    total := fun binds bindsOther ⟨_, mem, differ⟩ =>
      precedes_of_differ binds bindsOther (key mem) differ }

/-! ## A key in another case -/

/-- The table of authors, whose key is written in another case than its column. -/
def authorTable : Table :=
  ⟨"author", [⟨"id", "", false⟩, ⟨"Born", "", false⟩], ["ID"], [], []⟩

theorem effectiveOrder_completes_author :
    Catalog.parse tagText = .ok tagCatalog ∧ authorTable ∈ tagCatalog.tables ∧
      explicitOrder authorTable (.object [("id", .null), ("born", .text "desc"),
        ("Born", .enum "ASC")]) = .ok [⟨"Born", .descending⟩] ∧
      Completes authorTable (.object [("id", .null), ("born", .text "desc"), ("Born", .enum "ASC")])
        [⟨"Born", .descending⟩, ⟨"ID", .ascending⟩] := by
  have read : explicitOrder authorTable (.object [("id", .null), ("born", .text "desc"),
      ("Born", .enum "ASC")]) = .ok [⟨"Born", .descending⟩] := by rfl
  exact ⟨tagText_parse, List.mem_cons_self, read,
    effectiveOrder_completes tagText_parse List.mem_cons_self read⟩

/-- Authors are ordered by their key twice, since the request spells it as the table does. -/
theorem key_ordered_twice :
    Catalog.parse tagText = .ok tagCatalog ∧ authorTable ∈ tagCatalog.tables ∧
      explicitOrder authorTable (.object [("id", .enum "DESC")]) = .ok [⟨"id", .descending⟩] ∧
      effectiveOrder authorTable [⟨"id", .descending⟩] =
        [⟨"id", .descending⟩, ⟨"ID", .ascending⟩] ∧
      ¬((effectiveOrder authorTable [⟨"id", .descending⟩]).map fun field =>
        authorTable.column? field.column).Nodup := by
  refine ⟨tagText_parse, List.mem_cons_self, rfl, rfl, ?_⟩
  intro distinct
  exact (List.nodup_cons.mp distinct).1 (List.mem_singleton.mpr rfl)

end SelectGraph.Plan
