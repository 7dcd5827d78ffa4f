import SelectGraph.Plan.Order
import SelectGraph.Proofs.Sql.Laws

/-!
# The rows after a cursor

A cursor stands for a row that has its values in the order columns.  The condition built from it is
true of exactly the rows that the order puts after that row, whatever the directions and wherever
there are nulls.
-/

namespace SelectGraph.Keyset

open List

open Sql (Cell ColumnRef Direction Domain Predicate Row Scope Store bind_eq_ok compareKeys
  compareKeys_cons_lt mapM_eq_map)
open Sql.Predicate (Decides decides_any_iff decides_any_nil)
open Std (OrientedCmp)

variable {domain : Domain} {store : Store} {scope : Scope store} {aliasName : String}
  {row : Row store}

/-- The value a row needs in a column for the column to hold an argument. -/
def given? : Literal → Option domain.Value
  | .null => none
  | value => some (domain.argument value)

theorem given?_of_ne_null {value : Literal} (given : value ≠ .null) :
    (given? value : Option domain.Value) = some (domain.argument value) := by
  cases value with
  | null => exact absurd rfl given
  | _ => rfl

theorem against_of_ne_null {value : Literal} (given : value ≠ .null) (stored : domain.Value) :
    (Cell.stored stored).against value = some (domain.compare stored (domain.argument value)) := by
  cases value with
  | null => exact absurd rfl given
  | _ => rfl

def rowKey (fields : List OrderField) (row : Row domain) : List (Cell domain) :=
  fields.map fun field => .ofStored (row field.column)

def directions (fields : List OrderField) : List Direction :=
  fields.map OrderField.direction

theorem key_orderTerms {scope : Scope domain} {row : Row domain}
    (binds : scope.Binds aliasName row) (fields : List OrderField) :
    scope.key (Plan.orderTerms fields aliasName) = .ok (rowKey fields row) := by
  rw [Scope.key, Plan.orderTerms, mapM_map]
  exact mapM_eq_map fun field _ => binds.column _

theorem directions_orderTerms (fields : List OrderField) (aliasName : String) :
    (Plan.orderTerms fields aliasName).map Sql.OrderTerm.direction = directions fields := by
  simp [Plan.orderTerms, directions]

/-! ## One column -/

theorem isNull_decides (binds : scope.Binds aliasName row) (col : String) :
    Decides store scope (.isNull ⟨aliasName, col⟩) (row col = none) := by
  refine ⟨_, by rw [Predicate.eval, binds.column]; rfl, ?_⟩
  cases row _ <;> simp [Cell.ofStored, Cell.isNull]

theorem isNotNull_decides (binds : scope.Binds aliasName row) (col : String) :
    Decides store scope (.isNotNull ⟨aliasName, col⟩) (row col ≠ none) := by
  refine ⟨_, by rw [Predicate.eval, binds.column]; rfl, ?_⟩
  cases row _ <;> simp [Cell.ofStored, Cell.isNull]

/-- Comparing a column with a value that is not null decides how the two compare; null compares in
no way. -/
theorem comparison_decides (binds : scope.Binds aliasName row) (col : String) {value : Literal}
    (given : value ≠ .null) {outcome : Ordering} {pred : Predicate}
    (compares : pred.eval store scope = do
      return ((← scope.column ⟨aliasName, col⟩).against value).map (· == outcome)) :
    Decides store scope pred
      (∃ stored, row col = some stored ∧
        store.compare stored (store.argument value) = outcome) := by
  refine ⟨_, by rw [compares, binds.column]; rfl, ?_⟩
  cases row _ with
  | none => simp [Cell.ofStored, Cell.against]
  | some stored => simp [Cell.ofStored, against_of_ne_null given]

/-- How a cursor compares with a row in a column. -/
def outcome (value : Literal) (col : String) (row : Row domain) : Ordering :=
  (Cell.ofStored (given? value)).compare (.ofStored (row col))

/-- The rows level with a cursor in a column are those with an equal cell. -/
theorem level_decides (binds : scope.Binds aliasName row) (col : String) (value : Literal) :
    Decides store scope (level ⟨aliasName, col⟩ value) (outcome value col row = .eq) := by
  by_cases null : value = .null
  · subst value
    refine (isNull_decides binds _).iff ?_
    cases found : row _ <;> simp [outcome, given?, Cell.ofStored, Cell.compare, found]
  · have compares : level ⟨aliasName, col⟩ value = .equals ⟨aliasName, col⟩ value := by
      cases value with
      | null => exact absurd rfl null
      | _ => rfl
    rw [compares]
    refine (comparison_decides binds _ null rfl).iff ?_
    rw [outcome, given?_of_ne_null null]
    cases row _ with
    | none => simp [Cell.ofStored, Cell.compare]
    | some stored => simp [Cell.ofStored, Cell.compare, OrientedCmp.eq_comm]

theorem beyond_ascending (col : ColumnRef) {value : Literal} (given : value ≠ .null) :
    beyond col .ascending value = [.greaterThan col value] := by
  cases value with
  | null => exact absurd rfl given
  | _ => rfl

theorem beyond_descending (col : ColumnRef) {value : Literal} (given : value ≠ .null) :
    beyond col .descending value = [.lessThan col value, .isNull col] := by
  cases value with
  | null => exact absurd rfl given
  | _ => rfl

/-- The rows beyond a cursor in a column are those with a later cell in its direction. -/
theorem beyond_decides (binds : scope.Binds aliasName row) (col : String)
    (direction : Direction) (value : Literal) :
    Decides store scope (.any (beyond ⟨aliasName, col⟩ direction value))
      (direction.apply (outcome value col row) = .lt) := by
  by_cases null : value = .null
  · subst value
    cases direction with
    | ascending =>
      refine (isNotNull_decides binds _).any_single.iff ?_
      cases found : row _ <;>
        simp [outcome, given?, Cell.ofStored, Cell.compare, Direction.apply, found]
    | descending =>
      refine decides_any_nil.iff ?_
      cases found : row col <;>
        simp [outcome, given?, Cell.ofStored, Cell.compare, Direction.apply, found]
  · rw [outcome, given?_of_ne_null null]
    cases direction with
    | ascending =>
      rw [beyond_ascending _ null]
      refine (comparison_decides binds _ null rfl).any_single.iff ?_
      cases row _ with
      | none => simp [Cell.ofStored, Cell.compare, Direction.apply]
      | some stored =>
        simp [Cell.ofStored, Cell.compare, Direction.apply, OrientedCmp.gt_iff_lt]
    | descending =>
      rw [beyond_descending _ null]
      refine ((comparison_decides binds _ null rfl).any_single.any_append
        (isNull_decides binds _).any_single).iff ?_
      cases row _ with
      | none => simp [Cell.ofStored, Cell.compare, Direction.apply]
      | some stored =>
        simp [Cell.ofStored, Cell.compare, Direction.apply, OrientedCmp.gt_iff_lt]

/-! ## All columns -/

theorem someOf_decides {parts : List Predicate} {fact : Prop}
    (decides : Decides store scope (.any parts) fact) :
    Decides store scope (someOf parts) fact := by
  match parts with
  | [] | _ :: _ :: _ => exact decides
  | [part] =>
    obtain ⟨truths, evaluated, decided⟩ := decides_any_iff.mp decides
    obtain ⟨truth, evaluatedPart, rest⟩ := bind_eq_ok.mp evaluated
    cases rest
    exact ⟨truth, evaluatedPart, by simpa [eq_comm] using decided⟩

theorem tie_decides (binds : scope.Binds aliasName row) (col : String) (value : Literal)
    {rest : Predicate} {fact : Prop} (decides : Decides store scope rest fact) :
    Decides store scope (.all [level ⟨aliasName, col⟩ value, rest])
      (outcome value col row = .eq ∧ fact) :=
  (level_decides binds _ _).all_single.all_append decides.all_single

/-- Of several order columns the first one decides, unless a row is level with the cursor there. -/
theorem after_cons (aliasName : String) (field : OrderField) (value : Literal)
    (next : OrderField × Literal) (rest : List (OrderField × Literal)) :
    after aliasName ((field, value) :: next :: rest) =
      match beyond ⟨aliasName, field.column⟩ field.direction value with
      | [] => .all [level ⟨aliasName, field.column⟩ value, after aliasName (next :: rest)]
      | parts => .any (parts ++
          [.all [level ⟨aliasName, field.column⟩ value, after aliasName (next :: rest)]]) :=
  rfl

/-- The condition for the rows after a cursor, given the value of each order column. -/
theorem after_decides (binds : scope.Binds aliasName row) (values : List (OrderField × Literal)) :
    Decides store scope (after aliasName values)
      (compareKeys (directions (values.map Prod.fst))
        (values.map fun entry => .ofStored (given? entry.2))
        (rowKey (values.map Prod.fst) row) = .lt) := by
  fun_induction after _ values with
  | case1 => exact decides_any_nil.iff (by simp [directions, compareKeys])
  | case2 field value =>
    refine (someOf_decides (beyond_decides binds _ _ _)).iff ?_
    exact (compareKeys_cons_lt.trans (by simp [compareKeys, outcome])).symm
  | case3 field value rest _ col tie nothing ih =>
    -- Nothing is beyond null in a descending column, so only the tie can hold.
    have never := beyond_decides binds field.column field.direction value
    rw [nothing] at never
    refine (tie_decides binds _ _ ih).iff ?_
    exact (compareKeys_cons_lt.trans (or_iff_right (never.unique decides_any_nil).mp)).symm
  | case4 field value rest _ col tie some ih =>
    refine ((beyond_decides binds _ _ _).any_append
      (tie_decides binds _ _ ih).any_single).iff ?_
    exact compareKeys_cons_lt.symm

/-! ## Cursors as rows -/

/-- The value of a cursor for a column, the last one if there are several. -/
def Cursor.value (cursor : Cursor) (col : String) : Literal :=
  (cursor.reverse.lookup col).getD .null

def Cursor.asRow (cursor : Cursor) : Row domain :=
  fun col => given? (cursor.value col).sqlValue

/-- The order columns with the values of a cursor. -/
def Cursor.entries (cursor : Cursor) (fields : List OrderField) : List (OrderField × Literal) :=
  fields.map fun field => (field, (cursor.value field.column).sqlValue)

/-- Whether a row comes strictly after a cursor in an ordering. -/
def Cursor.Before (cursor : Cursor) (fields : List OrderField) (row : Row domain) : Prop :=
  compareKeys (directions fields) (rowKey fields cursor.asRow) (rowKey fields row) = .lt

/-- Whether a cursor holds exactly the columns of an ordering. -/
def Cursor.Covers (cursor : Cursor) (fields : List OrderField) : Prop :=
  (cursor.map Prod.fst).Perm (fields.map OrderField.column)

variable {fields : List OrderField} {cursor : Cursor}

theorem lookup_without {col other : String} (different : other ≠ col) (entries : Cursor) :
    (without col entries).lookup other = entries.lookup other := by
  induction entries with
  | nil => rfl
  | cons entry entries ih =>
    rw [without, filter_cons]
    split
    · rw [lookup_cons, lookup_cons, ← ih, without]
    · rename_i dropped
      have named : entry.1 = col := by simpa using dropped
      rw [lookup_cons, beq_eq_false_iff_ne.mpr (named ▸ different), ← ih, without]

theorem value_without {col other : String} (different : other ≠ col) :
    Cursor.value (without col cursor) other = cursor.value other := by
  have reversed : (without _ _).reverse = without col cursor.reverse :=
    filter_reverse.symm
  rw [Cursor.value, reversed, lookup_without different, Cursor.value]

section

variable (distinct : (fields.map OrderField.column).Nodup)

include distinct

/-- The values taken from a cursor are its values for the order columns. -/
theorem takeValues_eq {values : List (OrderField × Literal)} {rest : Cursor}
    (taken : takeValues fields cursor = .ok (values, rest)) : values = cursor.entries fields := by
  induction fields generalizing cursor values with
  | nil =>
    cases taken
    rfl
  | cons field fields ih =>
    rw [map_cons, nodup_cons] at distinct
    rw [takeValues] at taken
    split at taken
    · cases taken
    · rename_i value found
      obtain ⟨⟨others, left⟩, takenRest, same⟩ := bind_eq_ok.mp taken
      cases same
      have value_eq : cursor.value field.column = value := by rw [Cursor.value, found]; rfl
      rw [Cursor.entries, map_cons, value_eq, ih distinct.2 takenRest]
      congr 1
      apply map_congr_left
      intro other mem
      have different : other.column ≠ field.column := fun same =>
        distinct.1 (same ▸ mem_map_of_mem mem)
      rw [value_without different]

theorem boundary_eq {pred : Predicate}
    (built : boundary fields cursor aliasName = .ok pred) :
    pred = after aliasName (cursor.entries fields) := by
  rw [boundary] at built
  split at built
  · cases built
  · obtain ⟨⟨values, rest⟩, taken, checked⟩ := bind_eq_ok.mp built
    rw [← takeValues_eq distinct taken]
    dsimp only at checked
    split at checked
    · cases checked
      rfl
    · cases checked

/-- The condition built from a cursor holds of exactly the rows after it. -/
theorem boundary_decides {pred : Predicate}
    (built : boundary fields cursor aliasName = .ok pred) (binds : scope.Binds aliasName row) :
    Decides store scope pred (cursor.Before fields row) := by
  have decides := after_decides binds (cursor.entries fields)
  have cols : (cursor.entries fields).map Prod.fst = fields := by
    simp [Cursor.entries, Function.comp_def]
  rw [← boundary_eq distinct built, cols, Cursor.entries, map_map] at decides
  exact decides

end

theorem Cursor.Covers.without {field : OrderField} (covers : cursor.Covers (field :: fields))
    (distinct : ((field :: fields).map OrderField.column).Nodup) :
    Cursor.Covers (without field.column cursor) fields := by
  rw [map_cons, nodup_cons] at distinct
  have others : (fields.map OrderField.column).filter (fun name => name != field.column) =
      fields.map OrderField.column := by
    refine filter_eq_self.mpr fun name mem => bne_iff_ne.mpr ?_
    exact fun same => distinct.1 (same ▸ mem)
  have kept := List.Perm.filter (fun name => name != field.column) covers
  rw [map_cons, filter_cons_of_neg (by simp), others, filter_map] at kept
  exact kept

/-- A cursor that holds exactly the order columns leaves nothing over. -/
theorem takeValues_of_covers (distinct : (fields.map OrderField.column).Nodup)
    (covers : cursor.Covers fields) : ∃ values, takeValues fields cursor = .ok (values, []) := by
  induction fields generalizing cursor with
  | nil =>
    have none : cursor = [] := map_eq_nil_iff.mp (perm_nil.mp covers)
    exact ⟨[], by rw [none]; rfl⟩
  | cons field fields ih =>
    obtain ⟨others, taken⟩ := ih (nodup_cons.mp distinct).2 (covers.without distinct)
    have mem : field.column ∈ cursor.map _ := covers.mem_iff.mpr (by simp)
    have found : (cursor.reverse.lookup field.column).isSome := by
      rw [lookup_isSome_iff]
      obtain ⟨entry, memEntry, named⟩ := mem_map.mp mem
      exact ⟨entry, mem_reverse.mpr memEntry, by simp [named]⟩
    obtain ⟨value, found⟩ := Option.isSome_iff_exists.mp found
    rw [takeValues, found]
    simp [taken]

theorem sortedNames_eq_nil {names : List String} : sortedNames names = [] ↔ names = [] := by
  constructor
  · intro none
    cases names with
    | nil => rfl
    | cons name names =>
      have size := congrArg length none
      simp [sortedNames, eraseDups_cons] at size
  · rintro rfl
    simp [sortedNames]

theorem boundary_of_covers (given : fields ≠ []) (distinct : (fields.map OrderField.column).Nodup)
    (covers : cursor.Covers fields) (aliasName : String) :
    ∃ pred, boundary fields cursor aliasName = .ok pred := by
  obtain ⟨values, taken⟩ := takeValues_of_covers distinct covers
  rw [boundary, if_neg (by simpa using given), taken]
  simp [sortedNames_eq_nil.mpr rfl]

theorem precedes_iff {earlier later : Scope domain} {first second : Row domain}
    (bindsFirst : earlier.Binds aliasName first) (bindsSecond : later.Binds aliasName second) :
    Scope.Precedes (Plan.orderTerms fields aliasName) earlier later ↔
      compareKeys (directions fields) (rowKey fields first) (rowKey fields second) = .lt := by
  rw [Scope.Precedes, key_orderTerms bindsFirst, key_orderTerms bindsSecond, directions_orderTerms]
  simp

/-- The rows on which the condition built from a cursor is true are those that the order of a
statement puts strictly after the row the cursor stands for. -/
theorem boundary_true_iff_precedes (store : Store) (fields : List OrderField) (cursor : Cursor)
    (aliasName : String) (given : fields ≠ []) (distinct : (fields.map OrderField.column).Nodup)
    (covers : cursor.Covers fields) :
    ∃ predicate, boundary fields cursor aliasName = .ok predicate ∧
      ∀ (scope : Scope store.toDomain) (row : Row store.toDomain),
        ∃ truth, predicate.eval store (scope.enter aliasName (.ofRow row)) = .ok truth ∧
          (truth = some true ↔ Scope.Precedes (Plan.orderTerms fields aliasName)
            (scope.enter aliasName (.ofRow cursor.asRow))
            (scope.enter aliasName (.ofRow row))) := by
  obtain ⟨predicate, built⟩ := boundary_of_covers given distinct covers aliasName
  refine ⟨predicate, built, fun scope row => ?_⟩
  have bindsCursor := Scope.binds_enter scope aliasName cursor.asRow
  have bindsRow := Scope.binds_enter scope aliasName row
  exact (boundary_decides distinct built bindsRow).iff (precedes_iff bindsCursor bindsRow).symm

/-- A mixed order with a null in the cursor, whose names come in another sequence. -/
theorem boundary_true_iff_precedes_mixed :
    let fields : List OrderField := [⟨"age", .descending⟩, ⟨"id", .ascending⟩]
    let cursor : Cursor := [("id", .int 7), ("age", .null)]
    let store := Store.ofIntegers fun _ => []
    ∃ predicate, boundary fields cursor "users-1" = .ok predicate ∧
      ∀ (scope : Scope store.toDomain) (row : Row store.toDomain),
        ∃ truth, predicate.eval store (scope.enter "users-1" (.ofRow row)) = .ok truth ∧
          (truth = some true ↔ Scope.Precedes (Plan.orderTerms fields "users-1")
            (scope.enter "users-1" (.ofRow cursor.asRow))
            (scope.enter "users-1" (.ofRow row))) :=
  boundary_true_iff_precedes _ _ _ _ (by decide) (by decide) (List.Perm.swap _ _ _)

end SelectGraph.Keyset
