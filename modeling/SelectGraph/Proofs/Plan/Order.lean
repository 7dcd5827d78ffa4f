import SelectGraph.Plan.Arguments
import SelectGraph.Proofs.Relation.Check

/-!
# Orders without repetitions

The order of a relation names no column twice, and it names the columns that make it total.
-/

namespace SelectGraph.Plan

open List

open Keyset (OrderField)
open Sql (bind_eq_ok forall_mem_of_forall₂)

variable {table : Table} {order : List OrderField} {value : Literal} {name : String}

/-- Whether an order names no column twice. -/
def Distinct (order : List OrderField) : Prop :=
  (order.map OrderField.column).Nodup

theorem foldlM_invariant {ε α β : Type} {step : α → β → Except ε α} (invariant : α → Prop)
    (preserved : ∀ state item next, invariant state → step state item = .ok next → invariant next)
    {items : List β} {start result : α} (initial : invariant start)
    (folded : items.foldlM step start = .ok result) : invariant result := by
  induction items generalizing start with
  | nil =>
    cases folded
    exact initial
  | cons item items ih =>
    obtain ⟨next, stepped, rest⟩ := bind_eq_ok.mp folded
    exact ih (preserved _ item next initial stepped) rest

/-- The first field of each column. -/
def firsts : List OrderField → List OrderField
  | [] => []
  | field :: fields => field :: (firsts fields).filter fun other => other.column != field.column

theorem firsts_distinct (fields : List OrderField) : Distinct (firsts fields) := by
  induction fields with
  | nil => exact nodup_nil
  | cons field fields ih =>
    rw [Distinct, firsts, map_cons, nodup_cons]
    refine ⟨?_, ih.sublist (filter_sublist.map _)⟩
    simp

theorem firsts_sublist (fields : List OrderField) : (firsts fields).Sublist fields := by
  induction fields with
  | nil => exact .slnil
  | cons field fields ih => exact (filter_sublist.trans ih).cons_cons _

/-- Whether a field asks for a column in a direction. -/
def Asks (table : Table) (entry : String × Literal) (field : OrderField) : Prop :=
  ∃ col, table.column? entry.1 = some col ∧ col.name = field.column ∧
    directionOf entry.1 entry.2 = .ok field.direction

/-- What is read from an order is what its fields without null ask for, each column once. -/
theorem orderFields_eq_ok {seen : List String} {fields : List (String × Literal)}
    (read : orderFields table seen fields = .ok order) :
    ∃ asked, List.Forall₂ (Asks table) (fields.filter fun entry => !entry.2.isNull) asked ∧
      order = (firsts asked).filter fun field => field.column ∉ seen := by
  induction fields generalizing seen order with
  | nil =>
    cases read
    exact ⟨[], .nil, rfl⟩
  | cons entry fields ih =>
    obtain ⟨name, value⟩ := entry
    rw [orderFields] at read
    split at read
    · rename_i null
      rw [filter_cons_of_neg (by simp [null])]
      exact ih read
    · rename_i given
      split at read
      · cases read
      · rename_i col known
        obtain ⟨direction, directed, rest⟩ := bind_eq_ok.mp read
        have asks : Asks _ (name, value) ⟨col.name, direction⟩ :=
          ⟨col, known, rfl, directed⟩
        rw [filter_cons_of_pos (by simp [given])]
        split at rest
        · rename_i seenBefore
          obtain ⟨asked, each, rfl⟩ := ih rest
          refine ⟨_ :: asked, .cons asks each, ?_⟩
          rw [firsts, filter_cons_of_neg (by simp [seenBefore]), filter_filter]
          apply filter_congr
          intro field _
          by_cases same : field.column = col.name <;> simp [same, seenBefore]
        · rename_i fresh
          obtain ⟨others, readOthers, same⟩ := bind_eq_ok.mp rest
          cases same
          obtain ⟨asked, each, rfl⟩ := ih readOthers
          refine ⟨_ :: asked, .cons asks each, ?_⟩
          rw [firsts, filter_cons_of_pos (by simp [fresh]), filter_filter]
          congr 1
          apply filter_congr
          intro field _
          by_cases same : field.column = col.name <;> simp [same]

section

variable (read : explicitOrder table value = .ok order)

include read

/-- An order is null and gives nothing, or it has fields and gives what they ask for. -/
theorem explicitOrder_eq_ok :
    (value = .null ∧ order = []) ∨ ∃ fields asked, value = .object fields ∧
      List.Forall₂ (Asks table) (fields.filter fun entry => !entry.2.isNull) asked ∧
      order = firsts asked := by
  cases value with
  | null =>
    cases read
    exact .inl ⟨rfl, rfl⟩
  | object fields =>
    obtain ⟨asked, each, rfl⟩ := orderFields_eq_ok read
    exact .inr ⟨fields, asked, rfl, each, by simp⟩
  | _ => cases read

theorem explicitOrder_distinct : Distinct order := by
  obtain ⟨-, rfl⟩ | ⟨_, asked, -, -, rfl⟩ := explicitOrder_eq_ok read
  · exact nodup_nil
  · exact firsts_distinct _

theorem explicitOrder_columnNames : ∀ field ∈ order, field.column ∈ table.columnNames := by
  obtain ⟨-, rfl⟩ | ⟨_, asked, -, each, rfl⟩ := explicitOrder_eq_ok read
  · simp
  · intro field mem
    apply forall_mem_of_forall₂ each.flip _ _ ((firsts_sublist _).subset mem)
    rintro field entry - ⟨col, known, named, -⟩
    rw [← named]
    exact mem_map_of_mem (findNamed?_eq_some known).1

end

theorem addColumns_distinct (distinct : Distinct order) (cols : List String) :
    Distinct (addColumns order cols) := by
  fun_induction addColumns order cols with
  | case1 => exact distinct
  | case2 _ _ _ _ ih => exact ih distinct
  | case3 order col _ absent ih =>
    refine ih ?_
    rw [Distinct, map_append, nodup_append]
    refine ⟨distinct, nodup_singleton _, ?_⟩
    intro name mem other single same
    obtain ⟨field, memField, named⟩ := mem_map.mp mem
    rw [map_singleton, mem_singleton] at single
    refine absent (any_eq_true.mpr ⟨field, memField, ?_⟩)
    rw [named, same, single]
    exact beq_self_eq_true _

theorem effectiveOrder_distinct (table : Table) {explicit : List OrderField}
    (distinct : Distinct explicit) : Distinct (effectiveOrder table explicit) :=
  addColumns_distinct distinct _

theorem mem_addColumns {cols : List String}
    (mem : name ∈ order.map OrderField.column ∨ name ∈ cols) :
    name ∈ (addColumns order cols).map OrderField.column := by
  fun_induction addColumns order cols with
  | case1 => simpa using mem
  | case2 order col cols present ih =>
    refine ih ?_
    rcases mem with given | added
    · exact .inl given
    · rcases mem_cons.mp added with rfl | later
      · obtain ⟨field, memField, same⟩ := any_eq_true.mp present
        exact .inl (mem_map.mpr ⟨field, memField, beq_iff_eq.mp same⟩)
      · exact .inr later
  | case3 order col cols _ ih =>
    refine ih ?_
    simp only [map_append, mem_append, mem_cons, map_cons] at mem ⊢
    tauto

/-- The order of a table with a primary key names all columns of the key. -/
theorem effectiveOrder_key (explicit : List OrderField) (mem : name ∈ table.primaryKey) :
    name ∈ (effectiveOrder table explicit).map OrderField.column := by
  have declared : table.primaryKey.isEmpty = false := by simp [ne_nil_of_mem mem]
  rw [effectiveOrder, declared]
  exact mem_addColumns (.inr mem)

/-- Columns are added at the end, ascending and in their own order. -/
theorem addColumns_eq (order : List OrderField) (cols : List String) :
    ∃ added : List String, addColumns order cols = order ++ added.map (⟨·, .ascending⟩) ∧
      added.Sublist cols := by
  fun_induction addColumns order cols with
  | case1 order => exact ⟨[], by simp, .slnil⟩
  | case2 _ _ _ _ ih =>
    obtain ⟨added, same, taken⟩ := ih
    exact ⟨added, same, taken.cons _⟩
  | case3 _ col _ _ ih =>
    obtain ⟨added, same, taken⟩ := ih
    exact ⟨col :: added, by simpa using same, taken.cons_cons _⟩

theorem of_mem_addColumns {cols : List String} {field : OrderField}
    (mem : field ∈ addColumns order cols) : field ∈ order ∨ field.column ∈ cols := by
  obtain ⟨added, same, taken⟩ := addColumns_eq _ _
  rw [same, mem_append] at mem
  apply mem.imp_right
  intro new
  obtain ⟨col, known, rfl⟩ := mem_map.mp new
  exact taken.subset known

/-! ## Arguments -/

/-- The argument names with a meaning of their own. -/
def reservedNames : List String := ["first", "after", "orderBy"]

/-- What taking one argument does: it sets the limit, the cursor or the order, or it filters. -/
theorem add_eq_ok {field : String} {found next : Arguments}
    (added : Arguments.add field table found (name, value) = .ok next) :
    (name = "first" ∧ ∃ limit?, readLimit field value = .ok limit? ∧ next = { found with limit? }) ∨
    (name = "after" ∧ value = .null ∧ next = found) ∨
    (name = "after" ∧ ∃ text cursor, value = .text text ∧ Keyset.Cursor.decode text = .ok cursor ∧
      next = { found with after? := some cursor }) ∨
    (name = "orderBy" ∧ ∃ order, explicitOrder table value = .ok order ∧
      next = { found with order }) ∨
    (name ∉ reservedNames ∧ next = { found with filters := found.filters ++ [(name, value)] }) := by
  rw [Arguments.add.eq_def] at added
  split at added
  · rename_i same
    cases same
    obtain ⟨limit?, read, same⟩ := bind_eq_ok.mp added
    cases same
    exact .inl ⟨rfl, limit?, read, rfl⟩
  · rename_i same
    cases same
    cases added
    exact .inr (.inl ⟨rfl, rfl, rfl⟩)
  · rename_i text same
    cases same
    split at added
    · rename_i cursor decoded
      cases added
      exact .inr (.inr (.inl ⟨rfl, text, cursor, rfl, decoded, rfl⟩))
    · cases added
  · cases added
  · rename_i same
    cases same
    split at added
    · rename_i order read
      cases added
      exact .inr (.inr (.inr (.inl ⟨rfl, order, read, rfl⟩)))
    · cases added
  · rename_i notFirst notNull notText notAfter notOrder
    cases added
    refine .inr (.inr (.inr (.inr ⟨?_, rfl⟩)))
    simp only [reservedNames, mem_cons, not_mem_nil, or_false, not_or]
    refine ⟨?_, ?_, ?_⟩
    · rintro rfl
      exact notFirst _ rfl
    · rintro rfl
      exact notAfter _ rfl
    · rintro rfl
      exact notOrder _ rfl

/-- The order among the arguments of a relation has been read from one of them. -/
theorem readArguments_order {head : Tree.Head} {args : Arguments}
    (read : readArguments head table = .ok args) :
    args.order = [] ∨ ∃ value, explicitOrder table value = .ok args.order := by
  refine foldlM_invariant (fun found : Arguments => found.order = [] ∨ ∃ value,
    explicitOrder _ value = .ok found.order) ?_ (.inl rfl) read
  rintro found ⟨name, value⟩ next known added
  obtain ⟨-, _, -, rfl⟩ | ⟨-, -, rfl⟩ | ⟨-, _, _, -, -, rfl⟩ | ⟨-, _, given, rfl⟩ | ⟨-, rfl⟩ :=
    add_eq_ok added
  · exact known
  · exact known
  · exact known
  · exact .inr ⟨value, given⟩
  · exact known

/-- The order among the arguments of a relation names no column twice. -/
theorem readArguments_distinct {head : Tree.Head} {args : Arguments}
    (read : readArguments head table = .ok args) : Distinct args.order := by
  rcases readArguments_order read with none | ⟨_, given⟩
  · rw [none]
    exact nodup_nil
  · exact explicitOrder_distinct given

end SelectGraph.Plan
