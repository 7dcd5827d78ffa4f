import SelectGraph.Proofs.Plan.Names
import SelectGraph.Proofs.Sql.Alike

/-!
# Trees that differ in values

Trees that are equal except for scalars in filters and in cursors, for an arbitrary relation between
the scalars, and what is read from their arguments: filters and cursors with alike values give alike
conditions.
-/

namespace SelectGraph.Plan

open List

open Keyset (Cursor OrderField after beyond level someOf sortedNames_eq_nil takeValues)
open Sql (ColumnRef Direction Follows PartsAlike Predicate)
open SelectGraph.Tree (Head Node Root)

variable {replaced : Literal → Literal → Prop} {value other : Literal}
  {name aliasName field : String} {items others : List Literal} {pred : Predicate}
  {table : Table} {cursor : Cursor} {fields : List OrderField}
  {values : List (OrderField × Literal)} {found : Arguments}

/-! ## Trees that differ in values -/

/-- Values that are equal, or scalars of which one replaces the other.  Null is no scalar. -/
def ValueAlike (replaced : Literal → Literal → Prop) (value other : Literal) : Prop :=
  value = other ∨ value.isScalar = true ∧ other.isScalar = true ∧ replaced value other

/-- Values of filters: alike themselves, or lists that are alike item by item. -/
inductive FilterAlike (replaced : Literal → Literal → Prop) : Literal → Literal → Prop
  | value {value other : Literal} (alike : ValueAlike replaced value other) :
      FilterAlike replaced value other
  | list {items others : List Literal} (alike : List.Forall₂ (ValueAlike replaced) items others) :
      FilterAlike replaced (.list items) (.list others)

/-- Cursors with the same columns and alike values. -/
def CursorAlike (replaced : Literal → Literal → Prop) (cursor other : Cursor) : Prop :=
  ∀ col, Option.Rel (ValueAlike replaced) (cursor.reverse.lookup col)
    (other.reverse.lookup col)

/-- Arguments that are equal, filters with alike values, or texts of alike cursors. -/
inductive ArgumentAlike (replaced : Literal → Literal → Prop) :
    String × Literal → String × Literal → Prop
  | same (arg : String × Literal) : ArgumentAlike replaced arg arg
  | filter {name : String} {value other : Literal} (free : name ∉ reservedNames)
      (alike : FilterAlike replaced value other) :
      ArgumentAlike replaced (name, value) (name, other)
  | cursor {text otherText : String} {cursor other : Cursor}
      (decoded : Cursor.decode text = .ok cursor)
      (otherDecoded : Cursor.decode otherText = .ok other)
      (alike : CursorAlike replaced cursor other) :
      ArgumentAlike replaced ("after", .text text) ("after", .text otherText)

/-- Relations that differ in their arguments only, which are alike. -/
inductive HeadAlike (replaced : Literal → Literal → Prop) (head : Head) : Head → Prop
  | intro {arguments : List (String × Literal)}
      (alike : List.Forall₂ (ArgumentAlike replaced) head.arguments arguments) :
      HeadAlike replaced head { head with arguments }

mutual

/-- Nodes of one shape whose relations are related. -/
def nodeAlike (related : Head → Head → Prop) : Node → Node → Prop
  | .attribute field responseName, other => other = .attribute field responseName
  | .relation head children, .relation other others =>
    related head other ∧ nodesAlike related children others
  | .relation _ _, .attribute _ _ => False

def nodesAlike (related : Head → Head → Prop) : List Node → List Node → Prop
  | [], [] => True
  | node :: nodes, other :: others => nodeAlike related node other ∧ nodesAlike related nodes others
  | [], _ :: _ => False
  | _ :: _, [] => False

end

/-- Trees that are equal except for scalars in filters and in cursors. -/
def RootAlike (replaced : Literal → Literal → Prop) (root other : Root) : Prop :=
  HeadAlike replaced root.head other.head ∧
    nodesAlike (HeadAlike replaced) root.children other.children

/-! ## Values -/

/-- Arguments of statements that are passed for values of which one replaces the other. -/
def Passed (replaced : Literal → Literal → Prop) (arg other : Literal) : Prop :=
  ∃ value otherValue, replaced value otherValue ∧ arg = value.sqlValue ∧
    other = otherValue.sqlValue

namespace ValueAlike

variable (alike : ValueAlike replaced value other)

include alike

theorem isNull_eq : value.isNull = other.isNull := by
  rcases alike with rfl | ⟨scalar, otherScalar, -⟩
  · rfl
  · rw [Bool.eq_false_iff.mpr fun null => ne_null_of_isScalar scalar (isNull_iff.mp null),
      Bool.eq_false_iff.mpr fun null => ne_null_of_isScalar otherScalar (isNull_iff.mp null)]

theorem isScalar_eq : value.isScalar = other.isScalar := by
  rcases alike with rfl | ⟨scalar, otherScalar, -⟩
  · rfl
  · rw [scalar, otherScalar]

theorem sqlValue :
    value.sqlValue = other.sqlValue ∨ Passed replaced value.sqlValue other.sqlValue := by
  rcases alike with rfl | ⟨-, -, related⟩
  · exact .inl rfl
  · exact .inr ⟨value, other, related, rfl, rfl⟩

end ValueAlike

/-! ## Filters -/

theorem filterPredicate_scalar (scalar : value.isScalar = true) (col : ColumnRef)
    (name : String) : filterPredicate col name value = .ok (.equals col value.sqlValue) := by
  cases value with
  | null | list _ | object _ => cases scalar
  | _ => rfl

theorem listScalars_alike (alike : List.Forall₂ (ValueAlike replaced) items others) (name : String) :
    Follows (List.Forall₂ fun value other => value = other ∨ Passed replaced value other)
      (listScalars name items) (listScalars name others) := by
  induction alike with
  | nil => exact .ok .nil
  | cons first _ ih =>
    rw [listScalars, listScalars, ← first.isNull_eq, ← first.isScalar_eq]
    split
    · exact ih
    · split
      · exact ih.bind fun _ _ rest => .ok (.cons first.sqlValue rest)
      · exact .error

theorem any_isNull_eq (alike : List.Forall₂ (ValueAlike replaced) items others) :
    items.any Literal.isNull = others.any Literal.isNull := by
  induction alike with
  | nil => rfl
  | cons first _ ih => rw [any_cons, any_cons, first.isNull_eq, ih]

/-- Alike values of a filter give alike conditions. -/
theorem filterPredicate_alike (alike : FilterAlike replaced value other) (col : ColumnRef)
    (name : String) :
    Follows (Predicate.Alike (Passed replaced)) (filterPredicate col name value)
      (filterPredicate col name other) := by
  cases alike with
  | value alike =>
    rcases alike with rfl | ⟨scalar, otherScalar, related⟩
    · exact .refl .refl _
    · rw [filterPredicate_scalar scalar, filterPredicate_scalar otherScalar]
      exact .ok (.comparison ⟨value, other, related, rfl, rfl⟩ _ "=")
  | list alike =>
    rw [filterPredicate, filterPredicate, ← any_isNull_eq alike]
    refine (listScalars_alike alike name).bind fun scalars otherScalars scalarsAlike => ?_
    have oneOf := Predicate.Alike.oneOf scalarsAlike col
    have empty : otherScalars.isEmpty = scalars.isEmpty := by
      cases scalarsAlike <;> rfl
    rw [empty]
    split
    · split
      · exact .ok (.refl _)
      · exact .ok (.any (.cons oneOf (.cons (.refl _) .nil)))
    · exact .ok oneOf

def FiltersAlike (replaced : Literal → Literal → Prop) :
    List (String × Literal) → List (String × Literal) → Prop :=
  List.Forall₂ fun filter other => filter.1 = other.1 ∧ FilterAlike replaced filter.2 other.2

theorem filterPredicates_alike {filters others : List (String × Literal)}
    (alike : FiltersAlike replaced filters others) (table : Table) (aliasName : String) :
    Follows (PartsAlike (Passed replaced)) (filterPredicates table aliasName filters)
      (filterPredicates table aliasName others) := by
  induction alike with
  | nil => exact .ok .nil
  | @cons filter other _ _ first _ ih =>
    obtain ⟨name, value⟩ := filter
    obtain ⟨otherName, otherValue⟩ := other
    obtain ⟨same, values⟩ := first
    subst same
    rw [filterPredicates, filterPredicates]
    cases table.column? name with
    | none => exact .error
    | some col =>
      exact (filterPredicate_alike values _ name).bind fun _ _ first => ih.bind fun _ _ rest =>
        .ok (List.Forall₂.cons first rest)

/-! ## Cursors -/

/-- Values that are passed to a statement: equal, or not null and passed for values of which one
replaces the other. -/
def EntryAlike (replaced : Literal → Literal → Prop) (value other : Literal) : Prop :=
  value = other ∨ value ≠ .null ∧ other ≠ .null ∧ Passed replaced value other

theorem ValueAlike.entry (alike : ValueAlike replaced value other) :
    EntryAlike replaced value.sqlValue other.sqlValue := by
  rcases alike with rfl | ⟨scalar, otherScalar, related⟩
  · exact .inl rfl
  · exact .inr ⟨sqlValue_ne_null (ne_null_of_isScalar scalar),
      sqlValue_ne_null (ne_null_of_isScalar otherScalar), value, other, related, rfl, rfl⟩

theorem lookup_without_self (col : String) (entries : Cursor) :
    (Keyset.without col entries).lookup col = none := by
  rw [lookup_eq_none_iff]
  intro entry mem
  have kept := (mem_filter.mp mem).2
  rw [bne_iff_ne] at kept ⊢
  exact kept.symm

theorem CursorAlike.without {other : Cursor} (alike : CursorAlike replaced cursor other)
    (name : String) :
    CursorAlike replaced (Keyset.without name cursor) (Keyset.without name other) := by
  intro col
  rw [Keyset.without, Keyset.without, ← filter_reverse, ← filter_reverse]
  change Option.Rel _ ((Keyset.without name _).lookup _)
    ((Keyset.without name _).lookup _)
  by_cases same : col = name
  · subst same
    rw [lookup_without_self, lookup_without_self]
    exact .none
  · rw [Keyset.lookup_without same, Keyset.lookup_without same]
    exact alike _

theorem CursorAlike.eq_nil {other : Cursor} (alike : CursorAlike replaced [] other) :
    other = [] := by
  cases other with
  | nil => rfl
  | cons entry rest =>
    have missing := alike entry.1
    cases found : (entry :: rest).reverse.lookup entry.1 with
    | none =>
      rw [lookup_eq_none_iff] at found
      exact absurd (found entry (by simp)) (by simp)
    | some value =>
      rw [found] at missing
      cases missing

def EntriesAlike (replaced : Literal → Literal → Prop) :
    List (OrderField × Literal) → List (OrderField × Literal) → Prop :=
  List.Forall₂ fun entry other => entry.1 = other.1 ∧ EntryAlike replaced entry.2 other.2

theorem takeValues_alike {other : Cursor} (alike : CursorAlike replaced cursor other)
    (fields : List OrderField) :
    Follows (fun taken otherTaken => EntriesAlike replaced taken.1 otherTaken.1 ∧
        CursorAlike replaced taken.2 otherTaken.2)
      (takeValues fields cursor) (takeValues fields other) := by
  induction fields generalizing cursor other with
  | nil => exact .ok ⟨.nil, alike⟩
  | cons field fields ih =>
    have here := alike field.column
    rw [takeValues, takeValues]
    cases found : cursor.reverse.lookup field.column <;>
      cases otherFound : other.reverse.lookup field.column <;>
        rw [found, otherFound] at here <;> cases here
    · exact .error
    · rename_i values
      exact (ih (alike.without _)).bind fun _ _ rest =>
        .ok ⟨.cons ⟨rfl, values.entry⟩ rest.1, rest.2⟩

theorem beyond_alike (alike : EntryAlike replaced value other) (col : ColumnRef)
    (direction : Direction) :
    PartsAlike (Passed replaced) (beyond col direction value)
      (beyond col direction other) := by
  rcases alike with rfl | ⟨given, otherGiven, passed⟩
  · exact .refl _
  · cases direction with
    | ascending =>
      rw [Keyset.beyond_ascending _ given, Keyset.beyond_ascending _ otherGiven]
      exact .cons (.comparison passed _ ">") .nil
    | descending =>
      rw [Keyset.beyond_descending _ given, Keyset.beyond_descending _ otherGiven]
      exact .cons (.comparison passed _ "<") (.cons (.refl _) .nil)

theorem level_of_ne_null (col : ColumnRef) (given : value ≠ .null) :
    level col value = .equals col value := by
  cases value with
  | null => exact absurd rfl given
  | _ => rfl

theorem level_alike (alike : EntryAlike replaced value other) (col : ColumnRef) :
    (level col value).Alike (Passed replaced) (level col other) := by
  rcases alike with rfl | ⟨given, otherGiven, passed⟩
  · exact .refl _
  · rw [level_of_ne_null _ given, level_of_ne_null _ otherGiven]
    exact .comparison passed _ "="

theorem someOf_alike {parts others : List Predicate} (alike : PartsAlike replaced parts others) :
    (someOf parts).Alike replaced (someOf others) := by
  cases alike with
  | nil => exact .refl _
  | cons first rest =>
    cases rest with
    | nil => exact first
    | cons second more => exact .any (.cons first (.cons second more))

/-- Alike values of a cursor give alike conditions. -/
theorem after_alike {others : List (OrderField × Literal)} (aliasName : String)
    (alike : EntriesAlike replaced values others) :
    (after aliasName values).Alike (Passed replaced) (after aliasName others) := by
  induction alike with
  | nil => exact .refl _
  | @cons entry other values others first rest ih =>
    obtain ⟨field, value⟩ := entry
    obtain ⟨otherField, otherValue⟩ := other
    obtain ⟨same, entryAlike⟩ := first
    subst same
    have parts := beyond_alike entryAlike ⟨aliasName, field.column⟩ field.direction
    cases rest with
    | nil => exact someOf_alike parts
    | cons second more =>
      have tie : (Predicate.all [level ⟨aliasName, field.column⟩ _,
          after _ _]).Alike _
            _ :=
        .all (.cons (level_alike entryAlike _) (.cons ih .nil))
      rw [Keyset.after_cons, Keyset.after_cons]
      generalize beyond ⟨aliasName, field.column⟩ _ _ = mine,
        beyond ⟨aliasName, field.column⟩ _ otherValue = theirs at parts ⊢
      cases parts with
      | nil => exact tie
      | cons firstPart otherParts =>
        exact .any (rel_append (.cons firstPart otherParts) (.cons tie .nil))

theorem boundary_alike {other : Cursor} (alike : CursorAlike replaced cursor other)
    (fields : List OrderField) (aliasName : String) :
    Follows (Predicate.Alike (Passed replaced)) (Keyset.boundary fields cursor aliasName)
      (Keyset.boundary fields other aliasName) := by
  rw [Keyset.boundary, Keyset.boundary]
  split
  · exact .error
  · refine (takeValues_alike alike fields).bind ?_
    rintro ⟨values, rest⟩ ⟨otherValues, otherRest⟩ ⟨valuesAlike, restAlike⟩
    dsimp only
    split
    · rename_i nothing
      rw [sortedNames_eq_nil, map_eq_nil_iff] at nothing
      subst nothing
      have ended : otherRest = [] := restAlike.eq_nil
      rw [ended, map_nil, sortedNames_eq_nil.mpr rfl]
      exact .ok (after_alike _ valuesAlike)
    · exact .error

/-! ## Arguments -/

structure ReadAlike (replaced : Literal → Literal → Prop) (found other : Arguments) : Prop where
  limit : other.limit? = found.limit?
  order : other.order = found.order
  after : Option.Rel (CursorAlike replaced) found.after? other.after?
  filters : FiltersAlike replaced found.filters other.filters

theorem add_filter (free : name ∉ reservedNames) (field : String) (table : Table)
    (found : Arguments) (value : Literal) :
    Arguments.add field table found (name, value) =
      .ok { found with filters := found.filters ++ [(name, value)] } := by
  simp only [reservedNames, mem_cons, not_mem_nil] at free
  rw [Arguments.add.eq_def]
  split <;> simp_all

theorem CursorAlike.refl (cursor : Cursor) : CursorAlike replaced cursor cursor := by
  intro col
  cases cursor.reverse.lookup _ with
  | none => exact .none
  | some value => exact .some (.inl rfl)

/-- Taking alike arguments keeps what has been read alike. -/
theorem add_alike {other : Arguments} {arg otherArg : String × Literal}
    (alike : ReadAlike replaced found other) (given : ArgumentAlike replaced arg otherArg)
    (field : String) (table : Table) :
    Follows (ReadAlike replaced) (Arguments.add field table found arg)
      (Arguments.add field table other otherArg) := by
  cases given with
  | same =>
    intro next added
    obtain ⟨name, value⟩ := arg
    obtain ⟨rfl, limit?, read, rfl⟩ | ⟨rfl, rfl, rfl⟩ | ⟨rfl, text, cursor, rfl, decoded, rfl⟩ |
      ⟨rfl, order, read, rfl⟩ | ⟨free, rfl⟩ := add_eq_ok added
    · exact ⟨{ other with limit? }, by rw [Arguments.add, read]; rfl,
        rfl, alike.order, alike.after, alike.filters⟩
    · exact ⟨other, rfl, alike⟩
    · exact ⟨{ other with after? := some _ }, by rw [Arguments.add, decoded],
        alike.limit, alike.order, .some (.refl _), alike.filters⟩
    · exact ⟨{ other with order }, by rw [Arguments.add, read],
        alike.limit, rfl, alike.after, alike.filters⟩
    · refine ⟨_, add_filter free _ _ _ _, alike.limit, alike.order,
        alike.after, ?_⟩
      exact rel_append alike.filters (.cons ⟨rfl, .value (.inl rfl)⟩ .nil)
  | filter free values =>
    rw [add_filter free, add_filter free]
    exact .ok ⟨alike.limit, alike.order, alike.after,
      rel_append alike.filters (.cons ⟨rfl, values⟩ .nil)⟩
  | cursor decoded otherDecoded cursors =>
    rw [Arguments.add, decoded, Arguments.add, otherDecoded]
    exact .ok ⟨alike.limit, alike.order, .some cursors, alike.filters⟩

theorem foldlM_add_alike {args others : List (String × Literal)}
    (given : List.Forall₂ (ArgumentAlike replaced) args others) {other : Arguments}
    (alike : ReadAlike replaced found other) (field : String) (table : Table) :
    Follows (ReadAlike replaced) (args.foldlM (Arguments.add field table) found)
      (others.foldlM (Arguments.add field table) other) := by
  induction given generalizing found other with
  | nil => exact .ok alike
  | cons first _ ih =>
    rw [foldlM_cons, foldlM_cons]
    exact (add_alike alike first field table).bind fun _ _ next => ih next

end SelectGraph.Plan
