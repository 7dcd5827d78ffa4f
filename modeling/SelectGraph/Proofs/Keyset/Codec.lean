import SelectGraph.Proofs.Keyset.Boundary
import SelectGraph.Proofs.Literal.Roundtrip

/-!
# Reading cursors

A text is a cursor if it is the text of one object with distinct keys whose members are scalars or
null.  A cursor fits an ordering just if its keys are the order columns, in any sequence, and the
condition built from it does not depend on the sequence.
-/

namespace SelectGraph

open List

open Sql (bind_eq_ok forall_mem_of_forall₂)

variable {value : Literal} {json : Json} {text : String}

/-- Whether a value is null, a boolean, a number or a string. -/
def Json.isScalar : Json → Bool
  | .list _ | .object _ => false
  | _ => true

namespace Literal

/-- Whether a literal may stand in a cursor. -/
def IsCell (value : Literal) : Prop :=
  value.isNull = true ∨ value.isScalar = true

theorem isScalar_of_ofNumber {digits : String} (read : ofNumber digits = .ok value) :
    value.isScalar = true := by
  unfold ofNumber at read
  split at read
  · split at read <;> cases read
    rfl
  · split at read <;> cases read
    next known =>
      unfold ofDigits? at known
      split at known
      · cases known
        rfl
      · split at known
        · cases known
          rfl
        · obtain ⟨_, -, same⟩ := Option.map_eq_some_iff.mp known
          cases same
          rfl

theorem fold_eq_object {fault : Json.Fault} {fields : List (String × Literal)}
    (made : json.fold (algebra fault) = .ok (.object fields)) :
    ∃ members, json = .object members ∧ Json.foldMembers (algebra fault) members = .ok fields := by
  cases json with
  | object members =>
    obtain ⟨values, folded, same⟩ := bind_eq_ok.mp made
    cases same
    exact ⟨members, rfl, folded⟩
  | number digits => exact absurd (isScalar_of_ofNumber made) nofun
  | list items =>
    obtain ⟨values, -, same⟩ := bind_eq_ok.mp made
    cases same
  | null | bool | text => cases made

theorem isScalar_of_fold {fault : Json.Fault} (made : json.fold (algebra fault) = .ok value)
    (cell : value.IsCell) : json.isScalar = true := by
  cases json with
  | null | bool | number | text => rfl
  | list items | object members =>
    obtain ⟨values, -, same⟩ := bind_eq_ok.mp made
    cases same
    rcases cell with none | scalar <;> contradiction

theorem Renders.isCell (renders : Renders json value) : value.IsCell := by
  cases renders with
  | null => exact .inl rfl
  | bool | text | int | uint => exact .inr rfl

theorem Renders.sqlValue_eq (renders : Renders json value) : value.sqlValue = value := by
  cases renders <;> rfl

end Literal

namespace Keyset

open Literal (IsCell)

/-! ## Decoding -/

theorem checkFields_eq_ok {seen : List String} {entries : Cursor} :
    checkFields seen entries = .ok () ↔
      (entries.map Prod.fst).Nodup ∧ (∀ entry ∈ entries, entry.1 ∉ seen) ∧
        ∀ entry ∈ entries, IsCell entry.2 := by
  induction entries generalizing seen with
  | nil => simp [checkFields]
  | cons entry entries ih =>
    obtain ⟨name, value⟩ := entry
    rw [checkFields]
    split
    · next repeated => simp [repeated]
    · next fresh =>
        split
        · next bad =>
            have noCell : ¬ IsCell value := by simpa [IsCell] using bad
            simp [noCell]
        · next good =>
            have cell : IsCell _ := by_contra fun none => good (by simpa [IsCell] using none)
            rw [ih, map_cons, nodup_cons, forall_mem_cons, forall_mem_cons]
            simp only [mem_cons, not_or, mem_map, not_exists, not_and]
            constructor
            · rintro ⟨distinct, unseen, cells⟩
              exact ⟨⟨fun other mem => (unseen _ mem).1, distinct⟩,
                ⟨fresh, fun other mem => (unseen _ mem).2⟩, cell, cells⟩
            · rintro ⟨⟨different, distinct⟩, ⟨-, unseen⟩, -, cells⟩
              exact ⟨distinct, fun other mem => ⟨different _ mem, unseen _ mem⟩, cells⟩

theorem decode_eq_ok {cursor : Cursor} :
    Cursor.decode text = .ok cursor ↔
      Literal.ofJson text = .ok (.object cursor) ∧ (cursor.map Prod.fst).Nodup ∧
        ∀ entry ∈ cursor, IsCell entry.2 := by
  have checked {entries : Cursor} :
      ((checkFields [] entries).map fun _ => entries) = .ok cursor ↔
        entries = cursor ∧ checkFields [] cursor = .ok () := by
    cases result : checkFields [] _ with
    | error cause =>
      refine iff_of_false nofun ?_
      rintro ⟨rfl, passed⟩
      cases result.symm.trans passed
    | ok _ =>
      constructor
      · intro same
        cases same
        exact ⟨rfl, result⟩
      · rintro ⟨rfl, -⟩
        rfl
  rw [Cursor.decode]
  split
  · next read => simp [read]
  · next entries read =>
      rw [checked, checkFields_eq_ok, read]
      simp
  · next value other read =>
      rw [read]
      refine iff_of_false nofun ?_
      rintro ⟨same, -⟩
      cases same
      exact other _ rfl

theorem keys_eq {members : List (String × Json)} {cursor : Cursor}
    (alike : List.Forall₂ (fun member entry => member.1 = entry.1) members cursor) :
    members.map Prod.fst = cursor.map Prod.fst := by
  rw [← forall₂_eq_eq_eq, forall₂_map_left_iff, forall₂_map_right_iff]
  exact alike

/-- A text that is read as a cursor is the text of one object, with distinct keys and scalar members. -/
theorem decode_sound {cursor : Cursor} (decoded : Cursor.decode text = .ok cursor) :
    ∃ members, Json.IsText text (.object members) ∧ members.map Prod.fst = cursor.map Prod.fst ∧
      (members.map Prod.fst).Nodup ∧ ∀ member ∈ members, member.2.isScalar = true := by
  obtain ⟨read, distinct, cells⟩ := decode_eq_ok.mp decoded
  obtain ⟨json, isText, made⟩ := Literal.ofJson_eq_ok.mp read
  obtain ⟨members, rfl, folded⟩ := Literal.fold_eq_object made
  have pairs := Json.foldMembers_eq_ok.mp folded
  have keys := keys_eq (pairs.imp fun _ _ both => both.1)
  refine ⟨members, isText, keys, keys ▸ distinct, ?_⟩
  exact forall_mem_of_forall₂ pairs fun _ entry mem both =>
    Literal.isScalar_of_fold both.2 (cells _ mem)

/-- The members of an object hold the values of a cursor, one by one. -/
def Holds (members : List (String × Json)) (cursor : Cursor) : Prop :=
  List.Forall₂ (fun member entry => member.1 = entry.1 ∧ Literal.Renders member.2 entry.2)
    members cursor

theorem decode_complete {cursor : Cursor} {members : List (String × Json)}
    (isText : Json.IsText text (.object members)) (holds : Holds members cursor)
    (distinct : (cursor.map Prod.fst).Nodup) : Cursor.decode text = .ok cursor := by
  refine decode_eq_ok.mpr ⟨Literal.ofJson_eq_ok.mpr ⟨.object _, isText, ?_⟩, distinct, ?_⟩
  · have folded := Json.foldMembers_eq_ok.mpr (holds.imp fun _ _ both =>
      .intro both.1 (both.2.fold (Json.faultOf text)))
    rw [Json.fold, folded]
    rfl
  · exact forall_mem_of_forall₂ holds.flip fun _ _ _ both => both.2.isCell

/-! ## Cursors that fit an ordering -/

variable {fields : List OrderField} {cursor : Cursor} {aliasName : String}

theorem takeValues_rest {values : List (OrderField × Literal)} {rest : Cursor}
    (taken : takeValues fields cursor = .ok (values, rest)) :
    (∀ field ∈ fields, field.column ∈ cursor.map Prod.fst) ∧
      ∀ entry ∈ cursor, entry ∉ rest → entry.1 ∈ fields.map OrderField.column := by
  induction fields generalizing cursor values with
  | nil =>
    cases taken
    exact ⟨by simp, fun entry mem left => absurd mem left⟩
  | cons field fields ih =>
    rw [takeValues] at taken
    split at taken
    · cases taken
    · next value found =>
        obtain ⟨⟨others, left⟩, takenRest, same⟩ := bind_eq_ok.mp taken
        cases same
        obtain ⟨present, accounted⟩ := ih takenRest
        have kept {entry : String × Literal} :
            entry ∈ without field.column cursor ↔ entry ∈ cursor ∧ entry.1 ≠ field.column := by
          simp [without]
        constructor
        · rw [forall_mem_cons]
          constructor
          · obtain ⟨before, later, split, -⟩ := lookup_eq_some_iff.mp found
            have mem : (field.column, value) ∈ cursor := by
              rw [← mem_reverse, split]
              simp
            exact mem_map_of_mem mem
          · intro other mem
            obtain ⟨entry, memEntry, named⟩ := mem_map.mp (present _ mem)
            exact mem_map.mpr ⟨entry, (kept.mp memEntry).1, named⟩
        · intro entry mem notLeft
          by_cases named : entry.1 = field.column
          · simp [named]
          · exact mem_cons_of_mem _ (accounted _ (kept.mpr ⟨mem, named⟩) notLeft)

/-- A cursor fits an ordering just if its keys are the order columns. -/
theorem boundary_ok_iff (given : fields ≠ []) (distinct : (fields.map OrderField.column).Nodup)
    (distinctKeys : (cursor.map Prod.fst).Nodup) :
    (∃ pred, boundary fields cursor aliasName = .ok pred) ↔
      ∀ name, name ∈ cursor.map Prod.fst ↔ name ∈ fields.map OrderField.column := by
  constructor
  · rintro ⟨pred, built⟩
    rw [boundary, if_neg (by simpa using given)] at built
    obtain ⟨⟨values, rest⟩, taken, checked⟩ := bind_eq_ok.mp built
    obtain ⟨present, accounted⟩ := takeValues_rest taken
    have nothingLeft : rest = [] := by
      dsimp only at checked
      split at checked
      · next none => exact map_eq_nil_iff.mp (sortedNames_eq_nil.mp none)
      · cases checked
    subst nothingLeft
    intro name
    constructor
    · intro mem
      obtain ⟨entry, memEntry, rfl⟩ := mem_map.mp mem
      exact accounted _ memEntry not_mem_nil
    · intro mem
      obtain ⟨field, memField, rfl⟩ := mem_map.mp mem
      exact present _ memField
  · intro same
    exact boundary_of_covers given distinct
      ((perm_ext_iff_of_nodup distinctKeys distinct).mpr fun name => same name) _

/-- The condition built from a cursor that holds a row, in whatever sequence. -/
theorem boundary_of_row (given : fields ≠ []) (distinct : (fields.map OrderField.column).Nodup)
    {row : String → Literal} (noEnums : ∀ entry ∈ cursor, entry.2.sqlValue = entry.2)
    (holds : cursor.Perm (fields.map fun field => (field.column, row field.column))) :
    boundary fields cursor aliasName =
      .ok (after aliasName (fields.map fun field => (field, row field.column))) := by
  have keys := holds.map Prod.fst
  rw [map_map] at keys
  obtain ⟨pred, built⟩ := boundary_of_covers given distinct keys _
  rw [built, boundary_eq distinct built]
  congr 2
  refine map_congr_left fun field mem => ?_
  have entry : (field.column, row _) ∈ cursor :=
    holds.mem_iff.mpr (mem_map_of_mem mem)
  have found : cursor.value field.column = row field.column := by
    have distinctKeys : (cursor.reverse.map Prod.fst).Nodup := by
      rw [map_reverse, nodup_reverse]
      exact keys.nodup_iff.mpr distinct
    rw [Cursor.value, Sql.lookup_of_mem distinctKeys (mem_reverse.mpr entry)]
    rfl
  rw [found, noEnums _ entry]

/-- Every text of an object that holds a row in the order columns, with its keys in any sequence and
blanks anywhere, is read as the pairs in the sequence of the text, and gives the condition for the
rows after that row, whatever the sequence.  Every text that is read as a cursor is the text of one
object with distinct keys and scalar or null members, and fits the ordering just if its keys are the
order columns. -/
theorem cursor_fits_iff (given : fields ≠ []) (distinct : (fields.map OrderField.column).Nodup)
    (aliasName : String) :
    (∀ (row : String → Literal) (cursor : Cursor) (members : List (String × Json)) (text : String),
      cursor.Perm (fields.map fun field => (field.column, row field.column)) →
      Holds members cursor → Json.IsText text (.object members) →
        Cursor.decode text = .ok cursor ∧ boundary fields cursor aliasName =
          .ok (after aliasName (fields.map fun field => (field, row field.column)))) ∧
    ∀ (text : String) (cursor : Cursor), Cursor.decode text = .ok cursor →
      (∃ members, Json.IsText text (.object members) ∧
        members.map Prod.fst = cursor.map Prod.fst ∧ (members.map Prod.fst).Nodup ∧
        ∀ member ∈ members, member.2.isScalar = true) ∧
      ((∃ predicate, boundary fields cursor aliasName = .ok predicate) ↔
        ∀ name, name ∈ cursor.map Prod.fst ↔ name ∈ fields.map OrderField.column) := by
  constructor
  · intro row cursor members text perm holds isText
    have keys := perm.map Prod.fst
    rw [List.map_map] at keys
    refine ⟨decode_complete isText holds (keys.nodup_iff.mpr distinct), ?_⟩
    refine boundary_of_row given distinct ?_ perm
    exact forall_mem_of_forall₂ holds.flip fun _ _ _ both => both.2.sqlValue_eq
  · intro text cursor decoded
    have distinctKeys := (decode_eq_ok.mp decoded).2.1
    exact ⟨decode_sound decoded, boundary_ok_iff given distinct distinctKeys⟩

/-- A cursor with the columns in another sequence than the order has them, and blanks. -/
theorem cursor_fits_iff_spaced :
    let fields : List OrderField := [⟨"age", .descending⟩, ⟨"id", .ascending⟩]
    let cursor : Cursor := [("id", .int 7), ("age", .null)]
    let text := "\x7b \"id\" :7,\n\"age\":null\x7d "
    Json.IsText text (.object [("id", .number "7"), ("age", .null)]) ∧
      Cursor.decode text = .ok cursor ∧ boundary fields cursor "users-1" =
        .ok (after "users-1" [(⟨"age", .descending⟩, .null), (⟨"id", .ascending⟩, .int 7)]) := by
  intro fields cursor text
  have isText : Json.IsText text (.object [("id", .number "7"), ("age", .null)]) :=
    Json.isText_iff.mpr (by decide +kernel)
  have holds : Holds [("id", .number "7"), ("age", .null)] cursor :=
    .cons ⟨rfl, .int (.inl ⟨⟨nofun, List.forall_mem_singleton.mpr rfl⟩, rfl⟩) (by decide)⟩
      (.cons ⟨rfl, .null⟩ .nil)
  exact ⟨isText, (cursor_fits_iff (by decide) (by decide) "users-1").1
    (fun column => if column = "id" then .int 7 else .null) cursor _ text
    (List.Perm.swap _ _ _) holds isText⟩

/-- Without order fields there is no condition, although the keys of the cursor are the columns. -/
theorem cursor_without_order :
    Cursor.decode "\x7b\x7d" = .ok [] ∧ boundary [] [] "users-1" = .error .noOrder :=
  ⟨rfl, rfl⟩

end Keyset

end SelectGraph
