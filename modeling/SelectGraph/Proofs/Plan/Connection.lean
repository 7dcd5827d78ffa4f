import SelectGraph.Proofs.Plan.Value

/-!
# Values of connections

A connection shows its rows as edges, and of all rows how many match, whether more follow and where
the page ends.  Each part of its value is computed by an expression of its own; the parts agree
on which rows are meant.
-/

namespace SelectGraph.Plan

open List

open Keyset (directions rowKey)
open Sql (Apart Cell Expr Place Query Record Row Scope Store bind_eq_ok compareKeys cut_sublist
  defining definedScope evalMembers evalMembers_append evalMembers_map evalMembers_single groupPlace
  mapM_eq_map ok_bind pure_eq_ok)

variable {store : Store} {scope : Scope store} {frame : Frame} {crit : Criteria}
  {parent? : Option TableRef} {row? : Option (Row store)} {slots : Slots}

/-! ## Places in the order -/

/-- Whether the order tells the matching rows apart. -/
def Criteria.TellsApart (crit : Criteria) (store : Store)
    (row? : Option (Row store)) : Prop :=
  Apart (directions crit.order) (rowKey crit.order) (crit.matching store row?)

/-- Whether a cursor is that of a row of the page which is level with the last one. -/
def Criteria.EndsAt (crit : Criteria) (store : Store) (row? : Option (Row store))
    (cursor? : Option String) : Prop :=
  (crit.page store row? true = [] ∧ cursor? = none) ∨
    ∃ last row, (crit.page store row? true).getLast? = some last ∧
      row ∈ crit.page store row? true ∧
      compareKeys (directions crit.order) (rowKey crit.order row)
        (rowKey crit.order last) = .eq ∧
      cursor? = some (cursorText crit.order row)

theorem Criteria.endsAt_last (crit : Criteria) (store : Store)
    (row? : Option (Row store)) :
    crit.EndsAt store row? (crit.overview store row?).cursors.getLast? := by
  rw [Criteria.overview, getLast?_map]
  cases found : (crit.page _ row? true).getLast? with
  | none => exact .inl ⟨getLast?_eq_none_iff.mp found, rfl⟩
  | some last =>
    exact .inr ⟨last, last, found, mem_of_getLast? found, Std.ReflCmp.compare_self, rfl⟩

theorem Criteria.page_subset_matching :
    crit.page store row? true ⊆ crit.matching store row? := by
  intro row mem
  have arranged : row ∈ crit.arranged _ row? true := (cut_sublist _ _).subset mem
  exact mem_of_mem_filter ((store.ordering.sort_perm _ _ _).mem_iff.mp arranged)

/-- If the order tells rows apart, only the last one is level with itself. -/
theorem Criteria.EndsAt.eq_last {cursor? : Option String}
    (ends : crit.EndsAt store row? cursor?) (apart : crit.TellsApart store row?) :
    cursor? = (crit.overview store row?).cursors.getLast? := by
  rw [Criteria.overview, getLast?_map]
  obtain ⟨none, rfl⟩ | ⟨last, row, lastOf, mem, level, rfl⟩ := ends
  · rw [none]
    rfl
  · have same : row = last := by
      by_contra different
      exact Apart.of_mem apart (page_subset_matching mem)
        (page_subset_matching (mem_of_getLast? lastOf)) different level
    rw [lastOf, same]
    rfl

/-- A row that the order puts before another has the smaller number. -/
theorem Criteria.rank_lt {first second : Row store × Nat}
    (firstMem : first ∈ crit.arrangedItems store row? true)
    (secondMem : second ∈ crit.arrangedItems store row? true)
    (before : compareKeys (directions crit.order) (rowKey crit.order first.1)
      (rowKey crit.order second.1) = .lt) :
    crit.rank store row? first.2 < crit.rank store row? second.2 := by
  have placed {item : Row _ × Nat}
      (mem : item ∈ crit.arrangedItems _ row? true) :
      (crit.remaining _ row?)[item.2]? = some item.1 :=
    List.mk_mem_zipIdx_iff_getElem?.mp ((store.ordering.sort_perm _ _ _).mem_iff.mp mem)
  obtain ⟨firstBound, -⟩ := List.getElem?_eq_some_iff.mp (placed firstMem)
  obtain ⟨secondBound, -⟩ := List.getElem?_eq_some_iff.mp (placed secondMem)
  apply Nat.succ_lt_succ
  apply store.numbering.idxOf_places_lt _ (by simpa using firstBound) (by simpa using secondBound)
  simpa [Sql.Arrangement.keyAt, placed firstMem, placed secondMem] using before

/-- A row of the page with the greatest number is level with the last one. -/
theorem Criteria.level_of_greatest {front : List (Row store × Nat)}
    {item last : Row store × Nat}
    (split : crit.pageItems store row? true = front ++ [last]) (mem : item ∈ front ++ [last])
    (greatest : crit.rank store row? last.2 ≤ crit.rank store row? item.2) :
    compareKeys (directions crit.order) (rowKey crit.order item.1)
      (rowKey crit.order last.1) = .eq := by
  have taken : (crit.pageItems _ row? true).Sublist
      _ := cut_sublist _ _
  have sorted := (store.ordering.sort_pairwise _
    (fun item => rowKey _ item.1) (crit.remaining _ row?).zipIdx).sublist
      (by simpa [Criteria.arrangedItems] using taken)
  rw [split] at taken sorted
  rcases mem_append.mp mem with earlier | single
  · have ordered := (pairwise_append.mp sorted).2.2 item earlier last mem_cons_self
    apply (Ordering.isLE_iff_eq_lt_or_eq_eq.mp ordered).resolve_left
    intro before
    have smaller := Criteria.rank_lt (taken.subset mem) (taken.subset (by simp)) before
    omega
  · rw [mem_singleton.mp single]
    exact Std.ReflCmp.compare_self

/-! ## What connections read of a row -/

section Entry

variable {entry : Entry store} {conn : Tree.Connection}

theorem Entry.Of.mem_paging {place : Row store × Nat → Place store}
    (fits : entry.Of frame slots place) {col : Expr × Option String}
    (mem : col ∈ frame.pagingColumns) {cell : Cell store}
    (value : col.1.eval store (place entry.item) = .ok cell) : (col.2, cell) ∈ entry.result :=
  mem_append_right _
    (Sql.mem_evalColumns fits.extra (frame.pagingColumns_subset_extras _ mem) value)

variable (realizes : frame.Realizes parent? crit)
  (fits : entry.Of frame slots (crit.place scope frame.head.aliasName row?))
  (found : frame.head.connection? = some conn)

include realizes fits found

theorem Entry.Of.cursor_mem (wanted : conn.wantsCursor = true) :
    (some Frame.cursorColumn, .text (cursorText crit.order entry.item.1)) ∈ entry.result := by
  refine fits.mem_paging (Frame.mem_pagingColumns.mpr ⟨conn, found, .inl ⟨wanted, rfl⟩⟩) ?_
  rw [realizes.self, realizes.order]
  exact cursorExpr_eval (Scope.binds_enter _ _ _) _

omit realizes in
theorem Entry.Of.remaining_mem (wanted : conn.wantsHasNext = true)
    (limited : frame.limit?.any (0 < ·) = true) :
    (some Frame.remainingColumn, .number (crit.remaining store row?).length) ∈ entry.result :=
  fits.mem_paging (Frame.mem_pagingColumns.mpr
    ⟨conn, found, .inr (.inl ⟨⟨wanted, limited⟩, rfl⟩)⟩) rfl

theorem Entry.Of.row_mem (wanted : conn.wantsEndCursor = true) :
    (some Frame.rowColumn, .number (crit.rank store row? entry.item.2)) ∈ entry.result := by
  refine fits.mem_paging (Frame.mem_pagingColumns.mpr
    ⟨conn, found, .inr (.inr ⟨wanted, rfl⟩)⟩) ?_
  rw [realizes.self, realizes.order, Expr.eval, crit.place_number]
  rfl

end Entry

/-! ## The parts of the value -/

theorem under_eval {place : Place store} {names : List String} {value : Expr} {json : Json}
    (each : ∀ name ∈ names, ∃ cell, value.eval store place = .ok cell ∧ cell.toJson = json) :
    evalMembers store place (Frame.under names value) = .ok (named names json) :=
  evalMembers_map each

theorem text_under_eval {place : Place store} (names : List String) (value : String) :
    evalMembers store place (Frame.under names (.text value)) = .ok (named names (.text value)) :=
  under_eval fun _ _ => ⟨_, rfl, rfl⟩

/-- The place where the value of a connection is computed. -/
def entriesPlace (scope : Scope store) (frame : Frame)
    (entries : List (Entry store)) : Place store :=
  Sql.definedGroup scope frame.rows (entries.map Entry.result)

theorem entriesPlace_group (entries : List (Entry store)) :
    (entriesPlace scope frame entries).group? = some (entries.map fun entry =>
      definedScope scope frame.rows (entries.map Entry.result) entry.result) := by
  rw [entriesPlace, Sql.definedGroup, map_map]
  rfl

theorem Surrounded.entries (around : Surrounded scope frame.head.aliasName parent? row?)
    (entries : List (Entry store)) :
    Surrounded (entriesPlace scope frame entries).scope frame.head.aliasName parent? row? :=
  (around.define _ _).enter (mem_cons_of_mem _ mem_cons_self) _

section Parts

variable {entries : List (Entry store)} {conn : Tree.Connection}
  (realizes : frame.Realizes parent? crit)
  (around : Surrounded scope frame.head.aliasName parent? row?)
  (fits : ∀ entry ∈ entries, entry.Of frame slots (crit.place scope frame.head.aliasName row?))
  (found : frame.head.connection? = some conn)

include realizes fits found in
theorem edges_eval :
    (Expr.arrayOf (.object ((conn.node, .object (numbered frame 0 slots).members) ::
        Frame.under conn.cursors (frame.read Frame.cursorColumn) ++
          Frame.under conn.edgeTypeNames (.text conn.edgeType)))).eval store
        (entriesPlace scope frame entries) =
      .ok (.document (.list (entries.map fun entry =>
        edgeJson conn (cursorText crit.order entry.item.1) (entry.object slots)))) := by
  refine Sql.arrayOf_eval (entriesPlace_group _) fun entry mem reading inside => ?_
  have entryFits := fits _ mem
  have node := evalMembers_single (entryFits.object_eval inside) conn.node
  have cursors : evalMembers _ reading
        (Frame.under conn.cursors (frame.read Frame.cursorColumn)) =
      .ok (named conn.cursors (.text (cursorText crit.order entry.item.1))) := by
    refine under_eval fun name mem => ?_
    have wanted : conn.wantsCursor = true := by
      simp [Tree.Connection.wantsCursor, ne_nil_of_mem mem]
    have cursor := entryFits.cursor_mem realizes found wanted
    refine ⟨.text _, ?_, rfl⟩
    rw [Frame.read, Expr.eval, inside]
    exact entryFits.reads _ _ _ cursor
  have members := evalMembers_append (evalMembers_append node cursors)
    (text_under_eval conn.edgeTypeNames conn.edgeType)
  exact ⟨_, bind_eq_ok.mpr ⟨_, members, rfl⟩, rfl⟩

include realizes around in
theorem total_eval :
    frame.total.eval store (entriesPlace scope frame entries) =
      .ok (.number (crit.matching store row?).length) := by
  have source : frame.source = .table crit.table.name frame.head.aliasName := by
    rw [Frame.source, realizes.self]
  rw [Frame.total, Expr.eval, source, Sql.eval_count, (realizes.matching (around.entries _)).keptRows]
  rfl

include fits found in
/-- The greatest number of remaining rows that a page with rows shows. -/
theorem exceeds_eval (wanted : conn.wantsHasNext = true)
    (limited : frame.limit?.any (0 < ·) = true) (inhabited : entries ≠ []) (limit : Nat) :
    (Expr.exceeds ⟨frame.rows, Frame.remainingColumn⟩ (.uint limit)).eval store
        (entriesPlace scope frame entries) =
      .ok (.document (.bool (decide (limit < (crit.remaining store row?).length)))) := by
  have cells : (entries.map fun entry =>
        definedScope scope frame.rows (entries.map Entry.result) entry.result).mapM
          (fun inner => inner.column ⟨frame.rows, Frame.remainingColumn⟩) =
      .ok (entries.map fun _ => .number (crit.remaining _ row?).length) := by
    rw [mapM_map]
    refine mapM_eq_map fun entry mem => ?_
    have entryFits := fits _ mem
    exact entryFits.reads _ _ _ (entryFits.remaining_mem found wanted limited)
  rw [Expr.eval, Place.group, entriesPlace_group]
  simp only [ok_bind, cells, Cell.greatest_const inhabited, Cell.against]
  congr 3
  rw [Bool.eq_iff_iff]
  simp [Nat.compare_eq_gt]

variable (paged : entries.map Entry.item = crit.pageItems store row? true)

include paged in
theorem page_eq : crit.page store row? true = entries.map fun entry => entry.item.1 := by
  rw [← crit.pageItems_fst, ← paged, map_map]
  rfl

include realizes around fits found paged in
theorem hasNext_eval (wanted : conn.wantsHasNext = true) :
    ∃ cell, frame.hasNext.eval store (entriesPlace scope frame entries) = .ok cell ∧
      cell.toJson = .bool (crit.hasNext store row?) := by
  have source : frame.source = .table crit.table.name frame.head.aliasName := by
    rw [Frame.source, realizes.self]
  have limit_eq := realizes.limit
  rw [Frame.hasNext, Criteria.hasNext, ← limit_eq]
  rcases limited : frame.limit? with _ | _ | limit
  · exact ⟨_, rfl, rfl⟩
  · refine ⟨.document _, ?_, rfl⟩
    simp only [Expr.eval, source, Sql.eval_probe, (realizes.remaining (around.entries _)).keptRows,
      Except.map, crit.filter_remaining, ok_bind, isEmpty_map]
    rfl
  · cases entries with
    | nil =>
      -- A page that may have rows is empty only if no rows remain.
      have none := paged.symm
      rw [map_nil, Criteria.pageItems, ← limit_eq, limited, Sql.cut,
        take_eq_nil_iff] at none
      have remaining : (crit.remaining _ row?).length = 0 := by
        rw [← crit.arrangedItems_length row? true, none.resolve_left (by simp),
          length_nil]
      exact ⟨_, rfl, by simp [remaining, Cell.toJson, Cell.greatest, Cell.against]⟩
    | cons entry entries =>
      have more := exceeds_eval fits found wanted (by simp [limited])
        (cons_ne_nil _ _) (limit + 1)
      exact ⟨_, more, rfl⟩

include realizes fits found paged in
/-- The end cursor is that of a row which is level with the last one of the page. -/
theorem endCursor_eval (wanted : conn.wantsEndCursor = true) :
    ∃ cursor?, crit.EndsAt store row? cursor? ∧
      ∃ cell, frame.endCursor.eval store (entriesPlace scope frame entries) = .ok cell ∧
        cell.toJson = cursor?.elim .null .text := by
  have wantedCursor : conn.wantsCursor = true := by
    simp [Tree.Connection.wantsCursor, wanted]
  have defined : (entriesPlace scope frame entries).scope.defined.lookup frame.rows =
      some (entries.map fun entry => .ofResult entry.result) := by
    simp [entriesPlace, Sql.definedGroup, groupPlace, defining, Scope.define, Scope.enter]
  have ranks : ∀ entry ∈ entries, ((entriesPlace scope frame entries).scope.enter _
      _).bare _ =
        .ok _ := fun entry mem =>
    (fits _ mem).reads _ _ _ ((fits _ mem).row_mem realizes found wanted)
  have values : ∀ entry ∈ entries, ∀ place,
      place.scope = (entriesPlace scope frame entries).scope.enter frame.rows
        (.ofResult entry.result) → (Expr.bare Frame.cursorColumn).eval _ place =
          .ok (.text (cursorText crit.order entry.item.1)) := by
    intro entry mem place inside
    rw [Expr.eval, inside]
    exact (fits _ mem).reads _ _ _ ((fits _ mem).cursor_mem realizes found wantedCursor)
  obtain ⟨shown?, empty, greatest, evaluated⟩ := Sql.eval_greatest defined ranks rfl values
  refine ⟨shown?.map fun entry => cursorText crit.order entry.item.1, ?_, ?_⟩
  · rw [Criteria.EndsAt, page_eq paged]
    cases shown? with
    | none => exact .inl ⟨by rw [empty rfl]; rfl, rfl⟩
    | some entry =>
      obtain ⟨mem, most⟩ := greatest _ rfl
      obtain ⟨front, last, rfl⟩ :=
        (eq_nil_or_concat _).resolve_left (ne_nil_of_mem mem)
      refine .inr ⟨last.item.1, entry.item.1, by simp, mem_map_of_mem mem, ?_, rfl⟩
      rw [concat_eq_append, map_append] at paged
      apply Criteria.level_of_greatest paged.symm _ (most last (by simp))
      simpa using mem_map_of_mem mem
  · rw [Frame.endCursor, Expr.eval, evaluated]
    cases shown? with
    | none => exact ⟨.null, rfl, rfl⟩
    | some entry => exact ⟨.text _, rfl, rfl⟩

include realizes fits found paged in
/-- There is an end cursor, which is shown if it is wanted. -/
theorem ending_exists :
    ∃ cursor?, crit.EndsAt store row? cursor? ∧ (conn.wantsEndCursor = true →
      ∃ cell, frame.endCursor.eval store (entriesPlace scope frame entries) = .ok cell ∧
        cell.toJson = cursor?.elim .null .text) := by
  by_cases wanted : conn.wantsEndCursor = true
  · obtain ⟨cursor?, ends, evaluated⟩ := endCursor_eval realizes fits found paged wanted
    exact ⟨cursor?, ends, fun _ => evaluated⟩
  · exact ⟨_, crit.endsAt_last _ row?, fun now => absurd now wanted⟩

variable {cursor? : Option String} (ended : conn.wantsEndCursor = true →
  ∃ cell, frame.endCursor.eval store (entriesPlace scope frame entries) = .ok cell ∧
    cell.toJson = cursor?.elim .null .text)

include realizes around fits found paged ended in
theorem pageValue_eval {page : Tree.PageInfo} (mem : page ∈ conn.pages) :
    ∃ cell, (frame.pageValue page).eval store (entriesPlace scope frame entries) = .ok cell ∧
      cell.toJson =
        { crit.overview store row? with cursors := cursor?.toList }.pageJson page := by
  have hasNext : evalMembers _ (entriesPlace scope frame entries)
        (Frame.under page.hasNext frame.hasNext) =
      .ok (named page.hasNext (.bool (crit.hasNext _ row?))) := by
    refine under_eval fun name memName => hasNext_eval realizes around fits found paged ?_
    exact any_eq_true.mpr ⟨page, mem, by simp [ne_nil_of_mem memName]⟩
  have endCursor : evalMembers _ (entriesPlace scope frame entries)
        (Frame.under page.endCursor frame.endCursor) =
      .ok (named page.endCursor (cursor?.toList.getLast?.elim .null .text)) := by
    have last : cursor?.toList.getLast? = cursor? := by cases cursor? <;> rfl
    rw [last]
    refine under_eval fun name memName => ended ?_
    exact any_eq_true.mpr ⟨page, mem, by simp [ne_nil_of_mem memName]⟩
  have members := evalMembers_append (evalMembers_append hasNext endCursor)
    (text_under_eval page.typeNames page.type)
  exact ⟨_, bind_eq_ok.mpr ⟨_, members, rfl⟩, rfl⟩

include realizes around fits found paged ended in
theorem connectionValue_eval :
    (frame.connectionValue conn (.object (numbered frame 0 slots).members)).eval store
        (entriesPlace scope frame entries) =
      .ok (.document ((crit.overview store row?).connectionJsonEnding cursor? conn
        (entries.map (Entry.object slots)))) := by
  have edges := evalMembers_single (edges_eval realizes fits found) conn.edges
  have totals : evalMembers _ (entriesPlace _ _ entries)
        _ =
      .ok (named conn.totals _) :=
    under_eval fun _ _ => ⟨_, total_eval realizes around, rfl⟩
  have pages : evalMembers _ _
        (conn.pages.map fun page => (page.responseName, frame.pageValue page)) =
      .ok (conn.pages.map fun page => (page.responseName,
        { crit.overview _ row? with cursors := cursor?.toList }.pageJson page)) :=
    evalMembers_map fun page mem => pageValue_eval realizes around fits found paged ended mem
  have members := evalMembers_append (evalMembers_append (evalMembers_append edges totals) pages)
    (text_under_eval conn.typeNames conn.type)
  have zipped : .zipWith (edgeJson conn) (crit.overview _ row?).cursors
      (entries.map (Entry.object slots)) = entries.map fun entry =>
        edgeJson conn (cursorText crit.order entry.item.1) (entry.object slots) := by
    rw [Criteria.overview, page_eq paged, map_map, zipWith_map, zipWith_self]
    rfl
  rw [Overview.connectionJsonEnding, zipped]
  exact bind_eq_ok.mpr ⟨_, members, rfl⟩

include realizes around fits found paged ended in
theorem connection_eval {body : Query}
    (evaluated : body.eval store scope = .ok (entries.map Entry.result)) {col : Expr}
    (alike : Shows store col
      (frame.connectionValue conn (.object (numbered frame 0 slots).members)))
    (alias? : Option String) :
    (Query.select (some (frame.rows, body)) [(col, alias?)] (.rows frame.rows) [] none none).eval
        store scope =
      .ok (jsonResults alias? [(crit.overview store row?).connectionJsonEnding cursor?
        conn (entries.map (Entry.object slots))]) := by
  refine Sql.eval_defined_aggregate _ _ evaluated (by rw [alike.aggregates]; rfl) ?_
  rw [alike.eval]
  exact connectionValue_eval realizes around fits found paged ended

end Parts

end SelectGraph.Plan
