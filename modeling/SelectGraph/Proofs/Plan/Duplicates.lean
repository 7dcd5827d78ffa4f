import SelectGraph.Proofs.Plan.Paging

/-!
# Paging through equal rows

A table without a primary key is ordered by all of its columns, and may still have rows that nothing
tells apart.  A cursor stands for all of them: if a page ends among equal rows, the next page begins
after the last of them, and those in between are never shown.
-/

namespace SelectGraph.Plan

open List

open Sql (Cell Domain Row Store)

variable {domain : Domain} {store : Store} {src : Sources} {root : Tree.Root}

/-- Rows that agree in all columns of a table. -/
def Twins (table : Table) (a b : Row domain) : Prop :=
  ∀ name ∈ table.columnNames, (Cell.ofStored (a name)).compare (.ofStored (b name)) = .eq

/-- The order of a table without a primary key puts rows level that agree in all columns, and no
others. -/
theorem compare_eq_iff_twins {crit : Criteria}
    (resolved : criteriaOf src none root.head = .ok crit)
    (keyless : crit.table.primaryKey = []) {a b : Row domain} :
    crit.compare a b = .eq ↔ Twins crit.table a b := by
  have order : crit.order = addColumns crit.arguments.order crit.table.columnNames := by
    rw [Criteria.order, effectiveOrder, keyless]
    rfl
  rw [Criteria.compare, compareKeys_eq_iff, order]
  constructor
  · intro level name listed
    obtain ⟨field, mem, rfl⟩ := mem_map.mp (mem_addColumns (.inr listed))
    exact level _ mem
  · intro twins field mem
    apply twins
    rcases of_mem_addColumns mem with explicit | added
    · rcases readArguments_order (criteriaOf_eq_ok.mp resolved).2.1 with none | ⟨value, read⟩
      · rw [none] at explicit
        cases explicit
      · exact explicitOrder_columnNames read _ explicit
    · exact added

/-- What pages show of the matching rows of a table without a primary key. -/
structure ShowsButTwins (store : Store) (crit : Criteria) (size : Nat)
    (shown : List (List (Row store))) (skipped : List (Row store)) : Prop where
  sized : ∀ page ∈ shown, page.length ≤ size
  /-- Every row is shown or left out, as often as it occurs. -/
  whole : (shown.flatten ++ skipped).Perm (crit.matching store none)
  ordered : shown.flatten.Pairwise fun a b => (crit.compare a b).isLE
  /-- Only rows equal to the last one of a page are left out. -/
  left : ∀ row ∈ skipped, ∃ page ∈ shown, ∃ last ∈ page.getLast?, Twins crit.table last row
  /-- Of the rows equal to the last one of a page, no later page shows any. -/
  gone : shown.Pairwise fun page later =>
    ∀ last ∈ page.getLast?, ∀ row ∈ later, ¬Twins crit.table last row
  complete : (crit.matching store none).Pairwise (fun a b => ¬Twins crit.table a b) →
    skipped = []

/-- A client that pages through a table without a primary key sees all matching rows in order, but
of rows equal to the last one of a page only those on the page.  The run ends, and fails only if a
relation to a single row has several. -/
theorem paging_shows_but_twins {connection : Tree.Connection} {criteria : Criteria}
    (browsable : Browsable store sources root connection criteria)
    (keyless : criteria.table.primaryKey = []) (pager : Pager connection) {size : Nat}
    (positive : 0 < size) :
    ∃ shown skipped, ShowsButTwins store criteria size shown skipped ∧
      ∃ pages, Visits (fetchPage store sources root pager size) none pages ∧
        (∀ others, Visits (fetchPage store sources root pager size) none others → others = pages) ∧
        pages.map (List.map Page.edges) = (shown.mapM
          (List.mapM (rowEdge store sources root connection criteria))).mapError .store ∧
        ∀ failure, pages = .error failure → failure = .store .severalRows := by
  obtain ⟨shown, skipped, turns⟩ := turns_exist criteria positive (criteria.matching store none)
  obtain ⟨pages, visits, edges⟩ := turns.visits browsable pager positive .start
  have level {a b : Row store.toDomain} : criteria.compare a b = .eq ↔ Twins criteria.table a b :=
    compare_eq_iff_twins browsable.resolved keyless
  refine ⟨shown, skipped, ?_, pages, visits, fun _ => visits.unique, edges, failure_eq ?_ edges⟩
  · exact {
      sized := turns.length_le
      whole := turns.perm
      ordered := turns.pairwise
      left := by simpa only [level] using turns.level
      gone := by
        refine turns.apart.imp fun {page later} before last lastOf row mem twins => ?_
        cases (before last lastOf row mem).symm.trans (level.mpr twins)
      complete := fun apart =>
        turns.skipped_eq_nil (apart.imp fun differ same => differ (level.mp same)) }
  · exact .mapM (.mapM browsable.rowEdge_onlySeveral) shown

/-! ## Books that only have a year -/

def years : Sources where
  catalog := {
    tables := [⟨"book", [⟨"year", "int", true⟩], [], [], []⟩]
    typeTables := [("Book", "book")] }
  registry := ⟨[]⟩

/-- Two books of the same year, and one without. -/
def yearsStore : Store :=
  .ofIntegers fun _ => [Sql.integerRow [("year", 1950)], Sql.integerRow [],
    Sql.integerRow [("year", 1950)]]

def yearsRoot : Tree.Root := { latestBooksRoot with children := [.attribute "year" "year"] }

def yearsCriteria : Criteria where
  table := ⟨"book", [⟨"year", "int", true⟩], [], [], []⟩
  relation? := none
  arguments := ⟨none, none, [⟨"year", .descending⟩], []⟩

theorem years_browsable : Browsable yearsStore years yearsRoot latestBooks yearsCriteria := by
  refine ⟨?_, rfl, rfl, rfl, rfl, ⟨trivial, trivial⟩, cons_ne_nil _ _, ?_⟩
  · exact compile_of_slots rfl rfl
  · refine forall_mem_cons.mpr
      ⟨?_, forall_mem_cons.mpr ⟨?_, forall_mem_singleton.mpr ?_⟩⟩
    · exact ⟨[("year", .int 1950)], rfl, .refl _, by decide⟩
    · exact ⟨[("year", .null)], rfl, .refl _, by decide⟩
    · exact ⟨[("year", .int 1950)], rfl, .refl _, by decide⟩

theorem paging_shows_but_twins_years :
    Browsable yearsStore years yearsRoot latestBooks yearsCriteria ∧
      yearsCriteria.table.primaryKey = [] ∧ 0 < 1 ∧
      ∃ shown skipped pages, ShowsButTwins yearsStore yearsCriteria 1 shown skipped ∧
        Visits (fetchPage yearsStore years yearsRoot latestBooksPager 1) none pages := by
  obtain ⟨shown, skipped, seen, pages, visits, -⟩ :=
    paging_shows_but_twins years_browsable rfl latestBooksPager (by decide : 0 < 1)
  exact ⟨years_browsable, rfl, by decide, shown, skipped, pages, seen, visits⟩

/-- One at a time, only one of two books of the same year is shown. -/
theorem equal_row_lost :
    (yearsCriteria.matching yearsStore none).mapM
        (rowEdge yearsStore years yearsRoot latestBooks yearsCriteria) = .ok [
      .object [("node", .object [("year", .ofInt 1950)])],
      .object [("node", .object [("year", .null)])],
      .object [("node", .object [("year", .ofInt 1950)])]] ∧
    ∃ pages, Visits (fetchPage yearsStore years yearsRoot latestBooksPager 1) none pages ∧
      pages.map (List.map Page.edges) = .ok [
        [.object [("node", .object [("year", .ofInt 1950)])]],
        [.object [("node", .object [("year", .null)])]]] := by
  have ends : ((yearsCriteria.inOrder yearsStore
      (yearsCriteria.matching yearsStore none)).take 1).getLast? =
        some (Sql.integerRow [("year", 1950)]) := rfl
  have turns := Turns.next (by decide) ends (.last (by decide))
  obtain ⟨pages, visits, edges⟩ :=
    turns.visits years_browsable latestBooksPager (by decide) .start
  exact ⟨rfl, pages, visits, edges⟩

end SelectGraph.Plan
