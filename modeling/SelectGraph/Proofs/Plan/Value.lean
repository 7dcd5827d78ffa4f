import SelectGraph.Proofs.Plan.Page

/-!
# Values of lists and of single rows

A list is the array of the objects of its rows, and a single row is the object of each row there is.
-/

namespace SelectGraph.Plan

open List

open Sql (Domain Expr Place Query Record Result Row Scope Store definedScope evalColumns_names
  groupPlace)

variable {store : Store} {scope : Scope store} {frame : Frame} {crit : Criteria}
  {parent? : Option TableRef} {row? : Option (Row store)} {slots : Slots}

/-- Whether an entry holds what the columns of a frame have for its row. -/
abbrev Entry.Of (entry : Entry store) (frame : Frame) (slots : List (String × Slot))
    (place : Row store × Nat → Place store) : Prop :=
  entry.Fits place (numbered frame 0 slots).columns
    (frame.extras (numbered frame 0 slots).columns)

section Reading

variable {written reading : Place store} {cells extra : Result store}
  {results : List (Result store)}

section

variable (evaluated : Sql.evalColumns store written (numbered frame 0 slots).columns = .ok cells)
  (evaluatedExtra :
    Sql.evalColumns store written (frame.extras (numbered frame 0 slots).columns) = .ok extra)

include evaluated evaluatedExtra

/-- In the scope of a row of the common table expression all its cells can be read. -/
theorem reads_cells (outer : Scope store) :
    Reads (outer.enter frame.rows (.ofResult (cells ++ extra))) frame.rows (cells ++ extra) := by
  have distinct : ((cells ++ extra).map Prod.fst).Nodup := by
    have names := names_nodup frame slots
    rwa [map_append, ← evalColumns_names evaluated, ← evalColumns_names evaluatedExtra,
      ← map_append] at names
  intro name cell mem
  have found : Record.ofResult _ name = some cell := Sql.lookup_of_mem distinct mem
  simp [Scope.column, Scope.enter, found]

/-- The object of a row, read from the common table expression. -/
theorem object_eval_cells {outer : Scope store}
    (inside : reading.scope = outer.enter frame.rows (.ofResult (cells ++ extra))) :
    (Expr.object (numbered frame 0 slots).members).eval store reading =
      .ok (.document (.object (assemble slots cells))) := by
  have reads : Reads reading.scope frame.rows _ := fun name cell mem =>
    inside ▸ reads_cells evaluated evaluatedExtra _ name cell (mem_append_left _ mem)
  rw [Expr.eval, evalMembers_numbered _ 0 _ evaluated reads]
  rfl

end

variable {entry : Entry store} {place : Row store × Nat → Place store}

theorem Entry.Of.reads (fits : entry.Of frame slots place) (outer : Scope store) :
    Reads (outer.enter frame.rows (.ofResult entry.result)) frame.rows entry.result :=
  reads_cells fits.cells fits.extra _

theorem Entry.Of.object_eval (fits : entry.Of frame slots place)
    (inside : reading.scope = definedScope scope frame.rows results entry.result) :
    (Expr.object (numbered frame 0 slots).members).eval store reading =
      .ok (.document (entry.object slots)) :=
  object_eval_cells fits.cells fits.extra inside

end Reading

theorem members_plain (frame : Frame) (number : Nat) (slots : Slots) :
    Sql.membersAggregate (numbered frame number slots).members = false := by
  fun_induction numbered _ number slots with
  | case1 => rfl
  | case2 _ _ _ _ _ ih | case3 _ _ _ _ ih => exact ih

/-- Whether an expression can stand for another: it aggregates and evaluates alike. -/
structure Shows (store : Store) (col value : Expr) : Prop where
  aggregates : col.aggregates = value.aggregates
  eval : ∀ place : Place store, col.eval store place = value.eval store place

theorem Shows.self (value : Expr) : Shows store value value :=
  ⟨rfl, fun _ => rfl⟩

theorem Shows.grouped (value : Expr) : Shows store (.grouped value) value :=
  ⟨by rw [Expr.aggregates], fun _ => by rw [Expr.eval]⟩

def jsonResults {domain : Domain} (alias? : Option String) (values : List Json) :
    List (Result domain) :=
  values.map fun json => [(alias?, .document json)]

section Entries

variable {entries : List (Entry store)} {place : Row store × Nat → Place store} {body : Query}
  {col : Expr} (evaluated : body.eval store scope = .ok (entries.map Entry.result))

include evaluated

/-- The value of a list is the array of the objects of its rows. -/
theorem list_eval (fits : ∀ entry ∈ entries, entry.Of frame slots place)
    (alike : Shows store col (.arrayOf (.object (numbered frame 0 slots).members)))
    (alias? : Option String) :
    (Query.select (some (frame.rows, body)) [(col, alias?)] (.rows frame.rows) [] none none).eval
        store scope =
      .ok (jsonResults alias? [.list (entries.map (Entry.object slots))]) := by
  refine Sql.eval_defined_aggregate _ _ evaluated (by rw [alike.aggregates]; rfl) ?_
  rw [alike.eval]
  refine Sql.arrayOf_eval (by rw [Sql.definedGroup, groupPlace, map_map])
    fun entry mem inner inside => ?_
  exact ⟨_, (fits _ mem).object_eval inside, rfl⟩

/-- A relation to single rows has the object of each row. -/
theorem single_eval (fits : ∀ entry ∈ entries, entry.Of frame slots place)
    (alike : Shows store col (.object (numbered frame 0 slots).members))
    (alias? : Option String) :
    (Query.select (some (frame.rows, body)) [(col, alias?)] (.rows frame.rows) [] none none).eval
        store scope =
      .ok (jsonResults alias? (entries.map (Entry.object slots))) := by
  have plain : col.aggregates = false := by
    rw [alike.aggregates, Expr.aggregates, members_plain]
  rw [jsonResults, map_map]
  refine Sql.eval_defined_rows _ _ evaluated plain fun entry mem inner inside => ?_
  rw [alike.eval, (fits _ mem).object_eval inside]

end Entries

end SelectGraph.Plan
