import SelectGraph.Proofs.Database.Reply

/-!
# Connections of a fetch

A fetch that selects a database first acquires a connection, uses it for all that it does and gives
it back, wherever it ends: the executor does so while no rows have been given, and whoever reads the
rows does so afterwards.
-/

namespace SelectGraph.Database

open List

namespace Event

@[simp]
def acquires (conn : Nat) : Event → Bool
  | .acquired taken => taken == conn
  | _ => false

@[simp]
def releases (conn : Nat) : Event → Bool
  | .released given => given == conn
  | _ => false

/-- The connection over which something reaches the database, or which is given back. -/
@[simp]
def connection? : Event → Option Nat
  | .pinged conn | .executed conn _ | .queried conn _ _
  | .released conn => some conn
  | .refused | .acquired _ => none

@[simp]
def isQuery : Event → Bool
  | .queried _ _ _ => true
  | _ => false

end Event

/-- A connection has been acquired once and not been given back. -/
def Holds (events : List Event) (conn : Nat) : Prop :=
  events.countP (·.acquires conn) = 1 ∧ events.countP (·.releases conn) = 0

/-! ## Places in a trace -/

section Places

variable {holds : List Event → Event → Prop} {first : Event} {rest : List Event}

theorem forall_place_nil :
    (∀ before event after, ([] : List Event) = before ++ event :: after → holds before event) ↔
      True := by
  simp

theorem forall_place_cons :
    (∀ before event after, first :: rest = before ++ event :: after → holds before event) ↔
      holds [] first ∧
        ∀ before event after, rest = before ++ event :: after → holds (first :: before) event := by
  constructor
  · intro all
    exact ⟨all [] first rest rfl, fun before event after split =>
      all (first :: before) event after (by rw [split, cons_append])⟩
  · rintro ⟨here, later⟩ before event after split
    cases before with
    | nil =>
      cases split
      exact here
    | cons passed before =>
      cases split
      exact later before event after rfl

end Places

namespace Executor

theorem database?_scoped {name : String} (named : name ≠ "") :
    (Executor.scoped name).database? = some name := by
  unfold database?
  split <;> simp_all

/-- The events that a fetch leaves behind those of the past. -/
inductive Leaves (executor : Executor) (backend : Backend) (isCancelled : Bool) (command : Command)
    (past : List Event) : List Event → Prop
  | nothing (never : executor = .unavailable ∨ isCancelled = true) :
      Leaves executor backend isCancelled command past []
  | refused (connect : backend.connect? past ≠ none) :
      Leaves executor backend isCancelled command past [.refused]
  | unselected (conn : Nat) {name : String} (database : executor.database? = some name)
      (connect : isCancelled = false ∧ backend.connect? past = none) :
      Leaves executor backend isCancelled command past
        [.acquired conn, .executed conn (useStatement name), .released conn]
  | queried (conn : Nat) (connect : isCancelled = false ∧ backend.connect? past = none)
      (select : ∀ name, executor.database? = some name →
        backend.exec? (past ++ [.acquired conn]) (useStatement name) = none) :
      Leaves executor backend isCancelled command past (.acquired conn ::
        executor.setup conn ++
          [.queried conn command.sql command.arguments, .released conn])

theorem fetch_leaves (executor : Executor) (backend : Backend) (isCancelled : Bool)
    (command : Command) (past : List Event) : ∃ events,
      ((fetch backend executor isCancelled command).run past).2 = past ++ events ∧
        executor.Leaves backend isCancelled command past events := by
  obtain ⟨result, events, ran, queries⟩ := executor.query_run backend isCancelled command past
  unfold fetch
  rw [Session.bind_run, ran]
  cases queries with
  | unavailable absent => exact ⟨_, rfl, .nothing (.inl absent)⟩
  | calledOff calledOff => exact ⟨_, rfl, .nothing (.inr calledOff)⟩
  | refused connect => exact ⟨_, rfl, .refused (by simp [connect])⟩
  | unselected connect database select => exact ⟨_, rfl, .unselected _ database connect⟩
  | failed connect select query => exact ⟨_, rfl, .queried _ connect select⟩
  | @answered rows connect select query =>
    refine ⟨_, ?_, .queried rows.connection connect select⟩
    simp only [Rows.close, Session.bind_run, Session.note_run, Session.pure_run, append_assoc,
      cons_append, nil_append]

end Executor

/-- However a fetch over connections of its own ends, what it leaves behind shows that every connection
it acquired was given back, once; that statements were sent, and connections given back, only while
the connection was held; that a configured database was selected on the connection of a query before
it; and that nothing was queried where acquiring the connection or selecting the database had
failed. -/
theorem fetch_releases (backend : Backend) (name : String) (isCancelled : Bool) (command : Command)
    (past : List Event) : ∃ events,
      ((fetch backend (.scoped name) isCancelled command).run past).2 = past ++ events ∧
        (∀ connection, events.countP (·.acquires connection) ≤ 1 ∧
          events.countP (·.releases connection) = events.countP (·.acquires connection)) ∧
        (∀ before event after, events = before ++ event :: after →
          ∀ connection, event.connection? = some connection → Holds before connection) ∧
        (∀ before event after, events = before ++ event :: after →
          ∀ connection sql arguments, event = .queried connection sql arguments → name ≠ "" →
            .executed connection (useStatement name) ∈ before) ∧
        (isCancelled = true ∨ backend.connect? past ≠ none → events.all (!·.isQuery) = true) ∧
        (∀ before event after, events = before ++ event :: after →
          ∀ connection sql, event = .executed connection sql →
            backend.exec? (past ++ before) sql ≠ none → events.all (!·.isQuery) = true) := by
  obtain ⟨events, ran, leaves⟩ :=
    Executor.fetch_leaves (.scoped name) backend isCancelled command past
  refine ⟨events, ran, ?_⟩
  have atMostOnce (taken other : Nat) : (if taken = other then 1 else 0) ≤ 1 := by
    split <;> simp
  cases leaves with
  | nothing never => simp
  | refused connect => simp [forall_place_cons]
  | unselected connection database connect =>
    simp [forall_place_cons, Holds, countP_cons, atMostOnce]
  | queried connection connect select =>
    by_cases named : name = ""
    · subst named
      simp [Executor.setup, Executor.database?, forall_place_cons, Holds, countP_cons, connect,
        atMostOnce]
    · have database := Executor.database?_scoped named
      simp [Executor.setup, database, forall_place_cons, Holds, countP_cons, connect,
        select name database, atMostOnce]

/-- A server without the database that is configured. -/
def lackingServer : Backend where
  connect? _ := none
  ping? _ := none
  exec? _ _ := some { text := "unknown database" }
  query _ _ _ := .ok { columns := 1, rows := [] }

theorem fetch_releases_unselected :
    let events := ((fetch lackingServer (.scoped "sakila") false ⟨"films", "SELECT", []⟩).run []).2
    events.countP (·.acquires 0) = 1 ∧ events.countP (·.releases 0) = 1 ∧
      events.all (!·.isQuery) = true := by
  obtain ⟨events, ran, balanced, -, -, -, unqueried⟩ :=
    fetch_releases lackingServer "sakila" false ⟨"films", "SELECT", []⟩ []
  have acquired : events.countP (·.acquires 0) = 1 := by
    rw [← nil_append events, ← ran]
    rfl
  rw [ran, nil_append]
  refine ⟨acquired, (balanced 0).right.trans acquired, ?_⟩
  exact unqueried [.acquired 0] (.executed 0 (useStatement "sakila")) [.released 0] ran.symm 0 _ rfl
    (by simp [lackingServer])

end SelectGraph.Database
