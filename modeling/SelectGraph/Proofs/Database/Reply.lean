import Mathlib
import SelectGraph.Database.Fetch

/-!
# Replies to commands

What a database makes of one command, before anything is made of its reply: a fault before the first
row, or rows and a fault that may follow them.  A reply delivers a value, raises a fault or gives
too many rows, and fetching a root value tells these apart.
-/

namespace SelectGraph.Database

open List

/-- What comes of a command: a fault before any row, or an answer. -/
abbrev Reply := Except Fault Answer

/-- Put a command to a database and take its reply as a whole. -/
def reply (backend : Backend) (executor : Executor) (isCancelled : Bool) (command : Command) :
    Session Reply := do
  match ← executor.query backend isCancelled command with
  | .error fault => return .error fault
  | .ok rows =>
    rows.close
    return .ok rows.answer

def inTurn {α : Type} (run : Command → Session α) (commands : List Command) (past : List Event) :
    List α :=
  ((commands.mapM run).run past).1

/-- The replies to commands that are put to a database one after the other. -/
def replies (backend : Backend) (executor : Executor) (isCancelled : Bool) :
    (commands : List Command) → (past : List Event) → List Reply :=
  inTurn (reply backend executor isCancelled)

theorem inTurn_cons {α : Type} (run : Command → Session α) (command : Command)
    (commands : List Command) (past : List Event) :
    inTurn run (command :: commands) past =
      ((run command).run past).1 :: inTurn run commands ((run command).run past).2 := by
  rw [inTurn, mapM_cons]
  rfl

theorem length_inTurn {α : Type} (run : Command → Session α) (commands : List Command)
    (past : List Event) : (inTurn run commands past).length = commands.length := by
  induction commands generalizing past with
  | nil => rfl
  | cons command commands ih => rw [inTurn_cons, length_cons, ih, length_cons]

namespace Reply

/-- The rows of an answer can be read to their end: there is at most one, and it has one column. -/
def Readable (answer : Answer) : Prop :=
  answer.rows = [] ∨ answer.columns = 1 ∧ ∃ row, answer.rows = [row]

/-- The command runs without a fault and yields at most one row; the text of its cell. -/
inductive Delivers : Reply → Option String → Prop
  | nothing {answer : Answer} (rows : answer.rows = []) (sound : answer.fault? = none) :
      Delivers (.ok answer) none
  | cell {answer : Answer} {row : List Cell} (cols : answer.columns = 1)
      (rows : answer.rows = [row]) (sound : answer.fault? = none) :
      Delivers (.ok answer) (row.head?.bind Cell.text?)

/-- The command yields several rows. -/
def SeveralRows (reply : Reply) : Prop :=
  ∃ answer, reply = .ok answer ∧ answer.columns = 1 ∧ 2 ≤ answer.rows.length

/-- The database fails: before any row, while the first row is read, or behind the last row. -/
inductive Raises : Reply → Fault → Prop
  | query (fault : Fault) : Raises (.error fault) fault
  | scan {answer : Answer} (rows : answer.rows ≠ []) (cols : answer.columns ≠ 1) :
      Raises (.ok answer) { text := "sql: expected " ++ toString answer.columns ++
        " destination arguments in Scan, not 1" }
  | iteration {answer : Answer} {fault : Fault} (readable : Readable answer)
      (fails : answer.fault? = some fault) : Raises (.ok answer) fault

/-- The error with which a command fails: its field has too many rows, by the count or by what the
server says, or the store failed in another way. -/
inductive Fails (field : String) (reply : Reply) : FetchError → Prop
  | counted (several : reply.SeveralRows) : Fails field reply (.cardinality field)
  | told {fault : Fault} (raises : reply.Raises fault)
      (number : fault.number? = some severalRowsNumber) : Fails field reply (.cardinality field)
  | store {fault : Fault} (raises : reply.Raises fault)
      (number : fault.number? ≠ some severalRowsNumber) : Fails field reply (.store field fault)

/-- What fetching makes of a reply. -/
def outcome (field : String) : Reply → Except FetchError (Option String)
  | .error fault => .error (.ofFault field fault)
  | .ok answer => answer.cell field

theorem Delivers.outcome_eq {reply : Reply} {value : Option String}
    (delivers : reply.Delivers value) (field : String) : reply.outcome field = .ok value := by
  cases delivers with
  | nothing rows sound => simp [outcome, Answer.cell, rows, sound]
  | cell cols rows sound => simp [outcome, Answer.cell, cols, rows, sound]

theorem Raises.outcome_eq {reply : Reply} {fault : Fault} (raises : reply.Raises fault)
    (field : String) : reply.outcome field = .error (.ofFault field fault) := by
  cases raises with
  | query => rfl
  | @scan answer rows cols =>
    obtain ⟨row, others, rows_eq⟩ := exists_cons_of_ne_nil rows
    simp [outcome, Answer.cell, rows_eq, cols, FetchError.ofFault]
  | iteration readable fails =>
    rcases readable with rows | ⟨cols, row, rows⟩
    · simp [outcome, Answer.cell, rows, fails]
    · simp [outcome, Answer.cell, cols, rows, fails]

theorem SeveralRows.outcome_eq {reply : Reply} (several : reply.SeveralRows) (field : String) :
    reply.outcome field = .error (.cardinality field) := by
  obtain ⟨answer, rfl, cols, count⟩ := several
  cases rows : answer.rows with
  | nil => simp [rows] at count
  | cons first others =>
    cases others with
    | nil => simp [rows] at count
    | cons second others => simp [outcome, Answer.cell, cols, rows]

theorem Fails.outcome_eq {field : String} {reply : Reply} {error : FetchError}
    (fails : reply.Fails field error) : reply.outcome field = .error error := by
  cases fails with
  | counted several => exact several.outcome_eq _
  | told raises number => rw [raises.outcome_eq, FetchError.ofFault, if_pos number]
  | store raises number => rw [raises.outcome_eq, FetchError.ofFault, if_neg number]

theorem Raises.fails {reply : Reply} {fault : Fault} (raises : reply.Raises fault)
    (field : String) : reply.Fails field (.ofFault field fault) := by
  unfold FetchError.ofFault
  split
  · next number => exact .told raises number
  · next number => exact .store raises number

/-- Every reply delivers a value or fails. -/
theorem delivers_or_fails (field : String) (reply : Reply) :
    (∃ value, reply.Delivers value) ∨ ∃ error, reply.Fails field error := by
  cases reply with
  | error fault => exact .inr ⟨_, (Raises.query _).fails _⟩
  | ok answer =>
    by_cases readable : Readable answer
    · cases fault : answer.fault? with
      | some found => exact .inr ⟨_, (Raises.iteration readable fault).fails _⟩
      | none =>
        rcases readable with rows | ⟨cols, row, rows⟩
        · exact .inl ⟨_, .nothing rows fault⟩
        · exact .inl ⟨_, .cell cols rows fault⟩
    · right
      simp only [Readable, not_or, not_and, not_exists] at readable
      obtain ⟨some, cols⟩ := readable
      by_cases single : answer.columns = 1
      · refine ⟨_, .counted ⟨answer, rfl, single, ?_⟩⟩
        obtain ⟨row, others, rows⟩ := exists_cons_of_ne_nil some
        cases others with
        | nil => exact absurd rows (cols single row)
        | cons second others => simp [rows]
      · exact ⟨_, (Raises.scan some single).fails _⟩

/-- Fetching gives a value exactly where the reply delivers it. -/
theorem outcome_eq_ok {field : String} {reply : Reply} {value : Option String} :
    reply.outcome field = .ok value ↔ reply.Delivers value := by
  constructor
  · intro fetched
    rcases delivers_or_fails _ _ with ⟨delivered, delivers⟩ | ⟨error, fails⟩
    · rw [delivers.outcome_eq _] at fetched
      cases fetched
      exact delivers
    · rw [fails.outcome_eq] at fetched
      cases fetched
  · intro delivers
    exact delivers.outcome_eq _

/-- Fetching gives an error exactly where the reply fails with it. -/
theorem outcome_eq_error {field : String} {reply : Reply} {error : FetchError} :
    reply.outcome field = .error error ↔ reply.Fails field error := by
  constructor
  · intro failed
    rcases delivers_or_fails _ _ with ⟨delivered, delivers⟩ | ⟨other, fails⟩
    · rw [delivers.outcome_eq _] at failed
      cases failed
    · rw [fails.outcome_eq] at failed
      cases failed
      exact fails
  · intro fails
    exact fails.outcome_eq

end Reply

variable (backend : Backend)

/-- Fetching a value is putting the command to the database and judging its reply. -/
theorem fetch_eq (executor : Executor) (isCancelled : Bool) (command : Command) :
    fetch backend executor isCancelled command =
      Reply.outcome command.field <$> reply backend executor isCancelled command := by
  simp only [fetch, reply, map_bind]
  apply bind_congr
  intro queried
  cases queried <;> rfl

/-- Fetching values one after the other is judging the replies to their commands. -/
theorem inTurn_fetch (executor : Executor) (isCancelled : Bool) (commands : List Command)
    (past : List Event) :
    inTurn (fetch backend executor isCancelled) commands past =
      (commands.zip (replies backend executor isCancelled commands past)).map
        fun (command, reply) => reply.outcome command.field := by
  induction commands generalizing past with
  | nil => rfl
  | cons command commands ih =>
    rw [inTurn_cons, ih, replies, inTurn_cons, zip_cons_cons, fetch_eq]
    rfl

/-! ## What reaches the database -/

namespace Session

variable {α β : Type} (past : List Event)

theorem bind_run (action : Session α) (next : α → Session β) :
    (action >>= next).run past = (next (action.run past).1).run (action.run past).2 := rfl

theorem pure_run (value : α) : (pure value : Session α).run past = (value, past) := rfl

theorem get_run : (get : Session (List Event)).run past = (past, past) := rfl

theorem note_run (event : Event) : (note event).run past = ((), past ++ [event]) := rfl

end Session

namespace Executor

variable (executor : Executor)

/-- What is executed on a connection before a command. -/
def setup (conn : Nat) : List Event :=
  executor.database?.toList.map fun name => .executed conn (useStatement name)

variable (isCancelled : Bool) (command : Command) (past : List Event)

/-- What comes of putting a command to a database, with the events that leaves behind those of the
past. -/
inductive Queries : Except Fault Rows → List Event → Prop
  | unavailable (absent : executor = .unavailable) : Queries (.error .closed) []
  | calledOff (calledOff : isCancelled = true) : Queries (.error (executor.acquireFault .cancelled)) []
  | refused {fault : Fault} (connect : backend.connect? past = some fault) :
      Queries (.error (executor.acquireFault fault)) [.refused]
  | unselected {conn : Nat} {name : String} {fault : Fault}
      (connect : isCancelled = false ∧ backend.connect? past = none)
      (database : executor.database? = some name)
      (select : backend.exec? (past ++ [.acquired conn]) (useStatement name) = some fault) :
      Queries (.error (fault.under ("failed to select database " ++ name)))
        [.acquired conn, .executed conn (useStatement name), .released conn]
  | failed {conn : Nat} {fault : Fault}
      (connect : isCancelled = false ∧ backend.connect? past = none)
      (select : ∀ name, executor.database? = some name →
        backend.exec? (past ++ [.acquired conn]) (useStatement name) = none)
      (query : backend.query (past ++ .acquired conn :: executor.setup conn) command.sql
        command.arguments = .error fault) :
      Queries (.error fault) (.acquired conn :: executor.setup conn ++
        [.queried conn command.sql command.arguments, .released conn])
  | answered {rows : Rows} (connect : isCancelled = false ∧ backend.connect? past = none)
      (select : ∀ name, executor.database? = some name →
        backend.exec? (past ++ [.acquired rows.connection]) (useStatement name) = none)
      (query : backend.query (past ++ .acquired rows.connection :: executor.setup rows.connection)
        command.sql command.arguments = .ok rows.answer) :
      Queries (.ok rows) (.acquired rows.connection :: executor.setup rows.connection ++
        [.queried rows.connection command.sql command.arguments])

theorem selection_run (conn : Nat) :
    (executor.select backend conn).run past =
      (executor.database?.bind fun name => (backend.exec? past (useStatement name)).map
        (Fault.under ("failed to select database " ++ name)), past ++ executor.setup conn) := by
  unfold select setup
  cases executor.database? with
  | none => exact Prod.ext rfl (append_nil past).symm
  | some name => rfl

theorem query_run : ∃ result events,
    (executor.query backend isCancelled command).run past = (result, past ++ events) ∧
      executor.Queries backend isCancelled command past result events := by
  unfold query
  by_cases absent : executor = .unavailable
  · rw [if_pos absent]
    exact ⟨_, [], Prod.ext rfl (append_nil past).symm, .unavailable absent⟩
  rw [if_neg absent]
  cases isCancelled with
  | true => exact ⟨_, [], Prod.ext rfl (append_nil past).symm, .calledOff rfl⟩
  | false =>
    simp only [Bool.false_eq_true, if_false, Session.bind_run, Session.acquire, Session.get_run]
    cases connect : backend.connect? past with
    | some fault => exact ⟨_, _, rfl, .refused connect⟩
    | none =>
      generalize past.countP Event.isAcquisition = conn
      simp only [Session.bind_run, Session.note_run, Session.pure_run, selection_run,
        append_assoc, singleton_append]
      cases selected : executor.database?.bind fun name =>
          (backend.exec? (past ++ [.acquired conn]) (useStatement name)).map
            (Fault.under ("failed to select database " ++ name)) with
      | some fault =>
        simp only [Option.bind_eq_some_iff, Option.map_eq_some_iff] at selected
        obtain ⟨name, database, fault, raised, rfl⟩ := selected
        refine ⟨_, _, ?_, .unselected ⟨rfl, connect⟩ database raised⟩
        simp only [Session.bind_run, Session.note_run, Session.pure_run, setup, database,
          append_assoc]
        rfl
      | none =>
        simp only [Option.bind_eq_none_iff, Option.map_eq_none_iff] at selected
        simp only [Session.bind_run, Session.get_run, Session.note_run]
        cases query : backend.query (past ++ .acquired conn :: executor.setup conn)
            command.sql command.arguments with
        | error fault =>
          refine ⟨_, _, ?_, .failed ⟨rfl, connect⟩ selected query⟩
          simp only [Session.bind_run, Session.note_run, Session.pure_run, append_assoc,
            cons_append, nil_append]
        | ok answer =>
          refine ⟨.ok ⟨conn, answer⟩, _, ?_, .answered ⟨rfl, connect⟩ selected query⟩
          simp only [Session.pure_run, append_assoc]

end Executor

end SelectGraph.Database
