import SelectGraph.Proofs.Database.Flights

/-!
# The first failure of a request

What a request gets does not depend on the schedule of its commands, except for which of their
failures is reported: that of the command which was the first to fail.  It is never one that another
failure has provoked.
-/

namespace SelectGraph.Database

/-! ## Faults that say that a request was called off -/

/-- No fault of the database says that the request was called off. -/
structure Backend.Uninterrupted (backend : Backend) : Prop where
  connect : ∀ past fault, backend.connect? past = some fault → fault.isCancellation = false
  select : ∀ past sql fault, backend.exec? past sql = some fault → fault.isCancellation = false
  query : ∀ past sql args fault,
    backend.query past sql args = .error fault → fault.isCancellation = false
  rows : ∀ past sql args answer fault, backend.query past sql args = .ok answer →
    answer.fault? = some fault → fault.isCancellation = false

/-- No fault of the reply says that the request was called off. -/
def Reply.Uninterrupted (reply : Reply) : Prop :=
  ∀ fault, reply.Raises fault → fault.isCancellation = false

namespace Reply

theorem uninterrupted_error {fault : Fault} (sound : fault.isCancellation = false) :
    Uninterrupted (.error fault) := by
  intro other raises
  cases raises
  exact sound

theorem uninterrupted_ok {answer : Answer}
    (sound : ∀ fault, answer.fault? = some fault → fault.isCancellation = false) :
    Uninterrupted (.ok answer) := by
  intro fault raises
  cases raises with
  | scan => rfl
  | iteration readable fails => exact sound _ fails

theorem Uninterrupted.outcome {reply : Reply} (sound : reply.Uninterrupted) {field : String}
    {error : FetchError} (failed : reply.outcome field = .error error) :
    error.isCancellation = false := by
  cases outcome_eq_error.mp failed with
  | counted several => rfl
  | told raises number => rfl
  | store raises number => exact sound _ raises

end Reply

section Uninterrupted

variable {backend : Backend} (sound : backend.Uninterrupted)

include sound

/-- A command that is not called off meets only faults of the database. -/
theorem reply_uninterrupted (executor : Executor) (command : Command) (past : List Event) :
    ((reply backend executor false command).run past).1.Uninterrupted := by
  obtain ⟨result, events, ran, queries⟩ := executor.query_run backend false command past
  unfold reply
  rw [Session.bind_run, ran]
  cases queries with
  | unavailable => exact Reply.uninterrupted_error rfl
  | calledOff calledOff => cases calledOff
  | @refused fault connect =>
    have genuine : (executor.acquireFault fault).isCancellation = false := by
      unfold Executor.acquireFault
      split <;> exact sound.connect _ fault connect
    exact Reply.uninterrupted_error genuine
  | @unselected _ name fault _ _ select =>
    have genuine : (fault.under ("failed to select database " ++ name)).isCancellation = false :=
      sound.select _ _ fault select
    exact Reply.uninterrupted_error genuine
  | failed _ _ query => exact Reply.uninterrupted_error (sound.query _ _ _ _ query)
  | answered _ _ query =>
    exact Reply.uninterrupted_ok fun fault => sound.rows _ _ _ _ fault query

/-- So no command fails because it was called off. -/
theorem inTurn_uninterrupted (executor : Executor) (commands : List Command) (past : List Event)
    {error : FetchError} (mem : .error error ∈ inTurn (fetch backend executor false) commands past) :
    error.isCancellation = false := by
  induction commands generalizing past with
  | nil => cases mem
  | cons command commands ih =>
    rw [inTurn_cons, List.mem_cons] at mem
    rcases mem with first | later
    · rw [fetch_eq] at first
      exact (reply_uninterrupted sound _ _ past).outcome first.symm
    · exact ih _ later

end Uninterrupted

/-! ## What a request gets -/

theorem FirstFailure.unique {yielded : List Outcome} {landed : List Flight} {first second : Flight}
    {error other : FetchError} (failure : FirstFailure yielded landed first error)
    (again : FirstFailure yielded landed second other) : error = other := by
  have same : first = second := Option.some.inj (failure.first.symm.trans again.first)
  subst same
  have outcomes := failure.outcome.symm.trans again.outcome
  cases outcomes
  rfl

theorem FirstFailure.ne_values {yielded : List Outcome} {landed : List Flight} {flight : Flight}
    {error : FetchError} (failure : FirstFailure yielded landed flight error)
    (values : List (Option String)) : yielded ≠ values.map .ok := by
  intro all
  have own := failure.own
  simp [all] at own

theorem limitOf_ne (setting : Int) : limitOf setting ≠ some 0 := by
  unfold limitOf
  split
  · next positive =>
      intro zero
      simp only [Option.some.injEq] at zero
      omega
  · simp

theorem progressAfter_flying_le (backend : Backend) (executor : Executor) (isCancelled : Bool)
    (limit : Nat) (schedule : List Move) (commands : List Command) (past : List Event)
    (moves : Nat) :
    ((progressAfter backend executor isCancelled (some limit) schedule commands moves).run
      past).1.flying.length ≤ limit := by
  apply makeMoves_keeps fun progress _ => progress.flying.length ≤ limit
  · intro progress past next later within advances
    exact advances.flying_le within
  · exact Nat.zero_le _

/-- A request gets the values of all commands exactly if each of them yields one, in the order of the
commands, and otherwise the failure of the command that was the first to fail, for every schedule.
That failure is one which the command meets by itself, never one that another has provoked, and no
more commands are in flight than the setting allows. -/
theorem fetchAll_first_failure (backend : Backend) (executor : Executor) (isCancelled : Bool)
    (setting : Int) (schedule : List Move) (commands : List Command) (past : List Event) :
    let yielded := inTurn (fetch backend executor isCancelled) commands past
    let result :=
      ((fetchAll backend executor isCancelled (limitOf setting) schedule commands).run past).1
    (result.landed.map Flight.index).Perm (List.range commands.length) ∧
      (∀ values, result.outcome = .ok values ↔ yielded = values.map .ok) ∧
      (∀ values, result.outcome = .ok values → ∀ flight ∈ result.landed,
        ∃ value, values[flight.index]? = some value ∧ flight.outcome = .ok value) ∧
      (∀ error, result.outcome = .error error ↔
        ∃ flight, FirstFailure yielded result.landed flight error) ∧
      (isCancelled = false → backend.Uninterrupted →
        ∀ error, result.outcome = .error error → error.isCancellation = false) ∧
      (0 < setting → ∀ moves, ((progressAfter backend executor isCancelled (limitOf setting) schedule
        commands moves).run past).1.flying.length ≤ setting) := by
  intro yielded result
  have able := limitOf_ne setting
  refine ⟨fetchAll_indices backend executor isCancelled _ schedule commands past able, ?_⟩
  have bound : 0 < setting → ∀ moves, ((progressAfter backend executor isCancelled (limitOf setting)
      schedule commands moves).run past).1.flying.length ≤ setting := by
    intro positive moves
    have within := progressAfter_flying_le backend executor isCancelled setting.toNat schedule commands
      past moves
    rw [limitOf, if_pos positive]
    omega
  rcases fetchAll_outcome backend executor isCancelled _ schedule commands past able with
    ⟨values, all, outcome, landed⟩ | ⟨flight, error, failure, outcome⟩
  · have noFailure : ∀ error, result.outcome ≠ .error error := by simp [result, outcome]
    refine ⟨?_, ?_, ?_, ?_, bound⟩
    · intro others
      constructor
      · intro given
        cases outcome.symm.trans given
        exact all
      · intro same
        have ends := all.symm.trans same
        rw [List.map_inj_right (fun _ _ => Except.ok.inj)] at ends
        rwa [ends] at outcome
    · intro others given flight mem
      cases outcome.symm.trans given
      have own := landed flight mem
      rw [all, List.getElem?_map, Option.map_eq_some_iff] at own
      obtain ⟨value, found, same⟩ := own
      exact ⟨value, found, same.symm⟩
    · intro error
      refine iff_of_false (noFailure error) ?_
      rintro ⟨flight, failure⟩
      exact failure.ne_values values all
    · intro _ _ error given
      exact absurd given (noFailure error)
  · have noValues : ∀ values, result.outcome ≠ .ok values := by simp [result, outcome]
    refine ⟨?_, ?_, ?_, ?_, bound⟩
    · intro values
      exact iff_of_false (noValues values) (failure.ne_values values)
    · intro values given
      exact absurd given (noValues values)
    · intro other
      constructor
      · intro given
        cases outcome.symm.trans given
        exact ⟨flight, failure⟩
      · rintro ⟨again, failed⟩
        rw [failed.unique failure]
        exact outcome
    · intro calm sound other given
      cases outcome.symm.trans given
      subst calm
      exact inTurn_uninterrupted sound executor commands past (List.mem_of_getElem? failure.own)

def filmlessBackend : Backend where
  connect? _ := none
  ping? _ := none
  exec? _ _ := none
  query _ sql _ :=
    if sql = "SELECT films" then .error { text := "no such table", number? := some 1146 }
    else .ok { columns := 1, rows := [[.text "[]"]] }

def fourCommands : List Command :=
  ["actors", "films", "stores", "staff"].map fun field => ⟨field, "SELECT " ++ field, []⟩

/-- Three commands start and the second lands with its failure; then the fourth starts, and the first
is called off. -/
def failingSchedule : List Move :=
  [{}, {}, {}, { starts := false, place := 1 }, {}, { starts := false, isCalledOff := true }]

theorem filmlessBackend_uninterrupted : filmlessBackend.Uninterrupted := by
  constructor
  · intro past fault refused
    cases refused
  · intro past sql fault refused
    cases refused
  · intro past sql args fault failed
    simp only [filmlessBackend] at failed
    split at failed
    · cases failed
      rfl
    · cases failed
  · intro past sql args answer fault answered fails
    simp only [filmlessBackend] at answered
    split at answered
    · cases answered
    · cases answered
      cases fails

theorem fetchAll_first_failure_films :
    let result :=
      ((fetchAll filmlessBackend .plain false (limitOf 3) failingSchedule fourCommands).run []).1
    result.outcome = .error (.store "films" { text := "no such table", number? := some 1146 }) ∧
      result.landed.map (fun flight => (flight.index, (failureOf? flight.outcome).map
        FetchError.isCancellation)) =
        [(1, some false), (0, some true), (2, none), (3, some true)] ∧
      (∀ error, result.outcome = .error error → error.isCancellation = false) ∧
      ∀ moves, (((progressAfter filmlessBackend .plain false (limitOf 3) failingSchedule fourCommands
        moves).run []).1.flying.length : Int) ≤ 3 := by
  intro result
  obtain ⟨-, -, -, -, genuine, bound⟩ :=
    fetchAll_first_failure filmlessBackend .plain false 3 failingSchedule fourCommands []
  exact ⟨rfl, rfl, genuine rfl filmlessBackend_uninterrupted, bound (by decide)⟩

end SelectGraph.Database
