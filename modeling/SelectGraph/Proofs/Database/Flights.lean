import SelectGraph.Proofs.Database.Reply

/-!
# Commands in flight

The commands of a request are in flight together, start at any time and land in any order; after a
failure they start called off, and what is in flight may be called off.  As long as none has failed,
each was started behind the ones before it, so what it yields does not depend on the schedule.  The
first failure is therefore one that its command yields when the commands run one after the other,
and without any of these the values are all there when the last command has landed.
-/

namespace SelectGraph.Database

open List

variable {progress next : Progress} {error : FetchError} {flight : Flight} {chosen : Nat}
  {past : List Event} {landed : List Flight} {index : Nat}

abbrev Outcome := Except FetchError (Option String)

variable {start : Bool → Command → Session Outcome} {limit? : Option Nat}

/-! ## Moves -/

/-- What a move can do. -/
inductive Advances (start : Bool → Command → Session Outcome) (limit? : Option Nat)
    (progress : Progress) (past : List Event) : Progress → List Event → Prop
  | idle (stuck : progress.waiting = [] ∨ progress.hasRoom limit? = false)
      (none : progress.flying = []) : Advances start limit? progress past progress past
  | starts {index : Nat} {command : Command} {others : List (Nat × Command)}
      (room : progress.hasRoom limit? = true)
      (next : progress.waiting = (index, command) :: others) :
      Advances start limit? progress past
        { progress with
          waiting := others
          flying := progress.flying ++
            [⟨index, command, ((start progress.failure?.isSome command).run past).1⟩] }
        ((start progress.failure?.isSome command).run past).2
  | lands {chosen : Nat} {flight landing : Flight} (found : progress.flying[chosen]? = some flight)
      (same : landing = flight ∨ progress.failure?.isSome ∧ landing = flight.calledOff) :
      Advances start limit? progress past
        { progress with
          flying := progress.flying.eraseIdx chosen
          landed := progress.landed ++ [landing]
          failure? := progress.failure? <|> failureOf? landing.outcome }
        past

namespace Progress

theorem land_advances (move : Move) (past : List Event)
    (stuck : progress.flying = [] → progress.waiting = [] ∨ progress.hasRoom limit? = false) :
    Advances start limit? progress past (progress.land move) past := by
  unfold land
  simp only
  split
  · next missing =>
      have none : progress.flying = [] := by
        apply eq_nil_of_length_eq_zero
        simp only [getElem?_eq_none_iff] at missing
        split at missing
        · omega
        · omega
      exact .idle (stuck none) none
  · next flight found =>
      apply Advances.lands found
      split
      · next calledOff =>
          right
          simp only [Bool.and_eq_true] at calledOff
          exact ⟨calledOff.2, rfl⟩
      · exact .inl rfl

theorem advance_advances (progress : Progress) (move : Move) (past : List Event) :
    Advances start limit? progress past ((progress.advance start limit? move).run past).1
      ((progress.advance start limit? move).run past).2 := by
  unfold advance
  split
  · next waiting => exact land_advances move past fun _ => .inl waiting
  · next index command others waiting =>
      split
      · next able =>
          simp only [Bool.and_eq_true] at able
          exact .starts able.1 waiting
      · next unable =>
          apply land_advances move past
          intro none
          right
          simpa [none] using unable

end Progress

/-- What every move keeps holds after any number of moves. -/
theorem makeMoves_keeps (holds : Progress → List Event → Prop)
    (step : ∀ {progress past next later}, holds progress past →
      Advances start limit? progress past next later → holds next later) (count : Nat)
    (schedule : List Move) (initially : holds progress past) :
    holds ((makeMoves start limit? count schedule progress).run past).1
      ((makeMoves start limit? count schedule progress).run past).2 := by
  induction count generalizing schedule progress past with
  | zero => exact initially
  | succ count ih =>
    apply ih
    exact step initially (progress.advance_advances _ past)

/-! ## What stays true -/

variable {yielded : List Outcome}

def isFailure (outcome : Outcome) : Bool :=
  (failureOf? outcome).isSome

/-- No command has failed so far: what waits will yield its outcome, what was started has it, and
what has landed is no failure. -/
structure Underway (start : Bool → Command → Session Outcome) (yielded : List Outcome)
    (progress : Progress) (past : List Event) : Prop where
  waiting : List.Forall₂ (fun entry outcome => yielded[entry.1]? = some outcome) progress.waiting
    (inTurn (start false) (progress.waiting.map Prod.snd) past)
  started : ∀ flight ∈ progress.flying ++ progress.landed,
    yielded[flight.index]? = some flight.outcome
  landed : ∀ flight ∈ progress.landed, isFailure flight.outcome = false

/-- The flight is the first that landed with a failure, and the failure is its own. -/
structure FirstFailure (yielded : List Outcome) (landed : List Flight) (flight : Flight)
    (error : FetchError) : Prop where
  first : landed.find? (isFailure ·.outcome) = some flight
  outcome : flight.outcome = .error error
  own : yielded[flight.index]? = some (.error error)

/-- Every command waits, is in flight or has landed.  Either none has failed so far, or the failure is
that of the first that failed. -/
structure Sound (start : Bool → Command → Session Outcome) (yielded : List Outcome)
    (progress : Progress) (past : List Event) : Prop where
  places : (progress.waiting.map Prod.fst ++
    (progress.flying ++ progress.landed).map Flight.index).Perm (range yielded.length)
  underway : progress.failure? = none → Underway start yielded progress past
  failed : ∀ error, progress.failure? = some error →
    ∃ flight, FirstFailure yielded progress.landed flight error

theorem failureOf?_eq_some {outcome : Outcome} :
    failureOf? outcome = some error ↔ outcome = .error error := by
  cases outcome with
  | error other => simp [failureOf?]
  | ok value => simp [failureOf?]

theorem FirstFailure.later (failure : FirstFailure yielded landed flight error)
    (more : List Flight) : FirstFailure yielded (landed ++ more) flight error := by
  constructor
  · rw [find?_append, failure.first]
    rfl
  · exact failure.outcome
  · exact failure.own

section

variable (underway : Underway start yielded progress past)

include underway

/-- The outcome of the first command that waits becomes that of its flight. -/
theorem Underway.starts {command : Command} {others : List (Nat × Command)}
    (next : progress.waiting = (index, command) :: others) :
    Underway start yielded
      { progress with
        waiting := others
        flying := progress.flying ++ [⟨index, command, ((start false command).run past).1⟩] }
      ((start false command).run past).2 := by
  obtain ⟨expected, started, landed⟩ := underway
  simp only [next, map_cons, inTurn_cons, forall₂_cons] at expected
  refine ⟨expected.2, ?_, landed⟩
  intro flight mem
  simp only [mem_append, mem_singleton] at mem
  rcases mem with (flying | rfl) | landed
  · exact started _ (mem_append_left _ flying)
  · exact expected.1
  · exact started _ (mem_append_right _ landed)

/-- A flight that lands without a failure before it and without one of its own. -/
theorem Underway.lands (found : progress.flying[chosen]? = some flight)
    (fine : isFailure flight.outcome = false) (failure? : Option FetchError) :
    Underway start yielded
      { progress with
        flying := progress.flying.eraseIdx chosen
        landed := progress.landed ++ [flight]
        failure? }
      past := by
  obtain ⟨expected, started, landed⟩ := underway
  have flew : flight ∈ progress.flying := mem_of_getElem? found
  refine ⟨expected, ?_, ?_⟩
  · intro other mem
    simp only [mem_append, mem_singleton] at mem
    rcases mem with flying | earlier | rfl
    · exact started _ (mem_append_left _ (mem_of_mem_eraseIdx flying))
    · exact started _ (mem_append_right _ earlier)
    · exact started _ (mem_append_left _ flew)
  · intro other mem
    simp only [mem_append, mem_singleton] at mem
    rcases mem with earlier | rfl
    · exact landed _ earlier
    · exact fine

/-- A flight that lands with the first failure. -/
theorem Underway.fails (found : progress.flying[chosen]? = some flight)
    (outcome : flight.outcome = .error error) :
    FirstFailure yielded (progress.landed ++ [flight]) flight error := by
  have earlier : progress.landed.find? (isFailure ·.outcome) = none := by
    rw [find?_eq_none]
    intro other mem
    simp [underway.landed _ mem]
  constructor
  · rw [find?_append, earlier]
    simp [isFailure, outcome, failureOf?]
  · exact outcome
  · rw [← outcome]
    exact underway.started _ (mem_append_left _ (mem_of_getElem? found))

end

theorem places_lands {landing : Flight} (found : progress.flying[chosen]? = some flight)
    (index : landing.index = flight.index) :
    ((progress.flying.eraseIdx chosen ++ (progress.landed ++ [landing])).map Flight.index).Perm
      ((progress.flying ++ progress.landed).map Flight.index) := by
  obtain ⟨inside, rfl⟩ := List.getElem?_eq_some_iff.mp found
  have taken := (List.getElem_cons_eraseIdx_perm inside).map Flight.index
  simp only [List.map_append, List.map_cons, index] at taken ⊢
  rw [← List.append_assoc]
  exact (List.perm_append_singleton _ _).trans (taken.append_right _)

theorem Sound.advances {later : List Event} (sound : Sound start yielded progress past)
    (advances : Advances start limit? progress past next later) :
    Sound start yielded next later := by
  cases advances with
  | idle => exact sound
  | @starts index command others room waiting =>
    refine ⟨?_, ?_, sound.failed⟩
    · have places := sound.places
      simp only [waiting, map_cons, map_append, map_nil] at places ⊢
      refine List.Perm.trans ?_ places
      simp only [append_assoc, cons_append]
      exact (perm_middle.append_left _).trans perm_middle
    · intro fine
      have continues : progress.failure?.isSome = false := congrArg _ fine
      rw [continues]
      exact (sound.underway fine).starts waiting
  | @lands chosen flight landing found same =>
    have index : landing.index = flight.index := by
      rcases same with rfl | ⟨-, rfl⟩
      · rfl
      · rfl
    refine ⟨((places_lands found index).append_left _).trans sound.places, ?_, ?_⟩
    · intro fine
      simp only [Option.orElse_eq_none] at fine
      have own : landing = flight := by
        rcases same with own | ⟨failed, -⟩
        · exact own
        · simp [fine.1] at failed
      subst own
      exact (sound.underway fine.1).lands found (congrArg _ fine.2) _
    · intro error failed
      cases failure : progress.failure? with
      | some earlier =>
        rw [failure] at failed
        cases failed
        obtain ⟨first, isFirst⟩ := sound.failed _ failure
        exact ⟨first, isFirst.later [landing]⟩
      | none =>
        have own : landing = flight := by
          rcases same with own | ⟨called, -⟩
          · exact own
          · simp [failure] at called
        subst own
        rw [failure] at failed
        exact ⟨landing, (sound.underway failure).fails found (failureOf?_eq_some.mp failed)⟩

theorem sound_initial (start : Bool → Command → Session Outcome) (commands : List Command)
    (past : List Event) :
    Sound start (inTurn (start false) commands past) (.initial commands) past := by
  have same : (Progress.initial commands).waiting.map Prod.snd = commands := by
    rw [Progress.initial, map_map]
    exact zipIdx_map_fst 0 _
  have indices : (Progress.initial commands).waiting.map Prod.fst = .range commands.length := by
    rw [Progress.initial, map_map]
    exact (zipIdx_map_snd 0 _).trans range_eq_range'.symm
  constructor
  · rw [indices, length_inTurn]
    simp [Progress.initial]
  · intro _
    refine ⟨?_, by simp [Progress.initial], by simp [Progress.initial]⟩
    rw [same, forall₂_iff_get]
    simp [Progress.initial, length_inTurn]
  · intro error impossible
    cases impossible

/-! ## Landing all -/

/-- The number of moves until all commands have landed. -/
def Progress.left (progress : Progress) : Nat :=
  2 * progress.waiting.length + progress.flying.length

theorem Advances.left {later : List Event}
    (advances : Advances start limit? progress past next later) (able : limit? ≠ some 0) :
    next.left = progress.left - 1 := by
  cases advances with
  | idle stuck none =>
    have nothing : progress.waiting = [] := by
      rcases stuck with nothing | full
      · exact nothing
      · cases limit? with
        | none => cases full
        | some limit =>
          simp only [Progress.hasRoom, none, List.length_nil, decide_eq_false_iff_not,
            not_lt, Nat.le_zero] at full
          exact absurd (congrArg some full) able
    simp [Progress.left, none, nothing]
  | starts room waiting =>
    simp only [Progress.left, waiting, List.length_append, List.length_cons, List.length_nil]
    omega
  | lands found same =>
    obtain ⟨inside, -⟩ := List.getElem?_eq_some_iff.mp found
    simp only [Progress.left, List.length_eraseIdx_of_lt inside]
    omega

theorem makeMoves_left (able : limit? ≠ some 0) (count : Nat) (schedule : List Move)
    (progress : Progress) (past : List Event) :
    ((makeMoves start limit? count schedule progress).run past).1.left =
      progress.left - count := by
  induction count generalizing schedule progress past with
  | zero => rfl
  | succ count ih =>
    have advances : Advances start limit? _ past _ _ :=
      progress.advance_advances (schedule.headD {}) past
    have later := ih schedule.tail ((progress.advance start limit? (schedule.headD {})).run past).1
      ((progress.advance start limit? (schedule.headD {})).run past).2
    rw [advances.left able] at later
    exact later.trans (by omega)

/-- A limit is kept by every move. -/
theorem Advances.flying_le {limit : Nat} {later : List Event}
    (within : progress.flying.length ≤ limit)
    (advances : Advances start (some limit) progress past next later) :
    next.flying.length ≤ limit := by
  cases advances with
  | idle => exact within
  | starts room waiting =>
    simp only [Progress.hasRoom] at room
    simpa using room
  | lands found same =>
    exact (length_eraseIdx_le ..).trans within

/-! ## All values -/

theorem valueAt_eq (started : ∀ flight ∈ landed, yielded[flight.index]? = some flight.outcome)
    (fine : ∀ flight ∈ landed, isFailure flight.outcome = false)
    (mem : index ∈ landed.map Flight.index) :
    yielded[index]? = some (.ok (valueAt landed index)) := by
  obtain ⟨flight, flew, rfl⟩ := mem_map.mp mem
  have exists? : (landed.find? fun other => other.index == flight.index).isSome :=
    find?_isSome.mpr ⟨flight, flew, beq_self_eq_true _⟩
  obtain ⟨found, found_eq⟩ := Option.isSome_iff_exists.mp exists?
  have index_eq : found.index = flight.index := by
    have same := find?_some found_eq
    exact eq_of_beq same
  have foundMem := mem_of_find?_eq_some found_eq
  have outcome_eq := started _ foundMem
  have isFine := fine _ foundMem
  rw [valueAt, found_eq, ← index_eq, outcome_eq]
  cases outcome : found.outcome with
  | ok value => simp [outcome]
  | error error => simp [outcome, isFailure, failureOf?] at isFine

theorem Sound.indices (sound : Sound start yielded progress past) (done : progress.left = 0) :
    (progress.landed.map Flight.index).Perm (range yielded.length) := by
  have waiting : progress.waiting = [] := by
    apply eq_nil_of_length_eq_zero
    unfold Progress.left at done
    omega
  have flying : progress.flying = [] := by
    apply eq_nil_of_length_eq_zero
    unfold Progress.left at done
    omega
  simpa [waiting, flying] using sound.places

/-- When all commands have landed without a failure, each has yielded the value that is taken. -/
theorem Sound.values (sound : Sound start yielded progress past) (done : progress.left = 0)
    (fine : progress.failure? = none) :
    yielded = ((range yielded.length).map (valueAt progress.landed)).map .ok := by
  have underway := sound.underway fine
  have started : ∀ flight ∈ progress.landed, yielded[flight.index]? = some flight.outcome := by
    intro flight mem
    exact underway.started _ (mem_append_right _ mem)
  apply ext_getElem?
  intro index
  by_cases inside : index < yielded.length
  · have mem : index ∈ progress.landed.map _ :=
      (sound.indices done).mem_iff.mpr (mem_range.mpr inside)
    rw [valueAt_eq started underway.landed mem]
    simp [inside]
  · simp [inside]

/-! ## Requests -/

section Requests

variable (backend : Backend) (executor : Executor) (isCancelled : Bool) (limit? : Option Nat)
  (schedule : List Move) (commands : List Command) (past : List Event)

theorem progressAfter_sound (moves : Nat) :
    Sound (fun failed => fetch backend executor (isCancelled || failed))
      (inTurn (fetch backend executor isCancelled) commands past)
      ((progressAfter backend executor isCancelled limit? schedule commands moves).run past).1
      ((progressAfter backend executor isCancelled limit? schedule commands moves).run past).2 := by
  apply makeMoves_keeps _ .advances
  have sound := sound_initial (fun failed => fetch backend executor (isCancelled || failed))
    commands past
  rwa [Bool.or_false] at sound

theorem progressAfter_left (able : limit? ≠ some 0) :
    ((progressAfter backend executor isCancelled limit? schedule commands
      (2 * commands.length)).run past).1.left = 0 := by
  refine (makeMoves_left able _ _ _ _).trans ?_
  simp [Progress.left, Progress.initial]

/-- Fetching all values gives them if every command yields one, and the first failure otherwise,
whatever the schedule. -/
theorem fetchAll_outcome (able : limit? ≠ some 0) :
    let yielded := inTurn (fetch backend executor isCancelled) commands past
    let result := ((fetchAll backend executor isCancelled limit? schedule commands).run past).1
    (∃ values, yielded = values.map .ok ∧ result.outcome = .ok values ∧
        ∀ flight ∈ result.landed, yielded[flight.index]? = some flight.outcome) ∨
      ∃ flight error, FirstFailure yielded result.landed flight error ∧
        result.outcome = .error error := by
  intro yielded result
  have sound := progressAfter_sound backend executor isCancelled limit? schedule commands past
    (2 * commands.length)
  have done := progressAfter_left backend executor isCancelled _ schedule commands past able
  have final : result = Progress.result _ ((progressAfter _ _ _
    _ _ _ _).run past).1 := rfl
  generalize ((progressAfter _ _ _ _ _ _
    _).run past).1 = progress at sound done final
  rw [final]
  cases failure : progress.failure? with
  | none =>
    have values := sound.values done failure
    rw [length_inTurn] at values
    refine .inl ⟨_, values, by rw [Progress.result, failure], ?_⟩
    intro flight mem
    exact (sound.underway failure).started _ (mem_append_right _ mem)
  | some error =>
    obtain ⟨flight, first⟩ := sound.failed _ failure
    exact .inr ⟨flight, error, first, by rw [Progress.result, failure]⟩

theorem fetchAll_indices (able : limit? ≠ some 0) :
    (((fetchAll backend executor isCancelled limit? schedule commands).run past).1.landed.map
      Flight.index).Perm (range commands.length) := by
  have indices := (progressAfter_sound _ _ _ _ _ _ past
    _).indices
      (progressAfter_left backend executor isCancelled _ schedule commands past able)
  rwa [length_inTurn] at indices

end Requests

end SelectGraph.Database
