import Mathlib
import SelectGraph.App.Session

/-!
# Releasing what an application holds

The changes of an application can be replayed on a stack: an acquisition puts something on it, and a
release has to take off what is on top.  What is acquired has a number of its own, so nothing is
released more often than it was acquired, which is once.

An initialisation acquires its components in a fixed order.  If it succeeds it has acquired all of
them, and if it fails it has acquired some first part and releases that part again.
-/

namespace SelectGraph.App

open List

open Telemetry (Journal Observed)

variable {calls : List (World × Action)} {app : App}

/-! ## Replaying changes -/

/-- What is held after changes, the newest first.  There is no answer if something is released that
is not the newest. -/
def replay : (held : List Holding) → List Change → Option (List Holding)
  | held, [] => some held
  | held, .acquired holding :: changes => replay (holding :: held) changes
  | [], .released _ :: _ => none
  | newest :: held, .released holding :: changes =>
    if holding = newest then replay held changes else none

theorem replay_append (held : List Holding) (changes more : List Change) :
    replay held (changes ++ more) = (replay held changes).bind fun after => replay after more := by
  induction changes generalizing held with
  | nil => rfl
  | cons change changes ih =>
    cases change with
    | acquired holding => exact ih _
    | released holding =>
      cases held with
      | nil => rfl
      | cons newest held =>
        rw [cons_append, replay, replay]
        split
        · exact ih held
        · rfl

theorem replay_acquired (held acquired : List Holding) :
    replay held (acquired.map .acquired) = some (acquired.reverse ++ held) := by
  induction acquired generalizing held with
  | nil => rfl
  | cons holding acquired ih =>
    rw [map_cons, replay, ih, reverse_cons, append_assoc]
    rfl

theorem replay_released (released held : List Holding) :
    replay (released ++ held) (released.map .released) = some held := by
  induction released with
  | nil => rfl
  | cons holding released ih =>
    rw [cons_append, map_cons, replay, if_pos rfl, ih]

/-- What has been acquired is held or has been released. -/
theorem count_replay {held after : List Holding} {changes : List Change}
    (replayed : replay held changes = some after) (holding : Holding) :
    held.count holding + changes.count (.acquired holding) =
      changes.count (.released holding) + after.count holding := by
  induction changes generalizing held with
  | nil =>
    cases replayed
    simp
  | cons change changes ih =>
    cases change with
    | acquired other =>
      have rest := ih replayed
      simp only [count_cons, beq_iff_eq, Change.acquired.injEq, reduceCtorEq, if_false]
        at rest ⊢
      omega
    | released other =>
      cases held with
      | nil => cases replayed
      | cons newest held =>
        rw [replay] at replayed
        split at replayed
        · rename_i same
          subst same
          have rest := ih replayed
          simp only [count_cons, beq_iff_eq, Change.released.injEq, reduceCtorEq,
            if_false] at rest ⊢
          omega
        · cases replayed

/-! ## Numbers -/

/-- What has been acquired, in order. -/
def acquisitions (changes : List Change) : List Holding :=
  changes.filterMap fun
    | .acquired holding => some holding
    | .released _ => none

theorem acquisitions_append (changes more : List Change) :
    acquisitions (changes ++ more) = acquisitions changes ++ acquisitions more :=
  filterMap_append

theorem acquisitions_acquired (holdings : List Holding) :
    acquisitions (holdings.map .acquired) = holdings := by
  simp [acquisitions, filterMap_map]

theorem acquisitions_released (holdings : List Holding) :
    acquisitions (holdings.map .released) = [] := by
  simp [acquisitions]

theorem count_acquired (changes : List Change) (holding : Holding) :
    changes.count (.acquired holding) = (acquisitions changes).count holding := by
  rw [acquisitions, count_filterMap, count]
  refine countP_congr fun change _ => ?_
  cases change <;> simp

/-- The components as they are acquired, with numbers from the given one on. -/
def numbered (serial : Nat) : List Component → List Holding
  | [] => []
  | component :: components => ⟨component, serial⟩ :: numbered (serial + 1) components

theorem numbered_serials (serial : Nat) (components : List Component) :
    (numbered serial components).map Holding.serial = range' serial components.length := by
  induction components generalizing serial with
  | nil => rfl
  | cons component components ih =>
    rw [numbered, map_cons, ih, length_cons, range'_succ]

theorem numbered_eq_nil_iff {serial : Nat} {components : List Component} :
    numbered serial components = [] ↔ components = [] := by
  cases components <;> simp [numbered]

namespace Holdings

/-- Acquire components one after the other. -/
def acquireAll (holdings : Holdings) (components : List Component) : Holdings :=
  components.foldl acquire holdings

theorem acquireAll_eq (holdings : Holdings) (components : List Component) :
    holdings.acquireAll components =
      { stack := (numbered holdings.serial components).reverse ++ holdings.stack
        changes := holdings.changes ++ (numbered holdings.serial components).map .acquired
        serial := holdings.serial + components.length } := by
  induction components generalizing holdings with
  | nil => simp [acquireAll, numbered]
  | cons component components ih =>
    have step : holdings.acquireAll (component :: components) =
        (holdings.acquire component).acquireAll components := rfl
    rw [step, ih]
    simp [acquire, numbered, Nat.add_assoc, Nat.add_comm 1]

end Holdings

/-! ## Steps of an initialisation -/

namespace Step

variable {α β : Type} {step : Step Unit} {more : List Component} {property : α → Prop}
  {last : β → Prop} {condition : Bool}

/-- What a step comes to: its outcome, what is held then and what is left behind. -/
def result (step : Step α) (holdings : Holdings) (journal : Journal) :
    (Except InitError α × Holdings) × Journal :=
  (step.run.run holdings).run journal

theorem result_bind (step : Step α) (next : α → Step β) (holdings : Holdings) (journal : Journal) :
    (step >>= next).result holdings journal =
      match step.result holdings journal with
      | ((.ok value, after), rest) => (next value).result after rest
      | ((.error cause, after), rest) => ((.error cause, after), rest) := by
  change (match step.result holdings journal with
    | ((outcome, after), rest) => ((ExceptT.bindCont next outcome).run after).run rest) = _
  rcases step.result holdings journal with ⟨⟨outcome | value, after⟩, rest⟩ <;> rfl

/-- A step acquires components in order: all of them if it succeeds, with a value that has a
property, and some first part of them if it fails. -/
structure Takes (step : Step α) (components : List Component) (property : α → Prop) : Prop where
  taken : ∀ holdings journal,
    match step.result holdings journal with
    | ((.ok value, after), _) => after = holdings.acquireAll components ∧ property value
    | ((.error _, after), _) => ∃ taken, taken <+: components ∧ after = holdings.acquireAll taken

theorem Takes.bind {step : Step α} {next : α → Step β} {components : List Component}
    (first : step.Takes components property)
    (others : ∀ value, property value → (next value).Takes more last) :
    (step >>= next).Takes (components ++ more) last := by
  refine ⟨fun holdings journal => ?_⟩
  have taken := first.taken holdings journal
  rw [result_bind]
  generalize step.result holdings journal = outcome at taken ⊢
  rcases outcome with ⟨⟨cause | value, after⟩, rest⟩
  · obtain ⟨taken, early, rfl⟩ := taken
    exact ⟨taken, early.trans (prefix_append _ _), rfl⟩
  · obtain ⟨rfl, holds⟩ := taken
    have later := (others value holds).taken (holdings.acquireAll components) rest
    dsimp only
    generalize (next value).result _ rest = outcome at later ⊢
    rcases outcome with ⟨⟨cause | result, after⟩, rest⟩
    · obtain ⟨taken, early, rfl⟩ := later
      exact ⟨components ++ taken, prefix_append_right_inj _ |>.mpr early,
        foldl_append.symm⟩
    · exact ⟨later.1.trans foldl_append.symm, later.2⟩

theorem Takes.pure {value : α} (holds : property value) :
    (Pure.pure value : Step α).Takes [] property :=
  ⟨fun _ _ => ⟨rfl, holds⟩⟩

theorem Takes.throw (cause : InitError) (components : List Component) (property : α → Prop) :
    (MonadExcept.throw cause : Step α).Takes components property :=
  ⟨fun _ _ => ⟨[], nil_prefix, rfl⟩⟩

theorem takes_observe (action : Observed α) : (observe action).Takes [] fun _ => True :=
  ⟨fun _ _ => ⟨rfl, trivial⟩⟩

theorem takes_log (app : App) (level : Log.Level) (message : String) (fields : Log.Fields) :
    (log app level message fields).Takes [] fun _ => True :=
  takes_observe _

theorem takes_given {ε : Type} (outcome : Except ε α) (wrap : ε → InitError) :
    (given outcome wrap).Takes [] fun _ => True := by
  refine ⟨fun holdings journal => ?_⟩
  cases outcome with
  | ok value => exact ⟨rfl, trivial⟩
  | error cause => exact ⟨[], nil_prefix, rfl⟩

theorem takes_acquire (component : Component) : (acquire component).Takes [component] fun _ => True :=
  ⟨fun _ _ => ⟨rfl, trivial⟩⟩

/-- Something that is done under a condition acquires under that condition. -/
theorem Takes.ite {components : List Component} (taken : step.Takes components fun _ => True) :
    (if condition = true then step else Pure.pure () : Step Unit).Takes
      (if condition = true then components else []) fun _ => True := by
  cases condition with
  | false => exact Takes.pure trivial
  | true => exact taken

theorem Takes.branch {next : Unit → Step β} {components : List Component}
    (first : step.Takes components fun _ => True) (others : (next ()).Takes more last) :
    (if condition = true then step >>= next else next ()).Takes
      ((if condition = true then components else []) ++ more) last := by
  cases condition with
  | false => exact others
  | true => exact first.bind fun _ _ => others

end Step

/-- What an initialisation acquires, in this order. -/
def components (app : App) : List Component :=
  (if app.exportsLogs = true then [.loggerProvider] else []) ++
    ((if app.settings.observability.measures = true then [.meterProvider] else []) ++
      ((if app.settings.observability.traces = true then [.tracerProvider] else []) ++
        [.database, .server]))

section Initialising

open Step

variable (app : App) (world : World)

theorem setUp_takes (part : MetricsPart) : (world.setUp part).Takes [] fun _ => True := by
  unfold World.setUp
  split
  · exact Takes.throw ..
  · exact Takes.pure trivial

theorem setUpMetrics_takes : (setUpMetrics app world).Takes
    (if app.settings.observability.measures = true then [.meterProvider] else []) fun _ => True :=
  Takes.ite ((setUp_takes ..).bind fun _ _ => (takes_acquire _).bind fun _ _ =>
    (setUp_takes ..).bind fun _ _ => (takes_log ..).bind fun _ _ => (setUp_takes ..).bind fun _ _ =>
      takes_log ..)

theorem setUpTracing_takes : (setUpTracing app world).Takes
    (if app.settings.observability.traces = true then [.tracerProvider] else []) fun _ => True :=
  Takes.ite ((takes_log ..).bind fun _ _ => (takes_given ..).bind fun _ _ => takes_acquire _)

theorem databaseName_takes : (databaseName app).Takes [] fun _ => True := by
  unfold databaseName
  split
  · exact Takes.pure trivial
  · split
    · exact Takes.throw ..
    · exact Takes.pure trivial

theorem openDatabase_takes : (openDatabase app world).Takes [.database] fun _ => True := by
  have opened (backend : Database.Backend) :
      (acquire .database >>= fun _ => pure backend).Takes [.database] fun _ => True :=
    (takes_acquire _).bind fun _ _ => Takes.pure trivial
  refine (takes_given ..).bind fun wire _ => ?_
  dsimp only [nil_append]
  split
  · split
    · exact (takes_log ..).bind fun _ _ => (takes_log ..).bind fun _ _ => opened _
    · exact (takes_log ..).bind fun _ _ => opened _
  · exact opened _

theorem connect_takes (backend : Database.Backend) (name : String) (isCancelled : Bool) :
    (connect app backend name isCancelled).Takes [] fun _ => True :=
  (takes_log ..).bind fun _ _ => (takes_observe _).bind fun _ _ => (takes_given ..).bind fun _ _ =>
    takes_log ..

theorem setUpService_takes (service : Service.Service) :
    (setUpService app world service).Takes [.server] fun _ => True :=
  (takes_observe _).bind fun _ _ => (takes_given ..).bind fun _ _ =>
    (takes_observe _).bind fun _ _ => takes_acquire _

theorem steps_takes (isCancelled : Bool) :
    (steps app world isCancelled).Takes app.components fun ready => ready.isOpen = true := by
  unfold steps components
  refine Takes.branch (takes_acquire _) ?_
  refine (setUpMetrics_takes app world).bind fun _ _ => ?_
  refine (setUpTracing_takes app world).bind fun _ _ => ?_
  refine (databaseName_takes app).bind fun name _ => ?_
  refine (openDatabase_takes app world).bind fun backend _ => ?_
  refine (connect_takes app backend name isCancelled).bind fun _ _ => ?_
  refine ((takes_observe _).bind fun _ _ => takes_given ..).bind fun model _ => ?_
  exact (setUpService_takes app world _).bind fun _ _ => Takes.pure rfl

end Initialising

/-! ## Moves

Of an application, only a part decides what it still has to release.  A call moves that part in one of
four ways. -/

/-- What of an application decides about releases: whether it is ready and still open, what it will
release, and what it has acquired and released so far. -/
structure Custody where
  open? : Option Bool
  cleanup : List Holding
  changes : List Change
  serial : Nat
  isShutDown : Bool

/-- What decides about the releases of an application. -/
def custody (app : App) : Custody :=
  ⟨app.ready?.map Ready.isOpen, app.cleanup, app.changes, app.serial, app.isShutDown⟩

namespace Custody

/-- What calls can do.  Only a shutdown is a call that stops. -/
inductive Moves : (stops : Bool) → Custody → Custody → Prop where
  | idle {stops : Bool} {custody : Custody} (already : stops = true → custody.isShutDown = true) :
      Moves stops custody custody
  | opened {custody : Custody} {components : List Component} (unready : custody.open? = none)
      (some : components ≠ []) :
      Moves false custody { custody with
        open? := Option.some true
        cleanup := (numbered custody.serial components).reverse
        changes := custody.changes ++ (numbered custody.serial components).map .acquired
        serial := custody.serial + components.length }
  | failed {custody : Custody} (taken : List Component) (unready : custody.open? = none) :
      Moves false custody { custody with
        changes := custody.changes ++ (numbered custody.serial taken).map .acquired ++
          (numbered custody.serial taken).reverse.map .released
        serial := custody.serial + taken.length }
  | closed {custody : Custody} (running : custody.isShutDown = false) :
      Moves true custody { custody with
        open? := custody.open?.map fun _ => false
        changes := custody.changes ++ custody.cleanup.map .released
        isShutDown := true }

end Custody

/-- The result of two computations is a result of the second. -/
theorem run_bind_eq {α β : Type} {action : Observed α} {next : α → Observed β} {result : β}
    (all : ∀ value journal, ((next value).run journal).1 = result) (journal : Journal) :
    ((action >>= next).run journal).1 = result :=
  all _ _

theorem releaseAll_run (logger : Log.Logger) (fault? : Component → Option String)
    (held : List Holding) (changes : List Change) (journal : Journal) :
    ((releaseAll logger fault? held changes).run journal).1 = changes ++ held.map .released := by
  induction held generalizing changes journal with
  | nil => exact (append_nil changes).symm
  | cons holding held ih =>
    have rest (journal : Journal) := ih (changes ++ [.released holding]) journal
    rw [append_assoc, singleton_append] at rest
    rw [releaseAll, map_cons]
    refine run_bind_eq (fun _ _ => run_bind_eq (fun fault? _ => ?_) _) _
    cases fault? with
    | none => exact rest _
    | some fault => exact run_bind_eq (fun _ journal => rest journal) _

theorem init_run (app : App) (world : World) (isCancelled : Bool) (journal : Journal)
    (unready : app.ready? = none) :
    ((app.init world isCancelled).run journal).1 =
      match (steps app world isCancelled).result { changes := app.changes, serial := app.serial }
        journal with
      | ((.ok ready, holdings), _) =>
        (.ok (), { app with
          ready? := some ready
          cleanup := holdings.stack
          changes := holdings.changes
          serial := holdings.serial })
      | ((.error cause, holdings), _) =>
        (.error cause, { app with
          changes := holdings.changes ++ holdings.stack.map .released
          serial := holdings.serial }) := by
  simp only [init, unready, Option.isSome_none, Bool.false_eq_true, if_false, StateT.run_bind]
  have stepped : StateT.run (StateT.run (steps app world isCancelled).run
      { changes := app.changes, serial := app.serial }) journal = (steps app world isCancelled).result
      { changes := app.changes, serial := app.serial } journal := rfl
  rw [stepped]
  generalize (steps app world isCancelled).result _ journal = outcome
  rcases outcome with ⟨⟨cause | ready, holdings⟩, rest⟩
  · dsimp only
    rw [← releaseAll_run app.logger _ _ _ rest]
    rfl
  · rfl

/-- What becomes of an application that is not ready: it keeps all components, or it is as before but
for the record of those that were acquired and released again. -/
theorem init_cases (unready : app.ready? = none) (world : World) (isCancelled : Bool)
    (journal : Journal) :
    (∃ ready, ready.isOpen = true ∧
      ((app.init world isCancelled).run journal).1 = (.ok (), { app with
        ready? := some ready
        cleanup := (numbered app.serial app.components).reverse
        changes := app.changes ++ (numbered app.serial app.components).map .acquired
        serial := app.serial + app.components.length })) ∨
      ∃ cause taken, taken <+: app.components ∧
        ((app.init world isCancelled).run journal).1 = (.error cause, { app with
          changes := app.changes ++ (numbered app.serial taken).map .acquired ++
            (numbered app.serial taken).reverse.map .released
          serial := app.serial + taken.length }) := by
  have taken := (steps_takes app world isCancelled).taken
    { changes := app.changes, serial := app.serial } journal
  rw [init_run app world isCancelled journal unready]
  generalize (steps app world isCancelled).result _ journal = outcome at taken ⊢
  rcases outcome with ⟨⟨cause | ready, holdings⟩, rest⟩
  · obtain ⟨taken, early, rfl⟩ := taken
    exact .inr ⟨cause, taken, early, by simp [Holdings.acquireAll_eq]⟩
  · obtain ⟨rfl, isOpen⟩ := taken
    exact .inl ⟨ready, isOpen, by simp [Holdings.acquireAll_eq]⟩

theorem init_ready {ready : Ready} (found : app.ready? = some ready) (world : World)
    (isCancelled : Bool) (journal : Journal) :
    (app.init world isCancelled).run journal = ((.ok (), app), journal) := by
  simp only [init, found]
  rfl

/-- An initialisation keeps what it acquires, or releases it again. -/
theorem init_moves (app : App) (world : World) (isCancelled : Bool) (journal : Journal) :
    Custody.Moves false app.custody ((app.init world isCancelled).run journal).1.2.custody := by
  cases found : app.ready? with
  | some ready =>
    rw [init_ready found]
    exact .idle nofun
  | none =>
    have unready : app.custody.open? = none := by rw [custody, found]; rfl
    obtain ⟨ready, isOpen, same⟩ | ⟨cause, taken, -, same⟩ := init_cases found world isCancelled journal
    · have next := Custody.Moves.opened unready (show app.components ≠ [] by simp [components])
      simpa [same, custody, isOpen] using next
    · rw [same]
      exact .failed taken unready

theorem start_moves (app : App) (world : World) (journal : Journal) :
    Custody.Moves false app.custody ((app.start world).run journal).1.2.custody := by
  unfold start
  split
  · exact .idle nofun
  · split
    · exact .idle nofun
    · exact .idle nofun

theorem wait_moves (app : App) (stop? : Option Stop) (report? : Option Report) (journal : Journal) :
    Custody.Moves false app.custody ((app.wait stop? report?).run journal).1.2.custody := by
  have kept : ((app.wait stop? report?).run journal).1.2.custody = app.custody := by
    have after : (if report?.isNone && app.failures?.isSome then
        { app with failures? := some .silent } else app).custody = app.custody := by
      split <;> rfl
    unfold wait
    dsimp only
    split
    · rfl
    · exact after
    · exact after
    · rfl
    · rfl
  rw [kept]
  exact .idle nofun

theorem shutdown_moves (app : App) (world : World) (journal : Journal) :
    Custody.Moves true app.custody ((app.shutdown world).run journal).1.custody := by
  unfold shutdown
  split
  · rename_i before
    exact .idle fun _ => before
  · rename_i running
    have next : Custody.Moves true app.custody _ := .closed (Bool.eq_false_iff.mpr running)
    have closed : (app.ready?.map fun ready => { ready with isOpen := false }).map Ready.isOpen =
        (app.ready?.map Ready.isOpen).map fun _ => false := by
      cases app.ready? <;> rfl
    rw [custody, ← releaseAll_run app.logger world.releaseFault? _ _ journal, ← closed] at next
    exact next

/-- A call that puts nothing on the stack from outside. -/
def Action.IsCall (action : Action) : Prop :=
  ∀ name fault?, action ≠ .push name fault?

def Action.stops : Action → Bool
  | .shutdown => true
  | _ => false

theorem act_moves (app : App) (world : World) {action : Action} (call : action.IsCall)
    (journal : Journal) :
    Custody.Moves action.stops app.custody ((app.act world action).run journal).1.2.custody := by
  cases action with
  | make hasSettings hasLogger =>
    unfold act
    dsimp only
    split <;> exact .idle nofun
  | push name fault? => exact absurd rfl (call name fault?)
  | attach => exact .idle nofun
  | init isCancelled => exact init_moves app world isCancelled journal
  | start => exact start_moves app world journal
  | shutdown => exact shutdown_moves app world journal
  | handler => exact .idle nofun
  | request request? =>
    unfold act
    dsimp only
    split <;> exact .idle nofun
  | wait stop? report? => exact wait_moves app stop? report? journal

/-! ## Invariants -/

namespace Custody

/-- What has been acquired and not released. -/
def held (custody : Custody) : List Holding :=
  if custody.open? = some true then custody.cleanup else []

/-- What holds of an application at any time: its changes are those of a stack, on which is what it
holds; all that it ever acquired has a number of its own; and as long as there was no shutdown it is
open or has nothing to release. -/
structure Sound (custody : Custody) : Prop where
  replayed : replay [] custody.changes = some custody.held
  serials : (acquisitions custody.changes).map Holding.serial = range custody.serial
  running : custody.isShutDown = false → custody.held = custody.cleanup

variable {custody next : Custody} {stops : Bool}

theorem held_of_unready (unready : custody.open? = none) : custody.held = [] := by
  rw [held, unready]
  rfl

theorem serials_numbered {changes : List Change} {serial : Nat}
    (serials : (acquisitions changes).map Holding.serial = range serial)
    (components : List Component) :
    (acquisitions (changes ++ (numbered serial components).map .acquired)).map Holding.serial =
      range (serial + components.length) := by
  rw [acquisitions_append, acquisitions_acquired, map_append, serials, numbered_serials,
    range_eq_range', range_eq_range', ← range'_append_1, Nat.zero_add]

theorem Moves.sound (moves : Moves stops custody next) (sound : custody.Sound) : next.Sound := by
  cases moves with
  | idle => exact sound
  | @opened _ components unready _ =>
    refine ⟨?_, serials_numbered sound.serials components, fun _ => rfl⟩
    rw [replay_append, sound.replayed, held_of_unready unready, Option.bind_some, replay_acquired,
      append_nil]
    rfl
  | @failed _ taken unready =>
    refine ⟨?_, ?_, sound.running⟩
    · have nothing := held_of_unready unready
      rw [replay_append, replay_append, sound.replayed, nothing, Option.bind_some, replay_acquired,
        Option.bind_some, replay_released]
      exact congrArg some nothing.symm
    · rw [acquisitions_append, acquisitions_released, append_nil]
      exact serials_numbered sound.serials taken
  | closed running =>
    have nothing : held { custody with
        open? := custody.open?.map fun _ => false
        changes := custody.changes ++ custody.cleanup.map .released
        isShutDown := true } = [] := by
      rw [held, if_neg]
      simp
    refine ⟨?_, ?_, nofun⟩
    · rw [nothing, replay_append, sound.replayed, sound.running running, Option.bind_some]
      simpa using replay_released custody.cleanup []
    · rw [acquisitions_append, acquisitions_released, append_nil]
      exact sound.serials

/-- What is acquired is acquired once. -/
theorem Sound.count_acquired_le (sound : custody.Sound) (holding : Holding) :
    custody.changes.count (.acquired holding) ≤ 1 := by
  have distinct : ((acquisitions custody.changes).map Holding.serial).Nodup :=
    sound.serials ▸ nodup_range
  rw [count_acquired]
  exact nodup_iff_count_le_one.mp (distinct.of_map _) holding

theorem Sound.count_eq (sound : custody.Sound) (holding : Holding) :
    custody.changes.count (.acquired holding) =
      custody.changes.count (.released holding) + custody.held.count holding := by
  simpa using count_replay sound.replayed holding

/-- Everything has been released just if nothing is held. -/
theorem Sound.released_iff (sound : custody.Sound) :
    (∀ holding, custody.changes.count (.released holding) =
      custody.changes.count (.acquired holding)) ↔ custody.held = [] := by
  constructor
  · intro released
    refine eq_nil_iff_forall_not_mem.mpr fun holding mem => ?_
    have same := released holding
    have counted := sound.count_eq holding
    have some := count_pos_iff.mpr mem
    omega
  · intro nothing holding
    simp [sound.count_eq, nothing]

/-! ## Shutdowns -/

theorem Moves.isShutDown (moves : Moves stops custody next) :
    next.isShutDown = (stops || custody.isShutDown) := by
  cases moves with
  | idle already =>
    cases stops with
    | false => rfl
    | true => exact already rfl
  | opened => rfl
  | failed => rfl
  | closed => rfl

/-- An application that is shut down while it is ready stays closed. -/
theorem Moves.closed_again (moves : Moves stops custody next) (closed : custody.open? = some false) :
    next.open? = some false := by
  cases moves with
  | idle => exact closed
  | opened unready => exact absurd (unready.symm.trans closed) nofun
  | failed => exact closed
  | closed => rw [closed]; rfl

/-- An application that was shut down before it was ready: what it acquires when it becomes ready it
keeps. -/
structure Late (custody : Custody) : Prop where
  isShutDown : custody.isShutDown = true
  kept : custody.open? ≠ none → custody.held ≠ []

theorem Moves.late (moves : Moves stops custody next) (late : custody.Late) : next.Late := by
  cases moves with
  | idle => exact late
  | @opened _ components _ some =>
    refine ⟨late.isShutDown, fun _ => ?_⟩
    rw [held, if_pos rfl]
    simpa [numbered_eq_nil_iff] using some
  | failed taken unready => exact ⟨late.isShutDown, fun ready => absurd unready ready⟩
  | closed running => exact absurd (running.symm.trans late.isShutDown) nofun

/-- The first shutdown closes an application that is ready, and comes too early for one that is not. -/
theorem Moves.first_shutdown (moves : Moves true custody next)
    (running : custody.isShutDown = false) :
    (custody.open? ≠ none ∧ next.open? = some false) ∨ (custody.open? = none ∧ next.Late) := by
  cases moves with
  | idle already => exact absurd (running.symm.trans (already rfl)) nofun
  | closed =>
    dsimp only
    cases found : custody.open? with
    | some isOpen => exact .inl ⟨nofun, rfl⟩
    | none => exact .inr ⟨rfl, rfl, fun ready => absurd rfl ready⟩

theorem Late.held_eq_nil_iff (late : custody.Late) : custody.held = [] ↔ custody.open? = none :=
  ⟨fun nothing => by_contra fun ready => late.kept ready nothing, held_of_unready⟩

end Custody

/-! ## Sequences of calls -/

/-- Make calls one after the other, each in a world of its own. -/
def perform (app : App) : List (World × Action) → Observed App
  | [] => return app
  | (world, action) :: calls => do
      let (_, next) ← app.act world action
      next.perform calls

theorem perform_append (app : App) (calls more : List (World × Action)) (journal : Journal) :
    (app.perform (calls ++ more)).run journal =
      match (app.perform calls).run journal with
      | (next, rest) => (next.perform more).run rest := by
  induction calls generalizing app journal with
  | nil => rfl
  | cons call calls ih => exact ih _ _

/-- What every call keeps, all calls keep. -/
theorem perform_keeps {property : Custody → Prop}
    (keeps : ∀ {stops custody next}, Custody.Moves stops custody next → property custody → property next)
    (allowed : ∀ call ∈ calls, call.2.IsCall) (holds : property app.custody) (journal : Journal) :
    property ((app.perform calls).run journal).1.custody := by
  induction calls generalizing app journal with
  | nil => exact holds
  | cons call calls ih =>
    obtain ⟨first, others⟩ := forall_mem_cons.mp allowed
    exact ih others (keeps (act_moves app call.1 first journal) holds) _

theorem perform_running (allowed : ∀ call ∈ calls, call.2.IsCall)
    (running : ∀ call ∈ calls, call.2.stops = false) (app : App) (journal : Journal) :
    ((app.perform calls).run journal).1.isShutDown = app.isShutDown := by
  induction calls generalizing app journal with
  | nil => rfl
  | cons call calls ih =>
    obtain ⟨first, others⟩ := forall_mem_cons.mp allowed
    obtain ⟨runs, run⟩ := forall_mem_cons.mp running
    have moved := (act_moves app call.1 first journal).isShutDown
    rw [runs, Bool.false_or] at moved
    exact (ih others run _ _).trans moved

theorem isSome_iff_open? : app.ready?.isSome = true ↔ app.custody.open? ≠ none := by
  rw [custody, Option.isSome_iff_ne_none]
  simp

theorem new_sound {settings? : Option Config.Settings} {logger? : Option Log.Logger}
    (made : App.new settings? logger? = .ok app) : app.custody.Sound ∧ app.isShutDown = false := by
  cases settings? <;> cases logger? <;> cases made
  exact ⟨⟨rfl, rfl, fun _ => rfl⟩, rfl⟩

/-- Whatever calls are made of an application, in whatever worlds, what it acquires is acquired once
and released at most once, and always the newest first.  After a shutdown everything has been
released, unless the application became ready only after the first shutdown. -/
theorem components_released {settings? : Option Config.Settings} {logger? : Option Log.Logger}
    {app : App} (made : App.new settings? logger? = .ok app) {calls : List (World × Action)}
    (allowed : ∀ call ∈ calls, call.2.IsCall) (journal : Journal) :
    let after := ((app.perform calls).run journal).1
    (replay [] after.changes).isSome = true ∧
      (∀ holding, after.changes.count (.acquired holding) ≤ 1 ∧
        after.changes.count (.released holding) ≤ after.changes.count (.acquired holding)) ∧
      ∀ before world rest, calls = before ++ (world, .shutdown) :: rest →
        (∀ call ∈ before, call.2.stops = false) →
        ((∀ holding, after.changes.count (.released holding) =
            after.changes.count (.acquired holding)) ↔
          (after.ready?.isSome = true → ((app.perform before).run journal).1.ready?.isSome = true)) := by
  intro after
  obtain ⟨initial, running⟩ := new_sound made
  have sound : after.custody.Sound := perform_keeps Custody.Moves.sound allowed initial journal
  refine ⟨Option.isSome_iff_exists.mpr ⟨_, sound.replayed⟩, fun holding =>
    ⟨sound.count_acquired_le holding, ?_⟩, ?_⟩
  · have counted := sound.count_eq holding
    change after.changes.count _ = after.changes.count _ + _ at counted
    omega
  · intro before world rest split first
    subst split
    obtain ⟨early, others⟩ := List.forall_mem_append.mp allowed
    obtain ⟨stop, later⟩ := List.forall_mem_cons.mp others
    have sofar := perform_running early first app journal
    rw [running] at sofar
    have followed := congrArg Prod.fst (perform_append app before ((world, .shutdown) :: rest) journal)
    generalize (app.perform before).run journal = reached at sofar followed ⊢
    obtain ⟨middle, between⟩ := reached
    have moves := act_moves middle world stop between
    obtain ⟨between, followed⟩ : ∃ later,
        after = ((((middle.act world .shutdown).run between).1.2.perform rest).run later).1 :=
      ⟨_, followed⟩
    refine sound.released_iff.trans ?_
    rcases moves.first_shutdown sofar with ⟨ready, closed⟩ | ⟨unready, tooEarly⟩
    · have stays := perform_keeps (fun moves => moves.closed_again) later closed between
      rw [← followed] at stays
      refine iff_of_true ?_ fun _ => isSome_iff_open?.mpr ready
      rw [Custody.held, if_neg]
      rw [stays]
      nofun
    · have stays := perform_keeps (fun moves => moves.late) later tooEarly between
      rw [← followed] at stays
      rw [stays.held_eq_nil_iff, isSome_iff_open?, isSome_iff_open?]
      exact ⟨fun nothing ready => absurd nothing ready, fun imp => by_contra fun ready =>
        imp ready unready⟩

theorem shutdown_changes (app : App) (world : World) (journal : Journal) :
    ((app.shutdown world).run journal).1.changes =
      app.changes ++ if app.isShutDown = true then [] else app.cleanup.map .released := by
  unfold shutdown
  split
  · exact (append_nil _).symm
  · exact releaseAll_run app.logger _ _ _ journal

/-- An initialisation that fails, wherever it does, releases what it acquired, each component once and
the newest first, whatever releases fail.  Otherwise it leaves the application as it was: a start is
refused, and a shutdown releases what it would have released before, and nothing twice. -/
theorem failed_init_releases {app : App} {world : World} {isCancelled : Bool} {journal : Journal}
    {cause : InitError} (failed : ((app.init world isCancelled).run journal).1.1 = .error cause) :
    let after := ((app.init world isCancelled).run journal).1.2
    (∃ taken, taken <+: app.components ∧ (numbered app.serial taken).Nodup ∧
      after = { app with
        changes := app.changes ++ (numbered app.serial taken).map .acquired ++
          (numbered app.serial taken).reverse.map .released
        serial := app.serial + taken.length }) ∧
    (∀ world journal, (after.start world).run journal = ((.error .notReady, after), journal)) ∧
    (∀ world journal, ((after.shutdown world).run journal).1.changes =
      after.changes ++ if app.isShutDown = true then [] else app.cleanup.map .released) ∧
    ∀ settings? logger? first calls earlier, App.new settings? logger? = .ok first →
      (∀ call ∈ calls, call.2.IsCall) → app = ((first.perform calls).run earlier).1 →
      ∀ world journal holding,
        ((after.shutdown world).run journal).1.changes.count (.released holding) ≤ 1 := by
  have unready : app.ready? = none := by
    cases found : app.ready? with
    | none => rfl
    | some ready =>
      rw [init_ready found] at failed
      cases failed
  have moved := init_moves app world isCancelled journal
  obtain ⟨ready, -, same⟩ | ⟨cause, taken, early, same⟩ :=
    init_cases unready world isCancelled journal
  · rw [same] at failed
    cases failed
  · rw [same] at moved ⊢
    have distinct : ((numbered app.serial taken).map Holding.serial).Nodup := by
      rw [numbered_serials]
      exact List.nodup_range'
    refine ⟨⟨taken, early, distinct.of_map _, rfl⟩, ?_, shutdown_changes _, ?_⟩
    · intro world journal
      simp only [start, unready]
      rfl
    · intro settings? logger? first calls earlier made allowed reached world journal holding
      have sound : app.custody.Sound :=
        reached ▸ perform_keeps Custody.Moves.sound allowed (new_sound made).1 earlier
      have later := (shutdown_moves _ world journal).sound (moved.sound sound)
      exact Nat.le_trans (Nat.le_of_add_right_le (later.count_eq holding).ge)
        (later.count_acquired_le holding)

/-- A world with the files of an empty catalog and a database that always answers. -/
def calmWorld : World :=
  { files := ⟨[("schema", "type Query { a: Int }"), ("catalog", "tables: []\n")]⟩
    dial := fun _ => ⟨fun _ => none, fun _ => none, fun _ _ => none, fun _ _ _ => .ok default⟩
    freshRequest := "request"
    freshTrace := "trace" }

def calmSettings : Config.Settings :=
  { sources := { sdlFile := "schema", catalogFile := "catalog" }
    database := { database := "db" } }

/-- An application in that world, with nothing but a database and a server to hold. -/
def calmApp : App :=
  { settings := calmSettings, logger := ⟨.info, [], []⟩ }

/-- An initialisation that is cancelled, one that is not, and a start. -/
def calmCalls : List (World × Action) :=
  [(calmWorld, .init true), (calmWorld, .init false), (calmWorld, .start)]

theorem components_released_calm :
    App.new (some calmSettings) (some ⟨.info, [], []⟩) = .ok calmApp ∧
      (∀ call ∈ calmCalls ++ [(calmWorld, .shutdown)], call.2.IsCall) ∧
      ((calmApp.perform (calmCalls ++ [(calmWorld, .shutdown)])).run {}).1.changes =
        [.acquired ⟨.database, 0⟩, .released ⟨.database, 0⟩, .acquired ⟨.database, 1⟩,
          .acquired ⟨.server, 2⟩, .released ⟨.server, 2⟩, .released ⟨.database, 1⟩] ∧
      ∀ holding,
        ((calmApp.perform (calmCalls ++ [(calmWorld, .shutdown)])).run {}).1.changes.count
            (.released holding) =
          ((calmApp.perform (calmCalls ++ [(calmWorld, .shutdown)])).run {}).1.changes.count
            (.acquired holding) := by
  have made : App.new (some calmSettings) (some ⟨.info, [], []⟩) = .ok calmApp := rfl
  have allowed : ∀ call ∈ calmCalls ++ [(calmWorld, .shutdown)], call.2.IsCall := by
    simp [calmCalls, Action.IsCall]
  have ready : ((calmApp.perform calmCalls).run {}).1.ready?.isSome = true := by decide +kernel
  refine ⟨made, allowed, by decide +kernel, ?_⟩
  exact ((components_released made allowed {}).2.2 calmCalls calmWorld [] rfl
    (by simp [calmCalls, Action.stops])).mpr fun _ => ready

/-- What is acquired by an application that was shut down before is never released. -/
theorem components_kept_after_early_shutdown :
    ((calmApp.perform [(calmWorld, .shutdown), (calmWorld, .init false),
      (calmWorld, .shutdown)]).run {}).1.changes =
      [.acquired ⟨.database, 0⟩, .acquired ⟨.server, 1⟩] := by
  decide +kernel

/-- An application that exports logs and measures. -/
def measuringApp : App :=
  { settings := { calmSettings with observability := { measures := true } }
    logger := ⟨.info, [], []⟩
    exportsLogs := true }

/-- The calm world without instruments for tokens. -/
def unmeasuredWorld : World :=
  { calmWorld with
    metricsFault? := fun
      | .tokens => some "no instrument"
      | _ => none }

theorem failed_init_releases_measuring :
    let after := ((measuringApp.init unmeasuredWorld false).run {}).1.2
    ((measuringApp.init unmeasuredWorld false).run {}).1.1 = .error (.metrics "no instrument") ∧
      after.changes = [.acquired ⟨.loggerProvider, 0⟩, .acquired ⟨.meterProvider, 1⟩,
        .released ⟨.meterProvider, 1⟩, .released ⟨.loggerProvider, 0⟩] ∧
      (after.start calmWorld).run {} = ((.error .notReady, after), {}) ∧
      ((after.shutdown calmWorld).run {}).1.changes = after.changes := by
  intro after
  have failed : ((measuringApp.init unmeasuredWorld false).run {}).1.1 =
      .error (.metrics "no instrument") := rfl
  obtain ⟨-, refused, released, -⟩ := failed_init_releases failed
  exact ⟨failed, by decide +kernel, refused _ _, (released _ _).trans (List.append_nil _)⟩

end SelectGraph.App
