import SelectGraph.Proofs.Tree.Collected

/-!
# Numbers of relations

A build numbers the relations of a request in the order in which it meets them: each before those
below it, and without gaps.  All other steps of a build leave the counter alone.
-/

namespace SelectGraph.Tree

open List

open GraphQL (Argument Document Selection)
open Sql (bind_eq_ok)

variable {sels : List Selection} {field : Field} {fields : List Field}

/-! ## Relations of a tree -/

mutual

/-- The relations of a node, each before those below it. -/
def Node.heads : Node → List Head
  | .attribute _ _ => []
  | .relation head children => head :: nodesHeads children

def nodesHeads : List Node → List Head
  | [] => []
  | node :: nodes => node.heads ++ nodesHeads nodes

end

/-- The relations of a tree, each before those below it. -/
def Root.heads (root : Root) : List Head :=
  root.head :: nodesHeads root.children

/-- The name in statements of a relation with a number. -/
def numberedName (field : String) (number : Nat) : String :=
  String.ofList (field.toList.take Builder.maxStem) ++ "-" ++ toString number

/-- Relations that are met while the counter goes from one number to another, with a condition on
the names of their fields. -/
inductive Counted (holds : String → Prop) : Nat → List Head → Nat → Prop
  | nil (number : Nat) : Counted holds number [] number
  | cons {number stop : Nat} {head : Head} {heads : List Head}
      (named : head.aliasName = numberedName head.field (number + 1)) (kept : holds head.field)
      (rest : Counted holds (number + 1) heads stop) : Counted holds number (head :: heads) stop

namespace Counted

variable {holds : String → Prop} {start middle stop : Nat} {heads others : List Head}

theorem append (first : Counted holds start heads middle)
    (second : Counted holds middle others stop) :
    Counted holds start (heads ++ others) stop := by
  induction first with
  | nil => exact second
  | cons named kept _ ih => exact .cons named kept (ih second)

theorem stop_eq (counted : Counted holds start heads stop) : stop = start + heads.length := by
  induction counted with
  | nil => rfl
  | cons _ _ _ ih =>
    rw [length_cons]
    omega

/-- Every relation has a number of those the counter went through. -/
theorem of_mem (counted : Counted holds start heads stop) {head : Head} (mem : head ∈ heads) :
    holds head.field ∧ ∃ number, start < number ∧ number ≤ stop ∧
      head.aliasName = numberedName head.field number := by
  induction counted with
  | nil => cases mem
  | cons named kept rest ih =>
    rcases mem_cons.mp mem with rfl | later
    · exact ⟨kept, _, Nat.lt_succ_self _, by rw [rest.stop_eq]; omega, named⟩
    · obtain ⟨keptLater, number, above, below, namedLater⟩ := ih later
      exact ⟨keptLater, number, by omega, below, namedLater⟩

end Counted

/-! ## Steps of a build -/

namespace Builder

variable {α β : Type}

/-- Whether a step ends only in ways that a condition allows, on the counter before it, the value it
yields and the counter after it. -/
def Ends (step : Builder α) (allowed : Nat → α → Nat → Prop) : Prop :=
  ∀ start value stop, step.run start = .ok (value, stop) → allowed start value stop

/-- Whether a step leaves the counter alone and yields only values that satisfy a condition. -/
def Quiet (step : Builder α) (good : α → Prop) : Prop :=
  Ends step fun start value stop => stop = start ∧ good value

theorem bind_run_eq_ok {step : Builder α} {next : α → Builder β} {start stop : Nat} {value : β} :
    (step >>= next).run start = .ok (value, stop) ↔
      ∃ found middle, step.run start = .ok (found, middle) ∧
        (next found).run middle = .ok (value, stop) := by
  rw [StateT.run_bind, bind_eq_ok]
  exact Prod.exists

namespace Quiet

variable {step : Builder α} {next : α → Builder β} {good : α → Prop} {fine : β → Prop}

theorem pure {value : α} (holds : good value) : Quiet (pure value) good := by
  rintro number _ _ ⟨⟩
  exact ⟨rfl, holds⟩

theorem throw (error : BuildError) : Quiet (throw error : Builder α) good := by
  rintro number _ _ ⟨⟩

/-- What follows a quiet step ends as it would from the start. -/
theorem ends {allowed : Nat → β → Nat → Prop} (first : Quiet step good)
    (rest : ∀ value, good value → Ends (next value) allowed) : Ends (step >>= next) allowed := by
  intro number value stop run
  obtain ⟨found, middle, ran, ranNext⟩ := bind_run_eq_ok.mp run
  obtain ⟨rfl, holds⟩ := first _ _ _ ran
  exact rest _ holds _ _ _ ranNext

theorem bind (first : Quiet step good) (rest : ∀ value, good value → Quiet (next value) fine) :
    Quiet (step >>= next) fine :=
  first.ends rest

theorem fail (message : String) : Quiet (fail message : Builder α) good :=
  throw _

theorem fail_ends {allowed : Nat → β → Nat → Prop} (message : String) :
    Ends (Builder.fail message >>= next) allowed :=
  (fail _ : Quiet _ fun _ => False).ends fun _ => False.elim

/-- A condition on the state and on what remains is kept along a run through a list. -/
theorem foldlM {step : β → α → Builder β} {fine : β → List α → Prop} {items : List α}
    (each : ∀ item ∈ items, ∀ state rest, fine state (item :: rest) →
      Quiet (step state item) fun next => fine next rest) {state : β} (initial : fine state items) :
    Quiet (items.foldlM step state) fun final => fine final [] := by
  induction items generalizing state with
  | nil => exact pure initial
  | cons item items ih =>
    rw [forall_mem_cons] at each
    exact (each.1 _ _ initial).bind fun _ => ih each.2

end Quiet

end Builder

/-! ## Names of collected fields -/

mutual

/-- Whether a condition holds of the name of every field of a selection. -/
def selectionEvery (holds : String → Prop) : Selection → Prop
  | .field _ name _ _ sels _ _ => holds name.value ∧ selectionsEvery holds sels
  | .spread _ _ _ => True
  | .inline _ _ sels _ _ => selectionsEvery holds sels

/-- Whether a condition holds of the name of every field of selections. -/
def selectionsEvery (holds : String → Prop) : List Selection → Prop
  | [] => True
  | sel :: sels => selectionEvery holds sel ∧ selectionsEvery holds sels

end

/-- Whether a condition holds of the name of every field of a document's fragments. -/
def fragmentsEvery (holds : String → Prop) (doc : Document) : Prop :=
  ∀ frag ∈ doc.fragments, selectionsEvery holds frag.selections

/-- Whether a condition holds of the name of a collected field and of those it selects. -/
def Field.Every (holds : String → Prop) (field : Field) : Prop :=
  holds field.name ∧ selectionsEvery holds field.selections

section Collecting

variable {holds : String → Prop} {env : Environment}

theorem selectionsEvery_iff :
    selectionsEvery holds sels ↔
    ∀ sel ∈ sels, selectionEvery holds sel := by
  induction sels with
  | nil => simp [selectionsEvery]
  | cons sel sels ih => simp [selectionsEvery, ih]

mutual

theorem selectionEvery_of_forall {holds : String → Prop} (all : ∀ name, holds name)
    (sel : Selection) : selectionEvery holds sel := by
  match sel with
  | .field _ name _ _ sels _ _ =>
    exact ⟨all _, selectionsEvery_of_forall all _⟩
  | .spread _ _ _ => trivial
  | .inline _ _ sels _ _ => exact selectionsEvery_of_forall all _

theorem selectionsEvery_of_forall {holds : String → Prop} (all : ∀ name, holds name)
    (sels : List Selection) : selectionsEvery holds sels := by
  match sels with
  | [] => trivial
  | sel :: sels =>
    exact ⟨selectionEvery_of_forall all _, selectionsEvery_of_forall all _⟩

end

/-- What a set shows satisfies a condition that the set and all fragments satisfy. -/
theorem Shows.selectionEvery {doc : Document} {kept : List GraphQL.Directive → Prop}
    (fragments : fragmentsEvery holds doc) {sel : Selection}
    (shown : Shows doc kept sels sel) (every : selectionsEvery holds sels) :
    Tree.selectionEvery holds sel := by
  induction shown with
  | here mem _ => exact selectionsEvery_iff.mp every _ mem
  | inline mem _ _ ih => exact ih (selectionsEvery_iff.mp every _ mem)
  | spread _ _ found _ ih => exact ih (fragments _ (Document.mem_of_fragment? found).1)

theorem collect_every {doc : Document} (fragments : fragmentsEvery holds doc)
    (every : selectionsEvery holds sels)
    (collected : collect doc env sels = .ok fields) :
    ∀ field ∈ fields, field.Every holds := by
  have merges : Merges (Field.Every holds) := by
    intro first second known new
    refine ⟨known.1, ?_⟩
    rw [selectionsEvery_iff, forall_mem_append, ← selectionsEvery_iff, ← selectionsEvery_iff]
    exact ⟨known.2, new.2⟩
  apply collect_forall collected merges
  rintro _ ⟨shown⟩
  exact shown.selectionEvery fragments every

end Collecting

end SelectGraph.Tree
