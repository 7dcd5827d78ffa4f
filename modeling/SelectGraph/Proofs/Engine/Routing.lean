import SelectGraph.Proofs.Engine.Execution

/-!
# Questions about the schema

The root of an operation is surveyed for fields about the schema and fields of tables, each fragment
once and directives ignored.  The survey ends on every document and finds a kind of field just if the
root shows one.  A request that is compiled therefore collects no field about the schema at its root,
and one that is answered as a question no field of a table, whatever is skipped.
-/

namespace SelectGraph.GraphQL

def Selection.fieldName? : Selection → Option String
  | .field _ name _ _ _ _ _ => some name.value
  | _ => none

end SelectGraph.GraphQL

namespace SelectGraph.Engine

open GraphQL (Document Selection)
open Request (Analysis)
open SelectGraph.Tree (Field Shows collect)

/-! ## Surveys -/

/-- How a survey of selections changes what is noted, with no bound on the fragments it enters. -/
inductive Surveys (doc : Document) : List Selection → RootKinds → RootKinds → Prop
  | nil (kinds : RootKinds) : Surveys doc [] kinds kinds
  | field {responseName? name args dirs inner start setStart sels kinds result}
      (rest : Surveys doc sels (kinds.add name.value) result) :
      Surveys doc
        (.field responseName? name args dirs inner start setStart :: sels) kinds
        result
  | inline {condition? dirs inner start setStart sels kinds middle result}
      (within : Surveys doc inner kinds middle)
      (rest : Surveys doc sels middle result) :
      Surveys doc (.inline condition? dirs inner start setStart :: sels) kinds result
  | known {name dirs start sels kinds result} (seen : name.value ∈ kinds.seen)
      (rest : Surveys doc sels kinds result) :
      Surveys doc (.spread name dirs start :: sels) kinds result
  | missing {name dirs start sels kinds result} (new : name.value ∉ kinds.seen)
      (undefined : doc.fragment? name.value = none)
      (rest : Surveys doc sels { kinds with seen := name.value :: kinds.seen } result) :
      Surveys doc (.spread name dirs start :: sels) kinds result
  | enter {name dirs start sels frag kinds middle result}
      (new : name.value ∉ kinds.seen) (found : doc.fragment? name.value = some frag)
      (within : Surveys doc frag.selections { kinds with seen := name.value :: kinds.seen }
        middle)
      (rest : Surveys doc sels middle result) :
      Surveys doc (.spread name dirs start :: sels) kinds result

namespace RootKinds

/-- Whether a field of a kind has been noted. -/
def holds (kinds : RootKinds) (isMeta : Bool) : Bool :=
  if isMeta then kinds.hasMeta else kinds.hasData

theorem holds_add (kinds : RootKinds) (name : String) (isMeta : Bool) :
    (kinds.add name).holds isMeta = (kinds.holds isMeta || isMetaName name == isMeta) := by
  rw [add]
  cases isMetaName name <;> cases isMeta <;> simp [holds]

theorem seen_add (kinds : RootKinds) (name : String) : (kinds.add name).seen = kinds.seen := by
  rw [add]
  split <;> rfl

/-- Whether all that is noted is also noted later. -/
structure Grows (kinds later : RootKinds) : Prop where
  holds : ∀ isMeta, kinds.holds isMeta = true → later.holds isMeta = true
  seen : kinds.seen ⊆ later.seen

mutual

/-- Whether what stands in a selection, outside of its fields, has been noted. -/
def Notes (kinds : RootKinds) : Selection → Prop
  | .field _ name _ _ _ _ _ => kinds.holds (isMetaName name.value) = true
  | .spread name _ _ => name.value ∈ kinds.seen
  | .inline _ _ sels _ _ => kinds.NotesAll sels

/-- Whether what stands in selections, outside of their fields, has been noted. -/
def NotesAll (kinds : RootKinds) : List Selection → Prop
  | [] => True
  | sel :: sels => kinds.Notes sel ∧ kinds.NotesAll sels

end

namespace Grows

theorem refl (kinds : RootKinds) : kinds.Grows kinds :=
  ⟨fun _ known => known, .refl _⟩

theorem trans {kinds middle later : RootKinds} (first : kinds.Grows middle)
    (second : middle.Grows later) : kinds.Grows later :=
  ⟨fun isMeta known => second.holds _ (first.holds isMeta known),
    fun _ known => second.seen (first.seen known)⟩

theorem add (kinds : RootKinds) (name : String) : kinds.Grows (kinds.add name) := by
  constructor
  · intro isMeta known
    simp [holds_add, known]
  · simp [seen_add]

theorem see (kinds : RootKinds) (name : String) :
    kinds.Grows { kinds with seen := name :: kinds.seen } :=
  ⟨fun _ known => known, List.subset_cons_self _ _⟩

end Grows

mutual

theorem Notes.mono {kinds later : RootKinds} (grows : kinds.Grows later) {sel : Selection}
    (noted : kinds.Notes sel) : later.Notes sel := by
  match sel with
  | .field _ _ _ _ _ _ _ => exact grows.holds _ noted
  | .spread _ _ _ => exact grows.seen noted
  | .inline _ _ _ _ _ => exact NotesAll.mono grows noted

theorem NotesAll.mono {kinds later : RootKinds} (grows : kinds.Grows later)
    {sels : List Selection} (noted : kinds.NotesAll sels) : later.NotesAll sels := by
  match sels with
  | [] => trivial
  | _ :: _ => exact ⟨.mono grows noted.1, .mono grows noted.2⟩

end

theorem NotesAll.mem {kinds : RootKinds} {sels : List Selection}
    (noted : kinds.NotesAll sels) {sel : Selection} (mem : sel ∈ sels) :
    kinds.Notes sel := by
  induction sels with
  | nil => cases mem
  | cons first sels ih =>
    rcases List.mem_cons.mp mem with rfl | later
    · exact noted.1
    · exact ih noted.2 later

end RootKinds

/-! ## What a survey finds -/

/-- Whether a set shows a field of a name, directives ignored. -/
def Names (doc : Document) (sels : List Selection) (name : String) : Prop :=
  ∃ sel, Shows doc (fun _ => True) sels sel ∧ sel.fieldName? = some name

section

variable {doc : Document} {sels others : List Selection} {kinds result : RootKinds}

theorem Names.of_shows {name : String} (named : Names doc sels name)
    (shows : ∀ sel, Shows doc (fun _ => True) sels sel →
      Shows doc (fun _ => True) others sel) : Names doc others name := by
  obtain ⟨sel, shown, isField⟩ := named
  exact ⟨sel, shows _ shown, isField⟩

section

variable (surveys : Surveys doc sels kinds result)

include surveys

theorem Surveys.grows : kinds.Grows result := by
  induction surveys with
  | nil kinds => exact .refl _
  | field rest ih => exact (RootKinds.Grows.add _ _).trans ih
  | inline within rest inner ih => exact inner.trans ih
  | known seen rest ih => exact ih
  | missing new undefined rest ih => exact (RootKinds.Grows.see _ _).trans ih
  | enter new found within rest inner ih =>
    exact ((RootKinds.Grows.see _ _).trans inner).trans ih

/-- A survey notes a kind only if it was noted before or the set shows a field of it. -/
theorem Surveys.sound {isMeta : Bool} (noted : result.holds isMeta = true) :
    kinds.holds isMeta = true ∨ ∃ name, Names doc sels name ∧ isMetaName name = isMeta := by
  have later (first : Selection) {sels : List _}
      (named : ∃ name, Names doc sels name ∧ isMetaName name = isMeta) :
      ∃ name, Names doc (first :: sels) name ∧ isMetaName name = isMeta := by
    obtain ⟨name, named, kind⟩ := named
    exact ⟨name, named.of_shows fun _ shown => shown.mono (List.subset_cons_self _ _), kind⟩
  induction surveys with
  | nil kinds => exact .inl noted
  | field rest ih =>
    rcases ih noted with before | named
    · rw [RootKinds.holds_add, Bool.or_eq_true, beq_iff_eq] at before
      rcases before with before | kind
      · exact .inl before
      · exact .inr ⟨_, ⟨_, .here List.mem_cons_self trivial, rfl⟩, kind⟩
    · exact .inr (later _ named)
  | inline within rest inner ih =>
    rcases ih noted with middle | named
    · rcases inner middle with before | ⟨name, named, kind⟩
      · exact .inl before
      · exact .inr ⟨name, named.of_shows fun _ => .inline List.mem_cons_self trivial, kind⟩
    · exact .inr (later _ named)
  | known seen rest ih => exact (ih noted).imp_right (later _)
  | missing new undefined rest ih => exact (ih noted).imp_right (later _)
  | enter new found within rest inner ih =>
    rcases ih noted with middle | named
    · rcases inner middle with before | ⟨name, named, kind⟩
      · exact .inl before
      · exact .inr ⟨name, named.of_shows fun _ => .spread List.mem_cons_self trivial found, kind⟩
    · exact .inr (later _ named)

/-- A survey notes what stands in the set and in each fragment that it enters. -/
theorem Surveys.covers :
    result.NotesAll sels ∧
      ∀ name ∈ result.seen, name ∉ kinds.seen → ∀ frag, doc.fragment? name = some frag →
        result.NotesAll frag.selections := by
  induction surveys with
  | nil kinds => exact ⟨trivial, fun name mem new => absurd mem new⟩
  | field rest ih =>
    rw [RootKinds.seen_add] at ih
    exact ⟨⟨rest.grows.holds _ (by simp [RootKinds.holds_add]), ih.1⟩, ih.2⟩
  | @inline condition? dirs inner start setStart sels kinds middle result within rest
      first ih =>
    refine ⟨⟨first.1.mono rest.grows, ih.1⟩, ?_⟩
    intro name mem new frag found
    by_cases early : name ∈ middle.seen
    · exact (first.2 name early new _ found).mono rest.grows
    · exact ih.2 name mem early _ found
  | known seen rest ih => exact ⟨⟨rest.grows.seen seen, ih.1⟩, ih.2⟩
  | @missing name dirs start sels kinds result new undefined rest ih =>
    refine ⟨⟨rest.grows.seen List.mem_cons_self, ih.1⟩, ?_⟩
    intro other mem fresh frag found
    apply ih.2 _ mem _ _ found
    rintro (_ | ⟨_, early⟩)
    · rw [undefined] at found
      cases found
    · exact fresh early
  | @enter name dirs start sels body kinds middle result new found within rest first ih =>
    refine ⟨⟨rest.grows.seen (within.grows.seen List.mem_cons_self), ih.1⟩, ?_⟩
    intro other mem fresh frag foundOther
    by_cases same : other = name.value
    · subst same
      rw [found] at foundOther
      cases foundOther
      exact first.1.mono rest.grows
    · by_cases early : other ∈ middle.seen
      · exact (first.2 _ early (by simp [same, fresh]) _ foundOther).mono rest.grows
      · exact ih.2 _ mem early _ foundOther

end

/-- What is closed under entering fragments has noted every field that a set shows. -/
theorem Names.noted {name : String} (named : Names doc sels name)
    (notes : kinds.NotesAll sels)
    (closed : ∀ other ∈ kinds.seen, ∀ frag, doc.fragment? other = some frag →
      kinds.NotesAll frag.selections) : kinds.holds (isMetaName name) = true := by
  obtain ⟨sel, shown, isField⟩ := named
  induction shown with
  | @here sels sel mem keeps =>
    have noted := notes.mem mem
    cases sel with
    | field =>
      cases isField
      exact noted
    | spread | inline => cases isField
  | inline mem keeps shown ih => exact ih (notes.mem mem) isField
  | spread mem keeps found shown ih => exact ih (closed _ (notes.mem mem) _ found) isField

end

/-! ## The survey of a root -/

/-- Whether the step for spreads surveys them, as long as few fragments are left. -/
def SpreadsSurvey (doc : Document) (spread : String → RootKinds → RootKinds) (bound : Nat) :
    Prop :=
  ∀ {name dirs start sels kinds result}, doc.unseen kinds.seen < bound →
    Surveys doc sels (spread name.value kinds) result →
    Surveys doc (.spread name dirs start :: sels) kinds result

section

variable {doc : Document} {spread : String → RootKinds → RootKinds} {bound : Nat}

mutual

theorem kindsOfOne_surveys (spreads : SpreadsSurvey doc spread bound) (sel : Selection)
    {kinds : RootKinds} (few : doc.unseen kinds.seen < bound) {sels : List Selection}
    {result : RootKinds}
    (rest : Surveys doc sels (kindsOfOne spread sel kinds) result) :
    Surveys doc (sel :: sels) kinds result := by
  match sel with
  | .field _ _ _ _ _ _ _ => exact .field rest
  | .inline _ _ inner _ _ => exact .inline (kindsOfAll_surveys spreads _ few) rest
  | .spread _ _ _ => exact spreads few rest

theorem kindsOfAll_surveys (spreads : SpreadsSurvey doc spread bound)
    (sels : List Selection) {kinds : RootKinds} (few : doc.unseen kinds.seen < bound) :
    Surveys doc sels kinds (kindsOfAll spread sels kinds) := by
  match sels with
  | [] => exact .nil _
  | sel :: sels =>
    have one := kindsOfOne_surveys spreads sel few (.nil _)
    have fewer := doc.unseen_anti one.grows.seen
    exact kindsOfOne_surveys spreads _ few
      (kindsOfAll_surveys spreads _ (fewer.trans_lt few))

end

theorem kindsOfFragment_surveys (budget : Nat) :
    SpreadsSurvey doc (kindsOfFragment doc budget) budget := by
  induction budget with
  | zero =>
    intro name dirs start sels kinds result few
    omega
  | succ budget ih =>
    intro name dirs start sels kinds result few rest
    rw [kindsOfFragment] at rest
    split at rest
    · next seen => exact .known seen rest
    · next new =>
        split at rest
        · next undefined => exact .missing new undefined rest
        · next frag found =>
            have fewer := GraphQL.Document.unseen_cons_lt found new
            have less : doc.unseen (name.value :: kinds.seen) < budget := by omega
            exact .enter new found (kindsOfAll_surveys ih _ less) rest

end

/-- The budget of a survey is never used up. -/
theorem rootKinds_surveys (doc : Document) (sels : List Selection) :
    Surveys doc sels {} (rootKinds doc sels) := by
  apply kindsOfAll_surveys (kindsOfFragment_surveys _)
  have few := doc.unseen_le []
  exact Nat.lt_succ_of_le few

theorem rootKinds_holds_iff (doc : Document) (sels : List Selection) (isMeta : Bool) :
    (rootKinds doc sels).holds isMeta = true ↔
      ∃ name, Names doc sels name ∧ isMetaName name = isMeta := by
  have surveys := rootKinds_surveys doc sels
  constructor
  · intro noted
    rcases surveys.sound noted with before | named
    · cases isMeta <;> cases before
    · exact named
  · rintro ⟨name, named, rfl⟩
    obtain ⟨notes, closed⟩ := surveys.covers
    exact named.noted notes fun other seen => closed _ seen List.not_mem_nil

/-! ## Routing -/

/-- Each collected field is one that the set shows. -/
theorem collect_names {doc : Document} {env : Environment} {sels : List Selection}
    {fields : List Field} (collected : collect doc env sels = .ok fields) :
    ∀ field ∈ fields, Names doc sels field.name := by
  have merges : Tree.Merges fun field => Names doc sels field.name := fun _ _ known _ => known
  apply Tree.collect_forall collected merges
  rintro _ ⟨shown⟩
  exact ⟨_, shown.weaken fun _ _ => trivial, rfl⟩

/-- A kind of field that was not noted at a root is not collected there. -/
theorem collect_kind {doc : Document} {sels : List Selection} {isMeta : Bool}
    (absent : (rootKinds doc sels).holds isMeta = false) {env : Environment}
    {fields : List Field} (collected : collect doc env sels = .ok fields) :
    ∀ field ∈ fields, isMetaName field.name = !isMeta := by
  intro field mem
  by_contra other
  have noted := (rootKinds_holds_iff _ _ _).mpr
    ⟨field.name, collect_names collected _ mem, by simpa using other⟩
  rw [absent] at noted
  cases noted

/-- The survey of a root ends and notes a kind of field just if the root shows one.  A request that
goes on to be compiled has no field about the schema among those collected at its root, and a question
has no other, in every environment. -/
theorem rootKinds_route (document : Document) (selections : List Selection) (model : Model)
    (analysis : Analysis) :
    Surveys document selections {} (rootKinds document selections) ∧
    ((rootKinds document selections).hasMeta = true ↔
      ∃ name, Names document selections name ∧ isMetaName name = true) ∧
    ((rootKinds document selections).hasData = true ↔
      ∃ name, Names document selections name ∧ isMetaName name = false) ∧
    ((∀ rejection, prepare model analysis ≠ .error (.rejected rejection)) →
      (∀ asked operation supplied, prepare model analysis ≠ .ok (.question asked operation supplied)) →
      ∃ shown selected, analysis.document? = some shown ∧ analysis.selected? = some selected ∧
        ∀ environment fields, collect shown environment selected.operation.selections = .ok fields →
          ∀ field ∈ fields, isMetaName field.name = false) ∧
    (∀ asked operation supplied, prepare model analysis = .ok (.question asked operation supplied) →
      ∀ environment fields, collect asked environment operation.selections = .ok fields →
        ∀ field ∈ fields, isMetaName field.name = true) := by
  refine ⟨rootKinds_surveys document selections, rootKinds_holds_iff document selections true,
    rootKinds_holds_iff document selections false, ?_, ?_⟩
  · intro accepted compiled
    rcases prepare_cases model analysis with ⟨rejection, refused⟩ |
      ⟨shown, selected, supplied, isShown, isSelected, -, ⟨-, -, asked⟩ | ⟨tables, -⟩⟩
    · exact absurd refused (accepted rejection)
    · exact absurd asked (compiled _ _ _)
    · have absent : (rootKinds shown selected.operation.selections).holds true = false := tables
      exact ⟨shown, selected, isShown, isSelected, fun environment fields => collect_kind absent⟩
  · intro asked operation supplied prepared environment fields collected
    rcases prepare_cases model analysis with ⟨rejection, refused⟩ |
      ⟨shown, selected, supplied, isShown, isSelected, -, ⟨-, questions, found⟩ | ⟨-, compiles⟩⟩
    · cases prepared.symm.trans refused
    · cases prepared.symm.trans found
      have absent : (rootKinds asked selected.operation.selections).holds false = false := questions
      exact collect_kind absent collected
    · obtain ⟨compiled, -, same⟩ := map_eq_ok.mp (compiles.symm.trans prepared)
      cases same

end SelectGraph.Engine
