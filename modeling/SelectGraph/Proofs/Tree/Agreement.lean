import SelectGraph.Tree.Build
import SelectGraph.Proofs.Sql.Evaluation

/-!
# Builds that agree

A build looks at a selection set only through the fields it collects and through whether it is empty,
and at the arguments of a field only through the literals they stand for.  Two builds therefore give
trees of one shape, or fail with the same error, if the selection sets they meet collect to fields that
correspond to each other at every depth.  The fuel of either build does not matter as long as it covers
that depth, and then neither is left unfinished.
-/

namespace SelectGraph.Tree

open List

open GraphQL (Argument Document Selection)
open Sql (Corresponds)

variable {field field' : Field} {sels others : List Selection} {parts parts' : Parts}
  {fields fields' : List Field} {doc : Document} {ctx : Context}
  {related : Nat → List Selection → List Selection → Prop} {depth fuel fuel' : Nat}
  {shared : BuildError → Prop}

/-- The errors of builds that are not left unfinished. -/
def BuildError.Finished (error : BuildError) : Prop := error ≠ .unfinished

theorem corresponds_of_ne {α : Type} {related : α → α → Prop} {outcome : Except BuildError α}
    (finished : outcome ≠ .error .unfinished)
    (holds : ∀ value, outcome = .ok value → related value value) :
    Corresponds BuildError.Finished related outcome outcome := by
  cases outcome with
  | ok value => exact .ok (holds _ rfl)
  | error error =>
    apply Corresponds.error
    intro unfinished
    rw [unfinished] at finished
    exact finished rfl

theorem ne_unfinished {α β : Type} {related : α → β → Prop} {outcome : Except BuildError α}
    {other : Except BuildError β} (same : Corresponds BuildError.Finished related outcome other) :
    outcome ≠ .error .unfinished :=
  fun unfinished => same.failsOnly _ unfinished rfl

/-! ## Steps of builds -/

namespace Builder

variable {α β γ δ : Type}

/-- Whether two steps correspond from every counter on: they fail with one error, or yield related
values and leave the same counter. -/
def Agree (shared : BuildError → Prop) (related : α → β → Prop) (step : Builder α)
    (other : Builder β) : Prop :=
  ∀ start, Corresponds shared
    (fun result result' => related result.1 result'.1 ∧ result.2 = result'.2)
    (step.run start) (other.run start)

namespace Agree

variable {related : α → β → Prop} {linked : γ → δ → Prop} {step : Builder α} {next : α → Builder γ}
  {items : List γ} {items' : List δ}

theorem pure {value : α} {other : β} (holds : related value other) :
    Agree shared related (pure value) (pure other) := by
  intro start
  exact .ok ⟨holds, rfl⟩

theorem throw {error : BuildError} (both : shared error) :
    Agree shared related (throw error : Builder α) (throw error : Builder β) := by
  intro start
  exact .error both

theorem bind {other : Builder β} {next' : β → Builder δ} (first : Agree shared related step other)
    (rest : ∀ value value', related value value' → Agree shared linked (next value) (next' value')) :
    Agree shared linked (step >>= next) (other >>= next') := by
  intro start
  apply (first _).bind
  rintro ⟨value, middle⟩ ⟨value', middle'⟩ ⟨holds, same⟩
  dsimp only at holds same
  rw [← same]
  exact rest _ _ holds _

/-- What follows one and the same step need only agree on its value. -/
theorem after (first : Agree shared (· = ·) step step) {next' : α → Builder δ}
    (rest : ∀ value, Agree shared linked (next value) (next' value)) :
    Agree shared linked (step >>= next) (step >>= next') := by
  apply first.bind
  intro value value' same
  rw [same]
  exact rest _

theorem foldlM {step : α → γ → Builder α} {step' : β → δ → Builder β}
    (alike : List.Forall₂ linked items items')
    (each : ∀ state state' item item', related state state' → linked item item' →
      Agree shared related (step state item) (step' state' item')) {state : α} {state' : β}
    (initial : related state state') :
    Agree shared related (items.foldlM step state) (items'.foldlM step' state') := by
  induction alike generalizing state state' with
  | nil => exact pure initial
  | cons holds rest ih =>
    apply (each _ _ _ _ initial holds).bind
    intro next next' kept
    exact ih kept

theorem mapM {step : γ → Builder α} {step' : δ → Builder β}
    (alike : List.Forall₂ linked items items')
    (each : ∀ item item', linked item item' → Agree shared related (step item) (step' item')) :
    Agree shared (List.Forall₂ related) (items.mapM step) (items'.mapM step') := by
  induction alike with
  | nil => exact pure .nil
  | cons holds rest ih =>
    rw [mapM_cons, mapM_cons]
    apply (each _ _ holds).bind
    intro value value' first
    apply ih.bind
    intro values values' others
    exact pure (.cons first others)

end Agree

end Builder

/-! ## Builds that are compared -/

/-- What two builds that are compared may differ in: the errors they may share, and how the arguments
that are given, the literals they stand for and the nodes that are built correspond. -/
structure Comparison where
  shared : BuildError → Prop
  given : List Argument → List Argument → Prop
  literals : List (String × Literal) → List (String × Literal) → Prop
  nodes : Node → Node → Prop

/-- Whether two fields are collected alike: they differ only in what is given to them and in what they
select, and that is related. -/
structure FieldAlike (given : List Argument → List Argument → Prop)
    (related : List Selection → List Selection → Prop) (field other : Field) : Prop where
  responseName : field.responseName = other.responseName
  name : field.name = other.name
  arguments : given field.arguments other.arguments
  isEmpty : field.selections.isEmpty = other.selections.isEmpty
  selections : related field.selections other.selections

/-- A relation between the selection sets of two builds, for every bound on the depth of the fields
below: related sets collect alike, and what is built of fields that are alike corresponds. -/
structure Lockstep (comparison : Comparison) (ctx other : Context)
    (related : Nat → List Selection → List Selection → Prop) : Prop where
  schema : ctx.schema = other.schema
  resolution : ∀ error, comparison.shared (.resolution error)
  collects : ∀ {depth sels others}, related depth sels others →
    Corresponds comparison.shared
      (List.Forall₂ (FieldAlike comparison.given (related (depth - 1))))
      (collect ctx.document ctx.environment sels)
      (collect other.document other.environment others)
  arguments : ∀ (parent field : String) {given given'}, comparison.given given given' →
    Builder.Agree comparison.shared comparison.literals
      (Builder.arguments ctx parent field given)
      (Builder.arguments other parent field given')
  attributes : ∀ field key, comparison.nodes (.attribute field key) (.attribute field key)
  relations : ∀ {head head' : Head} {children children'},
    head' = { head with arguments := head'.arguments } →
    comparison.literals head.arguments head'.arguments →
    List.Forall₂ comparison.nodes children children' →
    comparison.nodes (.relation head children) (.relation head' children')

/-- Fuel for two builds: it covers the depth of the fields below, where sets without depth are empty, or
it is the same for both and they may run out of it. -/
def Fueled (comparison : Comparison) (related : Nat → List Selection → List Selection → Prop)
    (depth fuel fuel' : Nat) : Prop :=
  (∀ sels others, related 0 sels others → others = []) ∧ depth ≤ fuel ∧ depth ≤ fuel' ∨
    fuel = fuel' ∧ comparison.shared .unfinished

/-- Nodes that two relations are built into correspond. -/
def Comparison.roots (comparison : Comparison) (root other : Root) : Prop :=
  comparison.nodes (.relation root.head root.children) (.relation other.head other.children)

namespace Fueled

variable {comparison : Comparison}

theorem below (fueled : Fueled comparison related depth (fuel + 1) (fuel' + 1)) {lower : Nat}
    (less : lower ≤ depth - 1) : Fueled comparison related lower fuel fuel' := by
  rcases fueled with ⟨flat, covered, covered'⟩ | ⟨same, shared⟩
  · exact .inl ⟨flat, by omega, by omega⟩
  · exact .inr ⟨by omega, shared⟩

/-- Fuel that runs out for one build has run out for the other. -/
theorem unfinished {given : List Argument → List Argument → Prop}
    (same : FieldAlike given (related depth) field field') (selects : field.selections ≠ [])
    (fueled : Fueled comparison related depth fuel fuel') (none : fuel = 0 ∨ fuel' = 0) :
    fuel = 0 ∧ fuel' = 0 ∧ comparison.shared .unfinished := by
  rcases fueled with ⟨flat, covered, covered'⟩ | ⟨rfl, shared⟩
  · have flatField := same.selections
    have empty := same.isEmpty
    obtain rfl : depth = 0 := by omega
    rw [flat _ _ flatField] at empty
    exact absurd (by simpa using empty) selects
  · exact ⟨by omega, by omega, shared⟩

end Fueled

namespace Builder

variable {α β γ δ : Type} {comparison : Comparison} {other : Context}

/-! ## Steps that do not look at selection sets -/

section Steps

variable (lockstep : Lockstep comparison ctx other related)

include lockstep

theorem fail_agree {linked : α → β → Prop} (message : String) :
    Agree comparison.shared linked (fail message) (fail message) :=
  .throw (lockstep.resolution _)

theorem fail_bind_agree {linked : γ → δ → Prop} {next : α → Builder γ} {next' : β → Builder δ}
    (message : String) :
    Agree comparison.shared linked (fail message >>= next) (fail message >>= next') := by
  have stops : Agree _ (fun (_ : α) (_ : β) => False) _
      _ := fail_agree lockstep message
  apply stops.bind
  intro value value' impossible
  exact impossible.elim

theorem fieldType_agree (parent field : String) :
    Agree comparison.shared (· = ·) (fieldType ctx parent field)
      (fieldType other parent field) := by
  rw [fieldType, fieldType, lockstep.schema]
  split
  · exact .pure rfl
  · exact Agree.throw (lockstep.resolution _)

end Steps

theorem nodesWith_eq_mapM (make : Field → Builder Node) (fields : List Field) :
    nodesWith make fields = fields.mapM make := by
  induction fields with
  | nil => rfl
  | cons field fields ih => rw [nodesWith, mapM_cons, ih]

theorem nextAlias_agree (field : String) :
    Agree shared (· = ·) (nextAlias field) (nextAlias field) := by
  intro start
  exact .ok ⟨rfl, rfl⟩

/-! ## Steps that look at selection sets -/

theorem fieldsOf_agree (lockstep : Lockstep comparison ctx other related)
    (holds : related depth sels others) :
    Agree comparison.shared (List.Forall₂ (FieldAlike comparison.given (related (depth - 1))))
      (fieldsOf ctx sels) (fieldsOf other others) := by
  intro start
  apply (lockstep.collects holds).bind
  intro fields fields' alike
  exact .ok ⟨alike, rfl⟩

/-- Whether the parts of a connection found so far are the same, up to what is given to its node and
what it selects. -/
structure PartsAlike (given : List Argument → List Argument → Prop)
    (alike : List Selection → List Selection → Prop) (parts other : Parts) : Prop where
  connection : parts.connection = other.connection
  edgesSeen : parts.edgesSeen = other.edgesSeen
  node? : Option.Rel (fun node node' => FieldAlike given alike node.1 node'.1 ∧ node.2 = node'.2)
    parts.node? other.node?

section Parts

variable {given : List Argument → List Argument → Prop}
  {alike : List Selection → List Selection → Prop}

theorem PartsAlike.isSome_eq (same : PartsAlike given alike parts parts') :
    parts.node?.isSome = parts'.node?.isSome := by
  have nodes := same.node?
  revert nodes
  generalize parts.node? = node?
  generalize parts'.node? = node?'
  intro nodes
  cases nodes with
  | some holds => rfl
  | none => rfl

theorem isAttribute_eq (same : FieldAlike given alike field field') :
    isAttribute field = isAttribute field' := by
  rw [isAttribute, isAttribute, same.name, same.isEmpty]

theorem any_name_eq (same : List.Forall₂ (FieldAlike given alike) fields fields') (name : String) :
    (fields.any fun field => field.name == name) = fields'.any fun field => field.name == name := by
  induction same with
  | nil => rfl
  | cons first rest ih => rw [any_cons, any_cons, first.name, ih]

variable (lockstep : Lockstep comparison ctx other related)

include lockstep

theorem edgeField_agree (rel edgeType : String) (known : PartsAlike given alike parts parts')
    (same : FieldAlike given alike field field') :
    Agree comparison.shared (PartsAlike given alike) (edgeField ctx rel edgeType parts field)
      (edgeField other rel edgeType parts' field') := by
  rw [edgeField, edgeField, ← same.name]
  split
  · rw [← known.isSome_eq]
    split
    · exact fail_bind_agree lockstep _
    · apply (fieldType_agree lockstep _ "node").bind
      intro found found' sameFound
      rw [sameFound]
      exact .pure ⟨by rw [known.connection, same.responseName], known.edgesSeen, .some ⟨same, rfl⟩⟩
  · exact .pure ⟨by rw [known.connection, same.responseName], known.edgesSeen, known.node?⟩
  · exact .pure ⟨by rw [known.connection, same.responseName], known.edgesSeen, known.node?⟩
  · exact fail_agree lockstep _

theorem pageField_agree (rel connectionType : String) (page : PageInfo)
    (same : FieldAlike given alike field field') :
    Agree comparison.shared (· = ·) (pageField ctx rel connectionType page field)
      (pageField other rel connectionType page field') := by
  rw [pageField, pageField, ← same.name, ← same.responseName]
  split
  · exact .pure rfl
  · exact .pure rfl
  · apply (fieldType_agree lockstep _ "pageInfo").bind
    intro found found' sameFound
    rw [sameFound]
    exact .pure rfl
  · exact fail_agree lockstep _

theorem pageFields_agree (rel connectionType : String) (page : PageInfo)
    (same : List.Forall₂ (FieldAlike given alike) fields fields') :
    Agree comparison.shared (· = ·)
      (fields.foldlM (pageField ctx rel connectionType) page)
      (fields'.foldlM (pageField other rel connectionType) page) := by
  apply Agree.foldlM same
  · intro page page' field field' samePage sameField
    rw [samePage]
    exact pageField_agree lockstep _ _ _ sameField
  · rfl

/-- An inner field is an attribute on both sides, or a relation on both. -/
theorem inner_agree (same : FieldAlike given alike field field') {build build' : Builder Root}
    (below : field.selections ≠ [] → Agree comparison.shared comparison.roots build build') :
    Agree comparison.shared comparison.nodes
      (if isAttribute field then pure (Node.attribute field.name field.responseName)
        else do
          let found ← build
          return Node.relation found.head found.children)
      (if isAttribute field' then pure (Node.attribute field'.name field'.responseName)
        else do
          let found ← build'
          return Node.relation found.head found.children) := by
  rw [← isAttribute_eq same, ← same.name, ← same.responseName]
  split
  · exact .pure (lockstep.attributes _ _)
  · rename_i other
    have selects : field.selections ≠ [] := by
      intro empty
      simp [isAttribute, empty] at other
    apply (below selects).bind
    intro root root' sameRoot
    exact .pure sameRoot

end Parts

section Relations

variable (lockstep : Lockstep comparison ctx other related)

include lockstep

theorem connectionField_agree (rel connectionType : String)
    (known : PartsAlike comparison.given (related (depth - 1)) parts parts')
    (same : FieldAlike comparison.given (related depth) field field') :
    Agree comparison.shared (PartsAlike comparison.given (related (depth - 1)))
      (connectionField ctx rel connectionType parts field)
      (connectionField other rel connectionType parts' field') := by
  rw [connectionField, connectionField, ← same.name]
  split
  · rw [← known.edgesSeen]
    split
    · exact fail_bind_agree lockstep _
    · apply (fieldType_agree lockstep _ "edges").bind
      intro found found' sameFound
      rw [sameFound]
      apply (fieldsOf_agree lockstep same.selections).bind
      intro inner inner' alike
      apply Agree.foldlM alike
      · intro state state' item item' kept sameItem
        exact edgeField_agree lockstep _ found'.type kept sameItem
      · exact ⟨by rw [known.connection, same.responseName], rfl, known.node?⟩
  · exact .pure ⟨by rw [known.connection, same.responseName], known.edgesSeen, known.node?⟩
  · exact .pure ⟨by rw [known.connection, same.responseName], known.edgesSeen, known.node?⟩
  · apply (fieldsOf_agree lockstep same.selections).bind
    intro inner inner' alike
    rw [← same.responseName]
    apply (pageFields_agree lockstep _ _ _ alike).bind
    intro page page' samePage
    exact .pure ⟨by rw [known.connection, samePage], known.edgesSeen, known.node?⟩
  · exact fail_agree lockstep _

theorem connection_agree (rel connectionType : String)
    (alike : List.Forall₂ (FieldAlike comparison.given (related depth)) fields fields') :
    Agree comparison.shared
      (fun found found' => found.1 = found'.1 ∧ related (depth - 1) found.2.1 found'.2.1 ∧
        found.2.2 = found'.2.2)
      (connection ctx rel connectionType fields)
      (connection other rel connectionType fields') := by
  have initial : PartsAlike comparison.given (related (depth - 1)) _ .none :=
    ⟨rfl, rfl, .none⟩
  have parts : Agree comparison.shared (PartsAlike comparison.given (related (depth - 1)))
      (fields.foldlM (connectionField ctx rel connectionType) .none)
      (fields'.foldlM (connectionField other rel connectionType) .none) := by
    apply Agree.foldlM alike
    · intro parts parts' field field' known same
      exact connectionField_agree lockstep _ _ known same
    · exact initial
  apply parts.bind
  intro parts parts' known
  rcases parts with ⟨shown, seen, node?⟩
  rcases parts' with ⟨shown', seen', node?'⟩
  rcases known with ⟨sameShown, sameSeen, nodes⟩
  cases nodes with
  | none => exact fail_agree lockstep _
  | some holds => exact .pure ⟨sameShown, holds.1.selections, holds.2⟩

variable (fueled : Fueled comparison related depth fuel fuel')

include fueled

theorem relation_agree (parent : String)
    (same : FieldAlike comparison.given (related depth) field field')
    (selects : field.selections ≠ []) :
    Agree comparison.shared comparison.roots (relation ctx fuel parent field)
      (relation other fuel' parent field') := by
  induction fuel generalizing depth fuel' parent field field' with
  | zero =>
    obtain ⟨-, rfl, shared⟩ := fueled.unfinished same selects (.inl rfl)
    exact .throw shared
  | succ fuel ih =>
    cases fuel' with
    | zero => cases (fueled.unfinished same selects (.inr rfl)).1
    | succ fuel' =>
      rw [relation, relation, ← same.name, ← same.responseName]
      apply (fieldType_agree lockstep _ _).bind
      intro found found' sameFound
      rw [sameFound]
      apply (lockstep.arguments _ _ same.arguments).bind
      intro given given' sameGiven
      apply (nextAlias_agree _).after
      intro aliasName
      apply (fieldsOf_agree lockstep same.selections).bind
      intro fields fields' alike
      rw [← any_name_eq alike]
      split
      · apply (connection_agree lockstep _ _ alike).bind
        rintro ⟨connection, sels, type⟩ ⟨connection', selections', type'⟩
          ⟨sameConnection, holds, sameType⟩
        subst sameConnection sameType
        apply (fieldsOf_agree lockstep holds).bind
        intro inner inner' alikeInner
        have less : depth - 1 - 1 - 1 ≤ depth - 1 := by omega
        rw [nodesWith_eq_mapM, nodesWith_eq_mapM]
        have children := Agree.mapM alikeInner fun field field' same =>
          inner_agree lockstep same (ih (fueled.below less) type same)
        apply children.bind
        intro children children' sameChildren
        exact .pure (lockstep.relations rfl sameGiven sameChildren)
      · rw [nodesWith_eq_mapM, nodesWith_eq_mapM]
        have children := Agree.mapM alike fun field field' same =>
          inner_agree lockstep same (ih (fueled.below le_rfl) found'.type same)
        apply children.bind
        intro children children' sameChildren
        exact .pure (lockstep.relations rfl sameGiven sameChildren)

theorem root_agree (same : FieldAlike comparison.given (related depth) field field') :
    Agree comparison.shared comparison.roots (root ctx fuel field)
      (root other fuel' field') := by
  rw [root, root, ← same.isEmpty, ← same.name, ← lockstep.schema]
  split
  · exact fail_bind_agree lockstep _
  · rename_i other
    split
    · exact fail_bind_agree lockstep _
    · apply relation_agree lockstep fueled _ same
      intro empty
      simp [empty] at other

end Relations

end Builder

/-! ## Whole builds -/

/-- A build that lets relations nest to a given depth. -/
def buildWithin (ctx : Context) (fuel : Nat) (sels : List Selection) :
    Except BuildError (List Root) := do
  let fields ← collect ctx.document ctx.environment sels
  let (roots, _) ← (fields.mapM (Builder.root ctx fuel)).run 0
  return roots

theorem build_eq (ctx : Context) (sels : List Selection) :
    build ctx sels = buildWithin ctx ctx.depthBound sels := rfl

/-- Builds over related selection sets give corresponding trees or fail with the same error. -/
theorem Lockstep.buildWithin {comparison : Comparison} {other : Context}
    (lockstep : Lockstep comparison ctx other related)
    (fueled : Fueled comparison related (depth - 1) fuel fuel')
    (holds : related depth sels others) :
    Corresponds comparison.shared (List.Forall₂ comparison.roots)
      (buildWithin ctx fuel sels) (buildWithin other fuel' others) := by
  apply (lockstep.collects holds).bind
  intro fields fields' alike
  have roots := Builder.Agree.mapM alike fun field field' same =>
    Builder.root_agree lockstep fueled same
  apply (roots 0).bind
  rintro ⟨found, number⟩ ⟨found', number'⟩ ⟨same, -⟩
  exact .ok same

/-! ## Builds in two documents -/

/-- Builds that end with the same trees. -/
def Comparison.exact : Comparison := ⟨BuildError.Finished, Eq, Eq, Eq⟩

/-- A relation between the selection sets of two builds that differ in their documents, for every
bound on the depth of the fields below: related sets collect alike, and one without depth is empty. -/
structure Mirrors (ctx : Context) (doc : Document)
    (related : Nat → List Selection → List Selection → Prop) : Prop where
  flat : ∀ {sels others}, related 0 sels others → others = []
  collects : ∀ {depth sels others}, related depth sels others →
    Corresponds BuildError.Finished (List.Forall₂ (FieldAlike Eq (related (depth - 1))))
      (collect ctx.document ctx.environment sels)
      (collect doc ctx.environment others)

theorem givenArguments_agree (resolution : ∀ error, shared (.resolution error))
    (ctx : Context) (document : Document) (field : String) (given : List Argument) :
    Builder.Agree shared Eq (Builder.givenArguments ctx field given)
      (Builder.givenArguments { ctx with document } field given) := by
  induction given with
  | nil => exact .pure rfl
  | cons argument given ih =>
    rw [Builder.givenArguments, Builder.givenArguments]
    dsimp only
    split
    · exact .throw (resolution _)
    · apply ih.bind
      intro others others' same
      rw [same]
      split
      · exact .pure rfl
      · exact .pure rfl

/-- Builds that differ in their documents and collect alike go through the same steps. -/
theorem lockstep_of_collects (resolution : ∀ error, shared (.resolution error))
    (collects : ∀ {depth sels others}, related depth sels others →
      Corresponds shared (List.Forall₂ (FieldAlike Eq (related (depth - 1))))
        (collect ctx.document ctx.environment sels)
        (collect document ctx.environment others)) :
    Lockstep ⟨shared, Eq, Eq, Eq⟩ ctx { ctx with document } related where
  schema := rfl
  resolution := resolution
  collects := collects
  arguments := by
    rintro parent field given _ rfl
    apply (givenArguments_agree resolution _ _ _ _).bind
    intro found found' same
    rw [same]
    exact .pure rfl
  attributes _ _ := rfl
  relations := by
    intro head head' children children' sameHead sameArguments sameChildren
    have equal : children = children' := forall₂_eq_eq_eq ▸ sameChildren
    rw [sameHead, equal, ← show head.arguments = head'.arguments from sameArguments]

theorem Mirrors.lockstep (mirrors : Mirrors ctx document related) :
    Lockstep .exact ctx { ctx with document } related :=
  lockstep_of_collects (by rintro error ⟨⟩) mirrors.collects

/-- Builds over related selection sets give the same trees or fail with the same error. -/
theorem buildWithin_agree (mirrors : Mirrors ctx document related) (covered : depth ≤ fuel)
    (covered' : depth ≤ fuel') (holds : related depth sels others) :
    Corresponds BuildError.Finished (· = ·) (buildWithin ctx fuel sels)
      (buildWithin { ctx with document } fuel' others) := by
  have fueled : Fueled .exact _ (depth - 1) fuel fuel' :=
    .inl ⟨fun _ _ => mirrors.flat, by omega, by omega⟩
  apply (mirrors.lockstep.buildWithin fueled holds).imp
  intro roots roots' same
  have equal : ∀ {root root' : Root}, Comparison.exact.roots root root' → root = root' := by
    rintro ⟨head, children⟩ ⟨head', children'⟩ ⟨⟩
    rfl
  exact forall₂_eq_eq_eq ▸ same.imp fun _ _ => equal

end SelectGraph.Tree
