import SelectGraph.Proofs.Tree.Agreement
import SelectGraph.Proofs.Tree.Collected

/-!
# Builds that end

A build ends unless a fragment is spread again below one of its own fields: then every level of
fields is lighter than the one above, where the weight of a selection counts the selections written
in it and in the fragments it reaches.  Fragments that spread themselves without a field between are
reported.  A fragment that does so below a field is expanded for ever.
-/

namespace SelectGraph.GraphQL

theorem Selection.count_pos (sel : Selection) : 0 < sel.count := by
  cases sel <;> rw [count] <;> omega

theorem Selection.count_le_countAll {sel : Selection} {sels : List Selection}
    (mem : sel ∈ sels) : sel.count ≤ countAll sels := by
  induction sels with
  | nil => cases mem
  | cons first sels ih =>
    rw [countAll]
    rcases List.mem_cons.mp mem with rfl | later
    · omega
    · have less := ih later
      omega

end SelectGraph.GraphQL

namespace SelectGraph.Tree

open GraphQL (Directive Document Fragment Operation Selection)
open Sql (Corresponds)

variable {sel : Selection} {op : Operation} {ctx : Context}

/-! ## Weights of selections -/

section Weights

variable {doc : Document} {kept : List Directive → Prop} {sels : List Selection}

/-- What a set shows stands in one of its selections, or in a fragment that this one spreads. -/
theorem Shows.origin (shown : Shows doc kept sels sel) :
    ∃ outer ∈ sels, Shows doc kept [outer] sel ∧
      (sel.count ≤ outer.count ∨ ∃ name frag, Spreads doc kept [outer] name ∧
        doc.fragment? name = some frag ∧
        Shows doc kept frag.selections sel ∧
        sel.count ≤ Selection.countAll frag.selections) := by
  induction shown with
  | here mem keeps =>
    exact ⟨_, mem, .here (List.mem_singleton.mpr rfl) keeps, .inl le_rfl⟩
  | inline mem keeps shown ih =>
    refine ⟨_, mem, .inline (List.mem_singleton.mpr rfl) keeps shown, ?_⟩
    rcases ih with ⟨outer, memOuter, -, less | ⟨name, frag, spread, rest⟩⟩
    · have inner := Selection.count_le_countAll memOuter
      rw [Selection.count]
      omega
    · right
      rcases spread with ⟨written, dirs, start, shownSpread, named⟩
      refine ⟨name, frag, ⟨written, dirs, start, ?_, named⟩, rest⟩
      exact .inline (List.mem_singleton.mpr rfl) keeps (shownSpread.of_mem memOuter)
  | @spread sels sel name dirs start frag mem keeps found shown ih =>
    have here : Shows doc kept [.spread name _ start]
        _ := .here (List.mem_singleton.mpr rfl) keeps
    refine ⟨_, mem, .spread (List.mem_singleton.mpr rfl) keeps found shown, .inr ?_⟩
    rcases ih with ⟨outer, memOuter, -, less | ⟨other, body, spread, rest⟩⟩
    · have inner := Selection.count_le_countAll memOuter
      exact ⟨name.value, frag, ⟨name, dirs, start, here, rfl⟩, found, shown,
        less.trans inner⟩
    · rcases spread with ⟨written, given, begins, shownSpread, named⟩
      refine ⟨other, body, ⟨written, given, begins, ?_, named⟩, rest⟩
      exact .spread (List.mem_singleton.mpr rfl) keeps found (shownSpread.of_mem memOuter)

open scoped Classical in
/-- The number of selections written in the fragments of a document that a set reaches. -/
noncomputable def reachedCount (doc : Document) (kept : List Directive → Prop)
    (sels : List Selection) : Nat :=
  ((doc.fragments.filter fun frag =>
      Reaches doc kept sels frag.name.value).map fun frag =>
    Selection.countAll frag.selections).sum

/-- The number of selections written in a selection and in the fragments it reaches. -/
noncomputable def weight (doc : Document) (kept : List Directive → Prop)
    (sel : Selection) : Nat :=
  sel.count + reachedCount doc kept [sel]

theorem sum_filter_le {α : Type} (size : α → Nat) {smaller larger : α → Bool}
    (sub : ∀ item, smaller item → larger item) (items : List α) :
    ((items.filter smaller).map size).sum ≤ ((items.filter larger).map size).sum := by
  apply ((List.monotone_filter_right _ sub).map size).sum_le_sum
  intro count mem
  exact Nat.zero_le _

theorem sum_filter_add_le {α : Type} (size : α → Nat) {smaller larger : α → Bool}
    (sub : ∀ item, smaller item → larger item) {items : List α} {missing : α}
    (mem : missing ∈ items) (out : smaller missing = false) (inside : larger missing = true) :
    ((items.filter smaller).map size).sum + size missing ≤
      ((items.filter larger).map size).sum := by
  obtain ⟨before, after, rfl⟩ := List.append_of_mem mem
  have earlier := sum_filter_le size sub before
  have later := sum_filter_le size sub after
  simp only [List.filter_append, List.filter_cons, out, inside, List.map_append, List.sum_append,
    if_true, List.map_cons, List.sum_cons, Bool.false_eq_true, if_false]
  omega

section

variable {others : List Selection}
  (sub : ∀ name, Reaches doc kept sels name → Reaches doc kept others name)

include sub

theorem reachedCount_le :
    reachedCount doc kept sels ≤ reachedCount doc kept others := by
  apply sum_filter_le
  intro frag reached
  simp only [decide_eq_true_eq] at reached ⊢
  exact sub _ reached

theorem reachedCount_add_le {name : String} {frag : Fragment}
    (found : doc.fragment? name = some frag)
    (out : ¬ Reaches doc kept sels name) (inside : Reaches doc kept others name) :
    reachedCount doc kept sels + Selection.countAll frag.selections ≤
      reachedCount doc kept others := by
  obtain ⟨mem, named⟩ := Document.mem_of_fragment? found
  subst named
  apply sum_filter_add_le (fun frag => Selection.countAll _) _ mem
  · simpa using out
  · simpa using inside
  · intro frag reached
    simp only [decide_eq_true_eq] at reached ⊢
    exact sub _ reached

end

/-- Whether no fragment that a selection reaches recurs. -/
def Calm (doc : Document) (kept : List Directive → Prop) (sel : Selection) : Prop :=
  ∀ name, Reaches doc kept [sel] name → ¬ Recurs doc kept name

/-- A selection one level below calm selections is calm, and lighter than one of them. -/
theorem Selects.lighter {inner : List Selection}
    (selected : Selects doc kept sels inner)
    (calm : ∀ sel ∈ sels, Calm doc kept sel) (mem : sel ∈ inner) :
    Calm doc kept sel ∧
      ∃ outer ∈ sels, weight doc kept sel < weight doc kept outer := by
  obtain ⟨responseName?, field, args, dirs, start, setStart, shown⟩ := selected
  obtain ⟨outer, memOuter, shownOuter, origin⟩ := shown.origin
  have selected : Selects _ kept [outer] _ :=
    ⟨responseName?, field, args, dirs, start, setStart, shownOuter⟩
  have sub : ∀ name, Reaches doc kept [sel] name → Reaches doc kept [outer] name := by
    intro name reached
    exact (reached.of_mem mem).of_selects selected
  have part := Selection.count_le_countAll mem
  constructor
  · intro name reached
    exact calm _ memOuter name (sub name reached)
  · refine ⟨outer, memOuter, ?_⟩
    rw [weight, weight]
    rcases origin with less | ⟨name, frag, spread, found, shownFragment, less⟩
    · have fewer := reachedCount_le sub
      rw [Selection.count] at less
      omega
    · -- The fragment in which the field stands is reached from above the field but not from below.
      have out : ¬ Reaches doc kept [sel] name := by
        intro again
        apply calm _ memOuter name spread.reaches
        exact ⟨frag, inner, found, ⟨responseName?, field, args, dirs, start, setStart,
          shownFragment⟩, again.of_mem mem⟩
      have fewer := reachedCount_add_le sub found out spread.reaches
      rw [Selection.count] at less
      omega

theorem weight_le_selectionCount (listed : op ∈ doc.operations)
    (mem : sel ∈ op.selections) :
    weight doc kept sel ≤ doc.selectionCount := by
  have written := Selection.count_le_countAll mem
  have total : Selection.countAll _ ≤
      (doc.operations.map fun op => Selection.countAll op.selections).sum :=
    List.single_le_sum (by simp) _ (List.mem_map.mpr ⟨op, listed, rfl⟩)
  have reached : reachedCount doc kept [sel] ≤
      (doc.fragments.map fun frag => Selection.countAll frag.selections).sum := by
    apply (List.filter_sublist.map _).sum_le_sum
    intro count mem
    exact Nat.zero_le _
  rw [weight, Document.selectionCount, ← List.sum_eq_foldl, List.sum_append]
  omega

end Weights

/-! ## Builds -/

/-- Selections with a bound on their weights are collected into fields with a smaller one. -/
theorem calm_mirrors (ctx : Context) :
    Mirrors ctx ctx.document fun depth sels others => sels = others ∧
      ∀ sel ∈ sels, Calm ctx.document (Kept ctx.environment) sel ∧
        weight ctx.document (Kept ctx.environment) sel ≤ depth := by
  constructor
  · rintro sels others ⟨rfl, light⟩
    apply List.eq_nil_iff_forall_not_mem.mpr
    intro sel mem
    have bound := (light _ mem).2
    have positive := sel.count_pos
    rw [weight] at bound
    omega
  · rintro depth sels others ⟨rfl, light⟩
    apply corresponds_of_ne (collect_ne_unfinished _ _ _)
    intro fields collected
    have below : ∀ inner, Selects ctx.document (Kept ctx.environment) sels inner →
        ∀ sel ∈ inner, Calm ctx.document (Kept ctx.environment) sel ∧
          weight ctx.document (Kept ctx.environment) sel ≤ depth - 1 := by
      intro inner selected sel mem
      obtain ⟨calm, outer, memOuter, lighter⟩ :=
        selected.lighter (fun sel mem => (light _ mem).1) mem
      have bound := (light _ memOuter).2
      exact ⟨calm, by omega⟩
    have gathered := collect_gathers collected below
    apply List.forall₂_same.mpr
    intro field mem
    exact ⟨rfl, rfl, rfl, rfl, rfl, gathered _ mem⟩

theorem selectionCount_le_depthBound (ctx : Context) :
    ctx.document.selectionCount ≤ ctx.depthBound := by
  rw [Context.depthBound]
  nlinarith

section Calm

variable (listed : op ∈ ctx.document.operations)
  (calm : ∀ name, Reaches ctx.document (Kept ctx.environment) op.selections name →
    ¬ Recurs ctx.document (Kept ctx.environment) name) {fuel fuel' : Nat}

include listed calm

/-- With fuel for as many levels as there are selections in the document, a build ends, and more fuel
changes nothing. -/
theorem buildWithin_ends (enough : ctx.document.selectionCount ≤ fuel)
    (enough' : ctx.document.selectionCount ≤ fuel') :
    Corresponds BuildError.Finished (· = ·) (buildWithin ctx fuel op.selections)
      (buildWithin ctx fuel' op.selections) := by
  apply buildWithin_agree (calm_mirrors _) enough enough'
  refine ⟨rfl, ?_⟩
  intro sel mem
  constructor
  · intro name reached
    exact calm name (reached.of_mem mem)
  · exact weight_le_selectionCount listed mem

/-- More levels than a build is given do not change its outcome. -/
theorem buildWithin_eq_build (more : ctx.depthBound ≤ fuel) :
    buildWithin ctx fuel op.selections = build ctx op.selections := by
  have enough := selectionCount_le_depthBound ctx
  exact (buildWithin_ends listed calm (enough.trans more) enough).eq

end Calm

/-- A build ends with trees or an error, which more levels would not change, unless the operation
reaches a fragment that is spread again below one of its own fields.  A set that spreads a fragment
which spreads itself, directly or through other fragments, is reported. -/
theorem build_ends_unless_recurrent (context : Context) {operation : Operation}
    (listed : operation ∈ context.document.operations) :
    ((∀ name, Reaches context.document (Kept context.environment) operation.selections name →
        ¬ Recurs context.document (Kept context.environment) name) →
      build context operation.selections ≠ .error .unfinished ∧
        ∀ fuel, context.depthBound ≤ fuel →
          buildWithin context fuel operation.selections = build context operation.selections) ∧
    ∀ selections name fragment,
      Spreads context.document (Kept context.environment) selections name →
      context.document.fragment? name = some fragment →
      Spreads context.document (Kept context.environment) fragment.selections name →
      ∃ error, error ≠ .unfinished ∧ build context selections = .error error := by
  constructor
  · intro calm
    constructor
    · have enough := selectionCount_le_depthBound context
      rw [build_eq]
      exact ne_unfinished (buildWithin_ends listed calm enough enough)
    · intro fuel more
      exact buildWithin_eq_build listed calm more
  · intro selections name fragment spread found again
    have finished := collect_ne_unfinished context.document context.environment selections
    have failed := collect_ne_ok_of_spreads_self spread found again
    rw [build]
    cases collected : collect context.document context.environment selections with
    | ok fields => exact absurd collected (failed fields)
    | error error =>
      rw [collected] at finished
      exact ⟨error, by simpa using finished, rfl⟩

def personSchema : Schema where
  queryType := "Query"
  types := [⟨"Query", .object [⟨"me", [], .named "Person", none⟩]⟩,
    ⟨"Person", .object [⟨"id", [], .named "Int", none⟩, ⟨"friend", [], .named "Person", none⟩]⟩]
  defaults := []

def personQuery (frag : String) : Operation :=
  ⟨.query, none, [], [], [bareField "me" [bareSpread frag]], 0, 0⟩

/-- A query on a person, and fragments some of which are spread again inside themselves: the ring
below a relation, the mirror below an attribute, the knot without a field between. -/
def personContext (frag : String) : Context :=
  ⟨personSchema, ⟨[.operation (personQuery frag),
    personFragment "Circle" [bareField "id" [], bareField "friend" [bareSpread "Card"]],
    personFragment "Card" [bareField "id" []],
    personFragment "Ring" [bareField "friend" [bareSpread "Ring"]],
    personFragment "Mirror" [bareField "id" [], bareField "__typename" [bareSpread "Mirror"]],
    personFragment "Knot" [bareField "id" [], bareSpread "Knot"]]⟩, []⟩

theorem personContext_spreads (frag other : String) :
    Spreads (personContext frag).document (Kept []) [bareSpread other] other :=
  ⟨⟨other, 0⟩, [], 0, .here (List.mem_singleton.mpr rfl) rfl, rfl⟩

theorem personContext_reaches (frag : String) :
    Reaches (personContext frag).document (Kept []) (personQuery frag).selections frag := by
  refine .of_selects ⟨none, ⟨"me", 0⟩, [], [], 0, 0, ?_⟩ (personContext_spreads _ _).reaches
  exact .here (List.mem_singleton.mpr rfl) rfl

theorem personContext_calm {name : String}
    (reached : Reaches (personContext "Circle").document (Kept []) (personQuery "Circle").selections
      name) : ¬ Recurs (personContext "Circle").document (Kept []) name := by
  have none : Passes (personContext "Circle").document fun _ => False := by
    rintro name frag ⟨⟩
  have card : Passes (personContext "Circle").document fun name => name = "Card" := by
    rintro name frag rfl found other mem
    cases found
    cases mem
  have circle : Passes (personContext "Circle").document
      fun name => name = "Circle" ∨ name = "Card" := by
    rintro name frag (rfl | rfl) found other mem
    · cases found
      exact .inr (List.mem_singleton.mp mem)
    · cases found
      cases mem
  have known := reached.every circle fun name mem => .inl (List.mem_singleton.mp mem)
  rintro ⟨frag, inner, found, selected, again⟩
  have within := again.of_selects selected
  rcases known with rfl | rfl
  · cases found
    have same := within.every card fun name mem => List.mem_singleton.mp mem
    simp at same
  · cases found
    exact within.every none fun name mem => by cases mem

theorem build_ends_unless_recurrent_circle :
    (∃ roots, build (personContext "Circle") (personQuery "Circle").selections = .ok roots ∧
      roots.map (fun root => root.children.map Node.responseName) = [["id", "friend"]]) ∧
    (∀ fuel, (personContext "Circle").depthBound ≤ fuel →
      buildWithin (personContext "Circle") fuel (personQuery "Circle").selections =
        build (personContext "Circle") (personQuery "Circle").selections) ∧
    ∃ error, error ≠ .unfinished ∧
      build (personContext "Circle") [bareSpread "Knot"] = .error error := by
  obtain ⟨ends, reports⟩ := build_ends_unless_recurrent (personContext "Circle")
    (show personQuery "Circle" ∈ (personContext "Circle").document.operations from
      List.mem_singleton.mpr rfl)
  refine ⟨⟨_, rfl, rfl⟩, (ends fun _ => personContext_calm).2, ?_⟩
  apply reports _ "Knot" _ (personContext_spreads "Circle" "Knot") rfl
  exact ⟨⟨"Knot", 0⟩, [], 0, .here (List.mem_cons_of_mem _ (List.mem_singleton.mpr rfl)) rfl, rfl⟩

/-! ## Builds that do not end -/

/-- A field without arguments that selects, before all else, a relation of which a condition holds
again. -/
structure Returns (ctx : Context) (holds : String → Field → Prop) (parent : String)
    (field : Field) (found : FieldType) (first : Field) (rest : List Field) : Prop where
  typed : ctx.schema.fieldType parent field.name = .ok found
  bare : field.arguments = []
  collected :
    collect ctx.document ctx.environment field.selections = .ok (first :: rest)
  plain : ∀ inner ∈ first :: rest, inner.name ≠ "edges"
  relational : Builder.isAttribute first = false
  again : holds found.type first

section Endless

variable {holds : String → Field → Prop} (returns : ∀ parent field, holds parent field →
  ∃ found first rest, Returns ctx holds parent field found first rest) (fuel : Nat)

include returns

/-- A relation that leads back to relations of the same kind for ever is never finished. -/
theorem Builder.relation_endless (start : Nat) {parent : String} {field : Field}
    (endless : holds parent field) :
    (relation ctx fuel parent field).run start = .error .unfinished := by
  induction fuel generalizing start parent field with
  | zero => rfl
  | succ fuel ih =>
    obtain ⟨found, first, rest, step⟩ := returns _ _ endless
    have below := ih (start + 1) step.again
    have plain : ¬ (first.name = "edges" ∨ ∃ inner ∈ rest, inner.name = "edges") := by
      simpa using step.plain
    rw [relation]
    simp [fieldType, step.typed, step.bare, arguments, givenArguments, nextAlias, fieldsOf,
      step.collected, plain, nodesWith, step.relational, below]

theorem buildWithin_endless {sels : List Selection} {first : Field} {rest : List Field}
    (collected : collect ctx.document ctx.environment sels = .ok (first :: rest))
    (relational : Builder.isAttribute first = false)
    (endless : holds ctx.schema.queryType first) :
    buildWithin ctx fuel sels = .error .unfinished := by
  have unfinished := Builder.relation_endless returns fuel 0 endless
  rw [Builder.isAttribute, Bool.or_eq_false_iff, beq_eq_false_iff_ne] at relational
  simp [buildWithin, collected, Builder.root, relational.1, relational.2, unfinished]

end Endless

/-- The relations that the ring is made of, with their parents. -/
def InRing (parent : String) (field : Field) : Prop :=
  parent = "Query" ∧ field = ⟨"me", "me", [], [bareSpread "Ring"]⟩ ∨
    parent = "Person" ∧ field = ⟨"friend", "friend", [], [bareSpread "Ring"]⟩

theorem inRing_returns (parent : String) (field : Field) (inside : InRing parent field) :
    ∃ found first rest,
      Returns (personContext "Ring") InRing parent field found first rest := by
  rcases inside with ⟨rfl, rfl⟩ | ⟨rfl, rfl⟩
  · exact ⟨_, _, _, rfl, rfl, rfl, by simp, rfl, .inr ⟨rfl, rfl⟩⟩
  · exact ⟨_, _, _, rfl, rfl, rfl, by simp, rfl, .inr ⟨rfl, rfl⟩⟩

/-- A fragment that is spread below one of its own fields is expanded for ever, if the field is a
relation, and is not reported, if the field is taken for an attribute. -/
theorem recurrent_fragment_unreported :
    (Reaches (personContext "Ring").document (Kept []) (personQuery "Ring").selections "Ring" ∧
      Recurs (personContext "Ring").document (Kept []) "Ring" ∧
      ∀ fuel, buildWithin (personContext "Ring") fuel (personQuery "Ring").selections =
        .error .unfinished) ∧
    Reaches (personContext "Mirror").document (Kept []) (personQuery "Mirror").selections "Mirror" ∧
      Recurs (personContext "Mirror").document (Kept []) "Mirror" ∧
      ∃ roots, build (personContext "Mirror") (personQuery "Mirror").selections = .ok roots := by
  refine ⟨⟨personContext_reaches "Ring", ?_, ?_⟩, personContext_reaches "Mirror", ?_, _, rfl⟩
  · refine ⟨_, [bareSpread "Ring"], rfl, ?_, (personContext_spreads "Ring" "Ring").reaches⟩
    exact ⟨none, ⟨"friend", 0⟩, [], [], 0, 0, .here (List.mem_singleton.mpr rfl) rfl⟩
  · intro fuel
    exact buildWithin_endless inRing_returns fuel rfl rfl (.inl ⟨rfl, rfl⟩)
  · refine ⟨_, [bareSpread "Mirror"], rfl, ?_, (personContext_spreads "Mirror" "Mirror").reaches⟩
    exact ⟨none, ⟨"__typename", 0⟩, [], [], 0, 0,
      .here (List.mem_cons_of_mem _ (List.mem_singleton.mpr rfl)) rfl⟩

end SelectGraph.Tree
