import SelectGraph.Proofs.Request.Extent
import SelectGraph.Request.Analysis

/-!
# Hashes of operations

The fragments that are gathered for the hash of an operation are just those it reaches, so that nothing
else in a document counts.
-/

namespace SelectGraph.GraphQL

open List

/-! ## Gathering -/

mutual

theorem Selection.foldSpreads_eq {σ : Type} (visit : String → σ → σ) (sel : Selection)
    (state : σ) :
    sel.foldSpreads visit state =
      sel.spreadNames.foldl (fun state name => visit name state) state := by
  match sel with
  | .field _ _ _ _ sels _ _ => exact foldSpreadsAll_eq visit sels state
  | .inline _ _ sels _ _ => exact foldSpreadsAll_eq visit sels state
  | .spread _ _ _ => rfl

theorem Selection.foldSpreadsAll_eq {σ : Type} (visit : String → σ → σ)
    (sels : List Selection) (state : σ) :
    foldSpreadsAll visit sels state =
      (spreadNamesAll sels).foldl (fun state name => visit name state) state := by
  match sels with
  | [] => rfl
  | sel :: sels =>
    rw [foldSpreadsAll, foldSpreads_eq, foldSpreadsAll_eq, spreadNamesAll, foldl_append]

end

/-- What following names establishes: they are gathered with all that the fragments entered spread, and
nothing else is. -/
structure Document.Gathers (doc : Document) (names seen result : List String) : Prop where
  grows : seen ⊆ result
  distinct : seen.Nodup → result.Nodup
  met : names ⊆ result
  closed : ∀ name ∈ result, name ∉ seen → ∀ frag, doc.fragment? name = some frag →
    Selection.spreadNamesAll frag.selections ⊆ result
  sound : ∀ sels, (∀ name ∈ names, doc.Reaches sels name) →
    (∀ name ∈ seen, doc.Reaches sels name) →
      ∀ name ∈ result, doc.Reaches sels name

section

variable {doc : Document} {names seen : List String} {name : String}

theorem Document.Gathers.cons {middle result : List String}
    (first : doc.Gathers [name] seen middle) (rest : doc.Gathers names middle result) :
    doc.Gathers (name :: names) seen result where
  grows := List.Subset.trans first.grows rest.grows
  distinct := rest.distinct ∘ first.distinct
  met := cons_subset.mpr ⟨rest.grows (first.met mem_cons_self), rest.met⟩
  closed other mem new frag found := by
    by_cases early : other ∈ middle
    · exact List.Subset.trans (first.closed other early new frag found) rest.grows
    · exact rest.closed other mem early frag found
  sound sels reached known := by
    obtain ⟨reachedFirst, reachedRest⟩ := forall_mem_cons.mp reached
    exact rest.sound sels reachedRest (first.sound sels (by simpa using reachedFirst) known)

theorem Document.gathers_foldl {visit : String → List String → List String} {bound : Nat}
    (visits : ∀ name seen, doc.unseen seen < bound →
      doc.Gathers [name] seen (visit name seen)) (names : List String)
    (few : doc.unseen seen < bound) :
    doc.Gathers names seen (names.foldl (fun seen name => visit name seen) seen) := by
  induction names generalizing seen with
  | nil => exact ⟨.refl _, id, nil_subset _, fun _ mem new => absurd mem new, fun _ _ known => known⟩
  | cons name names ih =>
    have first := visits name seen few
    exact first.cons (ih ((doc.unseen_anti first.grows).trans_lt few))

theorem Document.follow_gathers (doc : Document) (budget : Nat) :
    ∀ name seen, doc.unseen seen < budget →
      doc.Gathers [name] seen (doc.follow budget name seen) := by
  induction budget with
  | zero =>
    intro name seen few
    omega
  | succ budget ih =>
    intro name seen few
    rw [follow]
    split
    · next known =>
        exact ⟨.refl _, id, by simpa using known, fun _ mem new => absurd mem new, fun _ _ known => known⟩
    · next new =>
        split
        · next undefined =>
            refine ⟨subset_cons_self _ _, fun distinct => nodup_cons.mpr ⟨new, distinct⟩,
              by simp, ?_, ?_⟩
            · intro other mem fresh frag found
              rcases mem_cons.mp mem with rfl | known
              · cases undefined.symm.trans found
              · exact absurd known fresh
            · exact fun sels reached known => forall_mem_cons.mpr ⟨reached _ (by simp), known⟩
        · next frag found =>
            rw [Selection.foldSpreadsAll_eq]
            have fewer := unseen_cons_lt found new
            have within := gathers_foldl ih (Selection.spreadNamesAll frag.selections)
              (show doc.unseen (name :: seen) < budget by omega)
            have here := within.grows mem_cons_self
            refine ⟨List.Subset.trans (subset_cons_self _ _) within.grows,
              fun distinct => within.distinct (nodup_cons.mpr ⟨new, distinct⟩),
              by simpa using here, ?_, ?_⟩
            · intro other mem fresh body foundOther
              by_cases same : other = name
              · subst same
                cases found.symm.trans foundOther
                exact within.met
              · exact within.closed other mem (by simp [same, fresh]) body foundOther
            · intro sels reached known
              have own := reached name mem_cons_self
              exact within.sound sels (fun _ mem => .through own found mem)
                (forall_mem_cons.mpr ⟨own, known⟩)

end

theorem Document.reachable_gathers (doc : Document) (sels : List Selection) :
    doc.Gathers (Selection.spreadNamesAll sels) [] (doc.reachable sels) := by
  rw [reachable, Selection.foldSpreadsAll_eq]
  exact gathers_foldl (doc.follow_gathers _) _ (Nat.lt_succ_of_le (doc.unseen_le []))

/-- The names that are gathered are those that are reached. -/
theorem Document.mem_reachable_iff (doc : Document) (sels : List Selection)
    (name : String) : name ∈ doc.reachable sels ↔ doc.Reaches sels name := by
  have gathers := doc.reachable_gathers sels
  constructor
  · exact gathers.sound sels (fun _ mem => .here mem) (by simp) name
  · intro reached
    induction reached with
    | here mem => exact gathers.met mem
    | through reached found mem ih => exact gathers.closed _ ih not_mem_nil _ found mem

end SelectGraph.GraphQL

namespace SelectGraph.Request

open GraphQL (Document Fragment Operation Selection)

/-! ## Hashes -/

/-- Whether two operations say the same, wherever they stand. -/
structure SameOperation (op other : Operation) : Prop where
  text : op.print = other.print
  name : effectiveName op = effectiveName other
  spreads : Selection.spreadNamesAll op.selections = Selection.spreadNamesAll other.selections

/-- Whether two fragments say the same, wherever they stand. -/
structure SameFragment (frag other : Fragment) : Prop where
  text : frag.print = other.print
  spreads : Selection.spreadNamesAll frag.selections = Selection.spreadNamesAll other.selections

/-- Two sorts of the same names are equal. -/
theorem mergeSort_congr {names others : List String} (distinct : names.Nodup)
    (distinctToo : others.Nodup) (same : ∀ name, name ∈ names ↔ name ∈ others) :
    names.mergeSort (fun a b => decide (a ≤ b)) = others.mergeSort fun a b => decide (a ≤ b) := by
  have perm : names.Perm others := (List.perm_ext_iff_of_nodup distinct distinctToo).mpr same
  have sorted (names : List String) :
      (names.mergeSort fun a b => decide (a ≤ b)).Pairwise fun a b => decide (a ≤ b) = true := by
    apply List.pairwise_mergeSort
    · simpa using fun a b c => String.le_trans
    · simpa using String.le_total
  refine ((List.mergeSort_perm _ _).trans (perm.trans (List.mergeSort_perm _ _).symm)).eq_of_pairwise
    ?_ (sorted _) (sorted _)
  intro a b _ _ less more
  exact String.le_antisymm (of_decide_eq_true less) (of_decide_eq_true more)

theorem mapM_isSome_iff {find : String → Option Fragment} {names : List String} :
    (names.mapM find).isSome = true ↔ ∀ name ∈ names, (find name).isSome = true := by
  induction names with
  | nil => simp
  | cons name names ih =>
    rw [List.mapM_cons, List.forall_mem_cons, ← ih]
    cases find name <;> cases names.mapM find <;> simp

theorem mapM_text_congr {first second : String → Option Fragment} {names : List String}
    (same : ∀ name ∈ names, (first name).map Fragment.print = (second name).map Fragment.print) :
    (names.mapM first).map (List.map Fragment.print) =
      (names.mapM second).map (List.map Fragment.print) := by
  induction names with
  | nil => rfl
  | cons name names ih =>
    obtain ⟨sameFirst, sameRest⟩ := List.forall_mem_cons.mp same
    have rest := ih sameRest
    rw [List.mapM_cons, List.mapM_cons]
    cases one : first name <;> cases other : second name <;>
      cases all : names.mapM first <;> cases others : names.mapM second <;> simp_all

section

variable {doc other : Document} {op again : Operation}
  (same : SameOperation op again)
  (agree : ∀ name, doc.Reaches op.selections name →
    doc.Relates SameFragment other name)

include same agree

theorem reaches_iff_of_same (name : String) :
    other.Reaches again.selections name ↔ doc.Reaches op.selections name := by
  constructor
  · intro reached
    induction reached with
    | here mem => exact .here (same.spreads ▸ mem)
    | through reached found mem ih =>
      obtain ⟨frag, foundHere, related⟩ := (agree _ ih).right found
      exact .through ih foundHere (related.spreads ▸ mem)
  · refine GraphQL.Document.Reaches.transfer (same.spreads ▸ .refl _) fun name _ reached found => ?_
    obtain ⟨body, foundThere, related⟩ := (agree name reached).left found
    exact ⟨body, foundThere, related.spreads ▸ .refl _⟩

theorem operationHash?_of_same : operationHash? other again = operationHash? doc op := by
  have names : (other.reachable again.selections).mergeSort (fun a b => decide (a ≤ b)) =
      (doc.reachable op.selections).mergeSort fun a b => decide (a ≤ b) := by
    apply mergeSort_congr ((other.reachable_gathers _).distinct .nil)
      ((doc.reachable_gathers _).distinct .nil)
    intro name
    rw [other.mem_reachable_iff, doc.mem_reachable_iff, reaches_iff_of_same same agree]
  have texts : (reachedFragments? other again).map (List.map Fragment.print) =
      (reachedFragments? doc op).map (List.map Fragment.print) := by
    rw [reachedFragments?, reachedFragments?, names]
    apply mapM_text_congr
    intro name mem
    rw [List.mem_mergeSort, doc.mem_reachable_iff] at mem
    rcases agree name mem with ⟨none, noBody⟩ | ⟨_, _, found, foundBody, related⟩
    · rw [none, noBody]
    · rw [found, foundBody, Option.map_some, Option.map_some, related.text]
  have hash (doc : Document) (op : Operation) : operationHash? doc op =
      ((reachedFragments? doc op).map (List.map Fragment.print)).map fun texts =>
        Hash.framedDigest ([GraphQL.joinParts "\n\n" (op.print :: texts) ++ "\n",
          effectiveName op].map fun part => part.toUTF8.toList) := by
    rw [operationHash?, Option.map_map]
    rfl
  rw [hash, hash, texts, same.text, same.name]

end

/-- The hash of an operation depends on what the operation reaches and on nothing else in the document.
There is one if and only if all that is reached is defined. -/
theorem operationHash_by_reach (document : Document) (operation : Operation) :
    (∀ name, name ∈ document.reachable operation.selections ↔
      document.Reaches operation.selections name) ∧
    ((operationHash? document operation).isSome = true ↔
      ∀ name, document.Reaches operation.selections name →
        (document.fragment? name).isSome = true) ∧
    ∀ other again, SameOperation operation again →
      (∀ name, document.Reaches operation.selections name →
        document.Relates SameFragment other name) →
      operationHash? other again = operationHash? document operation := by
  have reached := document.mem_reachable_iff operation.selections
  refine ⟨reached, ?_, fun _ _ => operationHash?_of_same⟩
  simp only [operationHash?, reachedFragments?, Option.isSome_map, mapM_isSome_iff,
    List.mem_mergeSort, reached]

theorem operationHash_by_reach_elsewhere :
    let card := [Tree.bareField "id" [], Tree.bareSpread "Card"]
    let operation := GraphQL.bareOperation [Tree.bareSpread "Card"]
    operationHash? ⟨[Tree.personFragment "Ring" [Tree.bareSpread "Ring"],
        Tree.personFragment "Card" card, .operation operation]⟩ { operation with start := 9 } =
      operationHash? (GraphQL.cardDocument card) operation := by
  intro card operation
  refine (operationHash_by_reach _ _).2.2 _ _ ⟨rfl, rfl, rfl⟩ fun name reached => ?_
  have named : name = "Card" := by
    induction reached with
    | here mem => exact List.mem_singleton.mp mem
    | through reached found mem ih =>
      subst ih
      cases found
      exact List.mem_singleton.mp mem
  subst named
  exact .inr ⟨_, _, rfl, rfl, rfl, rfl⟩

end SelectGraph.Request
