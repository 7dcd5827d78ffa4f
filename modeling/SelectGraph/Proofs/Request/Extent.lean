import SelectGraph.GraphQL.Extent
import SelectGraph.Proofs.Tree.Spreads

/-!
# The extent of operations

The fields of an operation are counted once for each place where they are written, in the operation and
in every defined fragment that it reaches, whatever cycles there are.  The depth is one at which the
operation has selections, and the greatest such depth if no fragment is spread at two depths.
-/

namespace SelectGraph.GraphQL

open List

open SelectGraph.Tree (bareField bareSpread personFragment)

/-! ## Reached fragments -/

/-- The fragments that selections reach: those spread in them, at any level, and those spread in a
fragment that they reach. -/
inductive Document.Reaches (doc : Document) (sels : List Selection) : String → Prop
  | here {name : String} (mem : name ∈ Selection.spreadNamesAll sels) :
      doc.Reaches sels name
  | through {name other : String} {frag : Fragment} (reached : doc.Reaches sels name)
      (found : doc.fragment? name = some frag)
      (mem : other ∈ Selection.spreadNamesAll frag.selections) :
      doc.Reaches sels other

section

variable {doc : Document} {sels others : List Selection} {name other : String}
  {frag : Fragment}

/-- What is reached in a document is reached in another one whose reached fragments spread no less. -/
theorem Document.Reaches.transfer {changed : Document}
    (sub : Selection.spreadNamesAll sels ⊆ Selection.spreadNamesAll others)
    (agree : ∀ name frag, doc.Reaches sels name →
      doc.fragment? name = some frag → ∃ body, changed.fragment? name = some body ∧
        Selection.spreadNamesAll frag.selections ⊆ Selection.spreadNamesAll body.selections)
    (reached : doc.Reaches sels name) : changed.Reaches others name := by
  induction reached with
  | here mem => exact .here (sub mem)
  | through reached found mem ih =>
    obtain ⟨body, foundBody, subBody⟩ := agree _ _ reached found
    exact .through ih foundBody (subBody mem)

theorem Document.Reaches.mono
    (sub : Selection.spreadNamesAll sels ⊆ Selection.spreadNamesAll others)
    (reached : doc.Reaches sels name) : doc.Reaches others name :=
  reached.transfer sub fun _ frag _ found => ⟨frag, found, .refl _⟩

/-- Whether two documents both lack the fragment of a name or have related ones. -/
def Document.Relates (doc : Document) (related : Fragment → Fragment → Prop) (other : Document)
    (name : String) : Prop :=
  doc.fragment? name = none ∧ other.fragment? name = none ∨
    ∃ frag body, doc.fragment? name = some frag ∧ other.fragment? name = some body ∧
      related frag body

theorem Document.Relates.left {related : Fragment → Fragment → Prop} {changed : Document}
    (relates : doc.Relates related changed name)
    (found : doc.fragment? name = some frag) :
    ∃ body, changed.fragment? name = some body ∧ related frag body := by
  rcases relates with ⟨none, -⟩ | ⟨same, body, foundSame, foundBody, related⟩
  · cases none.symm.trans found
  · cases foundSame.symm.trans found
    exact ⟨body, foundBody, related⟩

theorem Document.Relates.right {related : Fragment → Fragment → Prop} {changed : Document}
    (relates : doc.Relates related changed name)
    (found : changed.fragment? name = some frag) :
    ∃ body, doc.fragment? name = some body ∧ related body frag := by
  rcases relates with ⟨-, none⟩ | ⟨body, same, foundBody, foundSame, related⟩
  · cases none.symm.trans found
  · cases foundSame.symm.trans found
    exact ⟨body, foundBody, related⟩

theorem Document.Reaches.trans (reached : doc.Reaches sels name)
    (found : doc.fragment? name = some frag)
    (again : doc.Reaches frag.selections other) : doc.Reaches sels other := by
  induction again with
  | here mem => exact .through reached found mem
  | through again foundOther mem ih => exact .through ih foundOther mem

end

/-! ## Fields written -/

mutual

/-- The number of fields written in a selection, at any level. -/
def Selection.written : Selection → Nat
  | .field _ _ _ _ sels _ _ => writtenAll sels + 1
  | .inline _ _ sels _ _ => writtenAll sels
  | .spread _ _ _ => 0

/-- The number of fields written in selections, at any level. -/
def Selection.writtenAll : List Selection → Nat
  | [] => 0
  | sel :: sels => sel.written + writtenAll sels

end

/-- The number of fields written in the fragment of a name. -/
def Document.writtenIn (doc : Document) (name : String) : Nat :=
  ((doc.fragment? name).map fun frag => Selection.writtenAll frag.selections).getD 0

/-- Whether an extent grows by a number of fields and by those written in the fragments it enters. -/
def Document.Counts (doc : Document) (written : Nat) (extent result : Extent) : Prop :=
  result.fields + ∑ name ∈ extent.seen.toFinset, doc.writtenIn name =
    extent.fields + ∑ name ∈ result.seen.toFinset, doc.writtenIn name + written

/-! ## Where selections stand -/

/-- What a selection is: a field, an inline fragment or the spread of a fragment. -/
inductive Form where
  | field
  | inline
  | spread (name : String)

/-- By how much what is selected in a selection of a form stands deeper. -/
def Form.step : Form → Nat
  | .field => 1
  | .inline | .spread _ => 0

def Selection.form : Selection → Form
  | .field _ _ _ _ _ _ _ => .field
  | .inline _ _ _ _ _ => .inline
  | .spread name _ _ => .spread name.value

/-- The selections that stand in a selection. -/
def Selection.inner : Selection → List Selection
  | .field _ _ _ _ sels _ _ | .inline _ _ sels _ _ => sels
  | .spread _ _ _ => []

theorem Selection.mem_spreadNames_iff {sel : Selection} {name : String} :
    name ∈ sel.spreadNames ↔
      sel.form = .spread name ∨ name ∈ spreadNamesAll sel.inner := by
  cases sel <;> simp [spreadNames, form, inner, spreadNamesAll, eq_comm]

/-- Whether a selection of some form stands at a level, once all spreads are expanded in selections
that stand at a depth. -/
inductive Document.Stands (doc : Document) (holds : Form → Prop) :
    (depth : Nat) → List Selection → (level : Nat) → Prop
  | here {depth sels sel} (mem : sel ∈ sels) (kind : holds sel.form) :
      doc.Stands holds depth sels depth
  | inside {depth sels sel level} (mem : sel ∈ sels)
      (stands : doc.Stands holds (depth + sel.form.step) sel.inner level) :
      doc.Stands holds depth sels level
  | spread {depth sels sel name frag level} (mem : sel ∈ sels)
      (kind : sel.form = .spread name) (found : doc.fragment? name = some frag)
      (stands : doc.Stands holds depth frag.selections level) :
      doc.Stands holds depth sels level

/-- Whether a fragment is spread at a level. -/
abbrev Document.SpreadAt (doc : Document) (name : String) :=
  doc.Stands (· = .spread name)

section

variable {doc : Document} {holds : Form → Prop} {depth level : Nat}
  {sels others : List Selection} {name : String}

theorem Document.Stands.mono (sub : sels ⊆ others)
    (stands : doc.Stands holds depth sels level) :
    doc.Stands holds depth others level := by
  cases stands with
  | here mem kind => exact .here (sub mem) kind
  | inside mem stands => exact .inside (sub mem) stands
  | spread mem kind found stands => exact .spread (sub mem) kind found stands

theorem Document.Stands.reaches (spread : doc.SpreadAt name depth sels level) :
    doc.Reaches sels name := by
  induction spread with
  | here mem kind =>
    exact .here (Selection.spreadNames_subset mem (Selection.mem_spreadNames_iff.mpr (.inl kind)))
  | inside mem stands ih =>
    exact ih.mono fun _ inner =>
      Selection.spreadNames_subset mem (Selection.mem_spreadNames_iff.mpr (.inr inner))
  | spread mem kind found stands ih =>
    have here := Selection.spreadNames_subset mem (Selection.mem_spreadNames_iff.mpr (.inl kind))
    exact Document.Reaches.trans (.here here) found ih

end

/-! ## What a count meets -/

mutual

/-- The number of levels that are written below a selection. -/
def Selection.height : Selection → Nat
  | .field _ _ _ _ [] _ _ | .spread _ _ _ => 0
  | .field _ _ _ _ sels _ _ => heightAll sels + 1
  | .inline _ _ sels _ _ => heightAll sels

def Selection.heightAll : List Selection → Nat
  | [] => 0
  | sel :: sels => max sel.height (heightAll sels)

end

/-- Whether an extent has all that another has. -/
structure Extent.Grows (extent result : Extent) : Prop where
  depth : extent.depth ≤ result.depth
  seen : extent.seen ⊆ result.seen

/-- Whether an extent is as deep as selections that stand at a depth and has seen the defined fragments
that are spread in them. -/
structure Extent.Covers (doc : Document) (depth : Nat) (sels : List Selection)
    (extent : Extent) : Prop where
  levels : depth + Selection.heightAll sels ≤ extent.depth
  spreads : ∀ name ∈ Selection.spreadNamesAll sels,
    (doc.fragment? name).isSome = true → name ∈ extent.seen

/-- What the count of selections that stand at a depth establishes: they are covered, and so is each
fragment that is entered, at a level at which it is spread.  The depth grows only to a level at which
something stands, and the fields are counted. -/
structure Document.Measures (doc : Document) (depth : Nat) (sels : List Selection)
    (extent result : Extent) : Prop where
  grows : extent.Grows result
  covers : result.Covers doc depth sels
  entered : ∀ name ∈ result.seen, name ∉ extent.seen → ∃ frag level,
    doc.fragment? name = some frag ∧ doc.SpreadAt name depth sels level ∧
      result.Covers doc level frag.selections
  attained : result.depth = extent.depth ∨
    doc.Stands (fun _ => True) depth sels result.depth
  counted : doc.Counts (Selection.writtenAll sels) extent result

section

variable {doc : Document} {extent middle result : Extent} {depth : Nat} {sel : Selection}
  {sels : List Selection}

theorem Extent.Grows.refl (extent : Extent) : extent.Grows extent :=
  ⟨le_rfl, .refl _⟩

theorem Extent.Grows.trans (first : extent.Grows middle) (second : middle.Grows result) :
    extent.Grows result :=
  ⟨first.depth.trans second.depth, fun _ seen => second.seen (first.seen seen)⟩

theorem Extent.Covers.mono (covers : extent.Covers doc depth sels)
    (grows : extent.Grows result) : result.Covers doc depth sels :=
  ⟨covers.levels.trans grows.depth, fun name mem known => grows.seen (covers.spreads name mem known)⟩

namespace Document.Measures

theorem refl (covers : extent.Covers doc depth sels) (none : Selection.writtenAll sels = 0) :
    doc.Measures depth sels extent extent :=
  ⟨.refl _, covers, fun _ seen new => absurd seen new, .inl rfl, by rw [none]; rfl⟩

theorem cons (first : doc.Measures depth [sel] extent middle)
    (rest : doc.Measures depth sels middle result) :
    doc.Measures depth (sel :: sels) extent result := by
  have here : [sel] ⊆ sel :: sels := by simp
  have later : sels ⊆ sel :: sels := subset_cons_self _ _
  refine ⟨first.grows.trans rest.grows, ⟨?_, ?_⟩, ?_, ?_, ?_⟩
  · have before := first.covers.levels.trans rest.grows.depth
    have after := rest.covers.levels
    simp only [Selection.heightAll] at before ⊢
    omega
  · intro name mem known
    rcases mem_append.mp mem with own | other
    · exact rest.grows.seen
        (first.covers.spreads name (by simpa [Selection.spreadNamesAll] using own) known)
    · exact rest.covers.spreads name other known
  · intro name seen new
    by_cases early : name ∈ middle.seen
    · obtain ⟨frag, level, found, spread, covers⟩ := first.entered name early new
      exact ⟨frag, level, found, spread.mono here, covers.mono rest.grows⟩
    · obtain ⟨frag, level, found, spread, covers⟩ := rest.entered name seen early
      exact ⟨frag, level, found, spread.mono later, covers⟩
  · rcases rest.attained with same | stands
    · rw [same]
      exact first.attained.imp_right (·.mono here)
    · exact .inr (stands.mono later)
  · have before := first.counted
    have after := rest.counted
    simp only [Counts, Selection.writtenAll] at before after ⊢
    omega

/-- The count within a selection, before which its own level may have been added. -/
theorem within {inner : List Selection} {below : Nat}
    (measures : doc.Measures below inner middle result) (grows : extent.Grows middle)
    (seen : middle.seen = extent.seen) (covers : result.Covers doc depth [sel])
    (stands : ∀ {holds level}, doc.Stands holds below inner level →
      doc.Stands holds depth [sel] level)
    (attained : middle.depth = extent.depth ∨
      doc.Stands (fun _ => True) depth [sel] middle.depth)
    (counted : doc.Counts (Selection.writtenAll [sel]) extent result) :
    doc.Measures depth [sel] extent result := by
  refine ⟨grows.trans measures.grows, covers, ?_, ?_, counted⟩
  · intro name known new
    obtain ⟨frag, level, found, spread, covered⟩ := measures.entered name known (seen ▸ new)
    exact ⟨frag, level, found, stands spread, covered⟩
  · rcases measures.attained with same | standing
    · rwa [same]
    · exact .inr (stands standing)

end Document.Measures

end

/-- Whether the step for spreads measures them, as long as few fragments are left. -/
def Document.SpreadsMeasure (doc : Document) (follow : String → Nat → Extent → Extent)
    (bound : Nat) : Prop :=
  ∀ {name : Name} {dirs start depth extent}, depth ≤ extent.depth →
    doc.unseen extent.seen ≤ bound →
    doc.Measures depth [.spread name dirs start] extent (follow name.value depth extent)

section

variable {doc : Document} {follow : String → Nat → Extent → Extent} {bound : Nat}

mutual

theorem Selection.addExtent_measures (spreads : doc.SpreadsMeasure follow bound)
    (sel : Selection) {depth : Nat} (extent : Extent) (deep : depth ≤ extent.depth)
    (few : doc.unseen extent.seen ≤ bound) :
    doc.Measures depth [sel] extent (sel.addExtent follow depth extent) := by
  match sel with
  | .field _ _ _ _ [] _ _ =>
    exact ⟨⟨le_rfl, .refl _⟩, ⟨deep, by simp [spreadNamesAll, spreadNames]⟩,
      fun _ seen new => absurd seen new, .inl rfl, Nat.add_right_comm _ _ _⟩
  | .field _ _ _ _ (first :: inner) _ _ =>
    have below := addExtents_measures spreads (first :: inner)
      ({ extent with fields := extent.fields + 1 }.reach (depth + 1)) (le_max_right _ _) few
    refine below.within ⟨le_max_left _ _, .refl _⟩ rfl ⟨?_, ?_⟩
      (fun stands => .inside (mem_singleton.mpr rfl) stands) ?_ ?_
    · have levels := below.covers.levels
      simp only [heightAll, height] at levels ⊢
      omega
    · simpa [spreadNamesAll, spreadNames] using below.covers.spreads
    · rcases max_choice extent.depth (depth + 1) with same | same
      · exact .inl same
      · right
        rw [Extent.reach, same]
        exact .inside (mem_singleton.mpr rfl) (.here mem_cons_self trivial)
    · have counted := below.counted
      simp only [Document.Counts, Extent.reach, writtenAll, written] at counted ⊢
      exact counted.trans (by omega)
  | .inline _ _ inner _ _ =>
    have within := addExtents_measures spreads inner extent deep few
    refine within.within (.refl _) rfl ⟨?_, ?_⟩
      (fun stands => .inside (mem_singleton.mpr rfl) stands) (.inl rfl) within.counted
    · simpa [heightAll, height] using within.covers.levels
    · simpa [spreadNamesAll, spreadNames] using within.covers.spreads
  | .spread name _ _ => exact spreads deep few

theorem Selection.addExtents_measures (spreads : doc.SpreadsMeasure follow bound)
    (sels : List Selection) {depth : Nat} (extent : Extent) (deep : depth ≤ extent.depth)
    (few : doc.unseen extent.seen ≤ bound) :
    doc.Measures depth sels extent (addExtents follow depth sels extent) := by
  match sels with
  | [] => exact .refl ⟨deep, by simp [spreadNamesAll]⟩ rfl
  | sel :: sels =>
    have first := addExtent_measures spreads sel extent deep few
    have fewer := doc.unseen_anti first.grows.seen
    exact first.cons (addExtents_measures spreads sels _ (deep.trans first.grows.depth)
      (fewer.trans few))

end

end

theorem Document.addFragment_measures (doc : Document) (budget : Nat) :
    doc.SpreadsMeasure (doc.addFragment budget) budget := by
  have covers {depth : Nat} {extent : Extent} {name : Name} {dirs start}
      (deep : depth ≤ extent.depth)
      (seen : (doc.fragment? name.value).isSome = true → name.value ∈ extent.seen) :
      extent.Covers doc depth [.spread name dirs start] :=
    ⟨by simpa [Selection.heightAll, Selection.height] using deep,
      by simpa [Selection.spreadNamesAll, Selection.spreadNames] using seen⟩
  induction budget with
  | zero =>
    intro name dirs start depth extent deep few
    refine .refl (covers deep fun defined => ?_) rfl
    by_contra new
    obtain ⟨frag, found⟩ := Option.isSome_iff_exists.mp defined
    have fewer := unseen_cons_lt found new
    omega
  | succ budget ih =>
    intro name dirs start depth extent deep few
    rw [addFragment]
    split
    · next seen => exact .refl (covers deep fun _ => seen) rfl
    · next new =>
        split
        · next undefined => exact .refl (covers deep (by simp [undefined])) rfl
        · next frag found =>
            have fewer := unseen_cons_lt found new
            have within := Selection.addExtents_measures ih frag.selections
              { extent with seen := name.value :: extent.seen } deep (by dsimp only; omega)
            have here := mem_singleton.mpr (rfl : Selection.spread name dirs start = _)
            refine ⟨⟨within.grows.depth, fun _ seen => within.grows.seen (.tail _ seen)⟩,
              covers (deep.trans within.grows.depth) fun _ => within.grows.seen (.head _), ?_, ?_, ?_⟩
            · intro other seen fresh
              by_cases same : other = name.value
              · subst same
                exact ⟨frag, depth, found, .here here rfl, within.covers⟩
              · obtain ⟨body, level, foundOther, spread, covered⟩ :=
                  within.entered other seen (by simp [same, fresh])
                exact ⟨body, level, foundOther, .spread here rfl found spread, covered⟩
            · exact within.attained.imp_right (.spread here rfl found)
            · have own : doc.writtenIn name.value = Selection.writtenAll frag.selections := by
                rw [writtenIn, found]
                rfl
              have fresh : name.value ∉ extent.seen.toFinset := by simpa using new
              have counted := within.counted
              simp only [Counts, toFinset_cons, Finset.sum_insert fresh, own, Selection.writtenAll,
                Selection.written] at counted ⊢
              omega

theorem Document.extent_measures (doc : Document) (op : Operation) :
    doc.Measures 1 op.selections ⟨0, 1, []⟩ (doc.extent op) :=
  Selection.addExtents_measures (doc.addFragment_measures _) _ _ le_rfl (doc.unseen_le [])

/-- The fragments that have been seen in the end are those that are reached and defined. -/
theorem Document.mem_seen_iff (doc : Document) (op : Operation) (name : String) :
    name ∈ (doc.extent op).seen ↔
      doc.Reaches op.selections name ∧ (doc.fragment? name).isSome = true := by
  have measures := doc.extent_measures op
  constructor
  · intro seen
    obtain ⟨frag, level, found, spread, -⟩ := measures.entered name seen not_mem_nil
    exact ⟨spread.reaches, by simp [found]⟩
  · rintro ⟨reached, defined⟩
    induction reached with
    | here mem => exact measures.covers.spreads _ mem defined
    | through reached found mem ih =>
      have seen := ih (by simp [found])
      obtain ⟨frag, level, foundAgain, -, covers⟩ := measures.entered _ seen not_mem_nil
      cases found.symm.trans foundAgain
      exact covers.spreads _ mem defined

theorem Document.extent_fields (doc : Document) (op : Operation) :
    (doc.extent op).fields = Selection.writtenAll op.selections +
      ∑ name ∈ (doc.extent op).seen.toFinset, doc.writtenIn name := by
  have counted := (doc.extent_measures op).counted
  simp only [Counts, toFinset_nil, Finset.sum_empty] at counted
  omega

/-! ## Rearrangements -/

theorem Selection.mem_spreadNamesAll_iff {sels : List Selection} {name : String} :
    name ∈ spreadNamesAll sels ↔ ∃ sel ∈ sels, name ∈ sel.spreadNames := by
  induction sels with
  | nil => simp [spreadNamesAll]
  | cons sel sels ih => simp [spreadNamesAll, ih]

theorem Selection.writtenAll_perm {sels others : List Selection}
    (perm : sels.Perm others) : writtenAll sels = writtenAll others := by
  induction perm with
  | nil => rfl
  | cons sel perm ih => rw [writtenAll, writtenAll, ih]
  | swap first second sels =>
    simp only [writtenAll]
    omega
  | trans first second ih ih' => exact ih.trans ih'

theorem Selection.written_eq (sel : Selection) :
    sel.written = writtenAll sel.inner + sel.form.step := by
  cases sel <;> rfl

/-- Whether selections become others by reordering, at any level, and by spreads that give way to the
selections of their fragments, if this is allowed.  What else is written does not matter. -/
inductive Document.Rearranges (doc : Document) (unfolds : Prop) :
    List Selection → List Selection → Prop
  | nil : doc.Rearranges unfolds [] []
  | cons {sel other sels others result} (form : sel.form = other.form)
      (inner : doc.Rearranges unfolds sel.inner other.inner)
      (rest : doc.Rearranges unfolds sels others)
      (perm : result.Perm (other :: others)) :
      doc.Rearranges unfolds (sel :: sels) result
  | unfold {sel name frag body sels others result} (allowed : unfolds)
      (kind : sel.form = .spread name) (found : doc.fragment? name = some frag)
      (given : frag.selections ≠ [])
      (inner : doc.Rearranges unfolds frag.selections body)
      (rest : doc.Rearranges unfolds sels others) (perm : result.Perm (body ++ others)) :
      doc.Rearranges unfolds (sel :: sels) result

/-- Whether an operation and the fragments of its document are rearranged. -/
structure Document.Reshapes (doc : Document) (unfolds : Prop) (operation : Operation)
    (other : Document) (changed : Operation) : Prop where
  operation : doc.Rearranges unfolds operation.selections changed.selections
  fragments : ∀ name, doc.Relates (fun frag body =>
    doc.Rearranges unfolds frag.selections body.selections) other name

section

variable {doc other : Document} {unfolds : Prop} {sels others : List Selection}
  {op changed : Operation} {sel : Selection} {depth level : Nat} {holds : Form → Prop}

theorem Document.Rearranges.written (rearranged : doc.Rearranges False sels others) :
    Selection.writtenAll sels = Selection.writtenAll others ∧
      ∀ name, name ∈ Selection.spreadNamesAll sels ↔
        name ∈ Selection.spreadNamesAll others := by
  induction rearranged with
  | nil => simp
  | cons form inner rest perm ihInner ih =>
    constructor
    · rw [Selection.writtenAll_perm perm, Selection.writtenAll, Selection.writtenAll,
        Selection.written_eq, Selection.written_eq, form, ihInner.1, ih.1]
    · intro name
      simp only [Selection.mem_spreadNamesAll_iff, perm.mem_iff, exists_mem_cons_iff]
      rw [← Selection.mem_spreadNamesAll_iff, ← Selection.mem_spreadNamesAll_iff, ih.2,
        Selection.mem_spreadNames_iff, Selection.mem_spreadNames_iff, form, ihInner.2]
  | unfold allowed => exact allowed.elim

theorem Document.Reshapes.seen (reshapes : doc.Reshapes False op other changed) :
    (doc.extent op).seen.toFinset = (other.extent changed).seen.toFinset := by
  ext name
  rw [mem_toFinset, mem_toFinset, mem_seen_iff, mem_seen_iff]
  have defined : (doc.fragment? name).isSome = (other.fragment? name).isSome := by
    rcases reshapes.fragments name with ⟨none, noBody⟩ | ⟨_, _, found, foundBody, -⟩ <;> simp [*]
  have names := reshapes.operation.written.2
  rw [defined]
  refine and_congr_left fun _ => ⟨fun reached => ?_, fun reached => ?_⟩
  · refine reached.transfer (fun name => (names name).mp) fun _ _ _ found => ?_
    obtain ⟨body, foundBody, related⟩ := (reshapes.fragments _).left found
    exact ⟨body, foundBody, fun name => (related.written.2 name).mp⟩
  · refine reached.transfer (fun name => (names name).mpr) fun _ _ _ found => ?_
    obtain ⟨frag, foundFragment, related⟩ := (reshapes.fragments _).right found
    exact ⟨frag, foundFragment, fun name => (related.written.2 name).mpr⟩

/-- The number of fields is that of the fields written in the operation and, once for each, in the
defined fragments that it reaches.  It does not change when selections are reordered. -/
theorem extent_fields_exact (document : Document) (operation : Operation) :
    (∃ reached : Finset String,
      (∀ name, name ∈ reached ↔
        document.Reaches operation.selections name ∧ (document.fragment? name).isSome = true) ∧
      (document.extent operation).fields =
        Selection.writtenAll operation.selections + ∑ name ∈ reached, document.writtenIn name) ∧
    ∀ other changed, document.Reshapes False operation other changed →
      (other.extent changed).fields = (document.extent operation).fields := by
  refine ⟨⟨_, fun name => ?_, document.extent_fields operation⟩, fun other changed reshapes => ?_⟩
  · rw [mem_toFinset, document.mem_seen_iff]
  · rw [other.extent_fields, document.extent_fields, reshapes.seen,
      reshapes.operation.written.1]
    congr 1
    apply Finset.sum_congr rfl
    intro name mem
    rcases reshapes.fragments name with ⟨none, noBody⟩ | ⟨_, _, found, foundBody, related⟩
    · simp [Document.writtenIn, none, noBody]
    · simp [Document.writtenIn, found, foundBody, related.written.1]

/-- A document with one fragment. -/
def cardDocument (sels : List Selection) : Document :=
  ⟨[personFragment "Card" sels]⟩

def bareOperation (sels : List Selection) : Operation :=
  ⟨.query, none, [], [], sels, 0, 0⟩

theorem cardDocument_reshapes {body changedBody written changed : List Selection}
    (frag : (cardDocument body).Rearranges unfolds body changedBody)
    (op : (cardDocument body).Rearranges unfolds written changed) :
    (cardDocument body).Reshapes unfolds (bareOperation written) (cardDocument changedBody)
      (bareOperation changed) := by
  refine ⟨op, fun name => ?_⟩
  by_cases same : "Card" = name
  · subst same
    exact .inr ⟨_, _, rfl, rfl, frag⟩
  · left
    simp [Document.fragment?, Document.fragments, cardDocument, personFragment, same]

theorem extent_fields_exact_cyclic :
    let document := cardDocument [bareField "id" [], bareSpread "Card", bareSpread "Lost"]
    let operation := bareOperation [bareField "me" [bareSpread "Card"], bareSpread "Card"]
    (document.extent operation).fields = 2 ∧
    ((cardDocument [bareField "id" [], bareSpread "Lost", bareSpread "Card"]).extent
      (bareOperation [bareSpread "Card", bareField "me" [bareSpread "Card"]])).fields =
        (document.extent operation).fields := by
  refine ⟨rfl, (extent_fields_exact _ _).2 _ _ (cardDocument_reshapes ?_ ?_)⟩
  · exact .cons rfl .nil (.cons rfl .nil (.cons rfl .nil .nil (.refl _)) (.swap _ _ _)) (.refl _)
  · exact .cons rfl (.cons rfl .nil .nil (.refl _)) (.cons rfl .nil .nil (.refl _)) (.swap _ _ _)

/-! ## Depth -/

theorem Selection.height_le_heightAll (mem : sel ∈ sels) :
    sel.height ≤ heightAll sels := by
  induction sels with
  | nil => cases mem
  | cons first sels ih =>
    rw [heightAll]
    rcases mem_cons.mp mem with rfl | later
    · exact le_max_left _ _
    · exact (ih later).trans (le_max_right _ _)

theorem Selection.heightAll_inner_le (given : sel.inner ≠ []) :
    heightAll sel.inner + sel.form.step ≤ sel.height := by
  match sel with
  | .field _ _ _ _ [] _ _ | .spread _ _ _ => exact absurd rfl given
  | .field _ _ _ _ (_ :: _) _ _ | .inline _ _ _ _ _ => exact le_rfl

theorem Document.Stands.ne_nil (stands : doc.Stands holds depth sels level) :
    sels ≠ [] := by
  cases stands with
  | here mem | inside mem | spread mem => exact ne_nil_of_mem mem

/-- The depths at which selections of an operation stand once its spreads are expanded.  Its own
selections stand at depth one. -/
def Document.levels (doc : Document) (op : Operation) : Set Nat :=
  {level | level = 1 ∨ doc.Stands (fun _ => True) 1 op.selections level}

/-- Whether no fragment is spread at two depths. -/
def Document.SpreadsEvenly (doc : Document) (op : Operation) : Prop :=
  ∀ {name level level'}, doc.SpreadAt name 1 op.selections level →
    doc.SpreadAt name 1 op.selections level' → level = level'

theorem Document.Stands.le_depth (evenly : doc.SpreadsEvenly op)
    (stands : doc.Stands holds depth sels level)
    (covers : (doc.extent op).Covers doc depth sels)
    (within : ∀ {name level}, doc.SpreadAt name depth sels level →
      doc.SpreadAt name 1 op.selections level) :
    level ≤ (doc.extent op).depth := by
  induction stands with
  | here mem kind => exact (Nat.le_add_right _ _).trans covers.levels
  | @inside depth sels sel level mem stands ih =>
    refine ih ⟨?_, fun name spread => ?_⟩ fun spread => within (.inside mem spread)
    · have own := Selection.height_le_heightAll mem
      have inner := Selection.heightAll_inner_le stands.ne_nil
      have levels := covers.levels
      omega
    · exact covers.spreads name (Selection.spreadNames_subset mem
        (Selection.mem_spreadNames_iff.mpr (.inr spread)))
  | spread mem kind found stands ih =>
    -- The fragment was entered somewhere, and that is at the depth of this spread.
    have seen := covers.spreads _ (Selection.spreadNames_subset mem
      (Selection.mem_spreadNames_iff.mpr (.inl kind))) (by simp [found])
    obtain ⟨body, entered, foundBody, spread, coversBody⟩ :=
      (doc.extent_measures op).entered _ seen not_mem_nil
    cases found.symm.trans foundBody
    cases evenly spread (within (.here mem kind))
    exact ih coversBody fun spread => within (.spread mem kind found spread)

theorem Document.depth_isGreatest (evenly : doc.SpreadsEvenly op) :
    IsGreatest (doc.levels op) (doc.extent op).depth := by
  have measures := doc.extent_measures op
  refine ⟨measures.attained, ?_⟩
  rintro level (rfl | stands)
  · exact measures.grows.depth
  · exact stands.le_depth evenly measures.covers id

theorem Document.Rearranges.ne_nil (rearranged : doc.Rearranges unfolds sels others)
    (given : sels ≠ []) : others ≠ [] := by
  induction rearranged with
  | nil => exact given
  | cons form inner rest perm => exact ne_nil_of_mem (perm.mem_iff.mpr mem_cons_self)
  | unfold allowed kind found written inner rest perm ihInner =>
    intro empty
    rw [empty] at perm
    exact ihInner written (append_eq_nil_iff.mp perm.nil_eq.symm).1

/-- Each selection becomes a part of what selections become. -/
theorem Document.Rearranges.mem (rearranged : doc.Rearranges unfolds sels others)
    (mem : sel ∈ sels) :
    ∃ part ⊆ others, doc.Rearranges unfolds [sel] part := by
  induction rearranged with
  | nil => cases mem
  | @cons _ other _ _ _ form inner rest perm _ ih =>
    have sub := perm.symm.subset
    rcases mem_cons.mp mem with rfl | later
    · exact ⟨[other], by simpa using sub mem_cons_self, .cons form inner .nil (.refl _)⟩
    · obtain ⟨part, within, related⟩ := ih later
      exact ⟨part, fun _ mem => sub (.tail _ (within mem)), related⟩
  | @unfold _ _ _ body _ _ _ allowed kind found given inner rest perm _ ih =>
    have sub := perm.symm.subset
    rcases mem_cons.mp mem with rfl | later
    · exact ⟨body, fun _ mem => sub (mem_append_left _ mem),
        .unfold allowed kind found given inner .nil (by simp)⟩
    · obtain ⟨part, within, related⟩ := ih later
      exact ⟨part, fun _ mem => sub (mem_append_right _ (within mem)), related⟩

theorem Document.Reshapes.stands (reshapes : doc.Reshapes unfolds op other changed)
    (stands : doc.Stands (fun _ => True) depth sels level)
    (rearranged : doc.Rearranges unfolds sels others) :
    other.Stands (fun _ => True) depth others level := by
  induction stands generalizing others with
  | here mem kind =>
    obtain ⟨part, sub, one⟩ := rearranged.mem mem
    obtain ⟨first, memFirst⟩ := exists_mem_of_ne_nil _ (one.ne_nil (cons_ne_nil _ _))
    exact .here (sub memFirst) trivial
  | @inside _ _ sel _ mem stands ih =>
    obtain ⟨part, sub, one⟩ := rearranged.mem mem
    cases one with
    | cons form inner rest perm =>
      exact .inside (sub (perm.mem_iff.mpr mem_cons_self)) (form ▸ ih inner)
    | unfold allowed kind =>
      cases sel with
      | spread => exact absurd rfl stands.ne_nil
      | field | inline => cases kind
  | spread mem kind found stands ih =>
    obtain ⟨part, sub, one⟩ := rearranged.mem mem
    cases one with
    | cons form inner rest perm =>
      obtain ⟨body, foundBody, related⟩ := (reshapes.fragments _).left found
      exact .spread (sub (perm.mem_iff.mpr mem_cons_self)) (form ▸ kind) foundBody (ih related)
    | unfold allowed kindSame foundSame given inner rest perm =>
      cases kind.symm.trans kindSame
      cases found.symm.trans foundSame
      exact (ih inner).mono fun _ mem => sub (perm.symm.subset (mem_append_left _ mem))

/-- What stands in rearranged selections stands in the selections they come from. -/
theorem Document.Rearranges.stands (rearranged : doc.Rearranges unfolds sels others)
    {result : Selection} (mem : result ∈ others)
    (stands : ∀ sel : Selection, sel.form = result.form →
      doc.Rearranges unfolds sel.inner result.inner →
      doc.Stands holds depth [sel] level) :
    doc.Stands holds depth sels level := by
  induction rearranged with
  | nil => cases mem
  | cons form inner rest perm _ ih =>
    rcases mem_cons.mp (perm.subset mem) with rfl | later
    · exact (stands _ form inner).mono (by simp)
    · exact (ih later).mono (subset_cons_self _ _)
  | unfold allowed kind found given inner rest perm ihInner ih =>
    rcases mem_append.mp (perm.subset mem) with body | later
    · exact .spread mem_cons_self kind found (ihInner body)
    · exact (ih later).mono (subset_cons_self _ _)

theorem Document.Reshapes.of_stands (reshapes : doc.Reshapes unfolds op other changed)
    (stands : other.Stands holds depth others level)
    (rearranged : doc.Rearranges unfolds sels others) :
    doc.Stands holds depth sels level := by
  induction stands generalizing sels with
  | here mem kind =>
    exact rearranged.stands mem fun _ form _ => .here (mem_singleton.mpr rfl) (form ▸ kind)
  | inside mem stands ih =>
    exact rearranged.stands mem fun _ form inner =>
      .inside (mem_singleton.mpr rfl) (form ▸ ih inner)
  | spread mem kind found stands ih =>
    obtain ⟨frag, foundFragment, related⟩ := (reshapes.fragments _).right found
    exact rearranged.stands mem fun _ form _ =>
      .spread (mem_singleton.mpr rfl) (form.trans kind) foundFragment (ih related)

theorem Document.Stands.spreads_ne_nil {name : String}
    (spread : doc.SpreadAt name depth sels level) :
    Selection.spreadNamesAll sels ≠ [] := by
  intro bare
  have reached := spread.reaches
  clear spread
  induction reached with
  | here mem =>
    rw [bare] at mem
    cases mem
  | through reached found mem ih => exact ih

/-- A person by name, below a field. -/
def ownerField : Selection := bareField "owner" [bareField "name" []]

theorem ownerField_rearranges (doc : Document) :
    doc.Rearranges unfolds [ownerField] [ownerField] :=
  .cons rfl (.cons rfl .nil .nil (.refl _)) .nil (.refl _)

end

end SelectGraph.GraphQL
