import SelectGraph.Proofs.Tree.Spreads

/-!
# Collected fields

Collecting a selection set adds the fields that it shows one after the other.  Collected fields
therefore satisfy what the shown fields satisfy and merging keeps, and they have the response names of
the set, each at the place where it first stands when fragments are written out and skipped selections
left out.
-/

namespace SelectGraph.Tree

open List

open Builder (addName)
open GraphQL (Argument Directive Document Fragment Name Selection)
open Sql (bind_eq_ok)

/-- The response names of a selection set in the order of the text, repeats included. -/
inductive Lists (doc : Document) (env : Environment) :
    List Selection → List String → Prop
  | nil : Lists doc env [] []
  | skipped {sel : Selection} {sels : List Selection} {names : List String}
      (drops : included env sel.directives = .ok false)
      (rest : Lists doc env sels names) :
      Lists doc env (sel :: sels) names
  | field {responseName? : Option Name} {name : Name} {args : List Argument}
      {dirs : List Directive} {inner sels : List Selection} {start setStart : Nat}
      {names : List String} (keeps : Kept env dirs)
      (rest : Lists doc env sels names) :
      Lists doc env
        (.field responseName? name args dirs inner start setStart :: sels)
        (responseNameOf responseName? name :: names)
  | inline {condition? : Option Name} {dirs : List Directive}
      {inner sels : List Selection} {start setStart : Nat} {inside names : List String}
      (keeps : Kept env dirs) (first : Lists doc env inner inside)
      (rest : Lists doc env sels names) :
      Lists doc env (.inline condition? dirs inner start setStart :: sels)
        (inside ++ names)
  | spread {name : Name} {dirs : List Directive} {frag : Fragment}
      {sels : List Selection} {start : Nat} {inside names : List String}
      (keeps : Kept env dirs)
      (found : doc.fragment? name.value = some frag)
      (first : Lists doc env frag.selections inside)
      (rest : Lists doc env sels names) :
      Lists doc env (.spread name dirs start :: sels) (inside ++ names)

section Adding

variable {field : Field} {fields known : List Field}

/-- Add fields one after the other. -/
def addFields (known fields : List Field) : List Field :=
  fields.foldl (fun merged field => addField field merged) known

/-- Whether a condition on fields is kept when one is merged into another. -/
def Merges (holds : Field → Prop) : Prop :=
  ∀ first second, holds first → holds second →
    holds { first with selections := first.selections ++ second.selections }

theorem addField_forall {holds : Field → Prop} (merges : Merges holds) (new : holds field)
    (known : ∀ other ∈ fields, holds other) : ∀ other ∈ addField field fields, holds other := by
  induction fields with
  | nil => simpa [addField] using new
  | cons first fields ih =>
    obtain ⟨knownFirst, knownRest⟩ := forall_mem_cons.mp known
    rw [addField]
    split
    · exact forall_mem_cons.mpr ⟨merges _ _ knownFirst new, knownRest⟩
    · exact forall_mem_cons.mpr ⟨knownFirst, ih knownRest⟩

theorem addField_responseNames (field : Field) (fields : List Field) :
    (addField field fields).map Field.responseName =
      if field.responseName ∈ fields.map Field.responseName then fields.map Field.responseName
      else fields.map Field.responseName ++ [field.responseName] := by
  induction fields with
  | nil => rfl
  | cons first fields ih =>
    rw [addField]
    split
    · rename_i same
      simp [same]
    · rename_i differ
      rw [map_cons, ih, map_cons]
      simp only [mem_cons, Ne.symm differ, false_or]
      split
      · rfl
      · rfl

theorem addField_nodup (field : Field) (distinct : (fields.map Field.responseName).Nodup) :
    ((addField field fields).map Field.responseName).Nodup := by
  rw [addField_responseNames]
  split
  · exact distinct
  · rename_i new
    rw [← concat_eq_append]
    exact distinct.concat new

theorem addField_of_not_mem (new : field.responseName ∉ fields.map Field.responseName) :
    addField field fields = fields ++ [field] := by
  induction fields with
  | nil => rfl
  | cons first fields ih =>
    rw [map_cons, mem_cons, not_or] at new
    rw [addField, if_neg (Ne.symm new.1), ih new.2, cons_append]

theorem addFields_nodup (distinct : (known.map Field.responseName).Nodup) :
    ((addFields known fields).map Field.responseName).Nodup := by
  induction fields generalizing known with
  | nil => exact distinct
  | cons field fields ih =>
    apply ih
    exact addField_nodup _ distinct

theorem addFields_responseNames (known fields : List Field) :
    (addFields known fields).map Field.responseName =
      (fields.map Field.responseName).foldl addName (known.map Field.responseName) := by
  induction fields generalizing known with
  | nil => rfl
  | cons field fields ih =>
    rw [addFields, foldl_cons, ← addFields, ih, addField_responseNames, map_cons, foldl_cons, addName]
    simp only [contains_iff_mem]

theorem eraseDups_eq_foldl (names : List String) : names.eraseDups = names.foldl addName [] := by
  have loops : ∀ known, eraseDupsBy.loop (· == ·) names known =
      names.foldl addName known.reverse := by
    intro known
    induction names generalizing known with
    | nil => rfl
    | cons name names ih =>
      rw [eraseDupsBy.loop, foldl_cons, addName, contains_eq_any_beq, any_reverse]
      cases known.any (name == ·) with
      | true => exact ih _
      | false => simpa using ih (name :: known)
  exact loops []

end Adding

section Collecting

variable {doc : Document} {env : Environment} {sels others : List Selection}
  {spread : String → List Field → Except BuildError (List Field)} {field : Field}
  {fields : List Field}

/-- Whether a set shows a field that is collected to a given one. -/
inductive ShowsField (doc : Document) (env : Environment) (sels : List Selection) : Field → Prop
  | intro {responseName? : Option Name} {name : Name} {args : List Argument}
      {dirs : List Directive} {inner : List Selection} {start setStart : Nat}
      (shown : Shows doc (Kept env) sels
        (.field responseName? name args dirs inner start setStart)) :
      ShowsField doc env sels ⟨responseNameOf responseName? name, name.value, args, inner⟩

theorem ShowsField.of_shows (shown : ShowsField doc env sels field)
    (more : ∀ sel, Shows doc (Kept env) sels sel → Shows doc (Kept env) others sel) :
    ShowsField doc env others field := by
  cases shown with
  | intro shown => exact .intro (more _ shown)

/-- Whether collecting adds the fields that a set shows in the order of the text. -/
def Adds (doc : Document) (env : Environment) (sels : List Selection)
    (fields result : List Field) : Prop :=
  ∃ written, Lists doc env sels (written.map Field.responseName) ∧
    (∀ field ∈ written, ShowsField doc env sels field) ∧ result = addFields fields written

/-- Whether collecting a fragment adds its fields. -/
def SpreadsAdd (doc : Document) (env : Environment)
    (spread : String → List Field → Except BuildError (List Field)) : Prop :=
  ∀ name fields result, spread name fields = .ok result →
    ∃ frag, doc.fragment? name = some frag ∧
      Adds doc env frag.selections fields result

mutual

theorem collectOne_adds (spreads : SpreadsAdd doc env spread)
    {sel : Selection} {sels : List Selection} {fields next result : List Field}
    (collected : collectOne env spread sel fields = .ok next)
    (rest : Adds doc env sels next result) :
    Adds doc env (sel :: sels) fields result := by
  obtain ⟨later, listed, shown, rfl⟩ := rest
  have shownLater : ∀ field ∈ later, ShowsField doc env (sel :: sels) field := by
    intro field mem
    exact (shown _ mem).of_shows fun _ => .mono (subset_cons_self _ _)
  rw [collectOne_eq] at collected
  obtain ⟨kept, keeps, collected⟩ := bind_eq_ok.mp collected
  cases kept with
  | false =>
    cases collected
    exact ⟨later, .skipped keeps listed, shownLater, rfl⟩
  | true =>
    match sel with
    | .field _ name _ _ _ _ _ =>
      cases collected
      refine ⟨_ :: later, .field keeps listed, ?_, rfl⟩
      exact forall_mem_cons.mpr ⟨.intro (.here mem_cons_self keeps), shownLater⟩
    | .spread name _ _ =>
      obtain ⟨frag, found, first, listedFirst, shownFirst, rfl⟩ := spreads _ _ _ collected
      refine ⟨first ++ later, ?_, forall_mem_append.mpr ⟨?_, shownLater⟩, foldl_append.symm⟩
      · rw [map_append]
        exact .spread keeps found listedFirst listed
      · intro field mem
        exact (shownFirst _ mem).of_shows fun _ => .spread mem_cons_self keeps found
    | .inline _ _ _ _ _ =>
      obtain ⟨first, listedFirst, shownFirst, rfl⟩ := collectAll_adds spreads collected
      refine ⟨first ++ later, ?_, forall_mem_append.mpr ⟨?_, shownLater⟩, foldl_append.symm⟩
      · rw [map_append]
        exact .inline keeps listedFirst listed
      · intro field mem
        exact (shownFirst _ mem).of_shows fun _ => .inline mem_cons_self keeps

theorem collectAll_adds (spreads : SpreadsAdd doc env spread)
    {sels : List Selection} {fields result : List Field}
    (collected : collectAll env spread sels fields = .ok result) :
    Adds doc env sels fields result := by
  match sels with
  | [] =>
    cases collected
    exact ⟨[], .nil, by simp, rfl⟩
  | sel :: sels =>
    obtain ⟨next, collectedOne, collectedRest⟩ := bind_eq_ok.mp collected
    exact collectOne_adds spreads collectedOne (collectAll_adds spreads collectedRest)

end

theorem collectFragment_adds (budget : Nat) (visiting : List String) :
    SpreadsAdd doc env (collectFragment doc env budget visiting) := by
  induction budget generalizing visiting with
  | zero => rintro name fields result ⟨⟩
  | succ budget ih =>
    intro name fields result collected
    rw [collectFragment] at collected
    split at collected
    · cases collected
    · rename_i frag found
      split at collected
      · cases collected
      · exact ⟨frag, found, collectAll_adds (ih _) collected⟩

section

variable (collected : collect doc env sels = .ok fields)

include collected

theorem collect_adds : Adds doc env sels [] fields :=
  collectAll_adds (collectFragment_adds _ _) collected

/-- What holds of the fields that a set shows, and is kept by merging, holds of the collected
fields. -/
theorem collect_forall {holds : Field → Prop} (merges : Merges holds)
    (every : ∀ field, ShowsField doc env sels field → holds field) :
    ∀ field ∈ fields, holds field := by
  obtain ⟨written, -, shown, rfl⟩ := collect_adds collected
  apply foldlRecOn written _ (motive := fun fields => ∀ field ∈ fields, holds field)
  · simp
  · intro fields known field mem
    exact addField_forall merges (every _ (shown _ mem)) known

/-- Collected fields select only what stands one level below the set. -/
theorem collect_gathers {holds : Selection → Prop}
    (below : ∀ inner, Selects doc (Kept env) sels inner → ∀ sel ∈ inner, holds sel) :
    ∀ field ∈ fields, ∀ sel ∈ field.selections, holds sel := by
  have merges : Merges fun field => ∀ sel ∈ field.selections, holds sel := by
    intro first second known new
    exact forall_mem_append.mpr ⟨known, new⟩
  apply collect_forall collected merges
  rintro _ ⟨shown⟩
  exact below _ ⟨_, _, _, _, _, _, shown⟩

/-- No two collected fields have one response name. -/
theorem collect_responseNames_nodup : (fields.map Field.responseName).Nodup := by
  obtain ⟨written, -, -, rfl⟩ := collect_adds collected
  exact addFields_nodup nodup_nil

/-- Collected fields have each response name at the place where it first stands. -/
theorem collect_responseNames :
    ∃ names, Lists doc env sels names ∧
      fields.map Field.responseName = names.eraseDups := by
  obtain ⟨written, listed, -, rfl⟩ := collect_adds collected
  refine ⟨_, listed, ?_⟩
  rw [addFields_responseNames, eraseDups_eq_foldl]
  rfl

end

end Collecting

end SelectGraph.Tree
