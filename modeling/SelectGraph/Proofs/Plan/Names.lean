import SelectGraph.GraphQL.Token
import SelectGraph.Proofs.Plan.Simulation
import SelectGraph.Proofs.Tree.Keys

/-!
# Names in statements

The names that the relations of a request introduce in statements: no two of them are equal, and
they are short enough for the database.  A name is told from all others by the number in it, which
stands behind its last hyphen, and by what is put before and after.
-/

namespace SelectGraph.Plan

open List

open GraphQL (Selection continuesName startsName)
open SelectGraph.Tree (Counted Head Node Root fragmentsEvery nodesHeads numberedName
  selectionsEvery)

variable {number : Nat} {field name : String} {ctx : Tree.Context} {sels : List Selection}
  {roots : List Root}

/-! ## Numbers in names -/

/-- The number in a name: the digits behind its last hyphen. -/
def nameNumber (name : String) : Nat :=
  Nat.ofDigitChars 10
    ((name.toList.reverse.takeWhile (· != '-')).reverse.takeWhile Char.isDigit) 0

theorem isDigit_of_mem_toString {c : Char} (mem : c ∈ (toString number).toList) :
    c.isDigit = true := by
  rw [Nat.toString_eq_repr, Nat.toList_repr] at mem
  exact Nat.isDigit_of_mem_toDigits (by decide) (by decide) mem

/-- A number is read back, whatever is before it, if no digit and no hyphen comes after it. -/
theorem nameNumber_eq (before after : String) (number : Nat)
    (ended : ∀ c ∈ after.toList.head?, c.isDigit = false) (last : '-' ∉ after.toList) :
    nameNumber (before ++ "-" ++ toString number ++ after) = number := by
  have behind : ∀ c ∈ ((toString number).toList ++ after.toList).reverse, (c != '-') = true := by
    intro c mem
    rw [mem_reverse, mem_append] at mem
    rw [bne_iff_ne]
    rintro rfl
    rcases mem with digit | other
    · exact absurd (isDigit_of_mem_toString digit) (by decide)
    · exact last other
  have digits : .takeWhile Char.isDigit ((toString number).toList ++ after.toList) =
      (toString number).toList := by
    rw [takeWhile_append_of_pos fun c mem => isDigit_of_mem_toString mem]
    cases rest : after.toList with
    | nil => simp
    | cons c rest => simp [ended c (by simp [rest])]
  have tail : (before ++ "-" ++ toString number ++ after).toList.reverse.takeWhile (· != '-') =
      ((toString number).toList ++ after.toList).reverse := by
    have hyphen : "-".toList = ['-'] := rfl
    simp only [String.toList_append, append_assoc, hyphen]
    rw [reverse_append, singleton_append, reverse_cons, append_assoc,
      takeWhile_append_of_pos behind]
    simp
  rw [nameNumber, tail, reverse_reverse, digits, Nat.toString_eq_repr, Nat.toList_repr,
    Nat.ofDigitChars_toDigits (by decide) (by decide)]

/-- All names of a relation have its number. -/
theorem nameNumber_own (own : name ∈ ownNames (numberedName field number)) :
    nameNumber name = number := by
  simp only [ownNames, numberedName, mem_cons, not_mem_nil, or_false] at own
  rcases own with rfl | rfl | rfl
  · simpa using nameNumber_eq _ "" _
      (by simp) (by simp)
  · have rows : "_rows".toList = ['_', 'r', 'o', 'w', 's'] := rfl
    exact nameNumber_eq _ "_rows" _ (by simp) (by simp)
  · simpa [← String.append_assoc] using
      nameNumber_eq _ "" _
        (by simp) (by simp)

theorem ownNames_nodup (aliasName : String) : (ownNames aliasName).Nodup := by
  have apart {a b : String} (lengths : a.length ≠ b.length) : a ≠ b := fun same =>
    lengths (congrArg _ same)
  have rows : "_rows".length = 5 := rfl
  have junction : "j_".length = 2 := rfl
  simp only [ownNames, nodup_cons, mem_cons, not_mem_nil, not_or,
    nodup_nil, not_false_eq_true, and_true]
  refine ⟨⟨apart ?_, apart ?_⟩, apart ?_⟩ <;>
    simp only [String.length_append] <;> omega

/-- Relations that were met one after the other have no name in common. -/
theorem counted_names_nodup {holds : String → Prop} {start stop : Nat} {heads : List Head}
    (counted : Counted holds start heads stop) :
    (heads.flatMap fun head => ownNames head.aliasName).Nodup := by
  rw [nodup_flatMap]
  refine ⟨fun head _ => ownNames_nodup _, ?_⟩
  induction counted with
  | nil => exact .nil
  | cons named _ rest ih =>
    refine .cons ?_ ih
    intro other mem name own otherOwn
    obtain ⟨-, number, above, -, otherNamed⟩ := rest.of_mem mem
    change name ∈ ownNames _ at own otherOwn
    rw [named] at own
    rw [otherNamed] at otherOwn
    have first := nameNumber_own own
    have second := nameNumber_own otherOwn
    omega

/-! ## Lengths of names -/

/-- Whether a text is a name of the query language: a letter or an underscore, and then letters,
digits and underscores. -/
def isName (text : String) : Bool :=
  match text.toList with
  | [] => false
  | first :: rest => startsName first.toNat && rest.all fun c => continuesName c.toNat

theorem utf8Size_of_continuesName {c : Char} (continues : continuesName c.toNat = true) :
    c.utf8Size = 1 := by
  rw [Char.utf8Size_eq_one_iff]
  change c.toNat ≤ 127
  simp only [continuesName, startsName, GraphQL.isDigitCode, Bool.or_eq_true, Bool.and_eq_true,
    beq_iff_eq, decide_eq_true_eq] at continues
  omega

theorem utf8Size_of_isName {text : String} (name : isName text = true) :
    ∀ c ∈ text.toList, c.utf8Size = 1 := by
  rw [isName] at name
  split at name
  · cases name
  · rename_i chars
    rw [Bool.and_eq_true, all_eq_true] at name
    rw [chars, forall_mem_cons]
    refine ⟨utf8Size_of_continuesName ?_, fun c mem => utf8Size_of_continuesName (name.2 c mem)⟩
    rw [continuesName, name.1, Bool.true_or]

theorem utf8ByteSize_ofList {chars : List Char} (single : ∀ c ∈ chars, c.utf8Size = 1) :
    (String.ofList chars).utf8ByteSize = chars.length := by
  rw [String.utf8ByteSize_ofList]
  induction chars with
  | nil => rfl
  | cons c chars ih =>
    rw [forall_mem_cons] at single
    rw [String.utf8Len_cons, ih single.2, single.1, length_cons]

theorem utf8ByteSize_toString {digits : Nat} (positive : 0 < digits)
    (bounded : number < 10 ^ digits) : (toString number).utf8ByteSize ≤ digits := by
  have single : ∀ c ∈ (toString number).toList, c.utf8Size = 1 := by
    intro c mem
    apply utf8Size_of_continuesName
    have digit := isDigit_of_mem_toString mem
    simp only [Char.isDigit, Bool.and_eq_true, decide_eq_true_eq] at digit
    have low : 48 ≤ c.toNat := digit.1
    have high : c.toNat ≤ 57 := digit.2
    simp [continuesName, GraphQL.isDigitCode, low, high]
  have size := utf8ByteSize_ofList single
  rw [String.ofList_toList] at size
  rw [size]
  exact (Nat.length_repr_le_iff positive).mpr bounded

/-- The names of a relation whose number has at most 18 digits fit into 64 bytes. -/
theorem ownNames_utf8ByteSize (isName : isName field = true) (bounded : number < 10 ^ 18)
    (own : name ∈ ownNames (numberedName field number)) : name.utf8ByteSize ≤ 64 := by
  have stem : (String.ofList (field.toList.take Tree.Builder.maxStem)).utf8ByteSize ≤ 40 := by
    rw [utf8ByteSize_ofList fun c mem => utf8Size_of_isName isName c (mem_of_mem_take mem)]
    exact length_take_le _ _
  have digits : (toString _).utf8ByteSize ≤ 18 := utf8ByteSize_toString (by decide) bounded
  have hyphen : "-".utf8ByteSize = 1 := rfl
  have rows : "_rows".utf8ByteSize = 5 := rfl
  have junction : "j_".utf8ByteSize = 2 := rfl
  simp only [ownNames, numberedName, mem_cons, not_mem_nil, or_false] at own
  rcases own with rfl | rfl | rfl <;>
    simp only [String.utf8ByteSize_append] <;> omega

/-- The relations of a request have no name in common. -/
theorem build_names_nodup (built : Tree.build ctx sels = .ok roots) :
    ((roots.flatMap Root.heads).flatMap fun head => ownNames head.aliasName).Nodup := by
  have any : ∀ name : String, (fun _ => True) name := fun _ => trivial
  obtain ⟨_, _, -, -, counted⟩ := Tree.build_yields
    (fun _ _ => Tree.selectionsEvery_of_forall any _) (Tree.selectionsEvery_of_forall any _) built
  exact counted_names_nodup counted

/-! ## Names along a branch -/

/-- Whether two relations have no name in common. -/
def NamesDiffer (head other : Head) : Prop :=
  List.Disjoint (ownNames head.aliasName) (ownNames other.aliasName)

mutual

theorem nodeEvery_of_differ {outer : Head} {node : Node}
    (differ : (outer :: node.heads).Pairwise NamesDiffer) :
    nodeEvery (fun outer head => outer ∉ ownNames head.aliasName) outer.aliasName node := by
  match node with
  | .attribute _ _ => trivial
  | .relation head _ =>
    rw [Node.heads, pairwise_cons, forall_mem_cons] at differ
    exact ⟨fun own => differ.1.1 mem_cons_self own, nodesEvery_of_differ differ.2⟩

/-- Where all relations have names of their own, none takes the name of the one around it. -/
theorem nodesEvery_of_differ {outer : Head} {nodes : List Node}
    (differ : (outer :: nodesHeads nodes).Pairwise NamesDiffer) :
    nodesEvery (fun outer head => outer ∉ ownNames head.aliasName) outer.aliasName nodes := by
  match nodes with
  | [] => trivial
  | node :: nodes =>
    have first : (outer :: node.heads).Sublist (outer :: (node.heads ++ nodesHeads nodes)) :=
      .cons_cons _ (sublist_append_left _ _)
    have rest : (outer :: nodesHeads _).Sublist (outer :: (node.heads ++ nodesHeads nodes)) :=
      .cons_cons _ (sublist_append_right _ _)
    exact ⟨nodeEvery_of_differ (differ.sublist first), nodesEvery_of_differ (differ.sublist rest)⟩

end

/-- In the trees of a request no relation takes the name of the one around it. -/
theorem build_namesApart (built : Tree.build ctx sels = .ok roots) {root : Root}
    (mem : root ∈ roots) : NamesApart root := by
  have differ := (nodup_flatMap.mp (build_names_nodup built)).2
  have part : root.heads.Sublist _ :=
    sublist_flatten_of_mem (mem_map_of_mem mem)
  exact nodesEvery_of_differ (differ.sublist part)

/-! ## All names -/

/-- The names that the relations of a request introduce in statements are all different.  They take
at most 64 bytes if fields have names of the query language and there are fewer than 10^17
relations. -/
theorem statement_names_distinct {context : Tree.Context} {selections : List Selection}
    {roots : List Root} (built : Tree.build context selections = .ok roots) :
    let heads := roots.flatMap Root.heads
    (heads.map Head.aliasName).Nodup ∧
      (heads.flatMap fun head => ownNames head.aliasName).Nodup ∧
        (fragmentsEvery (isName · = true) context.document →
          selectionsEvery (isName · = true) selections → heads.length < 10 ^ 17 →
            ∀ head ∈ heads, ∀ name ∈ ownNames head.aliasName, name.utf8ByteSize ≤ 64) := by
  intro heads
  have distinct := build_names_nodup built
  refine ⟨?_, distinct, ?_⟩
  · refine List.pairwise_map.mpr ((List.nodup_flatMap.mp distinct).2.imp ?_)
    intro head other disjoint same
    exact disjoint List.mem_cons_self (same ▸ List.mem_cons_self)
  · intro fragments every few head mem name own
    obtain ⟨_, stop, -, -, counted⟩ := Tree.build_yields fragments every built
    obtain ⟨isName, number, -, below, named⟩ := counted.of_mem mem
    rw [counted.stop_eq] at below
    rw [named] at own
    have bounded : number < 10 ^ 18 := by
      change heads.length < 10 ^ 17 at few
      change number ≤ 0 + heads.length at below
      omega
    exact ownNames_utf8ByteSize isName bounded own

/-- A field that selects fields, without arguments. -/
def plainField (name : String) (sels : List Selection) : Selection :=
  .field none ⟨name, 0⟩ [] [] sels 0 0

/-- A schema of items that lead to items, by fields whose names look like parts of statements or
agree in their first forty characters. -/
def itemSchema : Schema where
  queryType := "Query"
  types := [
    ⟨"Query", .object [⟨"j_item", [], .named "Item", none⟩, ⟨"item", [], .named "Item", none⟩]⟩,
    ⟨"Item", .object [⟨"id", [], .named "Int", none⟩, ⟨"item_rows", [], .named "Item", none⟩,
      ⟨"the_items_that_are_kept_in_the_upper_shelf", [], .list (.named "Item"), none⟩,
      ⟨"the_items_that_are_kept_in_the_upper_shelves", [], .list (.named "Item"), none⟩]⟩]
  defaults := []

def itemSelections : List Selection :=
  [plainField "j_item" [plainField "id" [], plainField "item_rows" [plainField "id" []]],
    plainField "item" [
      plainField "the_items_that_are_kept_in_the_upper_shelf" [plainField "id" []],
      plainField "the_items_that_are_kept_in_the_upper_shelves" [plainField "id" []]]]

theorem statement_names_distinct_items :
    ∃ roots, Tree.build ⟨itemSchema, ⟨[]⟩, []⟩ itemSelections = .ok roots ∧
      (roots.flatMap Root.heads).map Head.aliasName = ["j_item-1", "item_rows-2", "item-3",
        "the_items_that_are_kept_in_the_upper_she-4", "the_items_that_are_kept_in_the_upper_she-5"] ∧
      ((roots.flatMap Root.heads).flatMap fun head => ownNames head.aliasName).Nodup ∧
      ∀ head ∈ roots.flatMap Root.heads, ∀ name ∈ ownNames head.aliasName,
        name.utf8ByteSize ≤ 64 := by
  obtain ⟨roots, built, names, few⟩ : ∃ roots,
      Tree.build ⟨itemSchema, ⟨[]⟩, []⟩ itemSelections = .ok roots ∧
      (roots.flatMap Root.heads).map Head.aliasName = ["j_item-1", "item_rows-2", "item-3",
        "the_items_that_are_kept_in_the_upper_she-4", "the_items_that_are_kept_in_the_upper_she-5"] ∧
      (roots.flatMap Root.heads).length = 5 := ⟨_, rfl, rfl, rfl⟩
  have fragments : fragmentsEvery (isName · = true) ⟨[]⟩ := by rintro _ ⟨⟩
  have every : selectionsEvery (isName · = true) itemSelections :=
    ⟨⟨rfl, ⟨rfl, trivial⟩, ⟨rfl, ⟨rfl, trivial⟩, trivial⟩, trivial⟩,
      ⟨rfl, ⟨rfl, ⟨rfl, trivial⟩, trivial⟩, ⟨rfl, ⟨rfl, trivial⟩, trivial⟩, trivial⟩, trivial⟩
  obtain ⟨-, distinct, short⟩ := statement_names_distinct built
  exact ⟨roots, built, names, distinct, short fragments every (by rw [few]; decide)⟩

end SelectGraph.Plan
