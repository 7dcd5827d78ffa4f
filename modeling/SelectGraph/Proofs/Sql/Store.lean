import Mathlib
import SelectGraph.Json.Value
import SelectGraph.Sql.Query

/-!
# Stores

What a statement is evaluated against. A domain says how a database compares, converts and writes
values; a store adds the rows of every table and the way in which rows that an order does not
tell apart are arranged.  Nothing is assumed of such rows beyond that the order is respected.
-/

namespace SelectGraph.Sql

open List

open Std (OrientedCmp ReflCmp TransCmp)

/-- The values of a database. `compare` is what `<`, `=` and `>` decide of values that are not null,
`argument` the value that stands for a placeholder, and `print` the text of a JSON document. -/
structure Domain where
  Value : Type
  compare : Value → Value → Ordering
  ordered : TransCmp compare
  argument : Literal → Value
  toJson : Value → Json
  print : Json → String

instance (domain : Domain) : TransCmp domain.compare := domain.ordered

/-- A row of a table: the value of every column, if it is not null. -/
abbrev Row (domain : Domain) := String → Option domain.Value

/-- What a query computes in one column of one row. -/
inductive Cell (domain : Domain) where
  | null
  | stored (value : domain.Value)
  | number (value : Nat)
  | text (value : String)
  | document (json : Json)

variable {domain : Domain}

namespace Cell

/-- The cell of a column of a table. -/
def ofStored : Option domain.Value → Cell domain
  | none => .null
  | some value => .stored value

def isNull : Cell domain → Bool
  | .null => true
  | _ => false

/-- A cell inside a JSON document. -/
def toJson : Cell domain → Json
  | .null => .null
  | .stored value => domain.toJson value
  | .number value => .ofNat value
  | .text value => .text value
  | .document json => json

/-- A cell converted to text. -/
def asText : Cell domain → Cell domain
  | .null => .null
  | .stored value =>
    match domain.toJson value with
    | .text value => .text value
    | json => .text (domain.print json)
  | .number value => .text (toString value)
  | .text value => .text value
  | .document json => .text (domain.print json)

/-- The order of cells: null comes first. Cells of different kinds never meet in one column, and
documents are not told apart. -/
def compare : Cell domain → Cell domain → Ordering
  | .null, .null => .eq
  | .null, _ => .lt
  | _, .null => .gt
  | .stored a, .stored b => domain.compare a b
  | .stored _, _ => .lt
  | _, .stored _ => .gt
  | .number a, .number b => Ord.compare a b
  | .number _, _ => .lt
  | _, .number _ => .gt
  | .text a, .text b => Ord.compare a b
  | .text _, _ => .lt
  | _, .text _ => .gt
  | .document _, .document _ => .eq

instance : TransCmp (@compare domain) where
  eq_swap := by
    intro a b
    cases a <;> cases b <;> simp only [compare, Ordering.swap] <;> exact OrientedCmp.eq_swap
  isLE_trans := by
    intro a b c
    cases a <;> cases b <;> cases c <;> simp [compare] <;> exact TransCmp.isLE_trans

/-- A cell compared with an argument; nothing compares with null. -/
def against : Cell domain → Literal → Option Ordering
  | .null, _ => none
  | _, .null => none
  | .stored value, arg => some (domain.compare value (domain.argument arg))
  | .number value, .uint arg => some (Ord.compare value arg)
  | .number value, .int arg => some (Ord.compare (Int.ofNat value) arg)
  | .text value, .text arg => some (Ord.compare value arg)
  | _, _ => none

/-- Whether two cells are equal, which is unknown of null. -/
def equal? : Cell domain → Cell domain → Option Bool
  | .null, _ => none
  | _, .null => none
  | a, b => some (compare a b == .eq)

/-- The greatest of cells, null if all are null. -/
def greatest (cells : List (Cell domain)) : Cell domain :=
  cells.foldl (fun best cell => if compare best cell = .lt then cell else best) .null

/-- The greatest of equal numbers. -/
theorem greatest_const {α : Type} {items : List α} (inhabited : items ≠ []) (value : Nat) :
    greatest (items.map fun _ => (number value : Cell domain)) = number value := by
  have same : compare (number value : Cell domain) _ = .eq :=
    Std.ReflCmp.compare_self
  have kept : ∀ items : List α, (items.map fun _ => (number value : Cell domain)).foldl
      (fun best cell => if compare best cell = .lt then cell else best) (number value) =
        number value := by
    intro items
    induction items with
    | nil => rfl
    | cons item items ih => simpa [same] using ih
  cases items with
  | nil => exact absurd rfl inhabited
  | cons item items => exact kept _

end Cell

/-! ## Three truth values -/

/-- A truth value; `none` is unknown. -/
abbrev Truth := Option Bool

namespace Truth

def both : Truth → Truth → Truth
  | some false, _ => some false
  | _, some false => some false
  | some true, some true => some true
  | _, _ => none

def either : Truth → Truth → Truth
  | some true, _ => some true
  | _, some true => some true
  | some false, some false => some false
  | _, _ => none

/-- All of several truth values. -/
def all (parts : List Truth) : Truth :=
  parts.foldr both (some true)

/-- Some of several truth values. -/
def any (parts : List Truth) : Truth :=
  parts.foldr either (some false)

@[simp] theorem both_eq_true {a b : Truth} :
    both a b = some true ↔ a = some true ∧ b = some true := by
  rcases a with _ | _ | _ <;> rcases b with _ | _ | _ <;> simp [both]

@[simp] theorem either_eq_true {a b : Truth} :
    either a b = some true ↔ a = some true ∨ b = some true := by
  rcases a with _ | _ | _ <;> rcases b with _ | _ | _ <;> simp [either]

theorem all_eq_true {parts : List Truth} :
    all parts = some true ↔ ∀ part ∈ parts, part = some true := by
  induction parts with
  | nil => simp [all]
  | cons part parts ih =>
    have step : all (part :: parts) = both part (all _) := rfl
    rw [step, both_eq_true, ih, forall_mem_cons]

theorem any_eq_true {parts : List Truth} : any parts = some true ↔ some true ∈ parts := by
  induction parts with
  | nil => simp [any]
  | cons part parts ih =>
    have step : any (part :: parts) = either part (any _) := rfl
    rw [step, either_eq_true, ih, mem_cons, eq_comm]

/-- Whether all of several truth values are true. -/
def hold (parts : List Truth) : Bool :=
  all parts == some true

theorem hold_eq {parts : List Truth} {verdict : Bool}
    (decided : (∀ part ∈ parts, part = some true) ↔ verdict = true) : hold parts = verdict := by
  rw [← all_eq_true] at decided
  rw [Bool.eq_iff_iff, hold, beq_iff_eq, decided]

end Truth

/-! ## Sort keys -/

/-- The outcome of a comparison, read in a direction. -/
def Direction.apply : Direction → Ordering → Ordering
  | .ascending, outcome => outcome
  | .descending, outcome => outcome.swap

/-- Compare two sort keys in their first cell. A descending column is compared the other way round,
so that null comes last there. -/
def compareFirst (direction : Direction) (a b : List (Cell domain)) : Ordering :=
  direction.apply ((a.headD .null).compare (b.headD .null))

/-- Compare two rows by their sort keys, which have one cell for each direction. -/
def compareKeys : List Direction → List (Cell domain) → List (Cell domain) → Ordering
  | [], _, _ => .eq
  | direction :: directions, a, b =>
    (compareFirst direction a b).then (compareKeys directions a.tail b.tail)

theorem Direction.apply_eq_eq {direction : Direction} {outcome : Ordering} :
    direction.apply outcome = .eq ↔ outcome = .eq := by
  cases direction <;> cases outcome <;> simp [Direction.apply]

theorem compareKeys_cons_lt {direction : Direction} {directions : List Direction}
    {a b : Cell domain} {as bs : List (Cell domain)} :
    compareKeys (direction :: directions) (a :: as) (b :: bs) = .lt ↔
      direction.apply (a.compare b) = .lt ∨
        a.compare b = .eq ∧ compareKeys directions as bs = .lt := by
  rw [compareKeys, Ordering.then_eq_lt]
  simp only [compareFirst, headD_cons, tail_cons, Direction.apply_eq_eq]

theorem transCmp_on {α β : Type} (view : α → β) (comparison : β → β → Ordering)
    [TransCmp comparison] : TransCmp fun a b => comparison (view a) (view b) where
  eq_swap := OrientedCmp.eq_swap
  isLE_trans := TransCmp.isLE_trans

instance instTransCmpCompareFirst (direction : Direction) :
    TransCmp (@compareFirst domain direction) := by
  have heads := transCmp_on (fun key : List (Cell domain) => key.headD .null) Cell.compare
  cases direction with
  | ascending => exact heads
  | descending =>
    have flipped : @compareFirst domain .descending =
        fun a b => (b.headD .null).compare (a.headD .null) := by
      funext a b
      exact OrientedCmp.eq_swap.symm
    rw [flipped]
    exact TransCmp.opposite

instance instTransCmpCompareKeys (directions : List Direction) :
    TransCmp (@compareKeys domain directions) := by
  induction directions with
  | nil => exact { eq_swap := rfl, isLE_trans := fun _ _ => rfl }
  | cons direction directions ih =>
    have rest := transCmp_on tail (@compareKeys domain directions)
    exact inferInstanceAs (TransCmp (compareLex (@compareFirst domain direction) _))

/-! ## Arrangements -/

/-- How a database arranges rows: given the directions of an order and the sort key of each row, the
places of the rows in the arrangement. Rows with equal keys may come in any sequence. -/
structure Arrangement (domain : Domain) where
  places : List Direction → List (List (Cell domain)) → List Nat
  perm : ∀ directions keys, (places directions keys).Perm (range keys.length)
  sorted : ∀ directions keys, ((places directions keys).filterMap (keys[·]?)).Pairwise
    fun a b => (compareKeys directions a b).isLE

theorem filterMap_getElem?_range {α : Type} (items : List α) :
    (range items.length).filterMap (items[·]?) = items := by
  induction items with
  | nil => rfl
  | cons item items ih =>
    rw [length_cons, range_succ_eq_map]
    simpa [Function.comp_def] using ih

/-- Whether an order tells all items of a list apart. -/
def Apart {α : Type} (directions : List Direction) (key : α → List (Cell domain))
    (items : List α) : Prop :=
  items.Pairwise fun a b => compareKeys directions (key a) (key b) ≠ .eq

namespace Apart

variable {α : Type} {directions : List Direction} {key : α → List (Cell domain)} {items : List α}

theorem symm_of_ne {a b : α} (different : compareKeys directions (key a) (key b) ≠ .eq) :
    compareKeys directions (key b) (key a) ≠ .eq := by
  intro equal
  exact different (OrientedCmp.eq_symm equal)

theorem of_mem (apart : Apart directions key items) {a b : α} (aMem : a ∈ items)
    (bMem : b ∈ items) (different : a ≠ b) :
    compareKeys directions (key a) (key b) ≠ .eq :=
  have : Std.Symm fun a b => compareKeys directions (key a) (key b) ≠ .eq :=
    ⟨fun _ _ => symm_of_ne⟩
  List.Pairwise.forall apart aMem bMem different

end Apart

namespace Arrangement

def sort {α : Type} (arrangement : Arrangement domain) (directions : List Direction)
    (key : α → List (Cell domain)) (items : List α) : List α :=
  (arrangement.places directions (items.map key)).filterMap (items[·]?)

variable {α β : Type} (arrangement : Arrangement domain) (directions : List Direction)

theorem sort_map (key : β → List (Cell domain)) (image : α → β) (items : List α) :
    arrangement.sort directions key (items.map image) =
      (arrangement.sort directions (fun item => key (image item)) items).map image := by
  simp only [sort, map_map, map_filterMap, getElem?_map]
  rfl

section

variable (key : α → List (Cell domain))

include key

theorem sort_perm (items : List α) : (arrangement.sort directions key items).Perm items := by
  have places := arrangement.perm directions (items.map key)
  rw [length_map] at places
  have arranged := places.filterMap (items[·]?)
  rwa [filterMap_getElem?_range] at arranged

theorem sort_pairwise (items : List α) :
    (arrangement.sort directions key items).Pairwise
      fun a b => (compareKeys directions (key a) (key b)).isLE := by
  have sorted := arrangement.sorted directions (items.map key)
  simp only [getElem?_map] at sorted
  rw [← map_filterMap, pairwise_map] at sorted
  exact sorted

/-- Rows that an order tells apart have one arrangement only. -/
theorem sort_eq_of_sorted {items arranged : List α} (perm : arranged.Perm items)
    (apart : Apart directions key items)
    (sorted : arranged.Pairwise fun a b => (compareKeys directions (key a) (key b)).isLE) :
    arrangement.sort directions key items = arranged := by
  have permSort := arrangement.sort_perm directions key items
  apply List.Perm.eq_of_pairwise _ (arrangement.sort_pairwise _ key _) sorted
    (permSort.trans perm.symm)
  intro a b aMem bMem forward backward
  by_contra different
  exact apart.of_mem (permSort.mem_iff.mp aMem) (perm.mem_iff.mp bMem) different
    (OrientedCmp.isLE_antisymm forward backward)

theorem sort_strict {items : List α} (apart : Apart directions key items) :
    (arrangement.sort directions key items).Pairwise
      fun a b => compareKeys directions (key a) (key b) = .lt := by
  have distinct := List.Pairwise.perm apart (arrangement.sort_perm directions key _).symm
    Apart.symm_of_ne
  refine (distinct.and (arrangement.sort_pairwise _ key _)).imp ?_
  rintro a b ⟨different, ordered⟩
  exact (Ordering.isLE_iff_eq_lt_or_eq_eq.mp ordered).resolve_right different

end

/-- The key of the row at a place. -/
def keyAt (keys : List (List (Cell domain))) (place : Nat) : List (Cell domain) :=
  keys[place]?.getD []

@[simp] theorem map_keyAt_range (keys : List (List (Cell domain))) :
    (range keys.length).map (keyAt keys) = keys := by
  apply ext_getElem
  · simp
  · intro place _ bound
    simp [keyAt, bound]

theorem places_eq_sort (keys : List (List (Cell domain))) :
    arrangement.places directions keys =
      arrangement.sort directions (keyAt keys) (range keys.length) := by
  rw [sort, map_keyAt_range]
  have found : ∀ place ∈ arrangement.places directions keys,
      (range keys.length)[place]? = some place := by
    intro place member
    apply getElem?_range
    exact mem_range.mp ((arrangement.perm _ keys).mem_iff.mp member)
  rw [filterMap_congr found, filterMap_some]

/-- A row that the order puts before another has the smaller number. -/
theorem idxOf_places_lt {keys : List (List (Cell domain))} {first second : Nat}
    (firstBound : first < keys.length) (secondBound : second < keys.length)
    (before : compareKeys directions (keyAt keys first) (keyAt keys second) = .lt) :
    (arrangement.places directions keys).idxOf first <
      (arrangement.places directions keys).idxOf second := by
  have sorted := arrangement.sort_pairwise directions (keyAt keys) (.range keys.length)
  rw [← places_eq_sort] at sorted
  have listed {place : Nat} (bound : place < keys.length) :
      place ∈ arrangement.places _ keys :=
    (arrangement.perm directions keys).mem_iff.mpr (mem_range.mpr bound)
  by_contra behind
  rcases Nat.lt_or_eq_of_le (Nat.le_of_not_lt behind) with earlier | same
  · have ordered := pairwise_iff_getElem.mp sorted _ _
      (idxOf_lt_length_iff.mpr (listed secondBound))
      (idxOf_lt_length_iff.mpr (listed firstBound)) earlier
    have back : compareKeys _ _ _ =
        (compareKeys directions (keyAt keys first) (keyAt keys second)).swap := OrientedCmp.eq_swap
    rw [getElem_idxOf, getElem_idxOf, back, before] at ordered
    cases ordered
  · have level : compareKeys directions _ (keyAt keys first) = .eq :=
      ReflCmp.compare_self
    rw [(idxOf_inj (listed secondBound)).mp same, level] at before
    cases before

def byInsertion (domain : Domain) : Arrangement domain where
  places directions keys := (range keys.length).insertionSort
    fun i j => (compareKeys directions (keyAt keys i) (keyAt keys j)).isLE
  perm directions keys := perm_insertionSort _ _
  sorted directions keys := by
    let before (i j : Nat) : Prop := (compareKeys directions (keyAt keys i) (keyAt keys j)).isLE
    have total : Std.Total before := by
      refine ⟨fun i j => ?_⟩
      by_cases forward : before i j
      · exact .inl forward
      · right
        apply OrientedCmp.isGE_iff_isLE.mp
        apply Ordering.isGE_of_eq_gt
        simpa [before, Ordering.isLE_iff_ne_gt] using forward
    have transitive : IsTrans Nat before := ⟨fun i j k => TransCmp.isLE_trans⟩
    rw [pairwise_filterMap]
    refine (pairwise_insertionSort before (range keys.length)).imp ?_
    intro i j ordered a found b foundOther
    simpa [before, keyAt, found, foundOther] using ordered

end Arrangement

/-- A database: its values, the rows of its tables, how it orders the rows of a query and how it
numbers them. -/
structure Store extends Domain where
  rows : String → List (Row toDomain)
  ordering : Arrangement toDomain
  numbering : Arrangement toDomain

instance : Coe Store Domain := ⟨Store.toDomain⟩

/-- A domain of integers; arguments that are no integers stand for zero. -/
def Domain.integers : Domain where
  Value := Int
  compare := Ord.compare
  ordered := inferInstance
  argument
    | .int value => value
    | .uint value => value
    | _ => 0
  toJson := Json.ofInt
  print := Json.compact

/-- The row of integers with the given columns. All other columns are null. -/
def integerRow (cells : List (String × Int)) : Row .integers :=
  fun col => cells.lookup col

/-- The database of integers with the given tables. -/
def Store.ofIntegers (rows : String → List (Row .integers)) : Store where
  toDomain := .integers
  rows
  ordering := .byInsertion _
  numbering := .byInsertion _

end SelectGraph.Sql
