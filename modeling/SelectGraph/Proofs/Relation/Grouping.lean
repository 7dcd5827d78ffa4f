import Mathlib
import SelectGraph.Relation.Derive

/-!
# Grouping the rows of foreign keys

The sorted rows of foreign keys fall into runs of equal keys, and every run becomes a constraint.  A
named constraint is one run, with its rows by position; a row without a name is a run of its own, as
its key ends in its place in the table.
-/

namespace SelectGraph

open List

variable {rows : List (String × ForeignKey)} {runs : List (String × List ForeignKey)}
  {run : String × List ForeignKey} {table : Table} {constraint : Constraint}

/-! ## Runs -/

/-- A constraint has as many columns as it references. -/
def Constraint.Paired (constraint : Constraint) : Prop :=
  constraint.columns.length = constraint.referenced.length

def ForeignKey.pair (key : ForeignKey) : String × String :=
  (key.column, key.referenced)

/-- The constraint of rows that belong together; the first one gives the name and the table. -/
def Constraint.ofKeys (keys : List ForeignKey) : Constraint :=
  ⟨keys.headI.constraint, keys.headI.table, keys.map ForeignKey.column, keys.map ForeignKey.referenced⟩

/-- Rows cut where their keys change. -/
structure Runs (rows : List (String × ForeignKey)) (runs : List (String × List ForeignKey)) : Prop where
  whole : runs.flatMap (fun run => run.2.map (run.1, ·)) = rows
  filled : ∀ run ∈ runs, run.2 ≠ []
  ascending : (runs.map Prod.fst).Pairwise (· < ·)

theorem Runs.addRow {label : String} {key : ForeignKey} (cut : Runs rows runs)
    (least : ∀ row ∈ rows, label ≤ row.1) :
    ∃ more, Runs ((label, key) :: rows) more ∧
      addRow (label, key) (runs.map fun run => (run.1, .ofKeys run.2)) =
        more.map fun run => (run.1, .ofKeys run.2) := by
  obtain ⟨rfl, filled, ascending⟩ := cut
  cases runs with
  | nil => exact ⟨[(label, [key])], ⟨rfl, by simp, by simp⟩, rfl⟩
  | cons run runs =>
    obtain ⟨other, keys⟩ := run
    obtain ⟨first, others⟩ := forall_mem_cons.mp filled
    obtain ⟨head, tail, rfl⟩ := exists_cons_of_ne_nil first
    rw [map_cons, pairwise_cons] at ascending
    by_cases same : other = label
    · subst same
      refine ⟨(other, key :: head :: tail) :: runs, ⟨rfl, ?_, ?_⟩, ?_⟩
      · exact forall_mem_cons.mpr ⟨cons_ne_nil _ _, others⟩
      · exact pairwise_cons.mpr ascending
      · simp [SelectGraph.addRow, Constraint.ofKeys]
    · have less : label < other :=
        lt_of_le_of_ne (least (other, head) (by simp)) (Ne.symm same)
      refine ⟨(label, [key]) :: (other, head :: tail) :: runs, ⟨rfl, ?_, ?_⟩, ?_⟩
      · exact forall_mem_cons.mpr ⟨cons_ne_nil _ _, filled⟩
      · rw [map_cons, map_cons, pairwise_cons, forall_mem_cons]
        exact ⟨⟨less, fun later mem => less.trans (ascending.1 _ mem)⟩,
          pairwise_cons.mpr ascending⟩
      · simp [SelectGraph.addRow, same, Constraint.ofKeys]

theorem exists_runs (sorted : rows.Pairwise fun a b => a.1 ≤ b.1) :
    ∃ runs, Runs rows runs ∧
      rows.foldr addRow [] = runs.map fun run => (run.1, .ofKeys run.2) := by
  induction sorted with
  | nil => exact ⟨[], ⟨rfl, by simp, .nil⟩, rfl⟩
  | @cons row rows least _ ih =>
    obtain ⟨runs, cut, grouped⟩ := ih
    rw [foldr_cons, grouped]
    exact cut.addRow least

/-! ## Sorted rows -/

theorem ForeignKey.precedes_iff {a b : String × ForeignKey} :
    precedes a b = true ↔ a.1 < b.1 ∨ a.1 = b.1 ∧ a.2.position ≤ b.2.position := by
  rw [precedes]
  split
  · next same => simp [same]
  · next other => simp [other]

theorem ForeignKey.precedes_trans (a b c : String × ForeignKey) (first : precedes a b = true)
    (second : precedes b c = true) : precedes a c = true := by
  rw [precedes_iff] at *
  rcases first with less | ⟨same, level⟩
  · rcases second with more | ⟨same, -⟩
    · exact .inl (less.trans more)
    · exact .inl (same ▸ less)
  · rw [same]
    exact second.imp_right fun ⟨equal, more⟩ => ⟨equal, level.trans more⟩

theorem ForeignKey.precedes_total (a b : String × ForeignKey) :
    (precedes a b || precedes b a) = true := by
  rw [Bool.or_eq_true, precedes_iff, precedes_iff]
  rcases lt_trichotomy a.1 b.1 with less | same | more
  · exact .inl (.inl less)
  · exact (le_total a.2.position b.2.position).imp (fun level => .inr ⟨same, level⟩)
      fun level => .inr ⟨same.symm, level⟩
  · exact .inr (.inl more)

/-- The rows of a table with their keys, in the order of the catalog. -/
def Table.labelledRows (table : Table) : List (String × ForeignKey) :=
  table.foreignKeys.zipIdx.map fun (key, position) => (key.groupKey position, key)

theorem Table.keyedRows_perm (table : Table) : table.keyedRows.Perm table.labelledRows :=
  mergeSort_perm _ _

theorem Table.keyedRows_pairwise (table : Table) :
    table.keyedRows.Pairwise fun a b => ForeignKey.precedes a b = true :=
  pairwise_mergeSort ForeignKey.precedes_trans ForeignKey.precedes_total _

theorem Table.labelledRows_keys (table : Table) : table.labelledRows.map Prod.snd = table.foreignKeys := by
  rw [labelledRows, map_map]
  exact zipIdx_map_fst 0 _

/-- The constraints of a table are the runs of its sorted rows. -/
theorem Table.exists_runs (table : Table) :
    ∃ runs, Runs table.keyedRows runs ∧
      table.constraints = runs.map fun run => Constraint.ofKeys run.2 := by
  have sorted : table.keyedRows.Pairwise fun a b => a.1 ≤ b.1 :=
    table.keyedRows_pairwise.imp fun before => by
      rcases ForeignKey.precedes_iff.mp before with less | ⟨same, -⟩
      · exact le_of_lt less
      · exact le_of_eq same
  obtain ⟨runs, cut, grouped⟩ := SelectGraph.exists_runs sorted
  refine ⟨runs, cut, ?_⟩
  rw [constraints, grouped, map_map]
  rfl

theorem Runs.keys_perm (cut : Runs table.keyedRows runs) :
    (runs.flatMap Prod.snd).Perm table.foreignKeys := by
  have keys : table.keyedRows.map Prod.snd = runs.flatMap Prod.snd := by
    rw [← cut.whole, map_flatMap]
    simp
  rw [← keys, ← table.labelledRows_keys]
  exact table.keyedRows_perm.map _

theorem Table.constraints_paired (mem : constraint ∈ table.constraints) : constraint.Paired := by
  obtain ⟨runs, -, grouped⟩ := table.exists_runs
  rw [grouped] at mem
  obtain ⟨run, -, rfl⟩ := mem_map.mp mem
  simp [Constraint.Paired, Constraint.ofKeys]

/-- Grouping the rows of foreign keys neither loses a pair of columns nor makes one up. -/
theorem Table.constraints_pairs (table : Table) :
    (table.constraints.flatMap Constraint.pairs).Perm (table.foreignKeys.map ForeignKey.pair) := by
  obtain ⟨runs, cut, grouped⟩ := table.exists_runs
  have pairs : table.constraints.flatMap Constraint.pairs =
      (runs.flatMap Prod.snd).map ForeignKey.pair := by
    rw [grouped, flatMap_map, map_flatMap]
    simp only [Constraint.pairs, Constraint.ofKeys, zip_map']
    rfl
  rw [pairs]
  exact cut.keys_perm.map _

theorem Table.constraints_table (mem : constraint ∈ table.constraints) :
    ∃ key ∈ table.foreignKeys, key.table = constraint.table := by
  obtain ⟨runs, cut, grouped⟩ := table.exists_runs
  rw [grouped] at mem
  obtain ⟨run, memRun, rfl⟩ := mem_map.mp mem
  obtain ⟨first, others, keys⟩ := exists_cons_of_ne_nil (cut.filled run memRun)
  refine ⟨first, cut.keys_perm.mem_iff.mp (mem_flatMap.mpr ⟨run, memRun, ?_⟩), ?_⟩
  · simp [keys]
  · simp [Constraint.ofKeys, keys]

theorem Runs.sublist (cut : Runs rows runs) (mem : run ∈ runs) :
    (run.2.map (run.1, ·)).Sublist rows := by
  rw [← cut.whole]
  exact sublist_flatten_of_mem (mem_map_of_mem mem)

/-- The rows of a constraint stand by position. -/
theorem Runs.by_position (cut : Runs table.keyedRows runs) (mem : run ∈ runs) :
    run.2.Pairwise fun a b => a.position ≤ b.position := by
  have sorted := table.keyedRows_pairwise.sublist (cut.sublist mem)
  rw [pairwise_map] at sorted
  refine sorted.imp fun before => ?_
  rcases ForeignKey.precedes_iff.mp before with less | ⟨-, level⟩
  · exact absurd less (lt_irrefl _)
  · exact level

/-! ## Labels -/

/-- The number behind the last underscore of a label. -/
def labelNumber (label : String) : Nat :=
  Nat.ofDigitChars 10 (label.toList.reverse.takeWhile (· != '_')).reverse 0

/-- The key of a row without a constraint name tells the place of the row. -/
theorem labelNumber_groupKey {key : ForeignKey} (unnamed : key.constraint = "") (position : Nat) :
    labelNumber (key.groupKey position) = position := by
  have digits : ∀ c ∈ (Text.paddedDigits 3 position).toList.reverse, (c != '_') = true := by
    intro c mem
    rw [Text.paddedDigits, String.toList_ofList, mem_reverse, mem_append] at mem
    rw [bne_iff_ne]
    rintro rfl
    rcases mem with zero | digit
    · cases eq_of_mem_replicate zero
    · exact Nat.underscore_not_in_toDigits digit
  have label : (key.groupKey position).toList =
      ('~' :: key.column.toList) ++ '_' :: (Text.paddedDigits 3 position).toList := by
    simp [ForeignKey.groupKey, unnamed]
  rw [labelNumber, label, reverse_append, reverse_cons, append_assoc,
    takeWhile_append_of_pos digits]
  simp [Text.paddedDigits, Nat.ofDigitChars_append]

/-- Rows without a constraint name have keys of their own. -/
theorem Table.unnamed_labels_nodup (table : Table) :
    ((table.labelledRows.filter fun row => row.2.constraint = "").map fun row =>
      labelNumber row.1).Nodup := by
  have numbers : (table.labelledRows.filter fun row => row.2.constraint = "").map
      (fun row => labelNumber row.1) =
      (table.foreignKeys.zipIdx.filter fun entry => entry.1.constraint = "").map Prod.snd := by
    rw [labelledRows, filter_map, map_map]
    refine map_congr_left fun entry mem => ?_
    exact labelNumber_groupKey (by simpa using (mem_filter.mp mem).2) entry.2
  rw [numbers]
  refine (filter_sublist.map _).nodup ?_
  rw [zipIdx_map_snd]
  exact nodup_range'

/-- The constraint that a label names: none, if the label is that of a row without one. -/
def labelConstraint (label : String) : String :=
  if label.toList.head? = some '~' then "" else label

section Plain

variable (plain : ∀ key ∈ table.foreignKeys, key.constraint.toList.head? ≠ some '~')
  (cut : Runs table.keyedRows runs)

include plain cut

theorem Runs.constraint_eq (mem : run ∈ runs) {key : ForeignKey} (memKey : key ∈ run.2) :
    key.constraint = labelConstraint run.1 := by
  have row : (run.1, key) ∈ table.labelledRows :=
    table.keyedRows_perm.mem_iff.mp ((cut.sublist mem).subset (mem_map_of_mem memKey))
  obtain ⟨⟨found, position⟩, memFound, same⟩ := mem_map.mp row
  obtain ⟨label, rfl⟩ := Prod.mk.inj same
  rw [← label, ForeignKey.groupKey, labelConstraint]
  split
  · next unnamed => simp [unnamed]
  · rw [if_neg (plain _ (fst_mem_of_mem_zipIdx memFound))]

theorem Runs.name_eq (mem : run ∈ runs) : (Constraint.ofKeys run.2).name = labelConstraint run.1 := by
  obtain ⟨first, others, keys⟩ := exists_cons_of_ne_nil (cut.filled run mem)
  rw [← cut.constraint_eq plain mem (keys ▸ mem_cons_self)]
  simp [Constraint.ofKeys, keys]

/-- The rows with a constraint name are those of the runs with a label for it. -/
theorem Runs.keys_named (name : String) :
    ((runs.filter fun run => labelConstraint run.1 = name).flatMap Prod.snd).Perm
      (table.foreignKeys.filter fun key => key.constraint = name) := by
  have each : ∀ run ∈ runs, (run.2.filter fun key => key.constraint = name) =
      if labelConstraint run.1 = name then run.2 else [] := by
    intro run mem
    split
    · next same =>
        exact filter_eq_self.mpr fun key memKey => by
          simpa [cut.constraint_eq plain mem memKey] using same
    · next other =>
        exact filter_eq_nil_iff.mpr fun key memKey => by
          simpa [cut.constraint_eq plain mem memKey] using other
  have chosen (runs : List (String × List ForeignKey)) :
      (runs.filter fun run => labelConstraint run.1 = name).flatMap Prod.snd =
        runs.flatMap fun run => if labelConstraint run.1 = name then run.2 else [] := by
    induction runs with
    | nil => rfl
    | cons run runs ih => by_cases same : labelConstraint run.1 = name <;> simp [same, ih]
  rw [chosen, ← flatMap_congr each, ← filter_flatMap]
  exact cut.keys_perm.filter _

theorem Runs.constraints_named (grouped : table.constraints = runs.map fun run => .ofKeys run.2)
    (name : String) :
    (table.constraints.filter fun constraint => constraint.name = name) =
      (runs.filter fun run => labelConstraint run.1 = name).map fun run => .ofKeys run.2 := by
  rw [grouped, filter_map]
  congr 1
  refine filter_congr fun run mem => ?_
  simp [cut.name_eq plain mem]

/-- A row without a constraint name is a run of its own. -/
theorem Runs.alone (mem : run ∈ runs) (unnamed : labelConstraint run.1 = "") :
    ∃ key, run.2 = [key] := by
  have distinct : ((table.keyedRows.filter fun row => row.2.constraint = "").map fun row =>
      labelNumber row.1).Nodup :=
    ((table.keyedRows_perm.filter _).map _).nodup_iff.mpr table.unnamed_labels_nodup
  have all : (run.2.map (run.1, ·)).filter (fun row => row.2.constraint = "") =
      run.2.map (run.1, ·) := by
    refine filter_eq_self.mpr (forall_mem_map.mpr fun key memKey => ?_)
    simp [cut.constraint_eq plain mem memKey, unnamed]
  have own := (((cut.sublist mem).filter _).map _).nodup distinct
  rw [all] at own
  cases keys : run.2 with
  | nil => exact absurd keys (cut.filled run mem)
  | cons first others =>
    cases others with
    | nil => exact ⟨first, rfl⟩
    | cons second others => simp [keys] at own

theorem Runs.constraints_unnamed (grouped : table.constraints = runs.map fun run => .ofKeys run.2) :
    (table.constraints.filter fun constraint => constraint.name = "").Perm
      ((table.foreignKeys.filter fun key => key.constraint = "").map fun key =>
        ⟨"", key.table, [key.column], [key.referenced]⟩) := by
  refine .trans (.of_eq ?_) ((cut.keys_named plain "").map _)
  rw [cut.constraints_named plain grouped, map_flatMap, map_eq_flatMap]
  refine flatMap_congr fun run mem => ?_
  obtain ⟨memRun, unnamed⟩ := mem_filter.mp mem
  have unnamed : labelConstraint run.1 = "" := by simpa using unnamed
  obtain ⟨key, single⟩ := cut.alone plain memRun unnamed
  have constraint : key.constraint = "" :=
    (cut.constraint_eq plain memRun (single ▸ mem_cons_self)).trans unnamed
  simp [single, Constraint.ofKeys, constraint]

/-- A constraint name belongs to one run. -/
theorem Runs.exists_named {name : String} (named : name ≠ "")
    (known : ∃ key ∈ table.foreignKeys, key.constraint = name) :
    ∃ run ∈ runs, (runs.filter fun run => labelConstraint run.1 = name) = [run] := by
  have label : ∀ run ∈ runs.filter fun run => labelConstraint run.1 = name, run.1 = name := by
    intro run mem
    have same : labelConstraint run.1 = name := by simpa using (mem_filter.mp mem).2
    rw [labelConstraint] at same
    split at same
    · exact absurd same.symm named
    · exact same
  have distinct : ((runs.filter fun run => labelConstraint run.1 = name).map _).Nodup :=
    (filter_sublist.map _).nodup (cut.ascending.imp ne_of_lt)
  have members := cut.keys_named plain name
  cases chosen : runs.filter fun run => labelConstraint run.1 = name with
  | nil =>
    obtain ⟨key, memKey, same⟩ := known
    rw [chosen, flatMap_nil, nil_perm, filter_eq_nil_iff] at members
    exact absurd (by simpa using same) (members key memKey)
  | cons run others =>
    rw [chosen] at label distinct
    refine ⟨run, (mem_filter.mp (chosen ▸ mem_cons_self)).1, ?_⟩
    cases others with
    | nil => rfl
    | cons second others =>
      have same : second.1 = run.1 := (label _ (by simp)).trans (label run (by simp)).symm
      simp [same] at distinct

end Plain

/-- With names and distinct positions the rows have one order. -/
theorem Table.keyedRows_eq {other : Table}
    (named : ∀ key ∈ table.foreignKeys, key.constraint ≠ "")
    (placed : (table.foreignKeys.map fun key => (key.constraint, key.position)).Nodup)
    (perm : other.foreignKeys.Perm table.foreignKeys) : other.keyedRows = table.keyedRows := by
  have labelled {known : Table} (all : ∀ key ∈ known.foreignKeys, key.constraint ≠ "") :
      known.labelledRows = known.foreignKeys.map fun key => (key.constraint, key) := by
    conv_rhs => rw [← known.labelledRows_keys, labelledRows, map_map, map_map]
    refine map_congr_left fun entry mem => ?_
    simp [ForeignKey.groupKey, all entry.1 (fst_mem_of_mem_zipIdx mem)]
  have rows : other.keyedRows.Perm table.keyedRows := by
    refine other.keyedRows_perm.trans (.trans ?_ table.keyedRows_perm.symm)
    rw [labelled named, labelled fun key mem => named key (perm.mem_iff.mp mem)]
    exact perm.map _
  have listed : ∀ row ∈ table.keyedRows, row.1 = row.2.constraint ∧ row.2 ∈ table.foreignKeys := by
    intro row mem
    rw [table.keyedRows_perm.mem_iff, labelled named] at mem
    obtain ⟨key, memKey, rfl⟩ := mem_map.mp mem
    exact ⟨rfl, memKey⟩
  refine rows.eq_of_pairwise ?_ other.keyedRows_pairwise table.keyedRows_pairwise
  intro a b memA memB before after
  obtain ⟨labelA, knownA⟩ := listed a (rows.mem_iff.mp memA)
  obtain ⟨labelB, knownB⟩ := listed b memB
  have level : a.1 = b.1 ∧ a.2.position = b.2.position := by
    rcases ForeignKey.precedes_iff.mp before with less | ⟨same, least⟩ <;>
      rcases ForeignKey.precedes_iff.mp after with more | ⟨equal, most⟩
    · exact absurd more less.asymm
    · exact absurd less (equal ▸ lt_irrefl _)
    · exact absurd more (same ▸ lt_irrefl _)
    · exact ⟨same, le_antisymm least most⟩
  refine Prod.ext level.1 (inj_on_of_nodup_map placed knownA knownB ?_)
  rw [← labelA, ← labelB, level.1, level.2]

/-- Where no constraint name begins like the key of a row without one and rows of one constraint
reference one table, grouping loses nothing: columns stand beside the columns they reference, the
pairs of all groups are those of the rows, a constraint name has one group with all its rows by
position, a row without one is a group of its own, and where all rows have names and places of their
own in their constraints, their order in the catalog does not count. -/
theorem Table.constraints_group_rows (table : Table)
    (oneTable : ∀ a ∈ table.foreignKeys, ∀ b ∈ table.foreignKeys, a.constraint ≠ "" →
      a.constraint = b.constraint → a.table = b.table)
    (plain : ∀ key ∈ table.foreignKeys, key.constraint.toList.head? ≠ some '~') :
    (∀ constraint ∈ table.constraints, constraint.Paired) ∧
    (table.constraints.flatMap Constraint.pairs).Perm (table.foreignKeys.map ForeignKey.pair) ∧
    (∀ first ∈ table.foreignKeys, first.constraint ≠ "" → ∃ keys : List ForeignKey,
      keys.Perm (table.foreignKeys.filter fun key => key.constraint = first.constraint) ∧
      (keys.Pairwise fun a b => a.position ≤ b.position) ∧
      (table.constraints.filter fun constraint => constraint.name = first.constraint) =
        [⟨first.constraint, first.table, keys.map ForeignKey.column,
          keys.map ForeignKey.referenced⟩]) ∧
    (table.constraints.filter fun constraint => constraint.name = "").Perm
      ((table.foreignKeys.filter fun key => key.constraint = "").map fun key =>
        ⟨"", key.table, [key.column], [key.referenced]⟩) ∧
    ∀ other : Table, (∀ key ∈ table.foreignKeys, key.constraint ≠ "") →
      (table.foreignKeys.map fun key => (key.constraint, key.position)).Nodup →
      other.foreignKeys.Perm table.foreignKeys → other.constraints = table.constraints := by
  obtain ⟨runs, cut, grouped⟩ := table.exists_runs
  refine ⟨fun _ => constraints_paired, table.constraints_pairs, ?_, ?_, ?_⟩
  · intro first mem named
    obtain ⟨run, memRun, only⟩ := cut.exists_named plain named ⟨first, mem, rfl⟩
    have keys := cut.keys_named plain first.constraint
    rw [only, List.flatMap_singleton] at keys
    refine ⟨run.2, keys, cut.by_position memRun, ?_⟩
    obtain ⟨head, others, split⟩ := List.exists_cons_of_ne_nil (cut.filled run memRun)
    have memHead : head ∈ table.foreignKeys.filter fun key => key.constraint = first.constraint :=
      keys.mem_iff.mp (split ▸ List.mem_cons_self)
    obtain ⟨known, same⟩ := List.mem_filter.mp memHead
    have same : head.constraint = first.constraint := by simpa using same
    rw [cut.constraints_named plain grouped, only, List.map_singleton]
    simp [Constraint.ofKeys, split, same, oneTable first mem head known named same.symm]
  · exact cut.constraints_unnamed plain grouped
  · intro other named placed perm
    rw [constraints, constraints, keyedRows_eq named placed perm]

/-- Two unnamed rows of one column beside a constraint, and that constraint alone, turned round. -/
theorem Table.constraints_group_rows_turned :
    let late : ForeignKey := ⟨"film", "part", "film", "cast", 2⟩
    let early : ForeignKey := ⟨"actor", "part", "actor", "cast", 1⟩
    let loose : ForeignKey := ⟨"owner", "person", "id", "", 0⟩
    let table (keys : List ForeignKey) : Table := ⟨"credit", [], [], keys, []⟩
    (((table [late, loose, early, loose]).constraints.filter fun constraint =>
      constraint.name = "").Perm (List.replicate 2 ⟨"", "person", ["owner"], ["id"]⟩)) ∧
    (table [early, late]).constraints = (table [late, early]).constraints := by
  intro late early loose table
  have grouped := constraints_group_rows (table [late, loose, early, loose]) (by decide) (by decide)
  have turned := constraints_group_rows (table [late, early]) (by decide) (by decide)
  exact ⟨grouped.2.2.2.1, turned.2.2.2.2 (table [early, late]) (by decide) (by decide) (.swap _ _ _)⟩

end SelectGraph
