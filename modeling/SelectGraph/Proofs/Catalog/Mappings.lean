import SelectGraph.Proofs.Relation.Check
import SelectGraph.Setup.Sources

/-!
# Mappings of types to tables

A catalog maps types to tables by names that may differ from the types in case.  Which mapping a type
takes depends on the order of the mappings unless one spells the type exactly, or all that differ in
case lead to one table.  The same decides whether a mapping of the settings is taken before those of
the catalog.
-/

namespace SelectGraph

open List

variable {catalog : Catalog} {type : String} {entry : String × String}
  {entries : List (String × String)}

namespace Catalog

/-! ## Order of mappings -/

/-- What a type comes to that is mapped to a table name. -/
def mappedTo (catalog : Catalog) (type table : String) : Except TypeError Table :=
  match catalog.table? table with
  | some found => .ok found
  | none => .error (.unknownTable type table)

/-- The catalog with other mappings. -/
def withMappings (catalog : Catalog) (entries : List (String × String)) : Catalog :=
  { catalog with typeTables := entries }

/-- The mappings that a type may take: those that spell it, and if there are none those that differ
from it in case. -/
structure Answers (catalog : Catalog) (type : String) (entry : String × String) : Prop where
  mem : entry ∈ catalog.typeTables
  alike : Text.equalFold entry.1 type = true
  spelled : type ∈ catalog.typeTables.map Prod.fst → entry.1 = type

theorem Answers.perm (answers : catalog.Answers type entry)
    (perm : entries.Perm catalog.typeTables) : (catalog.withMappings entries).Answers type entry where
  mem := perm.mem_iff.mpr answers.mem
  alike := answers.alike
  spelled known := answers.spelled ((perm.map _).mem_iff.mp known)

theorem exists_answers (mem : entry ∈ catalog.typeTables) (alike : Text.equalFold entry.1 type = true) :
    ∃ taken, catalog.Answers type taken := by
  by_cases known : type ∈ catalog.typeTables.map Prod.fst
  · obtain ⟨taken, memTaken, rfl⟩ := mem_map.mp known
    exact ⟨taken, memTaken, Text.equalFold_refl _, fun _ => rfl⟩
  · exact ⟨entry, mem, alike, fun spelled => absurd spelled known⟩

theorem answers_of_mapped? {table : String} (mapped : catalog.mapped? type = some table) :
    ∃ entry, catalog.Answers type entry ∧ entry.2 = table := by
  obtain ⟨entry, found, same⟩ := Option.map_eq_some_iff.mp mapped
  obtain ⟨mem, alike⟩ := findNamed?_eq_some found
  refine ⟨entry, ⟨mem, alike, fun known => ?_⟩, same⟩
  exact (findNamed?_name_eq_iff found).mpr (mem_map.mp known)

/-- Some mapping is taken if there is one that may be. -/
theorem Answers.tableForType (answers : catalog.Answers type entry) :
    ∃ taken, catalog.Answers type taken ∧
      catalog.tableForType type = catalog.mappedTo type taken.2 := by
  cases mapped : catalog.mapped? type with
  | none =>
    have other := findNamed?_eq_none (Option.map_eq_none_iff.mp mapped) answers.mem
    exact absurd answers.alike (Bool.eq_false_iff.mp other)
  | some table =>
    obtain ⟨taken, answersTaken, rfl⟩ := answers_of_mapped? mapped
    refine ⟨taken, answersTaken, ?_⟩
    rw [Catalog.tableForType, mapped]
    rfl

/-- Each mapping that may be taken is taken where it comes first. -/
theorem Answers.first (answers : catalog.Answers type entry) :
    ∃ entries, entries.Perm catalog.typeTables ∧
      (catalog.withMappings entries).tableForType type = catalog.mappedTo type entry.2 := by
  have perm := perm_cons_erase answers.mem
  refine ⟨entry :: catalog.typeTables.erase _, perm.symm, ?_⟩
  have mapped : (catalog.withMappings (entry :: catalog.typeTables.erase entry)).mapped? type =
      some entry.2 := by
    rw [mapped?, withMappings, findNamed?]
    by_cases same : entry.1 = type
    · simp [same]
    · have unspelled : (entry :: catalog.typeTables.erase entry).find?
          (fun value => value.1 == type) = none := by
        refine find?_eq_none.mpr fun other mem named => same (answers.spelled ?_)
        exact mem_map.mpr ⟨other, perm.mem_iff.mpr mem, beq_iff_eq.mp named⟩
      rw [unspelled]
      simp [answers.alike]
  rw [Catalog.tableForType, mapped]
  rfl

theorem tableForType_of_unmapped (unmapped : ∀ entry, ¬ catalog.Answers type entry)
    (perm : entries.Perm catalog.typeTables) :
    (catalog.withMappings entries).tableForType type = catalog.tableForType type := by
  have unknown {known : List _} (same : known.Perm catalog.typeTables) :
      (catalog.withMappings known).mapped? type = none := by
    by_contra found
    obtain ⟨table, mapped⟩ := Option.ne_none_iff_exists'.mp found
    obtain ⟨entry, answers, -⟩ := answers_of_mapped? mapped
    exact unmapped _ (answers.perm same.symm)
  have own : catalog.mapped? type = none := unknown (.refl _)
  rw [tableForType, unknown perm, tableForType, own]
  rfl

/-- A type comes to something in every order of the mappings just if all that it may take lead there. -/
theorem Answers.always_iff (answers : catalog.Answers type entry) {outcome : Except TypeError Table} :
    (∀ entries, entries.Perm catalog.typeTables →
      (catalog.withMappings entries).tableForType type = outcome) ↔
    ∀ taken, catalog.Answers type taken → catalog.mappedTo type taken.2 = outcome := by
  constructor
  · intro always taken answersTaken
    obtain ⟨entries, perm, same⟩ := answersTaken.first
    exact same.symm.trans (always _ perm)
  · intro all entries perm
    obtain ⟨taken, answersTaken, same⟩ := (answers.perm perm).tableForType
    exact same.trans (all _ (answersTaken.perm perm.symm))

/-- The table of a type, or the error, does not depend on the order of the mappings just if the
mappings that it may take, those that spell it or else those that differ in case, all lead to one. -/
theorem tableForType_order_free_iff (catalog : Catalog) (type : String) :
    (∀ entries, entries.Perm catalog.typeTables →
      (catalog.withMappings entries).tableForType type = catalog.tableForType type) ↔
    ∀ a b, catalog.Answers type a → catalog.Answers type b →
      catalog.mappedTo type a.2 = catalog.mappedTo type b.2 := by
  constructor
  · intro always a b answersA answersB
    have all := answersA.always_iff.mp always
    exact (all a answersA).trans (all b answersB).symm
  · intro agree entries perm
    by_cases mapped : ∃ entry, catalog.Answers type entry
    · obtain ⟨entry, answers⟩ := mapped
      obtain ⟨own, answersOwn, same⟩ := answers.tableForType
      rw [same]
      exact answers.always_iff.mpr (fun taken answersTaken => agree taken own answersTaken answersOwn)
        entries perm
    · exact tableForType_of_unmapped (not_exists.mp mapped) perm

/-- Two mappings that differ from the type in case, to different tables. -/
theorem tableForType_by_order :
    let film : Table := ⟨"film", [], [], [], []⟩
    let actor : Table := ⟨"actor", [], [], [], []⟩
    let catalog : Catalog := ⟨[film, actor], [("FILM", "film"), ("film", "actor")]⟩
    let turned := [("film", "actor"), ("FILM", "film")]
    turned.Perm catalog.typeTables ∧ catalog.tableForType "Film" = .ok film ∧
      (catalog.withMappings turned).tableForType "Film" = .ok actor :=
  ⟨.swap _ _ _, rfl, rfl⟩

/-! ## Mappings of the settings -/

/-- The catalog with mappings laid over its own, which stay where they are spelled otherwise. -/
def overlaid (catalog : Catalog) (entries : List (String × String)) : Catalog :=
  catalog.withMappings
    (catalog.typeTables.filter (fun entry => entry.1 ∉ entries.map Prod.fst) ++ entries)

theorem overlaid_mapType {type table : String} (fresh : type ∉ entries.map Prod.fst) :
    (catalog.mapType type table).overlaid entries = catalog.overlaid ((type, table) :: entries) := by
  simp only [overlaid, withMappings, mapType]
  congr 1
  rw [filter_append, filter_filter, append_assoc]
  congr 1
  · refine filter_congr fun entry _ => ?_
    rw [Bool.eq_iff_iff]
    simp [and_comm]
  · simp [fresh]

theorem foldl_mapType (distinct : (entries.map Prod.fst).Nodup) (catalog : Catalog) :
    entries.foldl (fun found (type, table) => found.mapType type table) catalog =
      catalog.overlaid entries := by
  induction entries generalizing catalog with
  | nil => simp [overlaid, withMappings]
  | cons entry entries ih =>
    rw [map_cons, nodup_cons] at distinct
    rw [foldl_cons, ih distinct.2, overlaid_mapType distinct.1]

end Catalog

namespace Setup

variable {α β : Type} {journal after : Telemetry.Journal}

theorem Loading.bind_eq_ok {first : Loading α} {next : α → Loading β} {result : β}
    (loaded : (first >>= next).run.run journal = (.ok result, after)) :
    ∃ value middle, first.run.run journal = (.ok value, middle) ∧
      (next value).run.run middle = (.ok result, after) := by
  change (match first.run.run _ with
    | (outcome, middle) => (ExceptT.bindCont next outcome).run middle) = _ at loaded
  rcases read : first.run.run _ with ⟨cause | value, middle⟩
  · rw [read] at loaded
    cases loaded
  · rw [read] at loaded
    exact ⟨value, middle, rfl, loaded⟩

theorem given_eq_ok {ε : Type} {outcome : Except ε α} {wrap : ε → SourceError} {value : α}
    (read : (given outcome wrap).run.run journal = (.ok value, after)) : after = journal := by
  cases outcome <;> cases read
  rfl

/-- The catalog of loaded sources is that which was read, with the mappings of the settings over it. -/
theorem loadSources_catalog {cfg : SourceSettings} {files : Files} {logger : Log.Logger}
    {database? : Option Described} {model : Engine.Model}
    (loaded : (loadSources cfg files logger database?).run.run journal = (.ok model, after))
    (distinct : (cfg.typeTables.map Prod.fst).Nodup) :
    ∃ read middle, (loadCatalog cfg files database?).run.run journal = (.ok read, middle) ∧
      model.sources.catalog = read.overlaid cfg.typeTables := by
  obtain ⟨sdl, _, readSdl, loaded⟩ := Loading.bind_eq_ok loaded
  cases given_eq_ok readSdl
  obtain ⟨schema, _, readSchema, loaded⟩ := Loading.bind_eq_ok loaded
  cases given_eq_ok readSchema
  obtain ⟨read, middle, readCatalog, loaded⟩ := Loading.bind_eq_ok loaded
  refine ⟨read, middle, readCatalog, ?_⟩
  split at loaded
  · obtain ⟨registry, _, -, loaded⟩ := Loading.bind_eq_ok loaded
    obtain ⟨_, _, -, loaded⟩ := Loading.bind_eq_ok loaded
    cases loaded
    exact Catalog.foldl_mapType distinct read
  · obtain ⟨declared, _, -, loaded⟩ := Loading.bind_eq_ok loaded
    obtain ⟨registry, _, -, loaded⟩ := Loading.bind_eq_ok loaded
    obtain ⟨_, _, -, loaded⟩ := Loading.bind_eq_ok loaded
    cases loaded
    exact Catalog.foldl_mapType distinct read

/-- A mapping of the settings decides the table of a type that it equals but for case, whatever the
order of the mappings, just if all mappings that the type may take lead to the same table.  These are
the mappings of the settings and those of the catalog that the settings do not spell alike. -/
theorem configured_mapping_wins_iff {settings : SourceSettings} {files : Files} {logger : Log.Logger}
    {database? : Option Described} {model : Engine.Model}
    (loaded : (loadSources settings files logger database?).run.run journal = (.ok model, after))
    (distinct : (settings.typeTables.map Prod.fst).Nodup) {key table type : String}
    (configured : (key, table) ∈ settings.typeTables) (alike : Text.equalFold key type = true) :
    ∃ read middle, (loadCatalog settings files database?).run.run journal = (.ok read, middle) ∧
      model.sources.catalog = read.overlaid settings.typeTables ∧
      ((∀ entries, entries.Perm model.sources.catalog.typeTables →
        (read.withMappings entries).tableForType type = read.mappedTo type table) ↔
      ∀ taken, (read.overlaid settings.typeTables).Answers type taken →
        read.mappedTo type taken.2 = read.mappedTo type table) := by
  obtain ⟨read, middle, readCatalog, merged⟩ := loadSources_catalog loaded distinct
  refine ⟨read, middle, readCatalog, merged, ?_⟩
  have mem : (key, table) ∈ (read.overlaid settings.typeTables).typeTables :=
    List.mem_append_right _ configured
  obtain ⟨taken, answers⟩ := Catalog.exists_answers mem alike
  rw [merged]
  exact answers.always_iff

/-- Settings that map a type in small letters, over a catalog that maps it in its own spelling. -/
def bookSettings : SourceSettings :=
  { sdlFile := "schema", catalogFile := "catalog", typeTables := [("book", "film")] }

def bookFiles : Files :=
  ⟨[("schema", "type Query \x7b a: Int \x7d"),
    ("catalog", "type_tables:\n  Book: books\ntables:\n- name: books\n- name: film\n")]⟩

theorem bookSettings_load : ∃ model after,
    (loadSources bookSettings bookFiles ⟨.error, [], []⟩ none).run.run {} = (.ok model, after) ∧
      model.sources.catalog.tableForType "Book" = .ok ⟨"books", [], [], [], []⟩ ∧
      model.sources.catalog.mappedTo "Book" "film" = .ok ⟨"film", [], [], [], []⟩ := by
  have read : ((loadSources bookSettings bookFiles ⟨.error, [], []⟩ none).run.run {}).1.toOption.map
      (fun model => (model.sources.catalog.tableForType "Book",
        model.sources.catalog.mappedTo "Book" "film")) =
      some (.ok ⟨"books", [], [], [], []⟩, .ok ⟨"film", [], [], [], []⟩) := by
    decide +kernel
  generalize (loadSources _ _ ⟨.error, [], []⟩ none).run.run {} = outcome at read ⊢
  rcases outcome with ⟨cause | model, after⟩
  · cases read
  · obtain ⟨taken, wanted⟩ := Prod.mk.inj (Option.some.inj read)
    exact ⟨model, after, rfl, taken, wanted⟩

theorem configured_mapping_wins_iff_book : ∃ model after read middle,
    (loadSources bookSettings bookFiles ⟨.error, [], []⟩ none).run.run {} = (.ok model, after) ∧
      (loadCatalog bookSettings bookFiles none).run.run {} = (.ok read, middle) ∧
      model.sources.catalog = read.overlaid [("book", "film")] ∧
      ((∀ entries, entries.Perm model.sources.catalog.typeTables →
        (read.withMappings entries).tableForType "Book" = read.mappedTo "Book" "film") ↔
      ∀ taken, (read.overlaid [("book", "film")]).Answers "Book" taken →
        read.mappedTo "Book" taken.2 = read.mappedTo "Book" "film") := by
  obtain ⟨model, after, loaded, -⟩ := bookSettings_load
  obtain ⟨read, middle, decided⟩ := configured_mapping_wins_iff loaded (by decide)
    (List.mem_singleton.mpr rfl) (by decide +kernel : Text.equalFold "book" "Book" = true)
  exact ⟨model, after, read, middle, loaded, decided⟩

/-- The type takes the mapping of the catalog, although the settings have one that equals it but for
case. -/
theorem configured_mapping_passed_over : ∃ model after,
    (loadSources bookSettings bookFiles ⟨.error, [], []⟩ none).run.run {} = (.ok model, after) ∧
      ("book", "film") ∈ bookSettings.typeTables ∧ Text.equalFold "book" "Book" = true ∧
      model.sources.catalog.tableForType "Book" ≠ model.sources.catalog.mappedTo "Book" "film" := by
  obtain ⟨model, after, loaded, taken, wanted⟩ := bookSettings_load
  refine ⟨model, after, loaded, List.mem_singleton.mpr rfl, by decide +kernel, ?_⟩
  rw [taken, wanted]
  decide

end Setup

end SelectGraph
