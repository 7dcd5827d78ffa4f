import SelectGraph.Proofs.Sql.Alike
import SelectGraph.Proofs.Sql.Lexer

/-!
# Placeholders and arguments

The comparisons with values in a query, in the order of its text.  When the text of a query is taken
apart, its placeholders stand in these comparisons one after the other, and the arguments are the
values they compare with.
-/

namespace SelectGraph.Sql

open List

/-- A comparison with a value: where its placeholder stands, and the value. -/
structure Comparison where
  spot : Spot
  value : Literal

/-- A comparison of a column by an operator. -/
def compared (col : ColumnRef) (words : String) (value : Literal) : Comparison :=
  ⟨⟨col.source, col.column, words⟩, value⟩

/-- What stands between a column and the value at a position of a list it is compared with. -/
def listWords (position : Nat) : String :=
  " IN (" ++ String.join (List.replicate position "?,")

/-- The comparisons of a column with the values of a list, from a position on. -/
def listComparisons (col : ColumnRef) (position : Nat) : List Literal → List Comparison
  | [] => []
  | value :: values =>
    ⟨⟨col.source, col.column, listWords position⟩, value⟩ ::
      listComparisons col (position + 1) values

mutual

/-- The comparisons of an expression. -/
def Expr.comparisons : Expr → List Comparison
  | .column _ | .bare _ | .text _ | .one | .countRows | .countWindow | .rowNumber _ | .never => []
  | .object members => memberComparisons members
  | .arrayOf item => Expr.comparisons item
  | .asText value => Expr.comparisons value
  | .anyRow query => Query.comparisons query
  | .exceeds col bound => [compared col ") > " bound]
  | .subquery query => Query.comparisons query
  | .grouped value => Expr.comparisons value

def memberComparisons : List (String × Expr) → List Comparison
  | [] => []
  | (_, value) :: members => Expr.comparisons value ++ memberComparisons members

def Predicate.comparisons : Predicate → List Comparison
  | .isNull _ | .isNotNull _ | .joined _ => []
  | .equals col value => [compared col " = " value]
  | .lessThan col value => [compared col " < " value]
  | .greaterThan col value => [compared col " > " value]
  | .oneOf col values => listComparisons col 0 values
  | .existsRow query => Query.comparisons query
  | .all parts => partComparisons parts
  | .any parts => partComparisons parts

def partComparisons : List Predicate → List Comparison
  | [] => []
  | part :: parts => Predicate.comparisons part ++ partComparisons parts

def columnComparisons : List (Expr × Option String) → List Comparison
  | [] => []
  | (value, _) :: cols => Expr.comparisons value ++ columnComparisons cols

/-- The comparisons of a query: first those of the common table expression it defines. -/
def Query.comparisons : Query → List Comparison
  | .select decl cols _ conds _ _ =>
    (match decl with
      | some (_, body) => Query.comparisons body
      | none => []) ++
    columnComparisons cols ++ partComparisons conds

end

theorem memberComparisons_eq (members : List (String × Expr)) :
    memberComparisons members = members.flatMap fun member => member.2.comparisons := by
  induction members with
  | nil => rfl
  | cons member members ih => rw [memberComparisons, ih, flatMap_cons]

theorem memberComparisons_append (members others : List (String × Expr)) :
    memberComparisons (members ++ others) =
      memberComparisons members ++ memberComparisons others := by
  simp only [memberComparisons_eq, flatMap_append]

theorem partComparisons_eq (parts : List Predicate) :
    partComparisons parts = parts.flatMap Predicate.comparisons := by
  induction parts with
  | nil => rfl
  | cons part parts ih => rw [partComparisons, ih, flatMap_cons]

theorem partComparisons_append (parts others : List Predicate) :
    partComparisons (parts ++ others) = partComparisons parts ++ partComparisons others := by
  simp only [partComparisons_eq, flatMap_append]

theorem columnComparisons_eq (cols : Columns) :
    columnComparisons cols = cols.flatMap fun col => col.1.comparisons := by
  induction cols with
  | nil => rfl
  | cons col cols ih => rw [columnComparisons, ih, flatMap_cons]

/-! ## Reading pieces -/

def written (pieces : List Piece) : List Char :=
  pieces.flatMap fun piece => piece.sql.toList

theorem toList_sqlText (pieces : List Piece) : (sqlText pieces).toList = written pieces := by
  rw [sqlText, String.toList_join, flatMap_map, written]

theorem written_cons (piece : Piece) (pieces : List Piece) :
    written (piece :: pieces) = piece.sql.toList ++ written pieces :=
  flatMap_cons

theorem written_append (pieces others : List Piece) :
    written (pieces ++ others) = written pieces ++ written others :=
  flatMap_append

/-- How pieces are read, whatever follows that begins with no quote: as tokens whose placeholders
stand in comparisons, with the arguments of the pieces for values. -/
structure ReadAs (pieces : List Piece) (tokens : List Token) (comparisons : List Comparison) :
    Prop where
  lexed : ∀ rest, Free rest → lex (written pieces ++ rest) = (lex rest).map (tokens ++ ·)
  spots : ∀ before, spots before tokens = comparisons.map fun comparison => some comparison.spot
  values : arguments pieces = comparisons.map Comparison.value

/-- Whether pieces are read with placeholders in the given comparisons. -/
def Legible (pieces : List Piece) (comparisons : List Comparison) : Prop :=
  ∃ tokens, ReadAs pieces tokens comparisons

/-- Code that is read as it stands, whatever follows: it is not empty, begins with no quote, leaves
none open and has no placeholder. -/
structure Clean (code : String) : Prop where
  given : code.toList ≠ []
  free : Free code.toList
  lexed : ∃ tokens, .placeholder ∉ tokens ∧
    ∀ rest, lex (code.toList ++ rest) = (lex rest).map (tokens ++ ·)

/-- Whether code is made of characters that stand for themselves. -/
def isPlainCode (code : String) : Bool :=
  !code.toList.isEmpty && code.toList.all isPlain

theorem isPlainCode_iff {code : String} :
    isPlainCode code = true ↔ code.toList ≠ [] ∧ code.toList.all isPlain = true := by
  simp [isPlainCode]

theorem Clean.of_plain {code : String} (plain : isPlainCode code = true) : Clean code := by
  obtain ⟨given, each⟩ := isPlainCode_iff.mp plain
  refine ⟨given, ?_, code.toList.map .symbol, by simp, lex_plain each⟩
  cases chars : code.toList with
  | nil => exact absurd chars given
  | cons c rest =>
    rw [chars, all_cons] at each
    simp only [isPlain, Bool.and_eq_true] at each
    exact ⟨by simpa using each.1.1.1.1, by simpa using each.1.1.1.2⟩

/-- Code with a constant text in it. -/
theorem Clean.quoted (before value : String) {after : String} (plain : isPlainCode before = true)
    (clean : Clean after) : Clean (before ++ quoteText value ++ after) := by
  obtain ⟨tokens, none, lexed⟩ := clean.lexed
  obtain ⟨given, each⟩ := isPlainCode_iff.mp plain
  have chars : (before ++ quoteText value ++ after).toList =
      before.toList ++ ((quoteText value).toList ++ after.toList) := by
    rw [String.toList_append, String.toList_append, append_assoc]
  refine ⟨?_, ?_, before.toList.map .symbol ++ .text value :: tokens, ?_, ?_⟩
  · simp [given]
  · rw [chars, Free, head?_append_of_ne_nil _ given]
    exact (Clean.of_plain plain).free
  · simp [none]
  · intro rest
    have free : (after.toList ++ rest).head? ≠ some '\'' := by
      rw [head?_append_of_ne_nil _ clean.given]
      exact clean.free.2
    rw [chars, append_assoc, append_assoc, lex_plain each, lex_text _ free, lexed]
    simp [Function.comp_def]

/-- Whether pieces are none or begin with clean code, so that they can follow a quote. -/
def Detached : List Piece → Prop
  | [] => True
  | .code code :: _ => Clean code
  | _ :: _ => False

theorem Detached.free {pieces : List Piece} (detached : Detached pieces) {rest : List Char}
    (free : Free rest) : Free (written pieces ++ rest) := by
  match pieces with
  | [] => exact free
  | .code code :: pieces =>
    rw [written_cons, append_assoc, Free, Piece.sql,
      head?_append_of_ne_nil _ (Clean.given detached)]
    exact Clean.free detached

theorem Detached.append {pieces others : List Piece} (first : Detached pieces)
    (second : Detached others) : Detached (pieces ++ others) := by
  match pieces with
  | [] => exact second
  | .code _ :: _ => exact first

namespace Legible

variable {pieces others : List Piece} {comparisons more : List Comparison}

theorem nil : Legible [] [] :=
  ⟨[], fun _ _ => by simp [written], fun _ => rfl, rfl⟩

theorem name (identifier : String) : Legible [.name identifier] [] :=
  ⟨[.name _], fun _ free => by
    simpa [written, Piece.sql] using lex_name _ free.1,
    fun _ => rfl, rfl⟩

theorem text (value : String) : Legible [.text value] [] :=
  ⟨[.text _], fun _ free => by
    simpa [written, Piece.sql] using lex_text _ free.2,
    fun _ => rfl, rfl⟩

theorem append (first : Legible pieces comparisons) (second : Legible others more)
    (detached : Detached others) : Legible (pieces ++ others) (comparisons ++ more) := by
  obtain ⟨tokens, readFirst⟩ := first
  obtain ⟨otherTokens, readSecond⟩ := second
  refine ⟨tokens ++ otherTokens, ?_, ?_, ?_⟩
  · intro rest free
    -- A quote at the end of the first pieces is closed there, since no quote follows it.
    rw [written_append, append_assoc, readFirst.lexed _ (detached.free free),
      readSecond.lexed rest free]
    simp [Function.comp_def]
  · intro before
    rw [spots_append, readFirst.spots, readSecond.spots, map_append]
  · rw [arguments, filterMap_append, map_append, ← readFirst.values, ← readSecond.values]
    rfl

theorem code {code : String} (clean : Clean code) (rest : Legible pieces comparisons) :
    Legible (.code code :: pieces) comparisons := by
  obtain ⟨codeTokens, none, lexed⟩ := clean.lexed
  obtain ⟨tokens, read⟩ := rest
  refine ⟨codeTokens ++ tokens, ?_, ?_, read.values⟩
  · intro rest free
    rw [written_cons, append_assoc]
    change lex (code.toList ++ _) = _
    rw [lexed, read.lexed rest free]
    simp [Function.comp_def]
  · intro before
    rw [spots_append, spots_of_none none, read.spots]
    rfl

theorem eq_nil (legible : Legible [] comparisons) : comparisons = [] := by
  obtain ⟨tokens, read⟩ := legible
  exact map_eq_nil_iff.mp read.values.symm

theorem between {before after : String} (cleanBefore : Clean before) (cleanAfter : Clean after)
    (middle : Legible pieces comparisons) :
    Legible (Piece.code before :: pieces ++ [Piece.code after]) comparisons := by
  have all := (code cleanBefore middle).append (code cleanAfter nil) cleanAfter
  rwa [append_nil] at all

theorem separated_cons {separator : String} (clean : Clean separator) {parts : List (List Piece)}
    (part : Legible pieces comparisons) (rest : Legible (separated separator parts) more) :
    Legible (separated separator (pieces :: parts)) (comparisons ++ more) := by
  cases parts with
  | nil =>
    rw [rest.eq_nil, append_nil]
    exact part
  | cons next parts => exact part.append (code clean rest) clean

end Legible

/-! ## Comparisons -/

/-- The tokens of a column and of the code behind it. -/
def columnTokens (col : ColumnRef) (words : String) : List Token :=
  .name col.source :: .symbol '.' :: .name col.column :: words.toList.map .symbol

theorem lex_column (col : ColumnRef) {words : String} (plain : isPlainCode words = true)
    (rest : List Char) :
    lex (written (col.pieces ++ [Piece.code words]) ++ rest) =
      (lex rest).map (columnTokens col words ++ ·) := by
  obtain ⟨given, each⟩ := isPlainCode_iff.mp plain
  have point : ".".toList.all isPlain = true := by decide
  have free : Free (words.toList ++ rest) := by
    rw [Free, head?_append_of_ne_nil _ given]
    exact (Clean.of_plain plain).free
  have chars : written (col.pieces ++ [Piece.code words]) ++ rest =
      (quoteIdentifier col.source).toList ++ (".".toList ++
        ((quoteIdentifier col.column).toList ++ (words.toList ++ rest))) := by
    simp [written, ColumnRef.pieces, Piece.sql]
  rw [chars, lex_name _ (by simp), lex_plain point, lex_name _ free.1, lex_plain each,
    Option.map_map, Option.map_map, Option.map_map]
  rfl

theorem spot?_column (col : ColumnRef) (words : String) (before : List Token) :
    spot? ((columnTokens col words).reverse ++ before) =
      some ⟨col.source, col.column, words⟩ := by
  have behind : spot? (.name _ :: .symbol '.' :: .name _ :: before) =
      some ⟨col.source, col.column, ""⟩ := rfl
  simpa [columnTokens] using spot?_symbols behind words.toList

theorem spots_column (col : ColumnRef) (words : String) (before : List Token) :
    spots before (columnTokens col words) = [] :=
  spots_of_none (by simp [columnTokens]) _

theorem arguments_column (column : ColumnRef) (words : String) (pieces : List Piece) :
    arguments (column.pieces ++ Piece.code words :: pieces) = arguments pieces :=
  rfl

/-- A column and a placeholder with plain code between them. -/
theorem Legible.compared (column : ColumnRef) {words : String} (plain : isPlainCode words = true)
    (value : Literal) :
    Legible (column.pieces ++ [Piece.code words, .argument value]) [compared column words value] := by
  refine ⟨columnTokens column words ++ [.placeholder], ?_, ?_, rfl⟩
  · intro rest _
    have chars : written (column.pieces ++ [Piece.code words, .argument value]) ++ rest =
        written (column.pieces ++ [Piece.code words]) ++ '?' :: rest := by
      simp [written, Piece.sql]
    rw [chars, lex_column _ plain, lex_placeholder]
    simp [Function.comp_def]
  · intro before
    rw [spots_append, spots_column, spots, spot?_column]
    rfl

theorem Legible.comparison (col : ColumnRef) (value : Literal) {rel : String}
    (plain : isPlainCode (" " ++ rel ++ " ") = true) :
    Legible (comparison col rel value)
      [Sql.compared col (" " ++ rel ++ " ") value] :=
  .compared _ plain _

/-- The tokens of the values of a list. -/
def listTokens : List Literal → List Token
  | [] => []
  | [_] => [.placeholder]
  | _ :: values => .placeholder :: .symbol ',' :: listTokens values

def listPieces (values : List Literal) : List Piece :=
  separated "," (values.map fun value => [.argument value])

theorem lex_list (values : List Literal) (rest : List Char) :
    lex (written (listPieces values) ++ rest) = (lex rest).map (listTokens values ++ ·) := by
  have comma : ",".toList.all isPlain = true := by decide
  fun_induction listTokens values with
  | case1 => simp [listPieces, separated, written]
  | case2 value =>
    have chars : written (listPieces [value]) ++ rest = '?' :: rest := by
      simp [listPieces, separated, written, Piece.sql]
    rw [chars, lex_placeholder]
    rfl
  | case3 value values more ih =>
    obtain ⟨next, values, rfl⟩ := exists_cons_of_ne_nil more
    have chars : written (listPieces (value :: next :: values)) ++ rest =
        '?' :: (",".toList ++ (written (listPieces (next :: values)) ++ rest)) := by
      simp [listPieces, separated, written, Piece.sql]
    rw [chars, lex_placeholder, lex_plain comma, ih, Option.map_map, Option.map_map]
    rfl

theorem listWords_succ (position : Nat) :
    listWords (position + 1) = listWords position ++ "?," := by
  rw [listWords, replicate_succ', String.join_append, ← String.append_assoc, ← listWords]
  simp

theorem spots_list (col : ColumnRef) (values : List Literal) {position : Nat}
    {before : List Token}
    (found : spot? before = some ⟨col.source, col.column, listWords position⟩) :
    spots before (listTokens values) =
      (listComparisons col position values).map fun comparison => some comparison.spot := by
  fun_induction listTokens values generalizing position before with
  | case1 => rfl
  | case2 value => rw [spots, found]; rfl
  | case3 value values more ih =>
    -- A placeholder and the comma behind it become words before the next placeholder.
    have next : spot? (.symbol ',' :: .placeholder :: before) =
        some ⟨col.source, col.column, listWords (position + 1)⟩ := by
      have words : (listWords position).push '?' ++ .ofList [','] =
          listWords (position + 1) := by
        rw [listWords_succ]
        simp [← String.toList_inj]
      exact words ▸ spot?_symbols (spot?_placeholder found) [',']
    rw [spots, found, spots, ih next]
    · rfl
    · simp

theorem arguments_list (column : ColumnRef) (values : List Literal) (position : Nat) :
    arguments (listPieces values) =
      (listComparisons column position values).map Comparison.value := by
  induction values generalizing position with
  | nil => rfl
  | cons value values ih =>
    cases values with
    | nil => rfl
    | cons next values =>
      rw [listComparisons, map_cons, ← ih _]
      rfl

theorem Legible.oneOf (column : ColumnRef) {values : List Literal} (given : values ≠ []) :
    Legible (Predicate.oneOf column values).pieces (listComparisons column 0 values) := by
  have close : ")".toList.all isPlain = true := by decide
  have plain : isPlainCode " IN (" = true := by decide
  have pieces : (Predicate.oneOf column values).pieces =
      column.pieces ++ .code " IN (" :: (listPieces values ++ [Piece.code ")"]) := by
    rw [pieces_oneOf given]
    rfl
  rw [pieces]
  refine ⟨columnTokens column " IN (" ++ (listTokens values ++ [.symbol ')']), ?_, ?_, ?_⟩
  · intro rest _
    have chars : written (column.pieces ++ .code " IN (" :: (listPieces values ++ [Piece.code ")"])) ++
        rest = written (column.pieces ++ [Piece.code " IN ("]) ++ (written (listPieces values) ++
          (")".toList ++ rest)) := by
      simp [written, Piece.sql]
    rw [chars, lex_column _ plain, lex_list, lex_plain close, Option.map_map,
      Option.map_map]
    simp [Function.comp_def]
  · intro before
    have found : spot? _ =
        some ⟨column.source, column.column, listWords 0⟩ := spot?_column _ " IN (" before
    rw [spots_append, spots_column, nil_append, spots_append, spots_list _ _ found,
      spots_of_none (by simp), append_nil]
  · rw [arguments_column, arguments, filterMap_append]
    change arguments _ ++ [] = _
    rw [append_nil, arguments_list _ _ 0]

/-! ## Queries -/

theorem Legible.only {code : String} (clean : Clean code) : Legible [.code code] [] :=
  .code clean .nil

/-- Pieces without comparisons, one after the other. -/
theorem Legible.separated {separator : String} (clean : Clean separator)
    {parts : List (List Piece)} (each : ∀ part ∈ parts, Legible part []) :
    Legible (separated separator parts) [] := by
  induction parts with
  | nil => exact .nil
  | cons part parts ih =>
    exact .separated_cons clean (each part mem_cons_self)
      (ih fun part among => each part (mem_cons_of_mem _ among))

theorem Clean.comma : Clean ", " := .of_plain (by decide)

theorem Clean.conjunction : Clean " AND " := .of_plain (by decide)

theorem Clean.opened : Clean "(" := .of_plain (by decide)

theorem Clean.closed : Clean ")" := .of_plain (by decide)

theorem Clean.falseChoice : Clean ", 'false') AS JSON)" := by
  have last : Clean ") AS JSON)" := .of_plain (by decide)
  exact .quoted ", " "false" (by decide) last

theorem Clean.falseValue : Clean "CAST('false' AS JSON)" := by
  have last : Clean " AS JSON)" := .of_plain (by decide)
  exact .quoted "CAST(" "false" (by decide) last

/-- A limit is written in digits. -/
theorem Clean.limit (limit : Nat) : Clean (" LIMIT " ++ toString limit) := by
  refine .of_plain (isPlainCode_iff.mpr ⟨by simp, ?_⟩)
  rw [String.toList_append, all_append, Bool.and_eq_true]
  refine ⟨by decide, all_eq_true.mpr fun c among => ?_⟩
  rw [Nat.toString_eq_repr, Nat.toList_repr] at among
  exact isPlain_of_isDigit (Nat.isDigit_of_mem_toDigits (by decide) (by decide) among)

theorem Legible.columnRef (col : ColumnRef) : Legible col.pieces [] :=
  have point : Clean "." := .of_plain (by decide)
  (name _).append (.code point (name _)) point

theorem Legible.joined (pairs : List (ColumnRef × ColumnRef)) :
    Legible (Predicate.joined pairs).pieces [] := by
  have equals : Clean " = " := .of_plain (by decide)
  refine .separated .conjunction fun part among => ?_
  obtain ⟨pair, _, rfl⟩ := mem_map.mp among
  exact (columnRef pair.1).append (.code equals (columnRef pair.2)) equals

theorem Legible.orderTerm (term : OrderTerm) : Legible term.pieces [] := by
  have word : Clean (" " ++ term.direction.word) := by
    cases term.direction <;> exact .of_plain (by decide)
  rw [OrderTerm.pieces]
  cases term.source with
  | none => exact (name _).append (.only word) word
  | some source => exact (columnRef ⟨source, term.column⟩).append (.only word) word

theorem Legible.order (order : List OrderTerm) : Legible (orderPieces order) [] := by
  refine .separated .comma fun part among => ?_
  obtain ⟨term, _, rfl⟩ := mem_map.mp among
  exact orderTerm term

theorem Legible.source (source : Source) : Legible source.pieces [] := by
  have named : Clean " AS " := .of_plain (by decide)
  cases source with
  | table table aliasName => exact (name _).append (.code named (name _)) named
  | rows table => exact name _

theorem Legible.limit (limit : Option Nat) : Legible (limitPieces limit) [] := by
  cases limit with
  | none => exact .nil
  | some limit => exact .only (.limit _)

theorem Legible.ordering (order : Option (List OrderTerm)) : Legible (orderingPieces order) [] := by
  cases order with
  | none => exact .nil
  | some terms => exact .code (.of_plain (by decide)) (.order _)

theorem Legible.select {decl : Option (String × Query)}
    {cols : Columns} {conds : List Predicate}
    {defined projected tested : List Comparison}
    (definitionLegible : Legible (definitionPieces decl) defined)
    (columnsLegible : Legible (Sql.separated ", " (columnPieces cols)) projected)
    (conditionsLegible : Legible (Sql.separated " AND " (predicatePieces conds)) tested)
    (source : Source) (order : Option (List OrderTerm)) (limit : Option Nat) :
    Legible (Query.select decl cols source conds order limit).pieces
      (defined ++ projected ++ tested) := by
  have keyword : Clean "SELECT " := .of_plain (by decide)
  have reading : Clean " FROM " := .of_plain (by decide)
  have filtering : Clean " WHERE " := .of_plain (by decide)
  have filter : Legible (filterPieces conds) tested := by
    cases conds with
    | nil => exact conditionsLegible
    | cons part parts => exact .code filtering conditionsLegible
  -- The source ends with a quoted name, so whatever part comes first behind it must be detached.
  have filterDetached : Detached (filterPieces conds) := by
    cases conds with
    | nil => trivial
    | cons part parts => exact filtering
  have orderDetached : Detached (orderingPieces order) := by
    cases order with
    | none => trivial
    | some terms => exact .of_plain (by decide)
  have limitDetached : Detached (limitPieces limit) := by
    cases limit with
    | none => trivial
    | some limit => exact .limit _
  have tail := (filter.append (.ordering _) orderDetached).append (.limit _) limitDetached
  have tailDetached := (filterDetached.append orderDetached).append limitDetached
  have reads := (Legible.code reading (.source source)).append tail tailDetached
  have projects := (Legible.code keyword columnsLegible).append reads reading
  have whole := definitionLegible.append projects keyword
  rw [pieces_select]
  simpa using whole

mutual

theorem Expr.legible : (value : Expr) → Legible value.pieces value.comparisons
  | .column ref => .columnRef ref
  | .bare name => .name name
  | .text value => .text _
  | .one => .only (.of_plain (by decide))
  | .countRows => .only (.of_plain (by decide))
  | .countWindow => .only (.of_plain (by decide))
  | .rowNumber order => .between (.of_plain (by decide)) .closed (.order _)
  | .object members => .between (.of_plain (by decide)) .closed (members_legible _)
  | .arrayOf item => by
      exact .between (.of_plain (by decide)) (.of_plain (by decide))
        item.legible
  | .asText value => by
      exact .between (.of_plain (by decide)) (.of_plain (by decide))
        value.legible
  | .never => .only .falseValue
  | .anyRow query => by
      have closed : Clean "), 'true', 'false') AS JSON)" :=
        .quoted "), " "true" (by decide) .falseChoice
      exact .between (.of_plain (by decide)) closed query.legible
  | .exceeds col bound => by
      have start : Clean "CAST(IF(MAX(" := .of_plain (by decide)
      have choices : Clean ", 'true', 'false') AS JSON)" :=
        .quoted ", " "true" (by decide) .falseChoice
      have test : Legible _
          [compared _ ") > " _] := .compared col (by decide) bound
      have all := Legible.between start choices test
      rwa [cons_append] at all
  | .subquery query => by
      rw [Expr.comparisons]
      exact .between .opened .closed query.legible
  | .grouped value => .between .opened .closed value.legible

theorem members_legible : (members : List (String × Expr)) →
    Legible (separated ", " (memberPieces members)) (memberComparisons members)
  | [] => .nil
  | (key, value) :: members => by
      have member := (Legible.text key).append (.code .comma value.legible) .comma
      exact .separated_cons .comma member (members_legible _)

theorem Predicate.legible : (part : Predicate) → Legible part.pieces part.comparisons
  | .isNull col =>
    have test : Clean " IS NULL" := .of_plain (by decide)
    (Legible.columnRef _).append (.only test) test
  | .isNotNull col =>
    have test : Clean " IS NOT NULL" := .of_plain (by decide)
    (Legible.columnRef _).append (.only test) test
  | .equals col value => .comparison _ _ (by decide)
  | .lessThan col value => .comparison _ _ (by decide)
  | .greaterThan col value => .comparison _ _ (by decide)
  | .oneOf _ [] => .only (.of_plain (by decide))
  | .oneOf col (value :: values) => .oneOf _ (cons_ne_nil _ _)
  | .joined pairs => .joined _
  | .existsRow query => .between (.of_plain (by decide)) .closed query.legible
  | .all [] => .only (.of_plain (by decide))
  | .all (part :: parts) => .between .opened .closed (parts_legible .conjunction _)
  | .any [] => .only (.of_plain (by decide))
  | .any (part :: parts) => by
      exact .between .opened .closed
        (parts_legible (.of_plain (by decide)) _)

theorem parts_legible {separator : String} (clean : Clean separator) : (parts : List Predicate) →
    Legible (separated separator (predicatePieces parts)) (partComparisons parts)
  | [] => .nil
  | part :: parts => .separated_cons clean part.legible (parts_legible clean parts)

theorem columns_legible : (cols : Columns) →
    Legible (separated ", " (columnPieces cols)) (columnComparisons cols)
  | [] => .nil
  | (value, alias?) :: cols => by
      have named : Clean " AS " := .of_plain (by decide)
      have col : Legible (value.pieces ++ aliasPieces alias?) value.comparisons := by
        cases alias? with
        | none => simpa [aliasPieces] using value.legible
        | some aliasName =>
          simpa [aliasPieces] using value.legible.append (.code named (.name _)) named
      have rest := columns_legible cols
      rw [columnPieces_eq]
      rw [columnPieces_eq] at rest
      exact .separated_cons .comma col rest

theorem Query.legible : (query : Query) → Legible query.pieces query.comparisons
  | .select none cols source conds order limit => by
      rw [Query.comparisons]
      have defined : Legible (definitionPieces none) [] := .nil
      exact .select defined (columns_legible _) (parts_legible .conjunction _)
        _ _ _
  | .select (some (name, body)) cols source conds order limit => by
      have start : Clean "WITH " := .of_plain (by decide)
      have opened : Clean " AS (" := .of_plain (by decide)
      have closed : Clean ") " := .of_plain (by decide)
      have defined : Legible (definitionPieces (some (name, body))) _ :=
        .code start ((Legible.name name).append (.between opened closed body.legible) opened)
      exact .select defined (columns_legible _) (parts_legible .conjunction _)
        _ _ _

end

/-- When the statement of a query is taken apart, its placeholders stand in the comparisons of the
query, and its arguments are the values of these. -/
theorem Query.lex_render (query : Query) :
    ∃ tokens, lex query.render.sql.toList = some tokens ∧
      spots [] tokens = query.comparisons.map (fun comparison => some comparison.spot) ∧
      query.render.arguments = query.comparisons.map Comparison.value := by
  obtain ⟨tokens, read⟩ := query.legible
  refine ⟨tokens, ?_, read.spots [], read.values⟩
  have lexed := read.lexed [] ⟨by simp, by simp⟩
  rw [append_nil, ← toList_sqlText, lex, Option.map_some, append_nil] at lexed
  exact lexed

end SelectGraph.Sql
