import Mathlib
import SelectGraph.Sql.Render

/-!
# Reading statements back

How the database takes a statement apart: identifiers between backticks, texts between single
quotes, placeholders, and single characters otherwise.  A quoted name or text is read back as it
was, whatever characters it holds, if what follows does not begin with its quote.  In what is read,
a placeholder stands in a comparison with the column named last before it.
-/

namespace SelectGraph.Sql

open List

variable {chars rest : List Char} {c : Char}

inductive Token where
  | name (value : String)
  | text (value : String)
  | placeholder
  | symbol (c : Char)
  deriving DecidableEq

/-- Read an identifier behind its first backtick, up to a backtick that is not written twice.  What
follows it comes second. -/
def readName : List Char → Option (List Char × List Char)
  | [] => none
  | '\x60' :: '\x60' :: rest => (readName rest).map fun (name, left) => ('\x60' :: name, left)
  | '\x60' :: rest => some ([], rest)
  | c :: rest => (readName rest).map fun (name, left) => (c :: name, left)

/-- What an escaped character stands for. -/
def unescape : Char → List Char
  | '0' => ['\x00']
  | 'b' => ['\x08']
  | 'n' => ['\n']
  | 'r' => ['\r']
  | 't' => ['\t']
  | 'Z' => ['\x1a']
  | '%' => ['\\', '%']
  | '_' => ['\\', '_']
  | c => [c]

/-- Read a text behind its first quote, up to a quote that is neither escaped nor written twice.
What follows it comes second. -/
def readText : List Char → Option (List Char × List Char)
  | [] => none
  | '\\' :: c :: rest => (readText rest).map fun (text, left) => (unescape c ++ text, left)
  | '\'' :: '\'' :: rest => (readText rest).map fun (text, left) => ('\'' :: text, left)
  | '\'' :: rest => some ([], rest)
  | c :: rest => (readText rest).map fun (text, left) => (c :: text, left)

theorem readName_length {name left : List Char} (read : readName chars = some (name, left)) :
    left.length < chars.length := by
  fun_induction readName chars generalizing name with
  | case1 => cases read
  | case2 rest ih =>
    obtain ⟨⟨name, left⟩, readRest, same⟩ := Option.map_eq_some_iff.mp read
    cases same
    exact Nat.lt_succ_of_lt (Nat.lt_succ_of_lt (ih readRest))
  | case3 =>
    cases read
    exact Nat.lt_succ_self _
  | case4 c rest _ _ ih =>
    obtain ⟨⟨name, left⟩, readRest, same⟩ := Option.map_eq_some_iff.mp read
    cases same
    exact Nat.lt_succ_of_lt (ih readRest)

theorem readText_length {text left : List Char} (read : readText chars = some (text, left)) :
    left.length < chars.length := by
  fun_induction readText chars generalizing text with
  | case1 => cases read
  | case2 c rest ih =>
    obtain ⟨⟨text, left⟩, readRest, same⟩ := Option.map_eq_some_iff.mp read
    cases same
    exact Nat.lt_succ_of_lt (Nat.lt_succ_of_lt (ih readRest))
  | case3 rest ih =>
    obtain ⟨⟨text, left⟩, readRest, same⟩ := Option.map_eq_some_iff.mp read
    cases same
    exact Nat.lt_succ_of_lt (Nat.lt_succ_of_lt (ih readRest))
  | case4 =>
    cases read
    exact Nat.lt_succ_self _
  | case5 c rest _ _ _ ih =>
    obtain ⟨⟨text, left⟩, readRest, same⟩ := Option.map_eq_some_iff.mp read
    cases same
    exact Nat.lt_succ_of_lt (ih readRest)

/-- The characters outside quotes that are not read: they could begin a comment or a quote of
another kind. -/
def refused : List Char := ['"', '#', '-', '/']

/-- Take a statement apart. -/
def lex : List Char → Option (List Token)
  | [] => some []
  | c :: rest =>
    if c = '\x60' then
      match found : readName rest with
      | none => none
      | some (name, left) =>
        have := readName_length found
        (lex left).map (.name (String.ofList name) :: ·)
    else if c = '\'' then
      match found : readText rest with
      | none => none
      | some (text, left) =>
        have := readText_length found
        (lex left).map (.text (String.ofList text) :: ·)
    else if c = '?' then (lex rest).map (.placeholder :: ·)
    else if c ∈ refused then none
    else (lex rest).map (.symbol c :: ·)
  termination_by chars => chars.length
  decreasing_by all_goals simp only [length_cons]; omega

/-! ## Quoted names and texts -/

theorem doubled_mark (mark : Char) (chars : List Char) :
    doubled mark (mark :: chars) = mark :: mark :: doubled mark chars := by
  simp [doubled]

theorem doubled_other {mark : Char} (other : c ≠ mark) (chars : List Char) :
    doubled mark (c :: chars) = c :: doubled mark chars := by
  simp [doubled, other]

theorem readName_cons (other : c ≠ '\x60') (rest : List Char) :
    readName (c :: rest) = (readName rest).map fun (name, left) => (c :: name, left) := by
  rw [readName.eq_def]
  split <;> simp_all

theorem readName_end (free : rest.head? ≠ some '\x60') :
    readName ('\x60' :: rest) = some ([], rest) := by
  rw [readName]
  rintro _ rfl
  exact free rfl

/-- A name is read back whatever it is made of. -/
theorem readName_doubled (name : List Char) (free : rest.head? ≠ some '\x60') :
    readName (doubled '\x60' name ++ '\x60' :: rest) = some (name, rest) := by
  induction name with
  | nil => exact readName_end free
  | cons c name ih =>
    by_cases quote : c = '\x60'
    · subst quote
      rw [doubled_mark, cons_append, cons_append, readName, ih]
      rfl
    · rw [doubled_other quote, cons_append, readName_cons quote, ih]
      rfl

theorem readText_cons (notEscape : c ≠ '\\') (notQuote : c ≠ '\'') (rest : List Char) :
    readText (c :: rest) = (readText rest).map fun (text, left) => (c :: text, left) := by
  rw [readText.eq_def]
  split <;> simp_all

theorem readText_end (free : rest.head? ≠ some '\'') :
    readText ('\'' :: rest) = some ([], rest) := by
  rw [readText]
  rintro _ rfl
  exact free rfl

/-- A text is read back whatever it is made of: backslashes are written twice before quotes are, so
that no quote comes to stand behind half a pair of them. -/
theorem readText_doubled (text : List Char) (free : rest.head? ≠ some '\'') :
    readText (doubled '\'' (doubled '\\' text) ++ '\'' :: rest) = some (text, rest) := by
  induction text with
  | nil => exact readText_end free
  | cons c text ih =>
    by_cases escape : c = '\\'
    · subst escape
      rw [doubled_mark, doubled_other (by decide), doubled_other (by decide), cons_append,
        cons_append, readText, ih]
      rfl
    · rw [doubled_other escape]
      by_cases quote : c = '\''
      · subst quote
        rw [doubled_mark, cons_append, cons_append, readText, ih]
        rfl
      · rw [doubled_other quote, cons_append, readText_cons escape quote, ih]
        rfl

/-- Read an identifier from its first backtick on. -/
def readIdentifier : List Char → Option (String × List Char)
  | '\x60' :: rest => (readName rest).map fun (name, left) => (.ofList name, left)
  | _ => none

/-- Read a text constant from its first quote on. -/
def readConstant : List Char → Option (String × List Char)
  | '\'' :: rest => (readText rest).map fun (text, left) => (.ofList text, left)
  | _ => none

/-- What is quoted cannot be left early: an identifier or a constant is read back as it was, up to its
own last quote, before anything that does not begin with that quote. -/
theorem quotes_enclose (value following : String) :
    (following.toList.head? ≠ some '\x60' →
      readIdentifier (quoteIdentifier value ++ following).toList = some (value, following.toList)) ∧
    (following.toList.head? ≠ some '\'' →
      readConstant (quoteText value ++ following).toList = some (value, following.toList)) := by
  constructor
  · intro free
    rw [String.toList_append, quoteIdentifier, String.toList_ofList, append_assoc,
      cons_append, singleton_append, readIdentifier, readName_doubled _ free]
    simp
  · intro free
    rw [String.toList_append, quoteText, String.toList_ofList, append_assoc,
      cons_append, singleton_append, readConstant, readText_doubled _ free]
    simp

theorem quotes_enclose_trailing_backslash :
    readIdentifier (quoteIdentifier "a\x60;--" ++ ".x").toList = some ("a\x60;--", ['.', 'x']) ∧
    readConstant (quoteText "it's \\" ++ "\\'").toList = some ("it's \\", ['\\', '\'']) :=
  ⟨(quotes_enclose "a\x60;--" ".x").1 (by decide), (quotes_enclose "it's \\" "\\'").2 (by decide)⟩

/-- Whether a text begins with no quote of either kind. -/
def Free (rest : List Char) : Prop :=
  rest.head? ≠ some '\x60' ∧ rest.head? ≠ some '\''

theorem lex_name (name : String) (free : rest.head? ≠ some '\x60') :
    lex ((quoteIdentifier name).toList ++ rest) = (lex rest).map (.name name :: ·) := by
  have read := readName_doubled name.toList free
  rw [quoteIdentifier, String.toList_ofList, append_assoc, cons_append,
    singleton_append, lex, if_pos rfl]
  split
  · rename_i missing
    rw [read] at missing
    cases missing
  · rename_i found
    rw [read] at found
    cases found
    rw [String.ofList_toList]

theorem lex_text (value : String) (free : rest.head? ≠ some '\'') :
    lex ((quoteText value).toList ++ rest) = (lex rest).map (.text value :: ·) := by
  have read := readText_doubled value.toList free
  rw [quoteText, String.toList_ofList, append_assoc, cons_append,
    singleton_append, lex, if_neg (by decide), if_pos rfl]
  split
  · rename_i missing
    rw [read] at missing
    cases missing
  · rename_i found
    rw [read] at found
    cases found
    rw [String.ofList_toList]

theorem lex_placeholder (rest : List Char) :
    lex ('?' :: rest) = (lex rest).map (.placeholder :: ·) := by
  rw [lex, if_neg (by decide), if_neg (by decide), if_pos rfl]

/-- Whether a character stands for itself outside quotes. -/
def isPlain (c : Char) : Bool :=
  c != '\x60' && c != '\'' && c != '?' && !refused.contains c

theorem isPlain_of_isDigit (digit : c.isDigit = true) : isPlain c = true := by
  have other : ∀ special, special.isDigit = false → c ≠ special := by
    rintro special notDigit rfl
    rw [digit] at notDigit
    cases notDigit
  simp [isPlain, refused, other]

theorem lex_plain (plain : chars.all isPlain = true) (rest : List Char) :
    lex (chars ++ rest) = (lex rest).map (chars.map .symbol ++ ·) := by
  induction chars with
  | nil => simp
  | cons c chars ih =>
    rw [all_cons] at plain
    simp only [isPlain, Bool.and_eq_true, bne_iff_ne, Bool.not_eq_true', contains_eq_mem,
      decide_eq_false_iff_not] at plain
    obtain ⟨⟨⟨⟨notName, notText⟩, notPlaceholder⟩, notRefused⟩, others⟩ := plain
    rw [cons_append, lex, if_neg notName, if_neg notText, if_neg notPlaceholder,
      if_neg notRefused, ih others, Option.map_map]
    rfl

/-! ## Where placeholders stand -/

/-- Where a placeholder stands: behind a qualified column, with the characters between them. -/
structure Spot where
  source : String
  column : String
  words : String
  deriving DecidableEq

/-- The character of a token outside quotes. -/
def Token.char? : Token → Option Char
  | .symbol c => some c
  | .placeholder => some '?'
  | .name _ | .text _ => none

/-- The spot behind tokens, which are given from the last one back. -/
def spot? : List Token → Option Spot
  | .name col :: .symbol '.' :: .name source :: _ => some ⟨source, col, ""⟩
  | token :: before =>
    match token.char?, spot? before with
    | some c, some spot => some { spot with words := spot.words.push c }
    | _, _ => none
  | [] => none

/-- The spots of the placeholders among tokens, behind others that are given from the last one
back. -/
def spots (before : List Token) : List Token → List (Option Spot)
  | [] => []
  | .placeholder :: tokens => spot? before :: spots (.placeholder :: before) tokens
  | token :: tokens => spots (token :: before) tokens

theorem spots_append (before tokens others : List Token) :
    spots before (tokens ++ others) =
      spots before tokens ++ spots (tokens.reverse ++ before) others := by
  induction tokens generalizing before with
  | nil => rfl
  | cons token tokens ih =>
    rw [reverse_cons, append_assoc, singleton_append]
    cases token <;> simp only [spots, ih, cons_append]

theorem spots_length (before tokens : List Token) :
    (spots before tokens).length = tokens.count .placeholder := by
  induction tokens generalizing before with
  | nil => rfl
  | cons token tokens ih => cases token <;> simp [spots, ih]

theorem spots_of_none {tokens : List Token} (none : .placeholder ∉ tokens) (before : List Token) :
    spots before tokens = [] := by
  rw [← length_eq_zero_iff, spots_length, count_eq_zero]
  exact none

theorem spot?_symbols {before : List Token} {spot : Spot} (found : spot? before = some spot)
    (chars : List Char) :
    spot? ((chars.map .symbol).reverse ++ before) =
      some { spot with words := spot.words ++ String.ofList chars } := by
  induction chars generalizing before spot with
  | nil => simpa using found
  | cons c chars ih =>
    have next : spot? (.symbol c :: before) = some { spot with words := spot.words.push c } := by
      rw [spot?, found]
      · rfl
      · simp
    have words : spot.words.push c ++ .ofList chars =
        spot.words ++ .ofList (c :: chars) := by
      simp [← String.toList_inj]
    rw [map_cons, reverse_cons, append_assoc, singleton_append, ih next, words]

theorem spot?_placeholder {before : List Token} {spot : Spot} (found : spot? before = some spot) :
    spot? (.placeholder :: before) = some { spot with words := spot.words.push '?' } := by
  rw [spot?, found]
  · rfl
  · simp

end SelectGraph.Sql
