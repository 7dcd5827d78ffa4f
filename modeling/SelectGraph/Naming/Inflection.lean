import SelectGraph.Text.Case
import SelectGraph.Text.Parts

/-!
# Plural and singular forms

A word is inflected by the first rule that fits it: uncountable words stay, irregular words
change their ending as a whole, and all others follow tables of endings. Every rule of a
table is tried in capitals, as written and in any case, in this order; in capitals it also
writes capitals.
-/

namespace SelectGraph.Naming

/-- How the letters of a rule are compared with those of a word. -/
inductive Spelling where
  | capitals
  | asWritten
  | anyCase
  deriving DecidableEq

/-- Whether a letter of a rule fits a character of a word. -/
def Spelling.fits (spelling : Spelling) (letter c : Char) : Bool :=
  match spelling with
  | .capitals => Text.upperAscii letter == c
  | .asWritten => letter == c
  | .anyCase => Text.foldChar letter == Text.foldChar c

/-- A text of a rule as it is written under a spelling. -/
def Spelling.write (spelling : Spelling) (text : String) : List Char :=
  match spelling with
  | .capitals => text.toList.map Text.upperAscii
  | _ => text.toList

inductive StemEnd where
  | anything
  /-- One of the letters from `a` to `z`. -/
  | letter
  | text (ending : String)
  | oneOf (letters : String)
  | noneOf (letters : String)

/-- A rule of a table: the stem stays, one of the tails goes, and `added` takes its place. -/
structure Rule where
  /-- The stem is the whole word before the tail, not only its end. -/
  wholeStem : Bool
  /-- What the stem ends in; one of these. -/
  stems : List StemEnd
  tails : List String
  added : String
  /-- The tail need not end the word. -/
  openEnd : Bool := false

/-- Whether the reversed characters of a stem end in what a rule asks for, taking up all of them
when the whole stem is meant. -/
def StemEnd.admits (spelling : Spelling) (whole : Bool) (stem : List Char) : StemEnd → Bool
  | .anything => !whole || stem.isEmpty
  | .letter =>
    match stem with
    | [] => false
    | c :: rest =>
      (!whole || rest.isEmpty) && match spelling with
        | .capitals => 'A' ≤ c && c ≤ 'Z'
        | .asWritten => 'a' ≤ c && c ≤ 'z'
        | .anyCase => 'a' ≤ Text.foldChar c && Text.foldChar c ≤ 'z'
  | .text ending =>
    let letters := ending.toList.reverse
    letters.length ≤ stem.length && (!whole || letters.length = stem.length) &&
      (letters.zip stem).all fun (wanted, c) => spelling.fits wanted c
  | .oneOf letters =>
    match stem with
    | [] => false
    | c :: rest => (!whole || rest.isEmpty) && letters.toList.any fun wanted => spelling.fits wanted c
  | .noneOf letters =>
    match stem with
    | [] => false
    | c :: rest =>
      (!whole || rest.isEmpty) && !letters.toList.any fun wanted => spelling.fits wanted c

/-- The reversed stem left when the reversed word ends in the tail. -/
def dropTail? (spelling : Spelling) : (tail word : List Char) → Option (List Char)
  | [], word => some word
  | _ :: _, [] => none
  | letter :: tail, c :: word => if spelling.fits letter c then dropTail? spelling tail word else none

def Rule.apply? (rule : Rule) (spelling : Spelling) (word : List Char) : Option (List Char) :=
  let inflect (front back : List Char) : Option (List Char) :=
    rule.tails.findSome? fun tail =>
      match dropTail? spelling tail.toList.reverse front.reverse with
      | some stem =>
        if rule.stems.any fun wanted => wanted.admits spelling rule.wholeStem stem then
          some (stem.reverse ++ spelling.write rule.added ++ back)
        else none
      | none => none
  if rule.openEnd then
    (List.range (word.length + 1)).findSome? fun size => inflect (word.take size) (word.drop size)
  else inflect word []

/-- Replace an irregular ending, in capitals, capitalised or in small letters. -/
def irregular? (singular plural : String) (word : List Char) : Option (List Char) :=
  let capitalise (text : List Char) : List Char := match text with
    | [] => []
    | c :: rest => Text.upperAscii c :: rest
  let variants := [Spelling.write .capitals, fun text => capitalise text.toList, String.toList]
  variants.findSome? fun variant =>
    (dropTail? .asWritten (variant singular).reverse word.reverse).map fun stem =>
      stem.reverse ++ variant plural

def uncountables : List String :=
  ["equipment", "information", "rice", "money", "species", "series", "fish", "sheep", "jeans",
    "police"]

def irregulars : List (String × String) :=
  [("person", "people"), ("man", "men"), ("child", "children"), ("sex", "sexes"),
    ("move", "moves"), ("mombie", "mombies")]

/-- The plural rules, the first to be tried first. -/
def pluralRules : List Rule := [
  ⟨false, [.text "quiz"], [""], "zes", false⟩,
  ⟨true, [.text "oxen"], [""], "", false⟩,
  ⟨true, [.text "ox"], [""], "en", false⟩,
  ⟨true, [.oneOf "ml"], ["ice"], "ice", false⟩,
  ⟨true, [.oneOf "ml"], ["ouse"], "ice", false⟩,
  ⟨false, [.text "matr", .text "vert", .text "ind"], ["ix", "ex"], "ices", false⟩,
  ⟨false, [.text "x", .text "ch", .text "ss", .text "sh"], [""], "es", false⟩,
  ⟨false, [.noneOf "aeiouy", .text "qu"], ["y"], "ies", false⟩,
  ⟨false, [.text "hive"], [""], "s", false⟩,
  ⟨false, [.noneOf "f"], ["fe"], "ves", false⟩,
  ⟨false, [.oneOf "lr"], ["f"], "ves", false⟩,
  ⟨false, [.anything], ["sis"], "ses", false⟩,
  ⟨false, [.oneOf "ti"], ["a"], "a", false⟩,
  ⟨false, [.oneOf "ti"], ["um"], "a", false⟩,
  ⟨false, [.text "buffal", .text "tomat"], ["o"], "oes", false⟩,
  ⟨false, [.text "bu"], ["s"], "ses", false⟩,
  ⟨false, [.text "alias", .text "status"], [""], "es", false⟩,
  ⟨false, [.text "octop", .text "vir"], ["i"], "i", false⟩,
  ⟨false, [.text "octop", .text "vir"], ["us"], "i", false⟩,
  ⟨true, [.text "ax", .text "test"], ["is"], "es", false⟩,
  ⟨false, [.anything], ["s"], "s", false⟩,
  ⟨false, [.letter], [""], "s", false⟩]

/-- The singular rules, the first to be tried first. -/
def singularRules : List Rule := [
  ⟨false, [.text "database"], ["s"], "", false⟩,
  ⟨false, [.text "quiz"], ["zes"], "", false⟩,
  ⟨false, [.text "matr"], ["ices"], "ix", false⟩,
  ⟨false, [.text "vert", .text "ind"], ["ices"], "ex", false⟩,
  ⟨true, [.text "ox"], ["en"], "", true⟩,
  ⟨false, [.text "alias", .text "status"], ["es", ""], "", false⟩,
  ⟨false, [.text "octop", .text "vir"], ["us", "i"], "us", false⟩,
  ⟨true, [.text "a"], ["xis", "xes"], "xis", false⟩,
  ⟨false, [.text "cris", .text "test"], ["is", "es"], "is", false⟩,
  ⟨false, [.text "shoe"], ["s"], "", false⟩,
  ⟨false, [.text "o"], ["es"], "", false⟩,
  ⟨false, [.text "bus"], ["es", ""], "", false⟩,
  ⟨true, [.oneOf "ml"], ["ice"], "ouse", false⟩,
  ⟨false, [.text "x", .text "ch", .text "ss", .text "sh"], ["es"], "", false⟩,
  ⟨false, [.text "c"], ["ookies"], "ookie", false⟩,
  ⟨false, [.text "m"], ["ovies"], "ovie", false⟩,
  ⟨false, [.text "s"], ["eries"], "eries", false⟩,
  ⟨false, [.noneOf "aeiouy", .text "qu"], ["ies"], "y", false⟩,
  ⟨false, [.oneOf "lr"], ["ves"], "f", false⟩,
  ⟨false, [.text "tive"], ["s"], "", false⟩,
  ⟨false, [.text "hive"], ["s"], "", false⟩,
  ⟨false, [.noneOf "f"], ["ves"], "fe", false⟩,
  ⟨true, [.text "analy"], ["sis", "ses"], "sis", false⟩,
  ⟨false, [.text "analy", .text "ba", .text "diagno", .text "parenthe", .text "progno",
    .text "synop", .text "the"], ["sis", "ses"], "sis", false⟩,
  ⟨false, [.oneOf "ti"], ["a"], "um", false⟩,
  ⟨false, [.text "n"], ["ews"], "ews", false⟩,
  ⟨false, [.text "ss"], [""], "", false⟩,
  ⟨false, [.anything], ["s"], "", false⟩]

/-- The first result of the rules, each under its three spellings. -/
def applyRules (rules : List Rule) (word : List Char) : Option (List Char) :=
  rules.findSome? fun rule =>
    [Spelling.capitals, .asWritten, .anyCase].findSome? fun spelling => rule.apply? spelling word

def isUncountable (word : String) : Bool :=
  uncountables.any fun listed => Text.equalFold listed word

def plural (word : String) : String :=
  if isUncountable word then word
  else
    let chars := word.toList
    match irregulars.findSome? fun (one, many) => irregular? one many chars with
    | some result => String.ofList result
    | none => String.ofList ((applyRules pluralRules chars).getD chars)

def singular (word : String) : String :=
  if isUncountable word then word
  else
    let chars := word.toList
    match irregulars.findSome? fun (one, many) => irregular? many one chars with
    | some result => String.ofList result
    | none => String.ofList ((applyRules singularRules chars).getD chars)

end SelectGraph.Naming

namespace SelectGraph

/-! ## Relation names

Names of relations derived from tables and columns, with plural and singular forms that a
deployment may fix word by word. Names keep the snake case of the tables they come from. -/

/-- Fixed plural and singular forms, by exact word. -/
structure Naming where
  plurals : List (String × String)
  singulars : List (String × String)

namespace Naming

def default : Naming := ⟨[], []⟩

/-- The plural of a word; a fixed form wins. -/
def pluralize (names : Naming) (word : String) : String :=
  (names.plurals.lookup word).getD (plural word)

/-- The singular of a word; a fixed form wins. -/
def singularize (names : Naming) (word : String) : String :=
  (names.singulars.lookup word).getD (singular word)

/-- The name of the relation from a row to the row it references: the last key column in small
letters, without a key suffix unless nothing would be left. -/
def toOneName (cols : List String) : String :=
  match cols.getLast? with
  | none => ""
  | some col =>
    let name := Text.toLower col
    let stripped := ["_id", "_fk"].findSome? fun ending =>
      (Text.before? name ending).filter fun stem => stem != ""
    stripped.getD name

/-- The name of the relation from a row to the rows of a table that reference it. When the table
has several keys to the same target, the name of the key comes first. -/
def toManyName (names : Naming) (table : String) (cols : List String) (onlyKey : Bool) :
    String :=
  let many := names.pluralize (Text.toLower table)
  if onlyKey then many else toOneName cols ++ "_" ++ many

def throughName (names : Naming) (target : String) : String :=
  names.pluralize (Text.toLower target)

/-- Snake case from a given character on, knowing the character before. An upper case letter is
preceded by an underscore after a lower case letter, and before one unless an underscore stands
there already. -/
def snakeFrom (previous : Option Char) : List Char → List Char
  | [] => []
  | c :: rest =>
    let tail := snakeFrom (some c) rest
    if Text.isUpper c then
      let breaks := match previous with
        | none => false
        | some before =>
          Text.isLower before || ((rest.head?.any Text.isLower) && before != '_')
      if breaks then '_' :: Text.lowerChar c :: tail else Text.lowerChar c :: tail
    else c :: tail

def snakeCase (name : String) : String :=
  String.ofList (snakeFrom none name.toList)

end Naming

end SelectGraph
