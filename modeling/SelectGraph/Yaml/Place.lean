import SelectGraph.Text.Parts

/-!
# Places in a YAML text

A place is what is left of a text together with the line and the column reached. Line ends
of all kinds are read as one character.
-/

namespace SelectGraph.Yaml

/-- A place in a text: what follows and where it stands. -/
structure Place where
  rest : List Char
  index : Nat
  line : Nat
  column : Nat

namespace Place

def start (text : List Char) : Place := ⟨text, 0, 0, 0⟩

def ahead (place : Place) (distance : Nat) : Option Char := place.rest[distance]?

def head (place : Place) : Option Char := place.rest.head?

def skip (place : Place) (count : Nat) : Place :=
  { place with
    rest := place.rest.drop count
    index := place.index + count
    column := place.column + count }

end Place

def isBreak (c : Char) : Bool :=
  c == '\n' || c == '\r' || c.toNat == 0x85 || c.toNat == 0x2028 || c.toNat == 0x2029

def isSpace (c : Char) : Bool :=
  c == ' ' || c == '\t'

def breaksOrEnds : Option Char → Bool
  | none => true
  | some c => isBreak c

def separates : Option Char → Bool
  | none => true
  | some c => isSpace c || isBreak c

namespace Place

/-- The line end at hand, as it is kept in values, and the beginning of the next line. -/
def takeBreak (place : Place) : List Char × Place :=
  let next (count : Nat) : Place :=
    ⟨place.rest.drop count, place.index + count, place.line + 1, 0⟩
  match place.rest with
  | '\r' :: '\n' :: _ => (['\n'], next 2)
  | c :: _ => if c.toNat == 0x2028 || c.toNat == 0x2029 then ([c], next 1) else (['\n'], next 1)
  | [] => ([], place)

def takeLine (place : Place) : List Char × Place :=
  let line := place.rest.takeWhile fun c => !isBreak c
  (line, place.skip line.length)

/-- Whether a document marker of three equal characters stands here. -/
def atMarker (place : Place) (c : Char) : Bool :=
  place.column == 0 && place.ahead 0 == some c && place.ahead 1 == some c &&
    place.ahead 2 == some c && separates (place.ahead 3)

def atDocumentMarker (place : Place) : Bool :=
  place.atMarker '-' || place.atMarker '.'

end Place

inductive Fault where
  | malformed
  deriving DecidableEq

/-- How line ends and blanks between two pieces of a scalar are joined. The first line end and those
after it are kept apart. -/
structure Gap where
  crossed : Bool
  blanks : List Char
  first : List Char
  others : List Char

def Gap.none : Gap := ⟨false, [], [], []⟩

/-- What stands in the value for a gap: one line end is folded into a blank. -/
def Gap.fill (gap : Gap) : List Char :=
  if gap.crossed then
    match gap.first with
    | '\n' :: _ => if gap.others.isEmpty then [' '] else gap.others
    | first => first ++ gap.others
  else gap.blanks

/-- Take blanks and line ends. A tab that stands in for indentation is refused when an indentation is
given. -/
def takeGap (indent? : Option Nat) : (count : Nat) → Gap → Place → Except Fault (Gap × Place)
  | 0, gap, place => .ok (gap, place)
  | count + 1, gap, place =>
    match place.head with
    | none => .ok (gap, place)
    | some c =>
      if isSpace c then
        if gap.crossed && c == '\t' && indent?.any (place.column < ·) then .error .malformed
        else
          let gap := if gap.crossed then gap else { gap with blanks := gap.blanks ++ [c] }
          takeGap indent? count gap (place.skip 1)
      else if isBreak c then
        let (line, next) := place.takeBreak
        let gap :=
          if gap.crossed then { gap with others := gap.others ++ line }
          else { gap with crossed := true, blanks := [], first := line }
        takeGap indent? count gap next
      else .ok (gap, place)

end SelectGraph.Yaml
