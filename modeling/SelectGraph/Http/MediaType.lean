import SelectGraph.Text.Case
import SelectGraph.Text.Parts

/-!
# Media types

A media type is a token, or two tokens with a slash between them, followed by parameters. Only
whether the whole is well formed, and the type without its parameters, matter here.
-/

namespace SelectGraph.Http

def isSpecial (c : Char) : Bool :=
  "()<>@,;:\\\"/[]?=".toList.contains c

def isTokenChar (c : Char) : Bool :=
  0x20 < c.toNat && c.toNat < 0x7F && !isSpecial c

def isBareMediaType (text : String) : Bool :=
  let chars := text.toList
  let front := chars.takeWhile isTokenChar
  !front.isEmpty && match chars.drop front.length with
    | [] => true
    | '/' :: rest => !rest.isEmpty && rest.all isTokenChar
    | _ => false

/-- The value of a quoted text after its opening quote, and what follows the closing one. -/
def quotedValue? : List Char → Option (List Char × List Char)
  | [] => none
  | '\\' :: c :: rest =>
    if isSpecial c then (quotedValue? rest).map fun (value, rest) => (c :: value, rest)
    else (quotedValue? (c :: rest)).map fun (value, rest) => ('\\' :: value, rest)
  | c :: rest =>
    if c = '"' then some ([], rest)
    else if c = '\r' ∨ c = '\n' then none
    else (quotedValue? rest).map fun (value, rest) => (c :: value, rest)

def parameterValue? (chars : List Char) : Option (List Char × List Char) :=
  match chars with
  | '"' :: rest => quotedValue? rest
  | _ =>
    match chars.takeWhile isTokenChar with
    | [] => none
    | value => some (value, chars.dropWhile isTokenChar)

/-- The parameter at the front, from its semicolon on, and what follows it. -/
def parameter? (chars : List Char) : Option ((String × String) × List Char) :=
  match chars.dropWhile Text.isBlank with
  | ';' :: rest =>
    let rest := rest.dropWhile Text.isBlank
    let name := rest.takeWhile isTokenChar
    if name.isEmpty then none
    else
      match (rest.drop name.length).dropWhile Text.isBlank with
      | '=' :: rest =>
        (parameterValue? (rest.dropWhile Text.isBlank)).map fun (value, rest) =>
          ((Text.toLower (String.ofList name), String.ofList value), rest)
      | _ => none
  | _ => none

/-- Whether the text after the type is a list of parameters in which no name has two values. A
semicolon at the end is allowed. -/
def areParameters : (count : Nat) → (known : List (String × String)) → List Char → Bool
  | 0, _, _ => false
  | count + 1, known, chars =>
    if (chars.dropWhile Text.isBlank).isEmpty then true
    else
      match parameter? chars with
      | none => Text.trim (String.ofList chars) == ";"
      | some ((name, value), rest) =>
        !(known.any fun entry => entry.1 == name && entry.2 != value) &&
          areParameters count ((name, value) :: known) rest

/-- The type of a well formed media type without its parameters, in lower case. -/
def mediaType? (text : String) : Option String :=
  let base := text.toList.takeWhile (· != ';')
  let bare := Text.trim (Text.toLower (String.ofList base))
  let rest := text.toList.drop base.length
  if isBareMediaType bare && areParameters (rest.length + 1) [] rest then some bare else none

end SelectGraph.Http
