import SelectGraph.Text.Quoted
import SelectGraph.Text.Utf8

/-!
# Hosts

The host of a URL is a name or an address, with an optional port. An address in brackets is one
of 128 bits.
-/

namespace SelectGraph.Url

/-! ## Percent coding

A percent sign with two hexadecimal digits stands for a byte. In the query of a URL a plus sign
stands for a blank. -/

/-- The bytes a text stands for, or the escape that is malformed. -/
def decodeBytes (plusIsBlank : Bool) : List Char → Except String (List UInt8)
  | [] => .ok []
  | '%' :: high :: low :: rest =>
    match Text.hexValue? high, Text.hexValue? low with
    | some first, some second =>
      (decodeBytes plusIsBlank rest).map (UInt8.ofNat (16 * first + second) :: ·)
    | _, _ => .error (String.ofList ['%', high, low])
  | c :: rest =>
    if c = '%' then .error (String.ofList (c :: rest))
    else if c = '+' ∧ plusIsBlank = true then (decodeBytes plusIsBlank rest).map (32 :: ·)
    else (decodeBytes plusIsBlank rest).map ((String.singleton c).toUTF8.toList ++ ·)

def textOf (bytes : List UInt8) : String :=
  Text.ofBytes ⟨bytes.toArray⟩

/-- Write the bytes of a text, escaping those that cannot stand for themselves. -/
def encode (keeps : Char → Bool) (text : String) : String :=
  String.ofList (text.toUTF8.toList.flatMap fun byte =>
    let c := Char.ofNat byte.toNat
    if byte < 128 && keeps c then [c]
    else '%' :: (Text.hexDigits 2 byte.toNat).map Char.toUpper)

/-- Escape the bytes above ASCII in small digits; all others stay as they are. -/
def encodeAboveAscii (text : String) : String :=
  String.ofList (text.toUTF8.toList.flatMap fun byte =>
    if byte < 128 then [Char.ofNat byte.toNat] else '%' :: Text.hexDigits 2 byte.toNat)

def isUnreserved (c : Char) : Bool :=
  c.isAlphanum || "-_.~".toList.contains c

def encodeSegment (segment : String) : String :=
  encode (fun c => isUnreserved c || "$&+=:@".toList.contains c) segment

/-- Write a value of a query, where a plus sign stands for a blank. -/
def encodeValue (value : String) : String :=
  Text.replaceChar (encode (fun c => isUnreserved c || c == ' ') value) ' ' "+"

inductive Fault where
  | controlCharacter
  | missingScheme
  | colonInFirstSegment
  | escape (found : String)
  | userInfo
  | unclosedBracket
  | port (found : String)
  | hostCharacter (found : Char)
  | address (found : String)
  | shortAddress
  deriving DecidableEq

def Fault.message : Fault → String
  | .controlCharacter => "net/url: invalid control character in URL"
  | .missingScheme => "missing protocol scheme"
  | .colonInFirstSegment => "first path segment in URL cannot contain colon"
  | .escape found => "invalid URL escape " ++ Text.quote found
  | .userInfo => "net/url: invalid userinfo"
  | .unclosedBracket => "missing ']' in host"
  | .port found => "invalid port " ++ Text.quote found ++ " after host"
  | .hostCharacter found =>
    "invalid character " ++ Text.quote (String.singleton found) ++ " in host name"
  | .address found => "invalid host: ParseAddr(" ++ Text.quote found ++ "): unable to parse IP"
  | .shortAddress => "invalid IP-literal"

/-- Whether the text is an address of 32 bits: four numbers below 256 without leading zeros. -/
def isShortAddress (text : String) : Bool :=
  let parts := Text.split text '.'
  parts.length == 4 && parts.all fun part =>
    let digits := part.toList
    !digits.isEmpty && digits.length ≤ 3 && digits.all Text.isDigit &&
      Text.digitsValue digits < 256 && (digits.length == 1 || digits.head? != some '0')

/-- The number of 16 bit groups in colon separated groups; the last one may be a short address. -/
def groupCount? (text : String) : Option Nat :=
  if text = "" then some 0
  else
    let rec count : List String → Option Nat
      | [] => some 0
      | [last] =>
        if isShortAddress last then some 2
        else if isGroup last then some 1
        else none
      | group :: rest => if isGroup group then (count rest).map (· + 1) else none
    count (Text.split text ':')
where
  isGroup (group : String) : Bool :=
    let digits := group.toList
    !digits.isEmpty && digits.length ≤ 4 && digits.all fun c => (Text.hexValue? c).isSome

/-- Whether the text is an address of 128 bits, perhaps with a zone. -/
def isLongAddress (text : String) : Bool :=
  let (address, zoneOk) :=
    match Text.cut? text "%" with
    | some (address, zone) => (address, zone != "")
    | none => (text, true)
  zoneOk && match Text.cut? address "::" with
    | some (left, right) =>
      match groupCount? left, groupCount? right with
      | some before, some after =>
        before + after ≤ 7 && !(left != "" && Text.contains left ".")
      | _, _ => false
    | none => groupCount? address == some 8

def isOptionalPort (text : String) : Bool :=
  match text.toList with
  | [] => true
  | ':' :: digits => digits.all Text.isDigit
  | _ => false

def isHostChar (c : Char) : Bool :=
  0x80 ≤ c.toNat || c.isAlphanum || "-_.~!$&'()*+,;=:[]<>\"".toList.contains c

/-- Decode a host: only bytes above ASCII and the percent sign itself may be escaped. -/
def decodeHost : List Char → Except Fault (List UInt8)
  | [] => .ok []
  | '%' :: high :: low :: rest =>
    match Text.hexValue? high, Text.hexValue? low with
    | some first, some second =>
      if first < 8 ∧ ¬(first = 2 ∧ second = 5) then
        .error (.escape (String.ofList ['%', high, low]))
      else (decodeHost rest).map (UInt8.ofNat (16 * first + second) :: ·)
    | _, _ => .error (.escape (String.ofList ['%', high, low]))
  | c :: rest =>
    if c = '%' then .error (.escape (String.ofList (c :: rest)))
    else if isHostChar c then
      (decodeHost rest).map ((String.singleton c).toUTF8.toList ++ ·)
    else .error (.hostCharacter c)

/-- Decode the zone of an address, which may escape what a host may hold. -/
def decodeZone (text : String) : Except Fault (List UInt8) := do
  let bytes ← (decodeBytes false text.toList).mapError Fault.escape
  match text.toList.find? fun c => c ≠ '%' && !isHostChar c with
  | some c => .error (.hostCharacter c)
  | none => .ok bytes

/-- The text between the last opening and the last closing bracket is an address. -/
def readAddress (host : String) : Except Fault String := do
  match Text.cutLast? host ']' with
  | none => .error .unclosedBracket
  | some (inside, port) =>
    if isOptionalPort port then
      let name := ((Text.cutLast? inside '[').map (·.2)).getD inside
      let decoded ← match Text.cut? name "%25" with
        | some (address, zone) => do
            let address ← decodeHost address.toList
            let zone ← decodeZone ("%25" ++ zone)
            pure (textOf (address ++ zone))
        | none => (decodeHost name.toList).map textOf
      if isLongAddress decoded then .ok ("[" ++ decoded ++ "]" ++ port)
      else if isShortAddress decoded then .error .shortAddress
      else .error (.address decoded)
    else .error (.port port)

def readHost (host : String) : Except Fault String :=
  if Text.contains host "[" then readAddress host
  else
    match Text.cutLast? host ':' with
    | some (_, port) =>
      if port.toList.all Text.isDigit then (decodeHost host.toList).map textOf
      else .error (.port (":" ++ port))
    | none => (decodeHost host.toList).map textOf

/-- Whether a character may stand in the user part of an authority. -/
def isUserChar (c : Char) : Bool :=
  c.isAlphanum || "-._:~!$&'()*+,;=%@".toList.contains c

/-- Read what stands before the path: an optional user part and the host. -/
def readAuthority (authority : String) : Except Fault String :=
  match Text.cutLast? authority '@' with
  | none => readHost authority
  | some (user, host) => do
      let host ← readHost host
      if user.toList.all isUserChar then
        let _ ← (decodeBytes false user.toList).mapError Fault.escape
        return host
      else .error .userInfo

end SelectGraph.Url

namespace SelectGraph.Net

/-! ## Hosts with ports

A host and a port are joined by a colon. A host that itself holds colons stands in square brackets. -/

def joinHostPort (host port : String) : String :=
  if host.toList.contains ':' then "[" ++ host ++ "]:" ++ port else host ++ ":" ++ port

def splitHostPort? (text : String) : Option (String × String) := do
  let (before, port) ← Text.cutLast? text ':'
  if Text.startsWith text "[" then
    let (inner, rest) ← Text.cut? (String.ofList (text.toList.drop 1)) "]"
    if rest == ":" ++ port && !inner.toList.contains '[' && !port.toList.contains '[' &&
        !port.toList.contains ']' then
      return (inner, port)
    else none
  else if before.toList.contains ':' || text.toList.contains '[' || text.toList.contains ']' then none
  else return (before, port)

end SelectGraph.Net
