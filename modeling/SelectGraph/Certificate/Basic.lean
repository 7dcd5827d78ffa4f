import SelectGraph.Text.Base64
import SelectGraph.Text.Parts

/-!
# Certificates and keys

A certificate names a public key; a private key carries the public key that belongs to it. A pair
matches when both name the same public key.
-/

namespace SelectGraph.Certificate

/-! ## Armoured blocks

A file can hold several blocks of bytes, each in base64 between a line that begins and a line that
ends it. What is not a block is skipped. -/

/-- A block: what it holds, whether it has header lines, and its bytes. -/
structure Block where
  label : String
  hasHeaders : Bool
  bytes : List UInt8
  deriving DecidableEq

/-- A line without its end and without blanks before it, and what follows. -/
def takeLine (chars : List Char) : List Char × List Char :=
  let line := chars.takeWhile (· != '\n')
  let trimmed := (line.reverse.dropWhile fun c => c == ' ' || c == '\t' || c == '\r').reverse
  (trimmed, chars.drop (line.length + 1))

def skipHeaders : (count : Nat) → List Char → Bool × List Char
  | 0, chars => (false, chars)
  | count + 1, chars =>
    let (line, rest) := takeLine chars
    if line.contains ':' then (true, (skipHeaders count rest).2) else (false, chars)

/-- The block whose beginning line starts here, and what follows it. -/
def blockAt? (chars : List Char) : Option (Block × List Char) := do
  let (line, body) := takeLine chars
  let label ← Text.before? (String.ofList line) "-----"
  let (hasHeaders, body) := skipHeaders body.length body
  let (content, rest) ←
    if !hasHeaders && Text.startsWith (String.ofList body) "-----END " then
      some ([], body.drop 9)
    else (Text.cut? (String.ofList body) "\n-----END ").map fun (content, rest) =>
      (content.toList, rest.toList)
  let (endLine, rest) := takeLine rest
  if String.ofList endLine = label ++ "-----" then
    let bytes ← Text.decodeBase64? (content.filter fun c => c != ' ' && c != '\t')
    return (⟨label, hasHeaders, bytes⟩, rest)
  else none

/-- The blocks of a text, from the places where a line begins one. -/
def blocksWithin : (count : Nat) → List Char → List Block
  | 0, _ => []
  | count + 1, chars =>
    let start? :=
      if Text.startsWith (String.ofList chars) "-----BEGIN " then some (chars.drop 11)
      else (Text.cut? (String.ofList chars) "\n-----BEGIN ").map fun (_, rest) => rest.toList
    match start? with
    | none => []
    | some start =>
      match blockAt? start with
      | some (block, rest) => block :: blocksWithin count rest
      | none => blocksWithin count start

def blocks (text : String) : List Block :=
  blocksWithin (text.length + 1) text.toList

/-! ## Tagged values

Certificates and keys are nested values, each with a tag, a length and that many bytes. -/

structure Element where
  tag : Nat
  content : List UInt8
  deriving DecidableEq

/-- The length at the front: short, or the count of its bytes and then those bytes, as few as can
hold it. -/
def takeLength? : List UInt8 → Option (Nat × List UInt8)
  | [] => none
  | first :: rest =>
    if first.toNat < 128 then some (first.toNat, rest)
    else
      let count := first.toNat - 128
      let digits := rest.take count
      let value := digits.foldl (fun value byte => 256 * value + byte.toNat) 0
      if count = 0 ∨ digits.length < count ∨ digits.head? = some 0 ∨ value < 128 then none
      else some (value, rest.drop count)

def takeElement? : List UInt8 → Option (Element × List UInt8)
  | [] => none
  | tag :: rest => do
      let (length, rest) ← takeLength? rest
      if rest.length < length then none
      else return (⟨tag.toNat, rest.take length⟩, rest.drop length)

def elementsWithin : (count : Nat) → List UInt8 → Option (List Element)
  | _, [] => some []
  | 0, _ => none
  | count + 1, bytes => do
      let (element, rest) ← takeElement? bytes
      return element :: (← elementsWithin count rest)

def elements? (bytes : List UInt8) : Option (List Element) :=
  elementsWithin bytes.length bytes

def element? (bytes : List UInt8) : Option Element :=
  match elements? bytes with
  | some [element] => some element
  | _ => none

/-- The tags of the values that certificates and keys are made of. -/
def sequenceTag : Nat := 0x30

def integerTag : Nat := 0x02

def bitsTag : Nat := 0x03

def bytesTag : Nat := 0x04

def Element.members? (element : Element) : Option (List Element) :=
  if element.tag = sequenceTag then elements? element.content else none

end SelectGraph.Certificate

namespace SelectGraph

/-- What is read from a certificate: the public key, with the algorithm it is for. -/
structure Certificate where
  algorithm : List UInt8
  publicKey : List UInt8
  deriving DecidableEq

namespace Certificate

def bitBytes? (element : Element) : Option (List UInt8) :=
  match element.tag == bitsTag, element.content with
  | true, unused :: bytes => if unused = 0 then some bytes else none
  | _, _ => none

/-- Whether an element is a moment: one of the two forms of dates. -/
def isMoment (element : Element) : Bool :=
  element.tag == 0x17 || element.tag == 0x18

/-- The signed part of a certificate: a version, a serial number, an algorithm, the issuer, the
time of validity, the subject and the public key. -/
def readSigned? (members : List Element) : Option Certificate := do
  let members := match members with
    | ⟨0xA0, _⟩ :: rest => rest
    | other => other
  match members with
  | serial :: algorithm :: issuer :: validity :: subject :: key :: _ =>
    let moments ← validity.members?
    let keyMembers ← key.members?
    match keyMembers with
    | [keyAlgorithm, bits] =>
      let publicKey ← bitBytes? bits
      if serial.tag = integerTag ∧ algorithm.tag = sequenceTag ∧ issuer.tag = sequenceTag ∧
          subject.tag = sequenceTag ∧ keyAlgorithm.tag = sequenceTag ∧ moments.length = 2 ∧
          moments.all isMoment = true then
        some ⟨keyAlgorithm.content, publicKey⟩
      else none
    | _ => none
  | _ => none

/-- Read a certificate: its signed part, the algorithm of the signature and the signature. -/
def ofBytes? (bytes : List UInt8) : Option Certificate := do
  let members ← (← element? bytes).members?
  match members with
  | [signed, algorithm, signature] =>
    if algorithm.tag = sequenceTag ∧ (bitBytes? signature).isSome then
      readSigned? (← signed.members?)
    else none
  | _ => none

/-- The certificates in a text. Other blocks, and blocks that do not hold a certificate, are
skipped. -/
def all (text : String) : List Certificate :=
  (blocks text).filterMap fun block =>
    if block.label = "CERTIFICATE" ∧ ¬block.hasHeaders then ofBytes? block.bytes else none

def curveKey? (members : List Element) : Option (List UInt8) := do
  let wrapped ← members.find? fun member => member.tag == 0xA1
  bitBytes? (← element? wrapped.content)

/-- The public key that belongs to a private key: a key on a curve, alone or wrapped with its
algorithm. -/
def privateKeyPublic? (bytes : List UInt8) : Option (List UInt8) := do
  let members ← (← element? bytes).members?
  match members with
  | version :: second :: rest =>
    if version.tag ≠ integerTag then none
    else if second.tag = bytesTag then curveKey? rest
    else
      match rest with
      | inner :: _ =>
        if second.tag = sequenceTag ∧ inner.tag = bytesTag then
          curveKey? (← (← element? inner.content).members?)
        else none
      | [] => none
  | _ => none

def privateKeyBlock? (text : String) : Option Block :=
  (blocks text).find? fun block =>
    block.label == "PRIVATE KEY" || Text.endsWith block.label " PRIVATE KEY"

/-- Whether a text of certificates and a text with a private key make a pair: the key belongs to
the first certificate. -/
def isPair (certificates key : String) : Bool :=
  match (blocks certificates).filter (fun block => block.label == "CERTIFICATE") with
  | [] => false
  | first :: _ =>
    match ofBytes? first.bytes, privateKeyBlock? key with
    | some certificate, some block =>
      match privateKeyPublic? block.bytes with
      | some publicKey => certificate.publicKey == publicKey
      | none => false
    | _, _ => false

end Certificate

end SelectGraph
