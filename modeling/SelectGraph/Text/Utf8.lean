/-!
# Texts as bytes

Offsets into a document count bytes. A character is decoded from the bytes at an offset; a
byte that begins no well-formed sequence counts as one replacement character.
-/

namespace SelectGraph.Text

def byteAt (bytes : ByteArray) (offset : Nat) : Option Nat :=
  if h : offset < bytes.size then some (bytes.get offset h).toNat else none

/-- Whether the byte continues a sequence, within the given bounds. -/
def tailAt (bytes : ByteArray) (offset low high : Nat) : Option Nat :=
  (byteAt bytes offset).filter fun b => low ≤ b && b ≤ high

def replacementCode : Nat := 0xFFFD

/-- The code and the width of a sequence that begins at an offset, for a first byte above ASCII. -/
def sequenceAt? (bytes : ByteArray) (offset first : Nat) : Option (Nat × Nat) :=
  let low := if first = 0xE0 then 0xA0 else if first = 0xF0 then 0x90 else 0x80
  let high := if first = 0xED then 0x9F else if first = 0xF4 then 0x8F else 0xBF
  if 0xC2 ≤ first && first ≤ 0xDF then do
    let b ← tailAt bytes (offset + 1) 0x80 0xBF
    return ((first - 0xC0) * 64 + (b - 0x80), 2)
  else if 0xE0 ≤ first && first ≤ 0xEF then do
    let b ← tailAt bytes (offset + 1) low high
    let c ← tailAt bytes (offset + 2) 0x80 0xBF
    return (((first - 0xE0) * 64 + (b - 0x80)) * 64 + (c - 0x80), 3)
  else if 0xF0 ≤ first && first ≤ 0xF4 then do
    let b ← tailAt bytes (offset + 1) low high
    let c ← tailAt bytes (offset + 2) 0x80 0xBF
    let d ← tailAt bytes (offset + 3) 0x80 0xBF
    return ((((first - 0xF0) * 64 + (b - 0x80)) * 64 + (c - 0x80)) * 64 + (d - 0x80), 4)
  else none

/-- The code of the character at an offset and its width in bytes; `none` at the end. -/
def codeAt (bytes : ByteArray) (offset : Nat) : Option (Nat × Nat) :=
  match byteAt bytes offset with
  | none => none
  | some first =>
    if first < 0x80 then some (first, 1)
    else some ((sequenceAt? bytes offset first).getD (replacementCode, 1))

/-- The characters of the bytes between two offsets; the count bounds their number. -/
def charsWithin (bytes : ByteArray) : (count offset stop : Nat) → List Char
  | 0, _, _ => []
  | count + 1, offset, stop =>
    if stop ≤ offset then []
    else
      match codeAt bytes offset with
      | none => []
      | some (code, width) =>
        if stop < offset + width then
          Char.ofNat replacementCode :: charsWithin bytes count (offset + 1) stop
        else Char.ofNat code :: charsWithin bytes count (offset + width) stop

/-- The text of the bytes between two offsets. -/
def slice (bytes : ByteArray) (start stop : Nat) : String :=
  String.ofList (charsWithin bytes (stop - start) start stop)

/-- The text of a sequence of bytes. -/
def ofBytes (bytes : ByteArray) : String :=
  match String.fromUTF8? bytes with
  | some text => text
  | none => slice bytes 0 bytes.size

def byteLength (text : String) : Nat :=
  text.utf8ByteSize

/-- The first bytes of a text, as text; a character that is cut becomes replacement characters. -/
def takeBytes (text : String) (count : Nat) : String :=
  if byteLength text ≤ count then text else slice text.toUTF8 0 count

end SelectGraph.Text
