/-!
# Letter case

Case classes and case mappings of single characters, and their pointwise extension
to texts. Two texts are equal up to case when their folded characters agree one by one.
-/

namespace SelectGraph.Text

/-! ## Tables

Runs of code points above ASCII: the lower case letters, the characters that change under lower
casing and under simple case folding, with the distance they move, and the upper case letters as
far as they are not those that have a lower case form. -/

/-- A first code point, how many there are and the step between them. -/
abbrev CodeRun := Nat × Nat × Nat

def CodeRun.contains (run : CodeRun) (code : Nat) : Bool :=
  let (first, count, step) := run
  first ≤ code && code < first + count * step && (code - first) % step == 0

/-- A run whose code points all move by the same distance, which comes last. -/
abbrev CaseShift := Nat × Nat × Nat × Int

def CaseShift.covers (shift : CaseShift) (code : Nat) : Bool :=
  CodeRun.contains (shift.1, shift.2.1, shift.2.2.1) code

/-- Move a code point by the first shift that covers it. -/
def shiftCode (shifts : List CaseShift) (code : Nat) : Nat :=
  match shifts.find? fun shift => CaseShift.covers shift code with
  | some (_, _, _, distance) => (Int.ofNat code + distance).toNat
  | none => code

def unpairedUpperRuns : List CodeRun := [
  (0x3D2, 3, 1), (0x2102, 1, 1), (0x2107, 1, 1), (0x210B, 3, 1), (0x2110, 3, 1), (0x2115, 1, 1),
  (0x2119, 5, 1), (0x2124, 1, 1), (0x2128, 1, 1), (0x212C, 2, 1), (0x2130, 2, 1), (0x2133, 1, 1),
  (0x213E, 2, 1), (0x2145, 1, 1), (0x1D400, 26, 1), (0x1D434, 26, 1), (0x1D468, 26, 1),
  (0x1D49C, 2, 2), (0x1D49F, 1, 1), (0x1D4A2, 1, 1), (0x1D4A5, 2, 1), (0x1D4A9, 4, 1),
  (0x1D4AE, 8, 1), (0x1D4D0, 26, 1), (0x1D504, 2, 1), (0x1D507, 4, 1), (0x1D50D, 8, 1),
  (0x1D516, 7, 1), (0x1D538, 2, 1), (0x1D53B, 4, 1), (0x1D540, 5, 1), (0x1D546, 1, 1),
  (0x1D54A, 7, 1), (0x1D56C, 26, 1), (0x1D5A0, 26, 1), (0x1D5D4, 26, 1), (0x1D608, 26, 1),
  (0x1D63C, 26, 1), (0x1D670, 26, 1), (0x1D6A8, 25, 1), (0x1D6E2, 25, 1), (0x1D71C, 25, 1),
  (0x1D756, 25, 1), (0x1D790, 25, 1), (0x1D7CA, 1, 1)]

/-- Characters with a lower case form that are no upper case letters. -/
def notUpperRuns : List CodeRun := [
  (0x1C5, 1, 1), (0x1C8, 1, 1), (0x1CB, 1, 1), (0x1F2, 1, 1), (0x1F88, 8, 1), (0x1F98, 8, 1),
  (0x1FA8, 8, 1), (0x1FBC, 1, 1), (0x1FCC, 1, 1), (0x1FFC, 1, 1), (0x2160, 16, 1), (0x24B6, 26, 1)]

def lowerRuns1 : List CodeRun := [
  (0xB5, 1, 1), (0xDF, 24, 1), (0xF8, 8, 1), (0x101, 28, 2), (0x138, 9, 2), (0x149, 24, 2),
  (0x17A, 3, 2), (0x17F, 2, 1), (0x183, 2, 2), (0x188, 1, 1), (0x18C, 2, 1), (0x192, 1, 1),
  (0x195, 1, 1), (0x199, 3, 1), (0x19E, 1, 1), (0x1A1, 3, 2), (0x1A8, 2, 2), (0x1AB, 2, 2),
  (0x1B0, 1, 1), (0x1B4, 2, 2), (0x1B9, 2, 1), (0x1BD, 3, 1), (0x1C6, 1, 1), (0x1C9, 1, 1),
  (0x1CC, 9, 2), (0x1DD, 10, 2), (0x1F0, 1, 1), (0x1F3, 2, 2), (0x1F9, 30, 2), (0x234, 6, 1),
  (0x23C, 1, 1), (0x23F, 2, 1), (0x242, 1, 1), (0x247, 5, 2), (0x250, 68, 1), (0x295, 27, 1),
  (0x371, 2, 2), (0x377, 1, 1), (0x37B, 3, 1), (0x390, 1, 1), (0x3AC, 35, 1), (0x3D0, 2, 1),
  (0x3D5, 3, 1), (0x3D9, 12, 2), (0x3F0, 4, 1), (0x3F5, 1, 1), (0x3F8, 1, 1), (0x3FB, 2, 1),
  (0x430, 48, 1), (0x461, 17, 2), (0x48B, 27, 2), (0x4C2, 7, 2), (0x4CF, 49, 2), (0x560, 41, 1),
  (0x10D0, 43, 1), (0x10FD, 3, 1), (0x13F8, 6, 1), (0x1C80, 9, 1), (0x1D00, 44, 1), (0x1D6B, 13, 1),
  (0x1D79, 34, 1), (0x1E01, 75, 2), (0x1E96, 8, 1), (0x1E9F, 49, 2), (0x1F00, 8, 1), (0x1F10, 6, 1),
  (0x1F20, 8, 1), (0x1F30, 8, 1), (0x1F40, 6, 1), (0x1F50, 8, 1), (0x1F60, 8, 1), (0x1F70, 14, 1),
  (0x1F80, 8, 1), (0x1F90, 8, 1), (0x1FA0, 8, 1), (0x1FB0, 5, 1), (0x1FB6, 2, 1), (0x1FBE, 1, 1),
  (0x1FC2, 3, 1), (0x1FC6, 2, 1), (0x1FD0, 4, 1), (0x1FD6, 2, 1), (0x1FE0, 8, 1), (0x1FF2, 3, 1),
  (0x1FF6, 2, 1), (0x210A, 1, 1), (0x210E, 2, 1), (0x2113, 1, 1), (0x212F, 1, 1), (0x2134, 1, 1),
  (0x2139, 1, 1), (0x213C, 2, 1), (0x2146, 4, 1), (0x214E, 1, 1), (0x2184, 1, 1), (0x2C30, 48, 1),
  (0x2C61, 1, 1), (0x2C65, 2, 1), (0x2C68, 3, 2), (0x2C71, 2, 2), (0x2C74, 2, 2), (0x2C77, 5, 1),
  (0x2C81, 50, 2), (0x2CE4, 1, 1), (0x2CEC, 2, 2), (0x2CF3, 1, 1), (0x2D00, 38, 1), (0x2D27, 1, 1),
  (0x2D2D, 1, 1), (0xA641, 23, 2)]

def lowerRuns2 : List CodeRun := [
  (0xA681, 14, 2), (0xA723, 7, 2), (0xA730, 2, 1), (0xA733, 32, 2), (0xA772, 7, 1), (0xA77A, 2, 2),
  (0xA77F, 5, 2), (0xA78C, 2, 2), (0xA791, 2, 2), (0xA794, 2, 1), (0xA797, 10, 2), (0xA7AF, 1, 1),
  (0xA7B5, 8, 2), (0xA7C8, 2, 2), (0xA7D1, 5, 2), (0xA7F6, 1, 1), (0xA7FA, 1, 1), (0xAB30, 43, 1),
  (0xAB60, 9, 1), (0xAB70, 80, 1), (0xFB00, 7, 1), (0xFB13, 5, 1), (0xFF41, 26, 1),
  (0x10428, 40, 1), (0x104D8, 36, 1), (0x10597, 11, 1), (0x105A3, 15, 1), (0x105B3, 7, 1),
  (0x105BB, 2, 1), (0x10CC0, 51, 1), (0x118C0, 32, 1), (0x16E60, 32, 1), (0x1D41A, 26, 1),
  (0x1D44E, 7, 1), (0x1D456, 18, 1), (0x1D482, 26, 1), (0x1D4B6, 4, 1), (0x1D4BB, 2, 2),
  (0x1D4BE, 6, 1), (0x1D4C5, 11, 1), (0x1D4EA, 26, 1), (0x1D51E, 26, 1), (0x1D552, 26, 1),
  (0x1D586, 26, 1), (0x1D5BA, 26, 1), (0x1D5EE, 26, 1), (0x1D622, 26, 1), (0x1D656, 26, 1),
  (0x1D68A, 28, 1), (0x1D6C2, 25, 1), (0x1D6DC, 6, 1), (0x1D6FC, 25, 1), (0x1D716, 6, 1),
  (0x1D736, 25, 1), (0x1D750, 6, 1), (0x1D770, 25, 1), (0x1D78A, 6, 1), (0x1D7AA, 25, 1),
  (0x1D7C4, 6, 1), (0x1D7CB, 1, 1), (0x1DF00, 10, 1), (0x1DF0B, 20, 1), (0x1DF25, 6, 1),
  (0x1E922, 34, 1)]

def lowerRuns : List CodeRun :=
  lowerRuns1 ++ lowerRuns2

/-- Code points that lower casing moves. Part 1. -/
def lowerShifts1 : List CaseShift := [
  (0xC0, 23, 1, 32), (0xD8, 7, 1, 32), (0x100, 24, 2, 1), (0x130, 1, 1, -199), (0x132, 3, 2, 1),
  (0x139, 8, 2, 1), (0x14A, 23, 2, 1), (0x178, 1, 1, -121), (0x179, 3, 2, 1), (0x181, 1, 1, 210),
  (0x182, 2, 2, 1), (0x186, 1, 1, 206), (0x187, 1, 1, 1), (0x189, 2, 1, 205), (0x18B, 1, 1, 1),
  (0x18E, 1, 1, 79), (0x18F, 1, 1, 202), (0x190, 1, 1, 203), (0x191, 1, 1, 1), (0x193, 1, 1, 205),
  (0x194, 1, 1, 207), (0x196, 1, 1, 211), (0x197, 1, 1, 209), (0x198, 1, 1, 1), (0x19C, 1, 1, 211),
  (0x19D, 1, 1, 213), (0x19F, 1, 1, 214), (0x1A0, 3, 2, 1), (0x1A6, 1, 1, 218), (0x1A7, 1, 1, 1),
  (0x1A9, 1, 1, 218), (0x1AC, 1, 1, 1), (0x1AE, 1, 1, 218), (0x1AF, 1, 1, 1), (0x1B1, 2, 1, 217),
  (0x1B3, 2, 2, 1), (0x1B7, 1, 1, 219), (0x1B8, 1, 1, 1), (0x1BC, 1, 1, 1), (0x1C4, 1, 1, 2),
  (0x1C5, 1, 1, 1), (0x1C7, 1, 1, 2), (0x1C8, 1, 1, 1), (0x1CA, 1, 1, 2), (0x1CB, 9, 2, 1),
  (0x1DE, 9, 2, 1), (0x1F1, 1, 1, 2), (0x1F2, 2, 2, 1), (0x1F6, 1, 1, -97), (0x1F7, 1, 1, -56),
  (0x1F8, 20, 2, 1), (0x220, 1, 1, -130), (0x222, 9, 2, 1), (0x23A, 1, 1, 10795), (0x23B, 1, 1, 1),
  (0x23D, 1, 1, -163), (0x23E, 1, 1, 10792), (0x241, 1, 1, 1), (0x243, 1, 1, -195),
  (0x244, 1, 1, 69), (0x245, 1, 1, 71), (0x246, 5, 2, 1), (0x370, 2, 2, 1), (0x376, 1, 1, 1),
  (0x37F, 1, 1, 116), (0x386, 1, 1, 38), (0x388, 3, 1, 37), (0x38C, 1, 1, 64), (0x38E, 2, 1, 63),
  (0x391, 17, 1, 32), (0x3A3, 9, 1, 32), (0x3CF, 1, 1, 8), (0x3D8, 12, 2, 1), (0x3F4, 1, 1, -60),
  (0x3F7, 1, 1, 1), (0x3F9, 1, 1, -7), (0x3FA, 1, 1, 1), (0x3FD, 3, 1, -130), (0x400, 16, 1, 80),
  (0x410, 32, 1, 32), (0x460, 17, 2, 1), (0x48A, 27, 2, 1), (0x4C0, 1, 1, 15), (0x4C1, 7, 2, 1),
  (0x4D0, 48, 2, 1), (0x531, 38, 1, 48), (0x10A0, 38, 1, 7264), (0x10C7, 1, 1, 7264),
  (0x10CD, 1, 1, 7264), (0x13A0, 80, 1, 38864), (0x13F0, 6, 1, 8), (0x1C90, 43, 1, -3008),
  (0x1CBD, 3, 1, -3008), (0x1E00, 75, 2, 1), (0x1E9E, 1, 1, -7615), (0x1EA0, 48, 2, 1),
  (0x1F08, 8, 1, -8), (0x1F18, 6, 1, -8), (0x1F28, 8, 1, -8), (0x1F38, 8, 1, -8),
  (0x1F48, 6, 1, -8), (0x1F59, 4, 2, -8), (0x1F68, 8, 1, -8), (0x1F88, 8, 1, -8),
  (0x1F98, 8, 1, -8), (0x1FA8, 8, 1, -8), (0x1FB8, 2, 1, -8), (0x1FBA, 2, 1, -74),
  (0x1FBC, 1, 1, -9), (0x1FC8, 4, 1, -86)]

/-- Code points that lower casing moves. Part 2. -/
def lowerShifts2 : List CaseShift := [
  (0x1FCC, 1, 1, -9), (0x1FD8, 2, 1, -8), (0x1FDA, 2, 1, -100), (0x1FE8, 2, 1, -8),
  (0x1FEA, 2, 1, -112), (0x1FEC, 1, 1, -7), (0x1FF8, 2, 1, -128), (0x1FFA, 2, 1, -126),
  (0x1FFC, 1, 1, -9), (0x2126, 1, 1, -7517), (0x212A, 1, 1, -8383), (0x212B, 1, 1, -8262),
  (0x2132, 1, 1, 28), (0x2160, 16, 1, 16), (0x2183, 1, 1, 1), (0x24B6, 26, 1, 26),
  (0x2C00, 48, 1, 48), (0x2C60, 1, 1, 1), (0x2C62, 1, 1, -10743), (0x2C63, 1, 1, -3814),
  (0x2C64, 1, 1, -10727), (0x2C67, 3, 2, 1), (0x2C6D, 1, 1, -10780), (0x2C6E, 1, 1, -10749),
  (0x2C6F, 1, 1, -10783), (0x2C70, 1, 1, -10782), (0x2C72, 1, 1, 1), (0x2C75, 1, 1, 1),
  (0x2C7E, 2, 1, -10815), (0x2C80, 50, 2, 1), (0x2CEB, 2, 2, 1), (0x2CF2, 1, 1, 1),
  (0xA640, 23, 2, 1), (0xA680, 14, 2, 1), (0xA722, 7, 2, 1), (0xA732, 31, 2, 1), (0xA779, 2, 2, 1),
  (0xA77D, 1, 1, -35332), (0xA77E, 5, 2, 1), (0xA78B, 1, 1, 1), (0xA78D, 1, 1, -42280),
  (0xA790, 2, 2, 1), (0xA796, 10, 2, 1), (0xA7AA, 1, 1, -42308), (0xA7AB, 1, 1, -42319),
  (0xA7AC, 1, 1, -42315), (0xA7AD, 1, 1, -42305), (0xA7AE, 1, 1, -42308), (0xA7B0, 1, 1, -42258),
  (0xA7B1, 1, 1, -42282), (0xA7B2, 1, 1, -42261), (0xA7B3, 1, 1, 928), (0xA7B4, 8, 2, 1),
  (0xA7C4, 1, 1, -48), (0xA7C5, 1, 1, -42307), (0xA7C6, 1, 1, -35384), (0xA7C7, 2, 2, 1),
  (0xA7D0, 1, 1, 1), (0xA7D6, 2, 2, 1), (0xA7F5, 1, 1, 1), (0xFF21, 26, 1, 32),
  (0x10400, 40, 1, 40), (0x104B0, 36, 1, 40), (0x10570, 11, 1, 39), (0x1057C, 15, 1, 39),
  (0x1058C, 7, 1, 39), (0x10594, 2, 1, 39), (0x10C80, 51, 1, 64), (0x118A0, 32, 1, 32),
  (0x16E40, 32, 1, 32), (0x1E900, 34, 1, 34)]

def lowerShifts : List CaseShift :=
  lowerShifts1 ++ lowerShifts2

/-- Code points that simple case folding moves otherwise than lower casing. -/
def foldExceptions : List CaseShift := [
  (0xB5, 1, 1, 775), (0x130, 1, 1, 0), (0x17F, 1, 1, -268), (0x345, 1, 1, 116), (0x3C2, 1, 1, 1),
  (0x3D0, 1, 1, -30), (0x3D1, 1, 1, -25), (0x3D5, 1, 1, -15), (0x3D6, 1, 1, -22),
  (0x3F0, 1, 1, -54), (0x3F1, 1, 1, -48), (0x3F5, 1, 1, -64), (0x13A0, 86, 1, 0),
  (0x13F8, 6, 1, -8), (0x1C80, 1, 1, -6222), (0x1C81, 1, 1, -6221), (0x1C82, 1, 1, -6212),
  (0x1C83, 2, 1, -6210), (0x1C85, 1, 1, -6211), (0x1C86, 1, 1, -6204), (0x1C87, 1, 1, -6180),
  (0x1C88, 1, 1, 35267), (0x1E9B, 1, 1, -58), (0x1FBE, 1, 1, -7173), (0xAB70, 80, 1, -38864)]

/-- Code points that simple case folding moves to their representative. -/
def foldShifts : List CaseShift :=
  foldExceptions ++ lowerShifts

/-! ## Characters and texts -/

/-- Whether the character is an upper case letter. Above ASCII most of them are known by their lower
case form. -/
def isUpper (c : Char) : Bool :=
  let on (runs : List CodeRun) := runs.any fun run => CodeRun.contains run c.toNat
  if c.toNat < 0x80 then 'A' ≤ c && c ≤ 'Z'
  else
    on unpairedUpperRuns ||
      (lowerShifts.any fun shift => CaseShift.covers shift c.toNat) && !on notUpperRuns

def isLower (c : Char) : Bool :=
  if c.toNat < 0x80 then 'a' ≤ c && c ≤ 'z'
  else lowerRuns.any fun run => CodeRun.contains run c.toNat

/-- The lower case form of a character, itself when it has none. -/
def lowerChar (c : Char) : Char :=
  if c.toNat < 0x80 then
    if 'A' ≤ c && c ≤ 'Z' then Char.ofNat (c.toNat + 32) else c
  else Char.ofNat (shiftCode lowerShifts c.toNat)

/-- The representative of a character among those that differ from it in case only. -/
def foldChar (c : Char) : Char :=
  if c.toNat < 0x80 then
    if 'A' ≤ c && c ≤ 'Z' then Char.ofNat (c.toNat + 32) else c
  else Char.ofNat (shiftCode foldShifts c.toNat)

def toLower (text : String) : String :=
  String.ofList (text.toList.map lowerChar)

/-- The upper case form of an ASCII letter; other characters stay. -/
def upperAscii (c : Char) : Char :=
  if 'a' ≤ c && c ≤ 'z' then Char.ofNat (c.toNat - 32) else c

/-- The characters of a text, each replaced by its case representative. -/
def folded (text : String) : List Char :=
  text.toList.map foldChar

/-- Whether two texts agree up to letter case. -/
def equalFold (left right : String) : Bool :=
  folded left == folded right

theorem equalFold_eq_true {left right : String} :
    equalFold left right = true ↔ folded left = folded right := by
  simp [equalFold]

theorem equalFold_refl (text : String) : equalFold text text = true := by
  simp [equalFold]

end SelectGraph.Text
