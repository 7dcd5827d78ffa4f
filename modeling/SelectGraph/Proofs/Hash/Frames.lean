import Mathlib
import SelectGraph.Hash.Sha256

/-!
# Frames

The parts that are hashed are framed in a way that keeps them apart: the length in front of a part says
where it ends.
-/

namespace SelectGraph.Hash

open List

/-- The length that stands in front of framed bytes. -/
def frameSize (bytes : List UInt8) : Nat :=
  Nat.ofDigitChars 10
    ((bytes.takeWhile (· != ':'.toUInt8)).map fun byte => Char.ofNat byte.toNat) 0

theorem toNat_toUInt8_of_isDigit {c : Char} (digit : c.isDigit = true) :
    c.toUInt8.toNat = c.toNat := by
  have bound := (Char.isDigit_iff_toNat.mp digit).2
  have small : c.toNat < 256 := bound.trans_lt (by decide)
  exact Nat.mod_eq_of_lt small

theorem toUInt8_ne_colon {c : Char} (digit : c.isDigit = true) : c.toUInt8 ≠ ':'.toUInt8 := by
  intro same
  have code := congrArg UInt8.toNat same
  rw [toNat_toUInt8_of_isDigit digit] at code
  have bound := (Char.isDigit_iff_toNat.mp digit).2
  rw [code] at bound
  exact absurd bound (by decide)

/-- The first length is read up to the colon, which no digit is, whatever the part is made of. -/
theorem frameSize_frame (part rest : List UInt8) : frameSize (frame part ++ rest) = part.length := by
  have digits : ∀ c ∈ Nat.toDigits 10 part.length, c.isDigit = true :=
    fun c mem => Nat.isDigit_of_mem_toDigits (by decide) (by decide) mem
  have front : (frame part ++ rest).takeWhile (· != ':'.toUInt8) =
      (Nat.toDigits 10 part.length).map Char.toUInt8 := by
    rw [frame, append_assoc, append_assoc, takeWhile_append_of_pos]
    · simp
    · intro byte mem
      obtain ⟨c, digit, rfl⟩ := mem_map.mp mem
      exact bne_iff_ne.mpr (toUInt8_ne_colon (digits c digit))
  have back : ((Nat.toDigits 10 part.length).map Char.toUInt8).map
      (fun byte => Char.ofNat byte.toNat) = Nat.toDigits 10 part.length := by
    rw [map_map, map_congr_left, map_id]
    intro c mem
    rw [Function.comp_apply, toNat_toUInt8_of_isDigit (digits c mem), Char.ofNat_toNat]
    rfl
  rw [frameSize, front, back, Nat.ofDigitChars_toDigits (by decide) (by decide)]

/-- Framed parts are taken apart in one way only, whatever bytes the parts are made of. -/
theorem framed_injective : Function.Injective framed := by
  intro parts
  induction parts with
  | nil =>
    intro others same
    cases others with
    | nil => rfl
    | cons part others => simp [framed, frame] at same
  | cons part parts ih =>
    intro others same
    cases others with
    | nil => simp [framed, frame] at same
    | cons other others =>
      rw [framed, framed, flatMap_cons, flatMap_cons] at same
      have size := congrArg frameSize same
      rw [frameSize_frame, frameSize_frame] at size
      obtain ⟨frames, rest⟩ := append_inj same (by simp [frame, size])
      rw [frame, frame, size, append_cancel_right_eq, append_cancel_left_eq,
        List.cons.injEq] at frames
      rw [frames.2, ih rest]

end SelectGraph.Hash
