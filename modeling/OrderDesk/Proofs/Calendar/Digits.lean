import OrderDesk.Calendar.Iso

-- Numbers of a fixed width in the texts of moments: what is written with zeros in front is read back, whatever
-- text follows it.
namespace OrderDesk
open Text Timestamp

theorem natOf_value (digits : List Char) : natOf digits = Nat.ofDigitChars 10 digits 0 := by
  unfold natOf
  rw [Nat.ofDigitChars_eq_foldl]
  congr 1
  funext value digit
  rw [Nat.mul_comm]

theorem asciiDigit_isDigit (c : Char) (digit : c.isDigit = true) : isAsciiDigit c = true := by
  simpa [isAsciiDigit,Char.isDigit,Char.le_def] using digit

theorem padded_chars (width n : Nat) :
    (padded width n).toList = List.replicate (width - (Nat.toDigits 10 n).length) '0' ++ Nat.toDigits 10 n := by
  simp [padded]

theorem padded_length (width : Nat) (wide : 0 < width) (small : n < 10 ^ width) : (padded width n).toList.length = width := by
  have fits := (Nat.length_toDigits_le_iff (b:=10) (by decide) wide).mpr small
  rw [padded_chars,List.length_append,List.length_replicate]
  omega

theorem padded_digits (width n : Nat) : (padded width n).toList.all isAsciiDigit = true := by
  rw [padded_chars,List.all_append,Bool.and_eq_true]
  refine ⟨?_,?_⟩
  · exact List.all_eq_true.mpr fun c member => by rw [List.eq_of_mem_replicate member]; rfl
  · exact List.all_eq_true.mpr fun c member =>
      asciiDigit_isDigit c (Nat.isDigit_of_mem_toDigits (by decide) (by decide) member)

theorem padded_value (width n : Nat) : natOf (padded width n).toList = n := by
  rw [natOf_value,padded_chars,Nat.ofDigitChars_append,Nat.ofDigitChars_replicate_zero,Nat.mul_zero,
    Nat.ofDigitChars_ten_toDigits]

namespace Iso

theorem digits_written (read : List Char) (digits : read.all isAsciiDigit = true) (rest : List Char) :
    digits? read.length (read ++ rest) = some (natOf read,rest) := by
  simp [digits?,List.take_left',List.drop_left',digits]

theorem digits_padded (width : Nat) (wide : 0 < width) (small : n < 10 ^ width) (rest : List Char) :
    digits? width ((padded width n).toList ++ rest) = some (n,rest) := by
  have read := digits_written (padded width n).toList (padded_digits width n) rest
  rwa [padded_length width wide small,padded_value] at read

end Iso
end OrderDesk
