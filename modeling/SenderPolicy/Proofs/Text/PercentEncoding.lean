/-
  SenderPolicy.Proofs.Text.PercentEncoding — percent-encoded text, and the text it stands for.

  What is encoded consists of unreserved characters and of bytes, each a percent sign with two upper-case digits. Its
  bytes are the UTF-8 form of the text that was encoded, so it can be read back as that text.
  - `encoded_encode`: what the encoding of a text looks like.
  - `decodeText?_encode`: decoded and read as UTF-8 it is the text.
-/

import SenderPolicy.Text.Percent

namespace SenderPolicy.Text.Percent

/-! ## What is encoded -/

/-- The characters that stand for themselves. -/
def unreserved : List Char := "ABCDEFGHIJKLMNOPQRSTUVWXYZabcdefghijklmnopqrstuvwxyz0123456789_.-~".toList

def upperDigits : List Char := "0123456789ABCDEF".toList

/-- A text of unreserved characters, and of percent signs with two upper-case digits each. -/
inductive Encoded : List Char → Prop where
  | nil : Encoded []
  | plain {c : Char} {cs : List Char} : c ∈ unreserved → Encoded cs → Encoded (c :: cs)
  | byte {a b : Char} {cs : List Char} : a ∈ upperDigits → b ∈ upperDigits → Encoded cs → Encoded ('%' :: a :: b :: cs)

variable {cs ds : List Char}

theorem Encoded.append (h : Encoded cs) (h' : Encoded ds) : Encoded (cs ++ ds) := by
  induction h with
  | nil => exact h'
  | plain hc _ ih => exact .plain hc ih
  | byte ha hb _ ih => exact .byte ha hb ih

theorem unreserved_ascii : ∀ n < 128, isUnreserved (Char.ofNat n) = unreserved.contains (Char.ofNat n) := by
  decide +kernel

theorem toNat_of_isAlphanum {c : Char} (h : c.isAlphanum = true) : c.toNat < 128 := by
  have hbelow : ∀ high : UInt32, high.toNat < 128 → c.val ≤ high → c.toNat < 128 := by
    intro high hhigh hle
    exact Nat.lt_of_le_of_lt (UInt32.le_iff_toNat_le.mp hle) hhigh
  rcases Bool.or_eq_true_iff.mp h with hletter | hdigit
  · rcases Bool.or_eq_true_iff.mp hletter with hupper | hlower
    · exact hbelow 'Z'.val (by decide) (of_decide_eq_true hupper).2
    · exact hbelow 'z'.val (by decide) (of_decide_eq_true (Bool.and_eq_true_iff.mp hlower).2)
  · exact hbelow '9'.val (by decide) (of_decide_eq_true (Bool.and_eq_true_iff.mp hdigit).2)

theorem mem_unreserved {c : Char} (h : isUnreserved c = true) : c ∈ unreserved := by
  have hascii : c.toNat < 128 := by
    unfold isUnreserved at h
    rcases Bool.or_eq_true_iff.mp h with h | h
    · exact toNat_of_isAlphanum h
    · have hall : (['_', '.', '-', '~'].all (·.toNat < 128)) = true := by decide
      exact of_decide_eq_true (List.all_eq_true.mp hall c (List.contains_iff_mem.mp h))
  have hsame := unreserved_ascii c.toNat hascii
  rw [Char.ofNat_toNat, h] at hsame
  exact List.contains_iff_mem.mp hsame.symm

theorem upperDigit_mem : ∀ n < 16, (hexDigit n).toUpper ∈ upperDigits := by decide

theorem encoded_bytes (bs : List UInt8) : Encoded (bs.flatMap encodeByte) := by
  induction bs with
  | nil => exact .nil
  | cons b bs ih =>
    have hb := b.toNat_lt
    exact .byte (upperDigit_mem _ (by omega)) (upperDigit_mem _ (by omega)) ih

/-- An encoded text has no other characters. -/
theorem encoded_encode (cs : List Char) : Encoded (encode cs) := by
  induction cs with
  | nil => exact .nil
  | cons c cs ih =>
    rw [encode, List.flatMap_cons, ← encode, encodeChar]
    split
    · rename_i h
      exact .plain (mem_unreserved h) ih
    · exact (encoded_bytes _).append ih

/-! ## What it stands for -/

/-- The text whose UTF-8 form an encoded text spells. -/
def decodeText? (cs : List Char) : Option String := (decode cs).bind fun bytes => String.fromUTF8? bytes.toByteArray

theorem fromUTF8?_utf8 (cs : List Char) : String.fromUTF8? (cs.flatMap String.utf8EncodeChar).toByteArray = some (String.ofList cs) := by
  have hvalid : (cs.flatMap String.utf8EncodeChar).toByteArray.IsValidUTF8 := ⟨cs, rfl⟩
  unfold String.fromUTF8?
  rw [dif_pos hvalid]
  rfl

/-- An encoded text reads back. -/
theorem decodeText?_encode (cs : List Char) : decodeText? (encode cs) = some (String.ofList cs) := by
  unfold decodeText?
  rw [decode_encode]
  exact fromUTF8?_utf8 cs

example : decodeText? "caf%C3%A9%20%25".toList = some "café %" := by decide +kernel

end SenderPolicy.Text.Percent
