/-
  SenderPolicy.Text.Percent — percent-encoding of everything but the unreserved characters.

  ASCII letters, digits and `_ . - ~` stand for themselves; of every other character each byte of
  its UTF-8 form becomes `%` and two upper-case hexadecimal digits.
  - `decode_encode`: decoding gives the UTF-8 bytes of the text back.
-/

import SenderPolicy.Text.Hex

namespace SenderPolicy.Text.Percent

def isUnreserved (c : Char) : Bool := c.isAlphanum || ['_', '.', '-', '~'].contains c

def encodeByte (b : UInt8) : List Char :=
  ['%', (hexDigit (b.toNat / 16)).toUpper, (hexDigit (b.toNat % 16)).toUpper]

def encodeChar (c : Char) : List Char :=
  if isUnreserved c then [c] else (String.utf8EncodeChar c).flatMap encodeByte

def encode (cs : List Char) : List Char := cs.flatMap encodeChar

/-- The bytes of an encoded text; a `%` without two hexadecimal digits behind it is refused. -/
def decode : List Char → Option (List UInt8)
  | [] => some []
  | '%' :: a :: b :: cs =>
    match hexValue? a, hexValue? b with
    | some x, some y => (decode cs).map (UInt8.ofNat (16 * x + y) :: ·)
    | _, _ => none
  | c :: cs => if c == '%' then none else (decode cs).map (String.utf8EncodeChar c ++ ·)

theorem upperDigit_value : ∀ n < 16, hexValue? (hexDigit n).toUpper = some n := by decide

theorem decode_encodeByte (b : UInt8) (cs : List Char) :
    decode (encodeByte b ++ cs) = (decode cs).map (b :: ·) := by
  have hb := b.toNat_lt
  have hi := upperDigit_value (b.toNat / 16) (by omega)
  have lo := upperDigit_value (b.toNat % 16) (by omega)
  have hv : 16 * (b.toNat / 16) + b.toNat % 16 = b.toNat := by omega
  simp [encodeByte, decode, hi, lo, hv]

theorem decode_encodeBytes (bs : List UInt8) (cs : List Char) :
    decode (bs.flatMap encodeByte ++ cs) = (decode cs).map (bs ++ ·) := by
  induction bs with
  | nil => simp
  | cons b bs ih => simp [List.append_assoc, decode_encodeByte, ih, Function.comp_def]

theorem decode_cons_of_ne {c : Char} (h : c ≠ '%') (cs : List Char) :
    decode (c :: cs) = (decode cs).map (String.utf8EncodeChar c ++ ·) := by
  rw [decode.eq_3 _ _ (by rintro _ _ _ rfl; exact absurd rfl h)]
  simp [h]

theorem decode_encode (cs : List Char) : decode (encode cs) = some (cs.flatMap String.utf8EncodeChar) := by
  induction cs with
  | nil => rfl
  | cons c cs ih =>
    rw [encode, List.flatMap_cons, ← encode, encodeChar]
    split
    · rename_i h
      have hne : c ≠ '%' := by rintro rfl; exact absurd h (by decide)
      simp [decode_cons_of_ne hne, ih]
    · simp [decode_encodeBytes, ih]

end SenderPolicy.Text.Percent
