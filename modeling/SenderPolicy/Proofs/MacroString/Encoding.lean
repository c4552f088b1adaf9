/-
  SenderPolicy.Proofs.MacroString.Encoding — expressions with a capital letter.

  A capital letter asks for the expansion of the small one, percent-encoded. It is encoded once and as a whole, behind
  everything that is done to the labels, so nothing is cut inside an encoded character and none is left as it is. The
  field may hold what it likes, percent signs included: decoded, the expansion is that of the small letter.
  - `Says.lowered`: the small letter says the same but for the encoding.
  - `expand_encoded`: the expansion of the one from that of the other.
  - `encoded_expansion_decodes`: the characters of the expansion, and what they decode to.
-/

import SenderPolicy.Proofs.MacroString.Braces
import SenderPolicy.Proofs.Text.PercentEncoding

namespace SenderPolicy.MacroString

open Text.Percent (Encoded encode decodeText? encoded_encode decodeText?_encode)

/-! ## Transformers -/

namespace Transformers

/-- The same transformers, without the encoding. -/
def bare (t : Transformers) : Transformers := { t with encoded := false }

variable {t : Transformers}

theorem transform_encoded (h : t.encoded = true) (field : List Char) : t.transform field = encode (t.bare.transform field) := by
  unfold transform
  rw [h]
  rfl

theorem apply_encoded (h : t.encoded = true) (v : Json) :
    t.apply v = (t.bare.apply v).map fun s => String.ofList (encode s.toList) := by
  unfold apply
  have hsame : t.bare.delimiters = t.delimiters := rfl
  rw [hsame]
  split
  · rfl
  · cases v with
    | str s =>
      show Except.ok (String.ofList (t.transform s.toList)) = Except.ok (String.ofList (encode (String.ofList (t.bare.transform s.toList)).toList))
      rw [String.toList_ofList, transform_encoded h]
    | _ => rfl

end Transformers

/-! ## Letters -/

variable {c : Char} {rest : List Char} {b : Body}

theorem Says.toLower_eq (h : Says c rest b) : c.toLower = b.letter.char := (char_of_ofChar? h.letter).symm

theorem char_not_upper (l : Letter) : l.char.isUpper = false := by cases l <;> rfl

/-- The small letter says the same but for the encoding. -/
theorem Says.lowered (h : Says c rest b) : Says c.toLower rest ⟨b.letter, b.transformers.bare⟩ where
  letter := by rw [h.toLower_eq]; exact Letter.ofChar?_char b.letter
  digits := h.digits
  count := h.count
  reversed := h.reversed
  allowed := h.allowed
  delimiters := h.delimiters
  encoded := by rw [h.toLower_eq, char_not_upper]; rfl

/-- The letters are no closing brace. -/
theorem Says.brace_not_mem (h : Says c rest b) (hbrace : '\x7d' ∉ c :: rest) : '\x7d' ∉ c.toLower :: rest := by
  intro hmem
  rcases List.mem_cons.mp hmem with hletter | hmem
  · rw [h.toLower_eq] at hletter
    cases hb : b.letter <;> rw [hb] at hletter <;> exact absurd hletter (by decide)
  · exact hbrace (List.mem_cons_of_mem _ hmem)

/-! ## Expansions -/

variable {text : String} {r : Reading} {e : Expression}

/-- What an expression with a capital letter expands to, or why it does not, is the same as with the small letter, but
for the encoding. -/
theorem expand_encoded (hread : read text = .ok r) (he : e ∈ r.expressions) (hraw : e.raw = braced (c :: rest))
    (hc : c.isUpper = true) (ctx : Context) :
    expandSingle ctx e.raw = e.expand ctx ∧
      e.expand ctx = (expandSingle ctx (braced (c.toLower :: rest))).map fun s => String.ofList (encode s.toList) := by
  obtain ⟨body, hbrace, hbody, hmeans⟩ := exists_body hread he
  obtain rfl : c :: rest = body := braced_injective (hraw.symm.trans hbody)
  rw [hraw, expandSingle_braced hbrace hmeans]
  refine ⟨rfl, ?_⟩
  obtain ⟨c', rest', hcons, hmeans⟩ := readBody_iff.mp hmeans
  obtain ⟨rfl, rfl⟩ := List.cons.inj hcons
  rw [expandSingle_braced (hmeans.brace_not_mem hbrace) (readBody_iff.mpr ⟨_, _, rfl, hmeans.lowered⟩)]
  have hencoded : e.transformers.encoded = true := hmeans.encoded.trans hc
  show (ctx.field e.letter).bind e.transformers.apply = ((ctx.field e.letter).bind e.transformers.bare.apply).map _
  cases ctx.field e.letter with
  | error cause => rfl
  | ok v => exact Transformers.apply_encoded hencoded v

/-- An expression with a capital letter expands if it does with the small one. Its expansion, which is the same in the
text as alone, has unreserved characters and encoded bytes only, and decodes to the expansion with the small letter. -/
theorem encoded_expansion_decodes (hread : read text = .ok r) (he : e ∈ r.expressions) (hraw : e.raw = braced (c :: rest))
    (hc : c.isUpper = true) (ctx : Context) :
    ((∃ s, e.expand ctx = .ok s) ↔ ∃ plain, expandSingle ctx (braced (c.toLower :: rest)) = .ok plain) ∧
      ∀ s, e.expand ctx = .ok s → expandSingle ctx e.raw = .ok s ∧ Encoded s.toList ∧
        ∃ plain, expandSingle ctx (braced (c.toLower :: rest)) = .ok plain ∧ decodeText? s.toList = some plain := by
  obtain ⟨halone, hexpand⟩ := expand_encoded hread he hraw hc ctx
  rw [halone, hexpand]
  constructor
  · constructor
    · rintro ⟨s, hs⟩
      obtain ⟨plain, hplain, -⟩ := map_eq_ok hs
      exact ⟨plain, hplain⟩
    · rintro ⟨plain, hplain⟩
      rw [hplain]
      exact ⟨_, rfl⟩
  · intro s hs
    obtain ⟨plain, hplain, rfl⟩ := map_eq_ok hs
    refine ⟨hs, ?_, plain, hplain, ?_⟩
    · rw [String.toList_ofList]
      exact encoded_encode plain.toList
    · rw [String.toList_ofList, decodeText?_encode, String.ofList_toList]

/-- A local part with an umlaut, a space and a percent sign, turned around at its plus sign. -/
theorem encoded_expansion_decodes_umlaut : ∃ (ctx : Context) (r : Reading) (e : Expression),
    read "x %\x7bLr+\x7d" = .ok r ∧ e ∈ r.expressions ∧ e.raw = braced ('L' :: ['r', '+']) ∧ 'L'.isUpper = true ∧
      e.expand ctx = .ok "a%20b%25.j%C3%BC" ∧ expandSingle ctx (braced ('l' :: ['r', '+'])) = .ok "a b%.jü" ∧
      Encoded "a%20b%25.j%C3%BC".toList ∧ decodeText? "a%20b%25.j%C3%BC".toList = some "a b%.jü" := by
  let ctx : Context := ⟨fun _ => .str "jü+a b%@c.example"⟩
  let e : Expression := ⟨braced ['L', 'r', '+'], 2, .localPart, ⟨none, true, ['+'], true⟩⟩
  have hread : read "x %\x7bLr+\x7d" = .ok ⟨[.plain 'x', .plain ' ', .expression e], []⟩ := by decide +kernel
  have he : e ∈ (⟨[.plain 'x', .plain ' ', .expression e], []⟩ : Reading).expressions := List.mem_cons_self
  have hs : e.expand ctx = .ok "a%20b%25.j%C3%BC" := by decide +kernel
  have hplain : expandSingle ctx (braced ('l' :: ['r', '+'])) = .ok "a b%.jü" := by decide +kernel
  obtain ⟨-, hencoded, plain, hlower, hdecode⟩ := (encoded_expansion_decodes hread he rfl (by decide) ctx).2 _ hs
  obtain rfl : plain = "a b%.jü" := Except.ok.inj (hlower.symm.trans hplain)
  exact ⟨ctx, _, e, hread, he, rfl, by decide, hs, hplain, hencoded, hdecode⟩

end SenderPolicy.MacroString
