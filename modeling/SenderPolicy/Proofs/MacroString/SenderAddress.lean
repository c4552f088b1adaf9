/-
  SenderPolicy.Proofs.MacroString.SenderAddress — the sender address, as macro-strings write it.

  An address is written as the digits of its value: octets in decimal for IPv4 and nibbles in hexadecimal for
  IPv6, with dots between them, or all hexadecimal digits in a row. Turned around and with the name of the family
  behind it, it is a name in the DNS. All of them go by the value, so the spelling of the address has no part in it.
  - `hexFixed_positional`, `octets_positional`: the digits of a value, most significant first.
  - `labelledBy_addressLabels`: the labels of an address are its digits.
  - `LabelledBy.unique`: the labels and the family tell the address.
  - `sender_address_written`: what the letters for the sender address expand to.
-/

import Mathlib.Data.Nat.Digits.Defs
import SenderPolicy.Proofs.Address.Spelling
import SenderPolicy.Proofs.MacroString.Letters

namespace SenderPolicy

open Text

/-! ## Digits -/

/-- So many digits to a base, the most significant first, that make up a value. -/
structure Positional (base count value : Nat) (ds : List Nat) : Prop where
  length : ds.length = count
  lt : ∀ d ∈ ds, d < base
  value : Nat.ofDigits base ds.reverse = value

namespace Positional

variable {base count m n : Nat} {ds es : List Nat}

/-- Digits that can be read back tell the value. -/
theorem value_unique {write : Nat → List Char} (read : List Char → Option Nat) (hread : ∀ d < base, read (write d) = some d)
    (hm : Positional base count m ds) (hn : Positional base count n es) (h : ds.map write = es.map write) : m = n := by
  have hback : ∀ {k cs}, Positional base count k cs → (cs.map write).map read = cs.map some := by
    intro k cs hk
    rw [List.map_map]
    exact List.map_congr_left fun d hd => hread d (hk.lt d hd)
  have hsome : ds.map some = es.map some := by rw [← hback hm, ← hback hn, h]
  have hdigits : ds = es := List.map_injective_iff.mpr (Option.some_injective _) hsome
  rw [← hm.value, ← hn.value, hdigits]

end Positional

theorem hexFixed_positional {width n : Nat} (h : n < 16 ^ width) :
    ∃ ds, Positional 16 width n ds ∧ hexFixed width n = ds.map hexDigit := by
  induction width generalizing n with
  | zero =>
    obtain rfl : n = 0 := by simpa using h
    exact ⟨[], ⟨rfl, by simp, rfl⟩, rfl⟩
  | succ w ih =>
    obtain ⟨ds, hds, heq⟩ := ih (n := n / 16) (Nat.div_lt_of_lt_mul (by rwa [Nat.mul_comm, ← Nat.pow_succ]))
    refine ⟨ds ++ [n % 16], ⟨?_, ?_, ?_⟩, ?_⟩
    · rw [List.length_append, hds.length, List.length_singleton]
    · intro d hd
      rcases List.mem_append.mp hd with hd | hd
      · exact hds.lt d hd
      · rw [List.mem_singleton.mp hd]
        exact Nat.mod_lt _ (by decide)
    · rw [List.reverse_append, List.reverse_singleton, List.singleton_append, Nat.ofDigits_cons, hds.value]
      exact Nat.mod_add_div n 16
    · rw [hexFixed, heq, List.map_append, List.map_singleton]

theorem octets_positional {n : Nat} (h : n < span 32) : Positional 256 4 n (Address.octets n) where
  length := rfl
  lt := octets_lt n
  value := by
    have h' : n < 4294967296 := h
    show n % 256 + 256 * (n / 256 % 256 + 256 * (n / 65536 % 256 + 256 * (n / 16777216 % 256 + 256 * 0))) = n
    omega

/-! ## Labels -/

/-- What stands behind the labels of an address in the DNS. -/
def Family.label : Family → String
  | .v4 => "in-addr"
  | .v6 => "ip6"

theorem Family.label_injective : Function.Injective Family.label := by
  intro f g h
  cases f <;> cases g <;> first | rfl | exact absurd h (by decide)

theorem Family.dot_not_mem_label (f : Family) : '.' ∉ f.label.toList := by cases f <;> decide

namespace Address

/-- The labels of an address, most significant first: four octets in decimal or thirty-two nibbles in lower-case
hexadecimal. -/
def LabelledBy (a : Address) (ls : List (List Char)) : Prop :=
  match a.family with
  | .v4 => ∃ os, Positional 256 4 a.value os ∧ ls = os.map (Nat.toDigits 10)
  | .v6 => ∃ ds, Positional 16 32 a.value ds ∧ ls = ds.map fun d => [hexDigit d]

theorem hexDigit_ne_dot : ∀ d < 16, hexDigit d ≠ '.' := by decide

namespace LabelledBy

variable {a b : Address} {ls : List (List Char)}

theorem noDot (h : a.LabelledBy ls) : ∀ l ∈ ls, '.' ∉ l := by
  intro l hl
  unfold LabelledBy at h
  split at h
  · obtain ⟨os, -, rfl⟩ := h
    obtain ⟨o, -, rfl⟩ := List.mem_map.mp hl
    exact not_mem_toDigits (by decide) o
  · obtain ⟨ds, hds, rfl⟩ := h
    obtain ⟨d, hd, rfl⟩ := List.mem_map.mp hl
    exact fun hm => hexDigit_ne_dot d (hds.lt d hd) (List.mem_singleton.mp hm).symm

theorem ne_nil (h : a.LabelledBy ls) : ls ≠ [] := by
  rintro rfl
  unfold LabelledBy at h
  split at h
  · obtain ⟨os, hos, heq⟩ := h
    rw [List.map_eq_nil_iff.mp heq.symm] at hos
    exact absurd hos.length (by decide)
  · obtain ⟨ds, hds, heq⟩ := h
    rw [List.map_eq_nil_iff.mp heq.symm] at hds
    exact absurd hds.length (by decide)

/-- The labels and the family tell the address. -/
theorem unique (ha : a.LabelledBy ls) (hb : b.LabelledBy ls) (hfamily : a.family = b.family) (hscope : a.scope = b.scope) :
    a = b := by
  obtain ⟨family, m, scope, hm⟩ := a
  obtain ⟨family', n, scope', hn⟩ := b
  obtain rfl : family = family' := hfamily
  obtain rfl : scope = scope' := hscope
  have hvalue : m = n := by
    cases family with
    | v4 =>
      obtain ⟨os, hos, hls⟩ := ha
      obtain ⟨os', hos', hls'⟩ := hb
      exact hos.value_unique (fun cs => (readOctet cs).toOption) octet_reads_back hos' (hls.symm.trans hls')
    | v6 =>
      obtain ⟨ds, hds, hls⟩ := ha
      obtain ⟨ds', hds', hls'⟩ := hb
      exact hds.value_unique (fun cs => cs.head?.bind hexValue?) hexValue?_hexDigit hds' (hls.symm.trans hls')
  subst hvalue
  rfl

end LabelledBy

end Address

namespace MacroString

open Address (LabelledBy)

theorem labelledBy_addressLabels {a : Address} (ha : a.scope = none) :
    ∃ ls, a.LabelledBy ls ∧ addressLabels a = .ok (String.ofList (List.intercalate ['.'] ls)) := by
  obtain ⟨family, n, scope, hn⟩ := a
  obtain rfl : scope = none := ha
  cases family with
  | v4 => exact ⟨_, ⟨_, octets_positional hn, rfl⟩, rfl⟩
  | v6 =>
    obtain ⟨ds, hds, heq⟩ := @hexFixed_positional 32 n (by simpa [span, Family.width] using hn)
    refine ⟨_, ⟨ds, hds, rfl⟩, ?_⟩
    show Except.ok (String.ofList (List.intercalate ['.'] ((hexFixed 32 n).map ([·])))) = _
    rw [heq, List.map_map]
    rfl

/-! ## Letters -/

variable {ctx : Context} {text : String} {a : Address}

theorem address_spelled (hctx : ctx.get .senderIp = .str text) (ha : Address.Spells text.toList a) {l : Letter}
    (hl : l.field = .senderIp) : ctx.address l = .ok a := by
  have hread : Context.address? (.str text) = some a := Address.ofText?_spelled ha
  have hne : text ≠ "" := by
    rintro rfl
    cases hread
  unfold Context.address
  rw [require_text (by rw [hl, hctx]) hne]
  dsimp only [bind, Except.bind]
  rw [hread]

theorem field_version (hctx : ctx.get .senderIp = .str text) (ha : Address.Spells text.toList a) :
    ctx.field .version = .ok (.str a.family.label) := by
  unfold Context.field
  dsimp only
  rw [address_spelled hctx ha rfl]
  show Except.ok (Json.str _) = _
  cases a.family <;> rfl

theorem field_ip (hctx : ctx.get .senderIp = .str text) (ha : Address.Spells text.toList a) :
    ∃ ls, a.LabelledBy ls ∧ ctx.field .ip = .ok (.str (String.ofList (List.intercalate ['.'] ls))) := by
  obtain ⟨ls, hls, hlabels⟩ := labelledBy_addressLabels ha.unscoped
  refine ⟨ls, hls, ?_⟩
  unfold Context.field
  dsimp only
  rw [address_spelled hctx ha rfl]
  show (addressLabels a).map Json.str = _
  rw [hlabels]
  rfl

theorem field_clientIp (hctx : ctx.get .senderIp = .str text) (ha : Address.Spells text.toList a) :
    ∃ ds, Positional 16 (a.family.width / 4) a.value ds ∧
      ctx.field .clientIp = .ok (.str (String.ofList (ds.map fun d => (hexDigit d).toUpper))) := by
  have hlt : a.value < 16 ^ (a.family.width / 4) := by
    refine lt_of_lt_of_eq a.value_lt ?_
    cases a.family <;> decide
  obtain ⟨ds, hds, heq⟩ := hexFixed_positional hlt
  refine ⟨ds, hds, ?_⟩
  unfold Context.field
  dsimp only
  rw [address_spelled hctx ha rfl]
  show Except.ok (Json.str (String.ofList ((hexFixed (a.family.width / 4) a.value).map Char.toUpper))) = _
  rw [heq, List.map_map]
  rfl

/-! ## Expansions -/

theorem splitOn_reversed {ls : List (List Char)} (hls : a.LabelledBy ls) :
    (List.intercalate ['.'] ls.reverse).splitOn '.' = ls.reverse := by
  refine List.splitOn_intercalate '.' (fun l hl => hls.noDot l (List.mem_reverse.mp hl)) ?_
  rw [ne_eq, List.reverse_eq_nil_iff]
  exact hls.ne_nil

/-- The labels in reverse order. -/
theorem expand_reversed {e : Expression} (hletter : e.letter = .ip) (htransformers : e.transformers = .reversedDots)
    {ls : List (List Char)} (hls : a.LabelledBy ls) (hfield : ctx.field .ip = .ok (.str (String.ofList (List.intercalate ['.'] ls)))) :
    e.expand ctx = .ok (String.ofList (List.intercalate ['.'] ls.reverse)) := by
  show (ctx.field e.letter).bind e.transformers.apply = _
  rw [hletter, htransformers, hfield]
  show Except.ok (String.ofList (Transformers.reversedDots.transform (String.ofList _).toList)) = _
  rw [Transformers.transform_reversedDots, String.toList_ofList, List.splitOn_intercalate '.' hls.noDot hls.ne_nil]

theorem expandText_reversed (hctx : ctx.get .senderIp = .str text) (ha : Address.Spells text.toList a) :
    ∃ out, expandText ctx "%\x7bir\x7d" = .ok out ∧ a.LabelledBy (out.toList.splitOn '.').reverse := by
  obtain ⟨ls, hls, hfield⟩ := field_ip hctx ha
  have hread : read "%\x7bir\x7d" = .ok ⟨[.expression ⟨"%\x7bir\x7d", 0, .ip, .reversedDots⟩], []⟩ := by decide +kernel
  refine ⟨_, (expandText_single hread).trans (expand_reversed rfl rfl hls hfield), ?_⟩
  rw [String.toList_ofList, splitOn_reversed hls, List.reverse_reverse]
  exact hls

/-- The name of the address in the DNS: its labels in reverse order, and its family. -/
theorem expandText_reverseName (hctx : ctx.get .senderIp = .str text) (ha : Address.Spells text.toList a) :
    ∃ ls out, a.LabelledBy ls ∧ expandText ctx "%\x7bir\x7d.%\x7bv\x7d" = .ok out ∧
      out.toList.splitOn '.' = ls.reverse ++ [a.family.label.toList] := by
  obtain ⟨ls, hls, hfield⟩ := field_ip hctx ha
  have hread : read "%\x7bir\x7d.%\x7bv\x7d" = .ok ⟨[.expression ⟨"%\x7bir\x7d", 0, .ip, .reversedDots⟩, .plain '.',
      .expression ⟨"%\x7bv\x7d", 6, .version, .dots⟩], []⟩ := by decide +kernel
  have hversion : Piece.expand ctx (.expression ⟨"%\x7bv\x7d", 6, .version, .dots⟩) = .ok a.family.label := by
    show (ctx.field .version).bind Transformers.dots.apply = _
    rw [field_version hctx ha]
    exact Transformers.apply_dots _
  refine ⟨ls, _, hls, (expandText_of_read hread rfl).trans
    (expandPieces_cons (expand_reversed rfl rfl hls hfield) (expandPieces_cons rfl (expandPieces_cons hversion rfl))), ?_⟩
  have htext : (String.ofList (List.intercalate ['.'] ls.reverse) ++ ('.'.toString ++ (a.family.label ++ ""))).toList
      = List.intercalate ['.'] ls.reverse ++ '.' :: a.family.label.toList := by simp
  rw [htext, List.splitOn_append_cons_self, splitOn_reversed hls, List.splitOn_eq_singleton a.family.dot_not_mem_label]

/-- The letters for the sender address write it faithfully, however it is spelled: `v` its family, a reversed `i` its
octets or nibbles, least significant first, and `c` all its hexadecimal digits in upper case. Two senders of one name
in the DNS are the same address. -/
theorem sender_address_written (hctx : ctx.get .senderIp = .str text) (ha : Address.Spells text.toList a) :
    (expandText ctx "%\x7bv\x7d" = .ok "in-addr" ↔ a.family = .v4) ∧
    (expandText ctx "%\x7bv\x7d" = .ok "ip6" ↔ a.family = .v6) ∧
    (∃ out, expandText ctx "%\x7bir\x7d" = .ok out ∧ a.LabelledBy (out.toList.splitOn '.').reverse) ∧
    (∃ ds, Positional 16 (a.family.width / 4) a.value ds ∧
      expandText ctx "%\x7bc\x7d" = .ok (String.ofList (ds.map fun d => (hexDigit d).toUpper))) ∧
    ∃ out, expandText ctx "%\x7bir\x7d.%\x7bv\x7d" = .ok out ∧
      ∀ (ctx' : Context) (text' : String) (a' : Address), ctx'.get .senderIp = .str text' → Address.Spells text'.toList a' →
        expandText ctx' "%\x7bir\x7d.%\x7bv\x7d" = .ok out → a' = a := by
  have hversion : ∀ f : Family, expandText ctx "%\x7bv\x7d" = .ok f.label ↔ a.family = f := by
    intro f
    rw [show expandText ctx "%\x7bv\x7d" = .ok a.family.label from expandText_bare_text (l := .version) (field_version hctx ha),
      Except.ok.injEq]
    exact Family.label_injective.eq_iff
  refine ⟨hversion .v4, hversion .v6, expandText_reversed hctx ha, ?_, ?_⟩
  · obtain ⟨ds, hds, hfield⟩ := field_clientIp hctx ha
    exact ⟨ds, hds, expandText_bare_text (l := .clientIp) hfield⟩
  · obtain ⟨ls, out, hls, hout, hsplit⟩ := expandText_reverseName hctx ha
    refine ⟨out, hout, fun ctx' text' a' hctx' ha' hout' => ?_⟩
    obtain ⟨ls', out', hls', hsame, hsplit'⟩ := expandText_reverseName hctx' ha'
    obtain rfl : out = out' := Except.ok.inj (hout'.symm.trans hsame)
    obtain ⟨hreverse, hlabel⟩ := List.append_singleton_inj.mp (hsplit'.symm.trans hsplit)
    obtain rfl : ls' = ls := List.reverse_inj.mp hreverse
    have hfamily : a'.family = a.family := Family.label_injective (String.toList_inj.mp hlabel)
    exact hls'.unique hls hfamily (ha'.unscoped.trans ha.unscoped.symm)

/-- An IPv6 address that ends in a dotted quad. -/
theorem sender_address_written_embedded : ∃ ctx : Context, ctx.get .senderIp = .str "::FFFF:192.0.2.3" ∧
    Address.Spells "::FFFF:192.0.2.3".toList (.ofNat .v6 0xffffc0000203 none) ∧
    expandText ctx "%\x7bv\x7d" = .ok "ip6" ∧
    expandText ctx "%\x7bir\x7d" = .ok "3.0.2.0.0.0.0.c.f.f.f.f.0.0.0.0.0.0.0.0.0.0.0.0.0.0.0.0.0.0.0.0" ∧
    expandText ctx "%\x7bc\x7d" = .ok "00000000000000000000FFFFC0000203" := by
  have ha : Address.Spells "::FFFF:192.0.2.3".toList (.ofNat .v6 0xffffc0000203 none) := .v6 (Address.readV6_iff.mp (by rfl))
  refine ⟨⟨fun _ => .str "::FFFF:192.0.2.3"⟩, rfl, ha, ?_, ?_, ?_⟩
  · exact (sender_address_written rfl ha).2.1.mpr rfl
  · decide +kernel
  · decide +kernel

end MacroString

end SenderPolicy
