/-
  SenderPolicy.Proofs.MacroString.SenderMailbox — the sender and its two parts.

  A sender is cut at its last `@`; without one it is all domain. If nothing is in front, `postmaster` stands for the
  local part, but the sender as a whole stays as it was given and does not say so.
  - `exists_mailbox`, `Mailbox.senderParts`: every sender has the parts that it is cut into.
  - `sender_composed_iff`: the whole is its parts put together if there is a local part, and only then.
-/

import SenderPolicy.Proofs.MacroString.Letters

namespace SenderPolicy.MacroString

/-! ## Parts -/

/-- What is in front of and behind the last `@` of a sender; without one, all of it is domain. -/
inductive Mailbox : List Char → List Char → List Char → Prop where
  | parted {before domain : List Char} : '@' ∉ domain → Mailbox (before ++ '@' :: domain) before domain
  | bare {domain : List Char} : '@' ∉ domain → Mailbox domain [] domain

variable {sender before domain : List Char}

theorem senderParts_parted (h : '@' ∉ domain) : Context.senderParts (before ++ '@' :: domain) = (before, domain) := by
  have hfree : ∀ c ∈ domain.reverse, (c != '@') = true := fun c hc =>
    bne_iff_ne.mpr fun e => h (List.mem_reverse.mp (e ▸ hc))
  have hreverse : (before ++ '@' :: domain).reverse = domain.reverse ++ '@' :: before.reverse := by simp
  have hdrop : (domain.reverse ++ '@' :: before.reverse).dropWhile (· != '@') = '@' :: before.reverse := by
    rw [List.dropWhile_append_of_pos hfree]
    rfl
  have htake : (domain.reverse ++ '@' :: before.reverse).takeWhile (· != '@') = domain.reverse := by
    rw [List.takeWhile_append_of_pos hfree]
    exact List.append_nil _
  unfold Context.senderParts
  rw [hreverse, hdrop, htake, List.reverse_reverse]
  exact congrArg (·, domain) (List.reverse_reverse before)

theorem senderParts_bare (h : '@' ∉ sender) : Context.senderParts sender = ([], sender) := by
  have hdrop : sender.reverse.dropWhile (· != '@') = [] :=
    List.dropWhile_eq_nil_iff.mpr fun c hc => bne_iff_ne.mpr fun e => h (List.mem_reverse.mp (e ▸ hc))
  unfold Context.senderParts
  rw [hdrop]

theorem Mailbox.senderParts (h : Mailbox sender before domain) : Context.senderParts sender = (before, domain) := by
  cases h with
  | parted h => exact senderParts_parted h
  | bare h => exact senderParts_bare h

theorem exists_mailbox (sender : List Char) : ∃ before domain, Mailbox sender before domain := by
  by_cases hat : '@' ∈ sender
  · obtain ⟨behind, front, hsplit, hbehind⟩ := List.eq_append_cons_of_mem (List.mem_reverse.mpr hat)
    have hsender : sender = front.reverse ++ '@' :: behind.reverse := by
      rw [← List.reverse_reverse sender, hsplit]
      simp
    refine ⟨front.reverse, behind.reverse, ?_⟩
    rw [hsender]
    exact .parted fun h => hbehind (List.mem_reverse.mp h)
  · exact ⟨_, _, .bare hat⟩

/-- Whatever is filled in for a missing local part, the sender is not the two parts with an `@` between them. -/
theorem Mailbox.composed_iff (h : Mailbox sender before domain) {filled : List Char} (hfilled : filled ≠ [])
    (hbefore : before ≠ [] → filled = before) : sender = filled ++ '@' :: domain ↔ before ≠ [] := by
  constructor
  · rintro heq rfl
    -- With nothing in front, what is filled in makes the text longer than the sender.
    have hlength := congrArg List.length heq
    have hpos := List.length_pos_iff.mpr hfilled
    cases h <;> simp only [List.length_append, List.length_cons, List.length_nil] at hlength <;> omega
  · intro hne
    rw [hbefore hne]
    cases h with
    | parted _ => rfl
    | bare _ => exact absurd rfl hne

/-! ## Letters -/

variable {ctx : Context} {text b d : String}

theorem exists_mailbox_text (text : String) : ∃ b d : String, Mailbox text.toList b.toList d.toList := by
  obtain ⟨before, domain, h⟩ := exists_mailbox text.toList
  exact ⟨String.ofList before, String.ofList domain, by rwa [String.toList_ofList, String.toList_ofList]⟩

theorem sender_text (hctx : ctx.get .senderEmail = .str text) (hne : text ≠ "") {l : Letter} (hl : l.field = .senderEmail) :
    ctx.sender l = .ok text := by
  unfold Context.sender
  rw [require_text (by rw [hl, hctx]) hne]
  rfl

theorem field_sender (hctx : ctx.get .senderEmail = .str text) (hne : text ≠ "") : ctx.field .sender = .ok (.str text) := by
  unfold Context.field
  dsimp only
  rw [sender_text hctx hne rfl]
  rfl

theorem field_localPart (hctx : ctx.get .senderEmail = .str text) (hne : text ≠ "") (h : Mailbox text.toList b.toList d.toList) :
    ctx.field .localPart = .ok (.str (if b = "" then "postmaster" else b)) := by
  unfold Context.field
  dsimp only
  rw [sender_text hctx hne rfl]
  show Except.ok (Json.str (if (Context.senderParts text.toList).1.isEmpty then "postmaster"
    else String.ofList (Context.senderParts text.toList).1)) = _
  rw [h.senderParts]
  simp

theorem field_senderDomain (hctx : ctx.get .senderEmail = .str text) (hne : text ≠ "") (h : Mailbox text.toList b.toList d.toList) :
    ctx.field .senderDomain = if d = "" then .error (.noDomainPart text) else .ok (.str d) := by
  unfold Context.field
  dsimp only
  rw [sender_text hctx hne rfl]
  show (if (Context.senderParts text.toList).2.isEmpty then Except.error (ExpansionError.noDomainPart text)
    else Except.ok (Json.str (String.ofList (Context.senderParts text.toList).2))) = _
  rw [h.senderParts]
  simp

theorem expandText_senderDomain (hctx : ctx.get .senderEmail = .str text) (hne : text ≠ "") (h : Mailbox text.toList b.toList d.toList) :
    expandText ctx "%\x7bo\x7d" = if d = "" then .error (.noDomainPart text) else .ok d := by
  refine (expandText_bare ctx .senderDomain).trans ?_
  rw [field_senderDomain hctx hne h]
  split
  · rfl
  · exact Transformers.apply_dots d

/-- If the domain of a sender expands, so do the sender and its local part, for which `postmaster` stands if there is
none. The sender is the local part, an `@` and the domain exactly if it has a local part of its own. -/
theorem sender_composed_iff (hctx : ctx.get .senderEmail = .str text) (hne : text ≠ "") {o : String}
    (ho : expandText ctx "%\x7bo\x7d" = .ok o) : ∃ b l : String, Mailbox text.toList b.toList o.toList ∧
      expandText ctx "%\x7bs\x7d" = .ok text ∧ expandText ctx "%\x7bl\x7d" = .ok l ∧
      l = (if b = "" then "postmaster" else b) ∧ (text = l ++ "@" ++ o ↔ b ≠ "") := by
  obtain ⟨b, d, h⟩ := exists_mailbox_text text
  have hd := expandText_senderDomain hctx hne h
  rw [ho] at hd
  split at hd
  · cases hd
  obtain rfl : o = d := Except.ok.inj hd
  refine ⟨b, _, h, expandText_bare_text (l := .sender) (field_sender hctx hne),
    expandText_bare_text (l := .localPart) (field_localPart hctx hne h), rfl, ?_⟩
  have hfilled : (if b = "" then "postmaster" else b).toList ≠ [] := by
    split
    · decide
    · rename_i hb
      rwa [ne_eq, String.toList_eq_nil_iff]
  have hcomposed := h.composed_iff hfilled fun hb => by rw [if_neg fun e => hb (by rw [e]; rfl)]
  rw [← String.toList_inj]
  simpa using hcomposed

/-- A sender with two `@`, of which the last is the one that counts. -/
theorem sender_composed_iff_twice : ∃ ctx : Context, ctx.get .senderEmail = .str "a@b@c.example" ∧
    expandText ctx "%\x7bo\x7d" = .ok "c.example" ∧ expandText ctx "%\x7bs\x7d" = .ok "a@b@c.example" := by
  have ho : expandText ⟨fun _ => .str "a@b@c.example"⟩ "%\x7bo\x7d" = .ok "c.example" := by decide +kernel
  obtain ⟨-, -, -, hs, -⟩ := sender_composed_iff rfl (by decide) ho
  exact ⟨_, rfl, ho, hs⟩

/-- Nothing in front of the `@`: `postmaster` stands for the local part, but not in the sender. -/
theorem postmaster_is_not_in_the_sender : ∃ ctx : Context, ctx.get .senderEmail = .str "@example.com" ∧
    expandText ctx "%\x7bo\x7d" = .ok "example.com" ∧ expandText ctx "%\x7bl\x7d" = .ok "postmaster" ∧
    expandText ctx "%\x7bs\x7d" = .ok "@example.com" ∧ "@example.com" ≠ "postmaster" ++ "@" ++ "example.com" :=
  ⟨⟨fun _ => .str "@example.com"⟩, rfl, by decide +kernel, by decide +kernel, by decide +kernel, by decide⟩

end SenderPolicy.MacroString
