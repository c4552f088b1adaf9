/-
  SenderPolicy.Proofs.Flatten.Contributions — what each term of a record adds to its result.

  A source that answers or fails, each question anew, never interrupts a record. Then every name that addresses are
  looked up for adds the networks around all of them, or nothing but one error: a question that fails, an answer that
  is no address and one that cannot be widened all come to the same, however many others are right. The names of one
  record do not touch each other.
  - `addressBranch_contributes`: one name, from one memory to the next.
  - `mxBranch_contributes`: the exchanges of a name, each by itself.
  - `ofTerm_contributes`: every term, whatever it is.
  - `address_terms_all_or_nothing`: what is reported for a record is what its terms contribute.
-/

import SenderPolicy.Proofs.Dns.Reordering
import SenderPolicy.Proofs.Flatten.Masking
import SenderPolicy.Proofs.Flatten.Reach
import SenderPolicy.Proofs.Flatten.Zones

namespace SenderPolicy.Flatten

open Dns Policy
open Mechanism (Kind)

variable {σ α β : Type} {ask : Ask (StateM σ)} {s s₁ s' : σ} {v4 v6 : Option String} {ts sorted : List String} {o : Outcome}

/-! ## Sources that answer or fail -/

/-- Every question is answered or fails, whenever it is put. -/
def Replies (ask : Ask (StateM σ)) : Prop :=
  ∀ q s, (∃ texts, ((ask q).run s).1 = .answers texts) ∨ ∃ f, ((ask q).run s).1 = .failed f

theorem replies_of_steady {z : Question → Outcome} (hz : Steady z) : Replies (fun q => pure (z q) : Ask (StateM σ)) :=
  fun q _ => hz q

theorem run_run_bind {x : Lookup (StateM σ) α} {f : α → Lookup (StateM σ) β} {a : α} (h : x.run.run s = (.ok a, s')) :
    (x >>= f).run.run s = (f a).run.run s' := by
  rw [ExceptT.run_bind]
  exact run_bind_eq h

theorem run_run_ask {q : Question} (h : (ask q).run s = (o, s')) :
    (liftM (ask q) : Lookup (StateM σ) Outcome).run.run s = (.ok o, s') := by
  show (Except.ok <$> ask q).run s = _
  rw [StateT.run_map, h]
  rfl

theorem texts_replied (hask : Replies ask) {name type : String} (h : (ask ⟨name, type⟩).run s = (o, s')) :
    (∃ ts, o = .answers ts ∧ (texts ask name type).run.run s = (.ok (.ok ts), s')) ∨
      ∃ f, o = .failed f ∧ (texts ask name type).run.run s = (.ok (.error f), s') := by
  have hreply := hask ⟨name, type⟩ s
  rw [h] at hreply
  unfold texts
  rw [run_run_bind (run_run_ask h)]
  rcases hreply with ⟨ts, rfl⟩ | ⟨f, rfl⟩
  · exact .inl ⟨ts, rfl, rfl⟩
  · exact .inr ⟨f, rfl, rfl⟩

/-- The texts that an outcome gives; a name without records of the type has none. -/
def answered? : Outcome → Option (List String)
  | .answers ts => some ts
  | .failed f => if f.kind = .noAnswer then some [] else none
  | _ => none

theorem someTexts_replied (hask : Replies ask) {name type : String} (h : (ask ⟨name, type⟩).run s = (o, s')) :
    ∃ r, (someTexts ask name type).run.run s = (.ok r, s') ∧ r.toOption = answered? o := by
  unfold someTexts
  rcases texts_replied hask h with ⟨ts, rfl, hrun⟩ | ⟨f, rfl, hrun⟩
  · rw [run_run_bind hrun]
    exact ⟨.ok ts, rfl, rfl⟩
  · rw [run_run_bind hrun, answered?]
    dsimp only
    split
    · exact ⟨.ok [], rfl, rfl⟩
    · exact ⟨.error f, rfl, rfl⟩

/-! ## One name -/

/-- All that is wanted and no trouble, or nothing and one trouble. -/
inductive AllOrNothing : Option (List Network) → Branch → Prop where
  | all {wanted : List Network} {part : Branch} : part.networks.Perm wanted → part.troubles = [] → AllOrNothing (some wanted) part
  | nothing {part : Branch} {t : Trouble} : part.networks = [] → part.troubles = [t] → AllOrNothing none part

theorem AllOrNothing.failure (domain : String) (cause : Cause) : AllOrNothing none (.failure domain cause) := .nothing rfl rfl

/-- The networks around all addresses, if every text is an address that can be widened. -/
def widenAll? (v4 v6 : Option String) (ts : List String) : Option (List Network) :=
  if ∀ t ∈ ts, (mask v4 v6 t).toOption.isSome = true then some (ts.filterMap fun t => (mask v4 v6 t).toOption) else none

/-- All answers for a name, of both families. -/
def answersAt (ask : Ask (StateM σ)) (name : String) : StateM σ (Option (List String)) := do
  match answered? (← ask ⟨name, "A"⟩) with
  | none => return none
  | some ts => return (answered? (← ask ⟨name, "AAAA"⟩)).map (ts ++ ·)

/-- What a name contributes between two memories: the networks around all its addresses, or one trouble. -/
def NamePart (ask : Ask (StateM σ)) (v4 v6 : Option String) (name : String) (s : σ) (part : Branch) (s' : σ) : Prop :=
  ∃ answers, (answersAt ask name).run s = (answers, s') ∧ AllOrNothing (answers.bind (widenAll? v4 v6)) part

theorem isSome_mask_iff {t : String} : (mask v4 v6 t).toOption.isSome = true ↔ ∃ n, mask v4 v6 t = .ok n := by
  cases mask v4 v6 t <;> simp [Except.toOption]

theorem filterMap_masked {ns : List Network} (h : List.Forall₂ (fun t n => mask v4 v6 t = .ok n) ts ns) :
    ts.filterMap (fun t => (mask v4 v6 t).toOption) = ns := by
  induction h with
  | nil => rfl
  | cons hn _ ih =>
    rw [List.filterMap_cons, hn, ih]
    rfl

/-- In whatever order the texts are widened, all of them are or it fails. -/
theorem widenAll?_perm (v4 v6 : Option String) (hperm : sorted.Perm ts) :
    (∃ ns wanted, maskAll v4 v6 sorted = .ok ns ∧ widenAll? v4 v6 ts = some wanted ∧ ns.Perm wanted) ∨
      ∃ e, maskAll v4 v6 sorted = .error e ∧ widenAll? v4 v6 ts = none := by
  have hall : (∃ ns, maskAll v4 v6 sorted = .ok ns) ↔ ∀ t ∈ ts, (mask v4 v6 t).toOption.isSome = true := by
    rw [exists_maskAll_iff]
    exact ⟨fun h t ht => isSome_mask_iff.mpr (h t (hperm.mem_iff.mpr ht)),
      fun h t ht => isSome_mask_iff.mp (h t (hperm.mem_iff.mp ht))⟩
  cases hmask : maskAll v4 v6 sorted with
  | ok ns =>
    refine .inl ⟨ns, _, rfl, if_pos (hall.mp ⟨ns, hmask⟩), ?_⟩
    rw [← filterMap_masked (maskAll_ok hmask)]
    exact hperm.filterMap _
  | error e =>
    refine .inr ⟨e, rfl, if_neg fun h => ?_⟩
    obtain ⟨ns, hns⟩ := hall.mpr h
    rw [hmask] at hns
    cases hns

theorem widenAll?_eq_none (v4 v6 : Option String) {t : String} (ht : t ∈ ts) (h : Address.ofText? t = none) :
    widenAll? v4 v6 ts = none := by
  refine if_neg fun hall => ?_
  obtain ⟨n, hn⟩ := isSome_mask_iff.mp (hall t ht)
  obtain ⟨a, ha, -⟩ := mask_ok hn
  rw [h] at ha
  cases ha

theorem addresses_replied (hask : Replies ask) (name : String) (s : σ) :
    ∃ r answers s', (addresses ask name).run.run s = (.ok r, s') ∧ (answersAt ask name).run s = (answers, s') ∧
      ((∃ ts, answers = some ts ∧ r = checkAddresses name ts) ∨ (answers = none ∧ ∃ f, r = .error f)) := by
  obtain ⟨o4, s₁, hask4⟩ : ∃ o s', (ask ⟨name, "A"⟩).run s = (o, s') := ⟨_, _, rfl⟩
  obtain ⟨o6, s₂, hask6⟩ : ∃ o s', (ask ⟨name, "AAAA"⟩).run s₁ = (o, s') := ⟨_, _, rfl⟩
  obtain ⟨r4, hrun4, hr4⟩ := someTexts_replied hask hask4
  obtain ⟨r6, hrun6, hr6⟩ := someTexts_replied hask hask6
  unfold addresses answersAt
  rw [run_run_bind hrun4, run_bind_eq hask4, ← hr4]
  cases r4 with
  -- The second question is put only if the first is answered.
  | error f => exact ⟨_, _, _, rfl, rfl, .inr ⟨rfl, f, rfl⟩⟩
  | ok ts =>
    dsimp only [Except.toOption]
    rw [run_run_bind hrun6, run_bind_eq hask6, ← hr6]
    cases r6 with
    | error f => exact ⟨_, _, _, rfl, rfl, .inr ⟨rfl, f, rfl⟩⟩
    | ok ts' => exact ⟨_, _, _, rfl, rfl, .inl ⟨_, rfl, rfl⟩⟩

/-- The branch of a name is all or nothing. -/
theorem addressBranch_contributes (hask : Replies ask) (v4 v6 : Option String) (name : String) (s : σ) :
    ∃ part s', (addressBranch ask name v4 v6).run.run s = (.ok part, s') ∧ NamePart ask v4 v6 name s part s' := by
  obtain ⟨r, answers, s', hrun, hanswers, hr⟩ := addresses_replied hask name s
  unfold addressBranch
  rw [run_run_bind hrun]
  rcases hr with ⟨ts, rfl, rfl⟩ | ⟨rfl, f, rfl⟩
  · unfold checkAddresses
    cases hfind : ts.find? fun t => (Address.ofText? t).isNone with
    | some t =>
      have hbad : Address.ofText? t = none := by simpa using List.find?_some hfind
      refine ⟨_, s', rfl, some ts, hanswers, ?_⟩
      rw [Option.bind_some, widenAll?_eq_none v4 v6 (List.mem_of_find?_eq_some hfind) hbad]
      exact .failure _ _
    | none =>
      dsimp only
      rcases widenAll?_perm v4 v6 (Sequence.sort_perm textLe ts) with ⟨ns, wanted, hns, hwanted, hperm⟩ | ⟨e, he, hnone⟩
      · rw [hns]
        refine ⟨_, s', rfl, some ts, hanswers, ?_⟩
        rw [Option.bind_some, hwanted]
        exact .all hperm rfl
      · rw [he]
        refine ⟨_, s', rfl, some ts, hanswers, ?_⟩
        rw [Option.bind_some, hnone]
        exact .failure _ _
  · exact ⟨_, s', rfl, none, hanswers, .failure _ _⟩

/-! ## Exchanges -/

/-- What the things of a list come to, one after the other, each from the memory that the last one left. -/
inductive Chained (step : α → σ → β → σ → Prop) : List α → σ → List β → σ → Prop where
  | nil (s : σ) : Chained step [] s [] s
  | cons {a : α} {as : List α} {b : β} {bs : List β} {s s₁ s₂ : σ} :
      step a s b s₁ → Chained step as s₁ bs s₂ → Chained step (a :: as) s (b :: bs) s₂

theorem chained_mapM {step : α → σ → β → σ → Prop} {f : α → Lookup (StateM σ) β}
    (hstep : ∀ a s, ∃ b s', (f a).run.run s = (.ok b, s') ∧ step a s b s') (as : List α) (s : σ) :
    ∃ bs s', (as.mapM f).run.run s = (.ok bs, s') ∧ Chained step as s bs s' := by
  induction as generalizing s with
  | nil => exact ⟨[], s, rfl, .nil s⟩
  | cons a as ih =>
    obtain ⟨b, s₁, hrun, hb⟩ := hstep a s
    obtain ⟨bs, s₂, hruns, hbs⟩ := ih s₁
    refine ⟨b :: bs, s₂, ?_, .cons hb hbs⟩
    rw [List.mapM_cons, run_run_bind hrun, run_run_bind hruns]
    rfl

/-- The exchanges that the answers for a name give, in any order, if each answer is well-formed. -/
def exchanges? (target : String) : Outcome → Option (List Exchange)
  | .answers ts => (Exchange.readAll target ts).toOption
  | _ => none

/-- What the exchanges of a name contribute: each of the first ten by itself, in order, and one trouble more if there
are others. If the exchanges are not known, nothing and one trouble. -/
inductive MailPart (ask : Ask (StateM σ)) (v4 v6 : Option String) (target : String) (s : σ) : Branch → σ → Prop where
  | unknown {o : Outcome} {part : Branch} {s' : σ} : (ask ⟨target, "MX"⟩).run s = (o, s') → exchanges? target o = none →
      AllOrNothing none part → MailPart ask v4 v6 target s part s'
  | known {o : Outcome} {named es : List Exchange} {parts : List Branch} {part : Branch} {surplus : List Trouble} {s₁ s' : σ} :
      (ask ⟨target, "MX"⟩).run s = (o, s₁) → exchanges? target o = some named → es.Perm named →
      es.Pairwise (Exchange.le · ·) → Chained (fun e => NamePart ask v4 v6 e.host) (es.take 10) s₁ parts s' →
      part.networks = parts.flatMap (·.networks) → part.troubles = surplus ++ parts.flatMap (·.troubles) →
      surplus.length = (if 10 < es.length then 1 else 0) → MailPart ask v4 v6 target s part s'

theorem troubles_join (bs : List Branch) : (Branch.join bs).troubles = bs.flatMap (·.troubles) := by
  induction bs with
  | nil => rfl
  | cons b bs ih => simp [ih]

theorem AllOrNothing.after_lookup {wanted : Option (List Network)} {part : Branch} (h : AllOrNothing wanted part) :
    AllOrNothing wanted (.lookup ++ part) := by
  cases h with
  | all hnetworks htroubles => exact .all hnetworks htroubles
  | nothing hnetworks htroubles => exact .nothing hnetworks htroubles

theorem exchangeBranch_contributes (hask : Replies ask) (v4 v6 : Option String) (e : Exchange) (s : σ) :
    ∃ part s', (exchangeBranch ask v4 v6 e).run.run s = (.ok part, s') ∧ NamePart ask v4 v6 e.host s part s' := by
  obtain ⟨part, s', hrun, answers, hanswers, hpart⟩ := addressBranch_contributes hask v4 v6 e.host s
  unfold exchangeBranch
  rw [run_run_bind hrun]
  exact ⟨_, s', rfl, answers, hanswers, hpart.after_lookup⟩

theorem exchanges_replied (hask : Replies ask) {target : String} (h : (ask ⟨target, "MX"⟩).run s = (o, s')) :
    (∃ f, exchanges? target o = none ∧ (exchanges ask target).run.run s = (.ok (.error f), s')) ∨
      ∃ named, exchanges? target o = some named ∧
        (exchanges ask target).run.run s = (.ok (.ok (Sequence.sort Exchange.le named)), s') := by
  unfold exchanges
  rcases texts_replied hask h with ⟨ts, rfl, hrun⟩ | ⟨f, rfl, hrun⟩
  · rw [run_run_bind hrun]
    show (∃ f, (Exchange.readAll target ts).toOption = none ∧ (Except.ok (Exchange.ofTexts target ts), s') = _) ∨
      ∃ named, (Exchange.readAll target ts).toOption = some named ∧ (Except.ok (Exchange.ofTexts target ts), s') = _
    unfold Exchange.ofTexts
    cases Exchange.readAll target ts with
    | error f => exact .inl ⟨f, rfl, rfl⟩
    | ok named => exact .inr ⟨named, rfl, rfl⟩
  · rw [run_run_bind hrun]
    exact .inl ⟨f, rfl, rfl⟩

theorem surplus_contributes (target : String) (count : Nat) :
    (if count > maxExchanges then Branch.failure target (.tooManyExchanges target) else .empty).networks = [] ∧
      (if count > maxExchanges then Branch.failure target (.tooManyExchanges target) else .empty).troubles.length
        = if 10 < count then 1 else 0 := by
  by_cases hmany : count > maxExchanges
  · rw [if_pos hmany, if_pos (show 10 < count from hmany)]
    exact ⟨rfl, rfl⟩
  · rw [if_neg hmany, if_neg (show ¬ 10 < count from hmany)]
    exact ⟨rfl, rfl⟩

theorem mxBranch_contributes (hask : Replies ask) (v4 v6 : Option String) (target : String) (s : σ) :
    ∃ part s', (mxBranch ask target v4 v6).run.run s = (.ok part, s') ∧ MailPart ask v4 v6 target s part s' := by
  obtain ⟨o, s₁, hmx⟩ : ∃ o s', (ask ⟨target, "MX"⟩).run s = (o, s') := ⟨_, _, rfl⟩
  unfold mxBranch
  rcases exchanges_replied hask hmx with ⟨f, hnone, hrun⟩ | ⟨named, hnamed, hrun⟩
  · rw [run_run_bind hrun]
    exact ⟨_, s₁, rfl, .unknown hmx hnone (.failure _ _)⟩
  · rw [run_run_bind hrun]
    have hperm : (Sequence.sort Exchange.le named).Perm named := Sequence.sort_perm _ _
    have hsorted : (Sequence.sort Exchange.le named).Pairwise (Exchange.le · ·) :=
      Sequence.sort_pairwise Exchange.le_trans Exchange.le_total _
    generalize Sequence.sort Exchange.le named = es at hperm hsorted
    obtain ⟨parts, s', hparts, hchained⟩ := chained_mapM (exchangeBranch_contributes hask v4 v6) (es.take maxExchanges) s₁
    obtain ⟨hnetworks, htroubles⟩ := surplus_contributes target es.length
    dsimp only
    rw [run_run_bind hparts]
    refine ⟨_, s', rfl, .known hmx hnamed hperm hsorted hchained ?_ ?_ htroubles⟩
    · rw [Branch.networks_append, hnetworks, List.nil_append, Branch.networks_join]
    · rw [Branch.troubles_append, troubles_join]

theorem hostsBranch_contributes (hask : Replies ask) (domain : String) (h : Hosts) (s : σ) :
    ∃ part s', (hostsBranch ask domain h).run.run s = (.ok part, s') ∧
      if h.isMx then MailPart ask h.v4 h.v6 (h.target.getD domain) s part s'
      else NamePart ask h.v4 h.v6 (h.target.getD domain) s part s' := by
  unfold hostsBranch
  dsimp only
  split
  · exact mxBranch_contributes hask _ _ _ s
  · exact addressBranch_contributes hask _ _ _ s

/-! ## Terms -/

/-- The network that a value spells, if it is one of the family. -/
def ownNetwork? (family : Family) (value : Option String) : Option Network :=
  (Network.ofText? (Text.strip (value.getD ""))).filter (·.family = family)

/-- What an `a` or `mx` term in the record of a domain contributes, from one memory to the next; nothing if its target
is known only for a message. -/
def HostsPart (ask : Ask (StateM σ)) (domain : String) (isMx : Bool) (t : Term) (s : σ) (part : Branch) (s' : σ) : Prop :=
  let named := Cidr.split t.value
  let target := named.domain.getD domain
  if Step.hasMacro named.domain then s' = s ∧ AllOrNothing (some []) part
  else if isMx then MailPart ask named.v4 named.v6 target s part s'
  else NamePart ask named.v4 named.v6 target s part s'

/-- What a term contributes. -/
def TermPart (ask : Ask (StateM σ)) (domain : String) (t : Term) (s : σ) (part : Branch) (s' : σ) : Prop :=
  match Kind.ofName t.name with
  | .ip4 => s' = s ∧ AllOrNothing ((ownNetwork? .v4 t.value).map ([·])) part
  | .ip6 => s' = s ∧ AllOrNothing ((ownNetwork? .v6 t.value).map ([·])) part
  | .a => HostsPart ask domain false t s part s'
  | .mx => HostsPart ask domain true t s part s'
  | _ => s' = s ∧ part.networks = []

/-- What a step comes to: its branch, if no addresses are looked up for it, or else the branch of these. -/
def Step.ComesTo (ask : Ask (StateM σ)) (domain : String) (step : Step) (s : σ) (part : Branch) (s' : σ) : Prop :=
  (step.hosts? = none ∧ part = step.branch domain ∧ s' = s) ∨
    ∃ h, step.hosts? = some h ∧ (hostsBranch ask domain h).run.run s = (.ok part, s')

theorem ofNetwork_contributes (domain : String) (kind : Kind) (family : Family) (value : Option String) :
    (Step.ofNetwork kind family value).hosts? = none ∧
      AllOrNothing ((ownNetwork? family value).map ([·])) ((Step.ofNetwork kind family value).branch domain) := by
  unfold Step.ofNetwork ownNetwork?
  cases Network.ofText? (Text.strip (value.getD "")) with
  | none => exact ⟨rfl, .failure _ _⟩
  | some n =>
    by_cases hfamily : n.family = family
    · simp only [hfamily, if_true, Option.filter_some, decide_true]
      exact ⟨rfl, .all (List.Perm.refl _) rfl⟩
    · simp only [hfamily, if_false, Option.filter_some, decide_false]
      exact ⟨rfl, .failure _ _⟩

theorem ofHosts_contributes (hask : Replies ask) (domain : String) (isMx : Bool) (t : Term) (s : σ) :
    ∃ part s', (Step.ofHosts isMx t).ComesTo ask domain s part s' ∧ HostsPart ask domain isMx t s part s' := by
  unfold Step.ofHosts HostsPart
  dsimp only
  by_cases hmacro : Step.hasMacro (Cidr.split t.value).domain = true
  · simp only [if_pos hmacro]
    exact ⟨_, s, .inl ⟨rfl, rfl, rfl⟩, rfl, .all (List.Perm.refl _) rfl⟩
  · simp only [if_neg hmacro]
    obtain ⟨part, s', hrun, hpart⟩ := hostsBranch_contributes hask domain
      ⟨isMx, (Cidr.split t.value).domain, (Cidr.split t.value).v4, (Cidr.split t.value).v6⟩ s
    exact ⟨part, s', .inr ⟨_, rfl, hrun⟩, hpart⟩

theorem ofTerm_contributes (hask : Replies ask) (domain : String) (t : Term) (s : σ) :
    ∃ part s', (Step.ofTerm t).ComesTo ask domain s part s' ∧ TermPart ask domain t s part s' := by
  unfold Step.ofTerm TermPart
  cases Kind.ofName t.name with
  | a => exact ofHosts_contributes hask domain false t s
  | mx => exact ofHosts_contributes hask domain true t s
  | ip4 =>
    obtain ⟨hhosts, hpart⟩ := ofNetwork_contributes domain .ip4 .v4 t.value
    exact ⟨_, s, .inl ⟨hhosts, rfl, rfl⟩, rfl, hpart⟩
  | ip6 =>
    obtain ⟨hhosts, hpart⟩ := ofNetwork_contributes domain .ip6 .v6 t.value
    exact ⟨_, s, .inl ⟨hhosts, rfl, rfl⟩, rfl, hpart⟩
  | all | ptr | exist => exact ⟨_, s, .inl ⟨rfl, rfl, rfl⟩, rfl, rfl⟩
  | incl =>
    refine ⟨_, s, .inl ⟨?_, rfl, rfl⟩, rfl, ?_⟩ <;> dsimp only <;> (repeat' split) <;> rfl
  | other name =>
    refine ⟨_, s, .inl ⟨?_, rfl, rfl⟩, rfl, ?_⟩ <;> dsimp only <;> split <;> rfl

/-! ## Records -/

theorem perm_insert {rest own found : List α} (part : List α) (h : rest.Perm (own ++ found)) :
    (part ++ rest).Perm (own ++ (part ++ found)) :=
  (h.append_left part).trans (List.perm_append_comm_assoc part own found)

/-- What the terms of a record give at once, and what is looked up for them afterwards, is what each of them contributes. -/
theorem terms_contribute (hask : Replies ask) (domain : String) (terms : List Term) (s : σ) :
    ∃ hosts parts s',
      ((terms.filterMap fun t => (Step.ofTerm t).hosts?).mapM (hostsBranch ask domain)).run.run s = (.ok hosts, s') ∧
      Chained (TermPart ask domain) terms s parts s' ∧
      (parts.flatMap (·.networks)).Perm
        ((Branch.join (terms.map fun t => (Step.ofTerm t).branch domain)).networks ++ (Branch.join hosts).networks) ∧
      (parts.flatMap (·.troubles)).Perm
        ((Branch.join (terms.map fun t => (Step.ofTerm t).branch domain)).troubles ++ (Branch.join hosts).troubles) := by
  induction terms generalizing s with
  | nil => exact ⟨[], [], s, rfl, .nil s, .nil, .nil⟩
  | cons t terms ih =>
    obtain ⟨part, s₁, hcomes, hpart⟩ := ofTerm_contributes hask domain t s
    obtain ⟨hosts, parts, s', hruns, hparts, hnetworks, htroubles⟩ := ih s₁
    rcases hcomes with ⟨hnone, rfl, rfl⟩ | ⟨h, hsome, hrun⟩
    · refine ⟨hosts, _ :: parts, s', ?_, .cons hpart hparts, ?_, ?_⟩
      · rw [List.filterMap_cons, hnone]
        exact hruns
      · rw [List.flatMap_cons, List.map_cons, Branch.join_cons, Branch.networks_append, List.append_assoc]
        exact hnetworks.append_left _
      · rw [List.flatMap_cons, List.map_cons, Branch.join_cons, Branch.troubles_append, List.append_assoc]
        exact htroubles.append_left _
    -- What is looked up stands behind all that the other terms give at once, but belongs to this one.
    · refine ⟨part :: hosts, part :: parts, s', ?_, .cons hpart hparts, ?_, ?_⟩
      · rw [List.filterMap_cons, hsome]
        dsimp only
        rw [List.mapM_cons, run_run_bind hrun, run_run_bind hruns]
        rfl
      · rw [List.flatMap_cons, List.map_cons, Branch.join_cons, Branch.join_cons, ofTerm_of_hosts? hsome]
        exact perm_insert part.networks hnetworks
      · rw [List.flatMap_cons, List.map_cons, Branch.join_cons, Branch.join_cons, ofTerm_of_hosts? hsome]
        exact perm_insert part.troubles htroubles

theorem troubles_redirectBranch (target : Option String) : (Plan.redirectBranch target).troubles = [] := by
  unfold Plan.redirectBranch
  split
  · rfl
  · split <;> rfl

variable {limits : Limits} {v : Visit} {record : String}

theorem resolve_leaf {hosts : List Branch} {s₂ : σ} (hasks : v.Asks limits)
    (hrecord : (Record.published ask v.domain).run.run s = (.ok (.ok record), s₁)) (hleaf : children limits v record = [])
    (hhosts : ((planOf record).hosts.mapM (hostsBranch ask v.domain)).run.run s₁ = (.ok hosts, s₂)) :
    ((resolve limits ask v).run s).1 = own v record ++ Branch.join hosts := by
  rw [resolve_followed hasks hrecord hhosts, hleaf]
  exact (collected_of_not_silent limits v _ rfl).trans (Branch.append_empty _)

/-- If the source answers or fails, each term of a record before its first `all` contributes its part, one after the
other, and the addresses and errors that are reported for a record that goes on to no other are those of the parts. -/
theorem address_terms_all_or_nothing (hask : Replies ask) (hasks : v.Asks limits)
    (hrecord : (Record.published ask v.domain).run.run s = (.ok (.ok record), s₁)) (hleaf : children limits v record = []) :
    ∃ parts s₂, Chained (TermPart ask v.domain) (live record) s₁ parts s₂ ∧
      (∀ ip, ip ∈ ((resolve limits ask v).run s).1.report.ips ↔ ∃ part ∈ parts, ∃ n ∈ part.networks, n.normal = ip) ∧
      ((resolve limits ask v).run s).1.report.errors.Perm (parts.flatMap fun part => part.troubles.map (·.message)) := by
  obtain ⟨hosts, parts, s₂, hrun, hparts, hnetworks, htroubles⟩ := terms_contribute hask v.domain (live record) s₁
  have hhosts : ((planOf record).hosts.mapM (hostsBranch ask v.domain)).run.run s₁ = (.ok hosts, s₂) := by
    rw [planOf, hosts_ofTerms]
    exact hrun
  have hown : own v record = Branch.join ((live record).map fun t => (Step.ofTerm t).branch v.domain)
      ++ Plan.redirectBranch (planOf record).redirect := branch_ofTerms _
  have hresolved := resolve_leaf hasks hrecord hleaf hhosts
  refine ⟨parts, s₂, hparts, fun ip => ?_, ?_⟩
  · rw [mem_report_ips, hresolved, Branch.networks_append, hown, Branch.networks_append, networks_redirectBranch,
      List.append_nil]
    simp only [← hnetworks.mem_iff, List.mem_flatMap]
    constructor
    · rintro ⟨n, ⟨part, hpart, hn⟩, hip⟩
      exact ⟨part, hpart, n, hn, hip⟩
    · rintro ⟨part, hpart, n, hn, hip⟩
      exact ⟨n, ⟨part, hpart, hn⟩, hip⟩
  · show (((resolve limits ask v).run s).1.troubles.map (·.message)).Perm _
    rw [hresolved, Branch.troubles_append, hown, Branch.troubles_append, troubles_redirectBranch, List.append_nil,
      ← List.map_flatMap]
    exact htroubles.symm.map _

/-- The host itself, two exchanges of which one has an answer that is no address, and a network that is none. -/
def halfReachable : String := "v=spf1 a/24 mx ip4:192.0.2.256 -all"

def halfReachableZone : List (Question × List String) :=
  [(⟨"a.example", "TXT"⟩, [halfReachable]),
   (⟨"a.example", "A"⟩, ["192.0.2.77"]), (⟨"a.example", "AAAA"⟩, []),
   (⟨"a.example", "MX"⟩, ["20 n.example.", "10 m.example."]),
   (⟨"m.example", "A"⟩, ["198.51.100.7"]), (⟨"m.example", "AAAA"⟩, ["2001:db8::7"]),
   (⟨"n.example", "A"⟩, ["203.0.113.1", "203.0.113"]), (⟨"n.example", "AAAA"⟩, [])]

def halfReachableSource : Ask (StateM Unit) := fun q => pure (zone halfReachableZone q)

/-- Of the second exchange nothing is left, though its other answer is an address. -/
theorem address_terms_all_or_nothing_half : ∃ limits : Limits, ∃ v : Visit,
    Replies halfReachableSource ∧ v.Asks limits ∧
    (Record.published halfReachableSource v.domain).run.run () = (.ok (.ok halfReachable), ()) ∧
    children limits v halfReachable = [] ∧
    ∃ parts, Chained (TermPart halfReachableSource v.domain) (live halfReachable) () parts () ∧
      (∀ ip, ip ∈ ["192.0.2.0/24", "198.51.100.7", "2001:db8::7"] ↔ ∃ part ∈ parts, ∃ n ∈ part.networks, n.normal = ip) ∧
      ["a.example: 192.0.2.256 is not a valid ip4 value",
        "n.example: Malformed address answer for n.example: '203.0.113'"].Perm
        (parts.flatMap fun part => part.troubles.map (·.message)) := by
  have hask : Replies halfReachableSource := replies_of_steady (steady_zone halfReachableZone)
  have hasks : Visit.Asks ⟨true, 3, 30, 8⟩ ⟨0, [], "a.example"⟩ := ⟨by decide, by decide, by decide +kernel⟩
  have hrecord : (Record.published halfReachableSource "a.example").run.run () = (.ok (.ok halfReachable), ()) := by
    rfl
  have hleaf : children ⟨true, 3, 30, 8⟩ ⟨0, [], "a.example"⟩ halfReachable = [] := by decide +kernel
  have hdomain : Visit.domain ⟨0, [], "a.example"⟩ = "a.example" := by decide
  obtain ⟨parts, ⟨⟩, hparts, hips, herrors⟩ := address_terms_all_or_nothing hask hasks (by rw [hdomain]; exact hrecord) hleaf
  have hreport : ((resolve ⟨true, 3, 30, 8⟩ halfReachableSource ⟨0, [], "a.example"⟩).run ()).1.report
      = ⟨["192.0.2.0/24", "198.51.100.7", "2001:db8::7"], [], ["a.example: 192.0.2.256 is not a valid ip4 value",
          "n.example: Malformed address answer for n.example: '203.0.113'"], 4, []⟩ := by decide +kernel
  rw [hreport] at hips herrors
  exact ⟨_, _, hask, hasks, by rw [hdomain]; exact hrecord, hleaf, parts, hparts, hips, herrors⟩

end SenderPolicy.Flatten
