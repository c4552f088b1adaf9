/-
  SenderPolicy.Proofs.Flatten.Zones — zones that always give the same outcome to a question.

  A zone gives each question, with its name in normal form, one outcome. It is steady if that is a list of
  texts or a failure: then nothing breaks down and nobody waits in vain, so every lookup comes to an end. The
  record of a domain is replaced by putting another text in its place among the texts of the domain; all
  other questions are answered as before.
  - `hostsBranch_answered`: in a steady zone the addresses of a term can always be looked up.
  - `published_republished`: a domain publishes the record that has been put in the place of its own.
  - `walk_unscoped`: without scopes in the zone a clean walk finds none.
-/

import SenderPolicy.Proofs.Flatten.Paths
import SenderPolicy.Proofs.Flatten.Prompt

namespace SenderPolicy.Flatten

open Dns Policy
open Branch (Clean)

variable {z : Question → Outcome} {limits : Limits} {room : Nat} {v : Visit} {d record : String}

/-- How the questions are put to a zone. -/
def asking (z : Question → Outcome) : Ask Id := fun q => z q.normalize

/-- Every question is answered or fails. -/
def Steady (z : Question → Outcome) : Prop := ∀ q, (∃ texts, z q = .answers texts) ∨ ∃ f, z q = .failed f

theorem steady_zone (table : List (Question × List String)) : Steady (zone table) := by
  intro q
  unfold zone
  cases table.find? (·.1 == q) with
  | none => exact Or.inr ⟨_, rfl⟩
  | some entry => exact Or.inl ⟨_, rfl⟩

theorem prompt_of_steady (hz : Steady z) : Prompt (asking z) := by
  intro q hq
  have hsilent : z q.normalize = .silent := hq
  rcases hz q.normalize with ⟨ts, hts⟩ | ⟨f, hf⟩
  · rw [hts] at hsilent
    cases hsilent
  · rw [hf] at hsilent
    cases hsilent

/-! ## Lookups that come to an end -/

def Answered {α : Type} (x : Lookup Id α) : Prop := ∃ a, x.run = .ok a

theorem answered_pure {α : Type} (a : α) : Answered (pure a : Lookup Id α) := ⟨a, rfl⟩

theorem Answered.bind {α β : Type} {x : Lookup Id α} {f : α → Lookup Id β} (hx : Answered x) (hf : ∀ a, Answered (f a)) :
    Answered (x >>= f) := by
  obtain ⟨a, ha⟩ := hx
  obtain ⟨b, hb⟩ := hf a
  refine ⟨b, ?_⟩
  rw [ExceptT.run_bind, ha]
  exact hb

theorem answered_mapM {α β : Type} {f : α → Lookup Id β} (hf : ∀ a, Answered (f a)) (as : List α) :
    Answered (as.mapM f) := by
  induction as with
  | nil => exact ⟨[], rfl⟩
  | cons a as ih =>
    rw [List.mapM_cons]
    exact (hf a).bind fun b => ih.bind fun bs => answered_pure _

theorem texts_answered (hz : Steady z) (name type : String) : Answered (texts (asking z) name type) := by
  unfold Answered
  rw [texts_run]
  rcases hz (⟨name, type⟩ : Question).normalize with ⟨ts, hq⟩ | ⟨f, hq⟩
  · exact ⟨.ok ts, by rw [asking, hq]⟩
  · exact ⟨.error f, by rw [asking, hq]⟩

theorem someTexts_answered (hz : Steady z) (name type : String) : Answered (someTexts (asking z) name type) := by
  unfold someTexts
  refine (texts_answered hz name type).bind fun r => ?_
  cases r <;> exact answered_pure _

theorem addresses_answered (hz : Steady z) (name : String) : Answered (addresses (asking z) name) := by
  unfold addresses
  refine (someTexts_answered hz name "A").bind fun r => ?_
  cases r with
  | error f => exact answered_pure _
  | ok v4 =>
    refine (someTexts_answered hz name "AAAA").bind fun r => ?_
    cases r <;> exact answered_pure _

theorem addressBranch_answered (hz : Steady z) (name : String) (v4 v6 : Option String) :
    Answered (addressBranch (asking z) name v4 v6) := by
  unfold addressBranch
  refine (addresses_answered hz name).bind fun r => ?_
  cases r with
  | error f => exact answered_pure _
  | ok texts => dsimp only; split <;> exact answered_pure _

theorem mxBranch_answered (hz : Steady z) (target : String) (v4 v6 : Option String) :
    Answered (mxBranch (asking z) target v4 v6) := by
  have hexchanges : Answered (exchanges (asking z) target) := by
    unfold exchanges
    refine (texts_answered hz target "MX").bind fun r => ?_
    cases r <;> exact answered_pure _
  unfold mxBranch
  refine hexchanges.bind fun r => ?_
  cases r with
  | error f => exact answered_pure _
  | ok es =>
    refine (answered_mapM (fun e => ?_) _).bind fun bs => answered_pure _
    exact (addressBranch_answered hz e.host v4 v6).bind fun b => answered_pure _

/-- In a steady zone the addresses of a term can always be looked up. -/
theorem hostsBranch_answered (hz : Steady z) (domain : String) (h : Hosts) : Answered (hostsBranch (asking z) domain h) := by
  unfold hostsBranch
  dsimp only
  split
  · exact mxBranch_answered hz _ _ _
  · exact addressBranch_answered hz _ _ _

/-! ## Replacing a record -/

/-- The texts of a domain with another record in the place of its own. -/
def exchanged (text : String) (texts : List String) : List String :=
  texts.map fun t => if Record.isCandidate (Record.unquote t) then text else t

/-- The zone in which a domain publishes another record. -/
def republished (z : Question → Outcome) (d text : String) : Question → Outcome := fun q =>
  if q = ⟨d, "TXT"⟩ then
    match z q with
    | .answers texts => .answers (exchanged text texts)
    | o => o
  else z q

theorem steady_republished (hz : Steady z) (d text : String) : Steady (republished z d text) := by
  intro q
  unfold republished
  split
  · rcases hz q with ⟨ts, hq⟩ | ⟨f, hq⟩
    · exact Or.inl ⟨_, by rw [hq]⟩
    · exact Or.inr ⟨f, by rw [hq]⟩
  · exact hz q

theorem agreeBut_republished (z : Question → Outcome) (d text : String) :
    AgreeBut d (asking z) (asking (republished z d text)) := fun _ hq => (if_neg hq).symm

theorem candidates_exchanged {text : String} (hunquote : Record.unquote text = text) (htext : Record.isCandidate text = true)
    (texts : List String) : Record.candidates (exchanged text texts) = (Record.candidates texts).map fun _ => text := by
  unfold Record.candidates exchanged
  induction texts with
  | nil => rfl
  | cons t ts ih =>
    simp only [List.map_cons, List.filter_cons]
    cases ht : Record.isCandidate (Record.unquote t) with
    | true => simp only [if_true, hunquote, htext, List.map_cons, ih]
    | false => simp only [Bool.false_eq_true, if_false, ht, ih]

/-- The text of a domain's record is one of the answers. -/
theorem published_asking (hd : Domain.normalize d = d) :
    (Record.published (asking z) d).run = .ok (.ok record) ↔
      ∃ texts, z ⟨d, "TXT"⟩ = .answers texts ∧ Record.select texts d = .ok record := by
  have hquestion : (⟨d, "TXT"⟩ : Question).normalize = ⟨d, "TXT"⟩ := by
    have htype : Text.upper "TXT" = "TXT" := by decide
    rw [Question.normalize, hd, htype]
  constructor
  · intro h
    obtain ⟨texts, hq, hs⟩ := published_ok h
    rw [asking, hquestion] at hq
    exact ⟨texts, hq, hs⟩
  · rintro ⟨ts, hq, hs⟩
    have hrun : (texts (asking z) d "TXT").run = .ok (.ok ts) := by rw [texts_run, asking, hquestion, hq]
    have hrecord : Record.ofAnswers d (.ok ts) = .ok record := by
      unfold Record.ofAnswers
      dsimp only
      rw [hs]
    unfold Record.published
    rw [ExceptT.run_bind, hrun]
    exact congrArg Except.ok hrecord

/-- The domain then publishes the other record. -/
theorem published_republished {text : String} (hd : Domain.normalize d = d)
    (h : (Record.published (asking z) d).run = .ok (.ok record)) (hunquote : Record.unquote text = text)
    (htext : Record.isCandidate text = true) :
    (Record.published (asking (republished z d text)) d).run = .ok (.ok text) := by
  obtain ⟨texts, hq, hselect⟩ := (published_asking hd).mp h
  refine (published_asking hd).mpr ⟨exchanged text texts, ?_, ?_⟩
  · rw [republished, if_pos rfl, hq]
  · rw [Record.select_ok_iff] at hselect ⊢
    rw [candidates_exchanged hunquote htext, hselect]
    rfl

/-! ## Zones without scopes -/

/-- No network that a term of a record stands for has a scope. -/
def Unscoped (ask : Ask Id) : Prop :=
  ∀ name record, record? ask name = some record → ∀ t ∈ Record.tokenize record,
    ∀ n ∈ networksOf ask (Domain.key name) t, n.scope = none

theorem walk_unscoped {ask : Ask Id} (hu : Unscoped ask) (h : Clean (walk limits ask room v)) :
    ∀ n ∈ (walk limits ask room v).networks, n.scope = none := by
  induction room generalizing v with
  | zero => exact absurd h (Branch.not_clean_failure _ _)
  | succ room ih =>
    obtain ⟨below, record, hosts, hroom, hvisit⟩ := walk_clean h
    obtain rfl := Nat.succ.inj hroom
    intro n hn
    rcases hvisit.mem_networks.mp hn with ⟨t, ht, hn⟩ | ⟨child, hchild, hn⟩
    · exact hu v.name record hvisit.record? t (mem_tokenize_of_mem_live ht) n hn
    · exact ih (hvisit.below child hchild) n hn

end SenderPolicy.Flatten
