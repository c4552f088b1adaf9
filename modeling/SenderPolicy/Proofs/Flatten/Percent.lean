/-
  SenderPolicy.Proofs.Flatten.Percent — the names with a percent sign that a flattening asks for.

  An include or a redirect with a percent sign is left out, whatever stands behind the sign, so no record leads to a
  domain with one. The domains that are to be flattened are not looked at in this way: each of them that is begun is asked
  for. So these are the only names with a percent sign that texts are asked for, one after the other as well as
  shared out among workers who run out of time.
  - `percent_not_mem_child`: what a record leads to.
  - `mem_asked_flatten_iff`: exactly which names with a percent sign are asked for.
  - `Pool.TimedRun.percent`: what a pool asks for, on its way to any result.
-/

import SenderPolicy.Proofs.Domain.Percent
import SenderPolicy.Proofs.Flatten.Deadline

namespace SenderPolicy.Flatten

open Dns
open Dns.Program (put)

variable {limits : Limits} {depth : Int} {v child : Visit} {record : String} {q : Question}

theorem percent_not_mem_child (h : child ∈ children limits v record) : '%' ∉ child.domain.toList := by
  obtain ⟨name, hname, rfl⟩ := List.mem_map.mp h
  split at hname
  · obtain ⟨w, -, hw, rfl⟩ := mem_nested_planOf hname
    show '%' ∉ (Domain.key (Domain.key w)).toList
    rw [Domain.percent_mem_key, Domain.percent_mem_key]
    exact hw
  · cases hname

/-! ## What is kept -/

/-- A regular question, which is one for the text of a name with a percent sign only if the name is let in. -/
def Admits (R : String → Prop) (q : Question) : Prop := q.IsRegular ∧ (q.type = "TXT" → '%' ∈ q.name.toList → R q.name)

/-- No visit of a domain with a percent sign is left behind. -/
def Branch.Leaves (b : Branch) : Prop := ∀ w ∈ b.pending, '%' ∉ w.domain.toList

theorem leaves_pieces : Pieces Branch.Leaves where
  empty := List.forall_mem_nil _
  append ha hb := List.forall_mem_append.mpr ⟨ha, hb⟩
  failure _ _ := List.forall_mem_nil _
  silence _ _ := List.forall_mem_nil _
  dropped _ _ h := h
  found _ := List.forall_mem_nil _
  counted _ _ := List.forall_mem_nil _

theorem percent_invariant (limits : Limits) (R : String → Prop) :
    Invariant limits (fun v => '%' ∈ v.domain.toList → R v.domain) (Admits R) Branch.Leaves where
  toPieces := leaves_pieces
  child _ hchild hpercent := absurd hpercent (percent_not_mem_child hchild)
  record hv := ⟨show "TXT" ∈ recordTypes by decide, fun _ => hv⟩
  hosts := by
    intro q hq
    have htypes : ∀ t ∈ ["A", "AAAA", "MX"], t ∈ recordTypes ∧ t ≠ "TXT" := by decide
    exact ⟨(htypes _ hq).1, fun htype => absurd htype (htypes _ hq).2⟩
  broken _ := fun _ hw => percent_not_mem_child hw

/-- Asking again in normal form brings in no percent sign. -/
theorem Admits.normalize {R : String → Prop} (hR : ∀ name, R name → R (Domain.normalize name)) (h : Admits R q) :
    Admits R q.normalize := by
  have hupper : ∀ t ∈ recordTypes, Text.upper t = "TXT" → t = "TXT" := by decide +kernel
  refine ⟨h.1.normalize, fun htype hpercent => hR _ (h.2 (hupper _ h.1 htype) ?_)⟩
  exact Domain.percent_mem_normalize.mp hpercent

/-! ## One domain after the other -/

section

variable {σ : Type} {ask : Ask (StateM σ)} {s t : σ} {workers : Nat} {ds : List String} {d : String}

/-- A visit that is not idle asks for the text of its domain first. -/
theorem asks_record (h : v.Asks limits) : ⟨v.domain, "TXT"⟩ ∈ questions limits ask v s := by
  rw [questions, resolve_eq, visit_asks h, Program.asked_bind]
  exact List.mem_append_left _ List.mem_cons_self

theorem mem_questions_percent (hq : q ∈ questions limits ask v s) (htype : q.type = "TXT") (hpercent : '%' ∈ q.name.toList) :
    v.Asks limits ∧ q.name = v.domain := by
  refine ⟨?_, (((percent_invariant limits (· = v.domain)).walk _ fun _ => rfl).1.of_asked hq).2 htype hpercent⟩
  by_contra hidle
  rw [questions, resolve_eq, asked_idle hidle] at hq
  cases hq

theorem Starts.mem_domains (h : Starts limits ask depth workers ds s d t) : d ∈ ds := by
  induction h with
  | here => exact List.mem_cons_self
  | later _ ih => exact List.mem_cons_of_mem _ ih

theorem Starts.mem_asked (h : Starts limits ask depth workers ds s d t) (hq : q ∈ questions limits ask ⟨depth, [], d⟩ t) :
    q ∈ (resolveAll limits put depth workers ds).asked ask s := by
  induction h with
  | here workers d ds s =>
    unfold resolveAll
    rw [Program.asked_bind]
    exact List.mem_append_left _ hq
  | later _ ih =>
    unfold resolveAll
    rw [Program.asked_bind, run_resolve, Program.asked_bind]
    exact List.mem_append_right _ (List.mem_append_left _ (ih hq))

theorem mem_asked_resolveAll (hq : q ∈ (resolveAll limits put depth workers ds).asked ask s) :
    ∃ d t, Starts limits ask depth workers ds s d t ∧ q ∈ questions limits ask ⟨depth, [], d⟩ t := by
  induction ds generalizing workers s with
  | nil => cases workers <;> cases hq
  | cons d ds ih =>
    cases workers with
    | zero => cases hq
    | succ workers =>
      unfold resolveAll at hq
      rw [Program.asked_bind] at hq
      rcases List.mem_append.mp hq with hq | hq
      · exact ⟨d, s, .here workers d ds s, hq⟩
      rw [run_resolve, Program.asked_bind] at hq
      rcases List.mem_append.mp hq with hq | hq
      · obtain ⟨e, t, hstarts, hq⟩ := ih hq
        exact ⟨e, t, .later hstarts, hq⟩
      · cases hq

/-- What is left behind has no percent sign, so nothing more is asked for in the end. -/
theorem mem_asked_share (htype : q.type = "TXT") (hpercent : '%' ∈ q.name.toList)
    (hq : q ∈ (share limits put depth ds).asked ask s) : q ∈ (resolveAll limits put depth limits.workers ds).asked ask s := by
  have hleaves : ∀ e ∈ (((resolveAll limits put depth limits.workers ds).run ask).run s).1.1, e.2.Leaves :=
    ((percent_invariant limits fun _ => True).resolveAll (fun _ _ _ => trivial) limits.workers).2.run ask s
  unfold share at hq
  rw [Program.asked_bind] at hq
  rcases List.mem_append.mp hq with hq | hq
  · exact hq
  generalize ((resolveAll limits put depth limits.workers ds).run ask).run s = r at hq hleaves
  obtain ⟨⟨branches, left⟩, t⟩ := r
  dsimp only at hq
  split at hq
  · have hpending : ∀ w ∈ branches.flatMap (·.2.pending), '%' ∈ w.domain.toList → False := by
      intro w hw
      obtain ⟨e, he, hw⟩ := List.mem_flatMap.mp hw
      exact hleaves e he w hw
    have honly := (percent_invariant limits fun _ => False).finish (fun b hb w hw => hb w hw) (roomAt limits depth) hpending
    rw [Program.asked_bind] at hq
    rcases List.mem_append.mp hq with hq | hq
    · exact ((honly.of_asked hq).2 htype hpercent).elim
    · cases hq
  · cases hq

/-- The names with a percent sign that are asked for are those of the requested domains that are begun. -/
theorem mem_asked_flatten_iff {domains : List String} (htype : q.type = "TXT") (hpercent : '%' ∈ q.name.toList) :
    q ∈ (flatten limits put depth domains).asked ask s ↔
      ∃ d t, Starts limits ask depth limits.workers (requested domains) s d t ∧
        (⟨depth, [], d⟩ : Visit).Asks limits ∧ q.name = Domain.key d := by
  unfold flatten
  rw [Program.asked_bind]
  constructor
  · intro hq
    rcases List.mem_append.mp hq with hq | hq
    · obtain ⟨d, t, hstarts, hq⟩ := mem_asked_resolveAll (mem_asked_share htype hpercent hq)
      obtain ⟨hasks, hname⟩ := mem_questions_percent hq htype hpercent
      exact ⟨d, t, hstarts, hasks, hname⟩
    · cases hq
  · rintro ⟨d, t, hstarts, hasks, hname⟩
    have hmem : (⟨Domain.key d, "TXT"⟩ : Question) ∈ questions limits ask ⟨depth, [], d⟩ t := asks_record hasks
    rw [← hname, ← htype] at hmem
    unfold share
    rw [Program.asked_bind]
    exact List.mem_append_left _ (List.mem_append_left _ (hstarts.mem_asked hmem))

/-- Nothing more is asked for because somebody waits. -/
theorem asked_flattenWithin (domains : List String) :
    (flattenWithin limits put depth domains).asked ask s = (flatten limits put depth domains).asked ask s := by
  unfold flattenWithin flatten
  rw [Program.asked_bind, Program.asked_bind]
  rfl

end

/-! ## Shared out among workers -/

/-- One of the domains, as it is or after so many times in normal form. -/
def Recurs (ds : List String) (name : String) : Prop := ∃ d ∈ ds, ∃ n, name = Domain.normalize^[n] d

theorem Recurs.normalize {ds : List String} {name : String} (h : Recurs ds name) : Recurs ds (Domain.normalize name) := by
  obtain ⟨d, hd, n, rfl⟩ := h
  exact ⟨d, hd, n + 1, (Function.iterate_succ_apply' _ _ _).symm⟩

/-- In a pool nothing else is asked for, but again and again in normal form. -/
theorem Pool.TimedRun.percent {c : Client} {p r : Pool} {ds : List String}
    (hp : ∀ t ∈ p.tasks, ∃ v, t.Opens limits c v ∧ v.domain ∈ ds) (hrun : Pool.TimedRun limits c p r) {t : Task}
    (ht : t ∈ r.tasks) (hputs : t.Puts q) (htype : q.type = "TXT") (hpercent : '%' ∈ q.name.toList) : Recurs ds q.name := by
  have hinv := percent_invariant limits (Recurs ds)
  have hnormal : ∀ q, Admits (Recurs ds) q → Admits (Recurs ds) q.normalize := fun _ h => h.normalize fun _ => Recurs.normalize
  have hholds := hrun.holds hinv hnormal fun u hu => by
    obtain ⟨v, hopens, hv⟩ := hp u hu
    exact hopens.holds hinv hnormal fun _ => ⟨v.domain, hv, 0, rfl⟩
  exact ((hholds t ht).puts hputs).2 htype hpercent

end SenderPolicy.Flatten
