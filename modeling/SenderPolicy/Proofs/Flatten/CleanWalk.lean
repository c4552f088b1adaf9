/-
  SenderPolicy.Proofs.Flatten.CleanWalk — what a walk has done that reports no trouble.

  Every way to drop a branch leaves a trouble: a loop, too great a depth, the time, a question that fails or
  is never answered, a wait without end, a crash. So a clean branch was followed to its end: its record was published, all
  its hosts were looked up, and the branches of all domains it goes on to are clean as well. The same
  holds of the branches of the domains that were asked for, whoever resolved them.
  - `walk_succ`: a visit, case by case.
  - `walk_clean`: what a clean visit consists of.
  - `find?_flatten_clean`: the result of a domain without errors is that of a clean visit.
-/

import SenderPolicy.Flatten.Result
import SenderPolicy.Proofs.Flatten.PlanTerms

namespace SenderPolicy.Flatten

open Dns Policy
open Branch (Clean)

variable {limits : Limits} {ask : Ask Id} {room : Nat} {v : Visit} {record : String} {hosts : List Branch}

/-- The domain of a visit. -/
def Visit.domain (v : Visit) : String := Domain.key v.name

/-- What a record gives without further questions. -/
def own (v : Visit) (record : String) : Branch := (planOf record).branch v.domain

/-- The visits that a record leads to. -/
def children (limits : Limits) (v : Visit) (record : String) : List Visit :=
  (if limits.recursive then (own v record).nested else []).map v.next

/-- What a visit comes to whose record is known and whose hosts have been looked up. -/
def followed (limits : Limits) (ask : Ask Id) (room : Nat) (v : Visit) (record : String) (hosts : List Branch) : Branch :=
  collected limits v (own v record ++ Branch.join hosts)
    ((children limits v record).map fun child => awaited limits child.name (walk limits ask room child))

theorem mapM_id {α β : Type} (f : α → Id β) (as : List α) : as.mapM f = as.map fun a => (f a).run := by
  induction as with
  | nil => rfl
  | cons a as ih => rw [List.mapM_cons, ih]; rfl

theorem walk_succ (limits : Limits) (ask : Ask Id) (room : Nat) (v : Visit) :
    walk limits ask (room + 1) v =
      if v.domain ∈ v.path then Branch.failure v.domain (.loop (v.path ++ [v.domain]))
      else if limits.expired then Branch.failure v.domain (.timedOut limits.timeout)
      else match (Record.published ask v.domain).run with
        | .error i => interrupted limits v.name i
        | .ok (.error u) => Branch.failure v.domain (.unavailable u)
        | .ok (.ok record) =>
          match ((planOf record).hosts.mapM (hostsBranch ask v.domain)).run with
          | .error i => { interrupted limits v.name i with pending := children limits v record }
          | .ok hosts => followed limits ask room v record hosts := by
  unfold walk
  show (if v.domain ∈ v.path then _ else if limits.expired = true then _ else _) = _
  split
  · rfl
  · split
    · rfl
    · simp only [bind, pure, Visit.domain, followed, children, own, planOf]
      cases (Record.published ask (Domain.key v.name)).run with
      | error i => rfl
      | ok r =>
        cases r with
        | error u => rfl
        | ok record =>
          dsimp only
          cases ((Plan.ofTerms (Record.tokenize record)).hosts.mapM (hostsBranch ask (Domain.key v.name))).run with
          | error i => rfl
          | ok hosts => dsimp only; rw [mapM_id]; rfl

/-- A visit whose record is known and whose hosts have been looked up. -/
theorem walk_followed (hfresh : v.domain ∉ v.path) (htime : limits.expired = false)
    (hpublished : (Record.published ask v.domain).run = .ok (.ok record))
    (hlooked : ((planOf record).hosts.mapM (hostsBranch ask v.domain)).run = .ok hosts) :
    walk limits ask (room + 1) v = followed limits ask room v record hosts := by
  rw [walk_succ, if_neg hfresh, if_neg (by rw [htime]; exact Bool.false_ne_true), hpublished]
  dsimp only
  rw [hlooked]

theorem not_silent_of_clean {b : Branch} {name : String} (h : Clean (awaited limits name b)) : b.silent = false := by
  unfold awaited at h
  cases hs : b.silent with
  | true =>
    rw [if_pos hs] at h
    exact absurd h (Branch.not_clean_failure _ _)
  | false => rfl

theorem clean_collected {gathered : Branch} {below : List Branch} (h : Clean (collected limits v gathered below)) :
    collected limits v gathered below = gathered ++ Branch.join below := by
  unfold collected at h ⊢
  split
  · rename_i hs
    rw [if_pos hs] at h
    exact absurd ⟨h.1, h.2⟩ (Branch.not_clean_failure v.name .endless)
  · rfl

theorem not_clean_interrupted {name : String} {i : Interruption} : ¬ Clean (interrupted limits name i) := by
  cases i with
  | crash c => exact Branch.not_clean_failure _ _
  | silence => intro h; cases h.1

theorem published_record? {name : String} (h : (Record.published ask (Domain.key name)).run = .ok (.ok record)) :
    record? ask name = some record := by
  obtain ⟨texts, hq, hs⟩ := published_ok h
  unfold record? answers
  rw [hq]
  dsimp only
  rw [hs]
  rfl

/-- A visit that nothing went wrong in, with the levels below it. -/
structure CleanVisit (limits : Limits) (ask : Ask Id) (room : Nat) (v : Visit) (record : String)
    (hosts : List Branch) : Prop where
  fresh : v.domain ∉ v.path
  timely : limits.expired = false
  published : (Record.published ask v.domain).run = .ok (.ok record)
  looked : ((planOf record).hosts.mapM (hostsBranch ask v.domain)).run = .ok hosts
  ownClean : Clean (own v record)
  hostsClean : ∀ b ∈ hosts, Clean b
  below : ∀ child ∈ children limits v record, Clean (walk limits ask room child)
  heard : ∀ child ∈ children limits v record, (walk limits ask room child).silent = false
  whole : walk limits ask (room + 1) v
    = own v record ++ Branch.join hosts ++ Branch.join ((children limits v record).map (walk limits ask room))

/-- A clean walk is a clean visit. -/
theorem walk_clean (h : Clean (walk limits ask room v)) :
    ∃ below record hosts, room = below + 1 ∧ CleanVisit limits ask below v record hosts := by
  cases room with
  | zero => exact absurd h (Branch.not_clean_failure _ _)
  | succ below =>
    have hw := walk_succ limits ask below v
    rw [hw] at h
    by_cases hfresh : v.domain ∈ v.path
    · rw [if_pos hfresh] at h; exact absurd h (Branch.not_clean_failure _ _)
    rw [if_neg hfresh] at h hw
    cases htime : limits.expired with
    | true => rw [if_pos htime] at h; exact absurd h (Branch.not_clean_failure _ _)
    | false =>
      rw [if_neg (by rw [htime]; exact Bool.false_ne_true)] at h hw
      cases hp : (Record.published ask v.domain).run with
      | error i => rw [hp] at h; exact absurd h not_clean_interrupted
      | ok r =>
        cases r with
        | error u => rw [hp] at h; exact absurd h (Branch.not_clean_failure _ _)
        | ok record =>
          rw [hp] at h hw
          dsimp only at h hw
          cases hl : ((planOf record).hosts.mapM (hostsBranch ask v.domain)).run with
          | error i =>
            rw [hl] at h
            have hbad : Clean (interrupted limits v.name i) := ⟨h.1, h.2⟩
            exact absurd hbad not_clean_interrupted
          | ok hosts =>
            rw [hl] at h hw
            dsimp only at h hw
            unfold followed at h hw
            have hplain := clean_collected h
            rw [hplain] at h hw
            rw [Branch.clean_append, Branch.clean_append, Branch.clean_join, Branch.clean_join] at h
            obtain ⟨⟨hown, hhosts⟩, hchildren⟩ := h
            have hheard : ∀ child ∈ children limits v record, (walk limits ask below child).silent = false :=
              fun child hc => not_silent_of_clean (hchildren _ (List.mem_map_of_mem hc))
            have hbelow : ∀ child ∈ children limits v record,
                awaited limits child.name (walk limits ask below child) = walk limits ask below child :=
              fun child hc => awaited_of_not_silent limits (hheard child hc) _
            refine ⟨below, record, hosts, rfl, hfresh, htime, hp, hl, hown, hhosts, fun child hc => ?_, hheard, ?_⟩
            · rw [← hbelow child hc]
              exact hchildren _ (List.mem_map_of_mem hc)
            · rw [hw, List.map_congr_left hbelow]

theorem CleanVisit.record? (h : CleanVisit limits ask room v record hosts) : record? ask v.name = some record :=
  published_record? h.published

theorem CleanVisit.hostsOf (h : CleanVisit limits ask room v record hosts) : HostsOf ask v.domain (live record) hosts :=
  hostsOf_live (run_mapM_ok h.looked)

/-- The networks of a clean visit are those of its terms and those of the visits below it. -/
theorem CleanVisit.mem_networks (h : CleanVisit limits ask room v record hosts) {n : Network} :
    n ∈ (walk limits ask (room + 1) v).networks ↔
      (∃ t ∈ live record, n ∈ networksOf ask v.domain t) ∨
        ∃ child ∈ children limits v record, n ∈ (walk limits ask room child).networks := by
  rw [h.whole, Branch.networks_append, List.mem_append, Branch.networks_append, List.mem_append, Branch.networks_join,
    ← mem_networks_iff h.ownClean h.hostsOf h.hostsClean]
  simp only [own, Branch.networks_join, List.mem_flatMap, List.mem_map, exists_exists_and_eq_and]

theorem mem_report_ips {b : Branch} {ip : String} : ip ∈ b.report.ips ↔ ∃ n ∈ b.networks, n.normal = ip := by
  simp only [Branch.report, List.mem_map, Sequence.mem_sort, List.mem_eraseDups]

/-! ## The domains that were asked for -/

theorem mem_resolveAll {depth : Int} {workers : Nat} {domains : List String} {d : String} {b : Branch}
    (h : (d, b) ∈ (resolveAll limits ask depth workers domains).run.1) (hb : Clean b) :
    b = (resolve limits ask ⟨depth, [], d⟩).run ∧ awaited limits d b = b := by
  induction domains generalizing workers with
  | nil => cases workers <;> cases h
  | cons e ds ih =>
    cases workers with
    | zero =>
      obtain ⟨e', _, he⟩ := List.mem_map.mp h
      cases he
      exact absurd hb not_clean_interrupted
    | succ workers =>
      rcases List.mem_cons.mp h with h | h
      · cases h
        have hawaited := awaited_of_not_silent limits (not_silent_of_clean hb) d
        rw [hawaited]
        exact ⟨rfl, hawaited⟩
      · exact ih h

theorem share_eq (limits : Limits) (ask : Ask Id) (depth : Int) (domains : List String) :
    (share limits ask depth domains).run = (resolveAll limits ask depth limits.workers domains).run.1 := by
  simp only [share, Id.run_bind]
  split <;> rfl

/-- The result of a domain that reports no error and leaves no term out is that of a clean visit. -/
theorem find?_flatten_clean {depth : Int} {domains : List String} {d : String} {result : DomainResult}
    (h : (flatten limits ask depth domains).run.find? d = some result) (herrors : result.errors = [])
    (hunflattened : result.unflattened = []) :
    Clean (resolve limits ask ⟨depth, [], d⟩).run ∧ result = (resolve limits ask ⟨depth, [], d⟩).run.report ∧
      awaited limits d (resolve limits ask ⟨depth, [], d⟩).run = (resolve limits ask ⟨depth, [], d⟩).run := by
  unfold Flattening.find? at h
  obtain ⟨⟨d', result'⟩, hfind, rfl⟩ := Option.map_eq_some_iff.mp h
  obtain rfl : d' = d := beq_iff_eq.mp (List.find?_some (p := fun r : String × DomainResult => r.1 == d) hfind)
  have hmem := List.mem_of_find?_eq_some hfind
  have hmem : (d', result') ∈ ((share limits ask depth (requested domains)).run.map fun p => (p.1, p.2.report)) := hmem
  rw [share_eq] at hmem
  obtain ⟨⟨d, b⟩, hb, he⟩ := List.mem_map.mp hmem
  cases he
  have hclean : Clean b := ⟨List.map_eq_nil_iff.mp herrors, hunflattened⟩
  obtain ⟨hb, hawaited⟩ := mem_resolveAll hb hclean
  rw [← hb]
  exact ⟨hclean, rfl, hawaited⟩

end SenderPolicy.Flatten
