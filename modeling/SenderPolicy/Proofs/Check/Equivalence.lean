/-
  SenderPolicy.Proofs.Check.Equivalence — what the rebuilt record of a domain resolves to.

  If a domain publishes the record that a check has rebuilt in the place of its own, then resolving the
  domain gives the same addresses, and takes fewer lookups by what the safe suggestions announce for the
  includes before the first `all`. The visit is compared term by term: a mechanism that is kept contributes
  the same, since nothing below the domain reads what the domain publishes; an include that is replaced
  contributed what its visit has found and one lookup more than that has taken, and the suggestion
  was made from the very same visit, only that it did not start below the domain.
  - `saves_mechanism`: what one mechanism contributes before and after.
  - `saves_mechanisms`: what several contribute, by induction.
  - `rebuilt_resolves_alike`: what the domain resolves to before and after.
-/

import SenderPolicy.Installed
import SenderPolicy.Proofs.Advice.RebuiltPlan
import SenderPolicy.Proofs.Check.Replacement
import SenderPolicy.Proofs.Flatten.Tally
import SenderPolicy.Proofs.Flatten.Zones
import SenderPolicy.Proofs.Policy.Coverage

namespace SenderPolicy.Check

open Advice Dns Flatten Policy
open Branch (Clean)
open Mechanism (Kind)

/-! ## Tallies that differ in lookups -/

/-- Two tallies with the same addresses, the second of which takes so many lookups less. -/
structure Saves (saved : Int) (old new : Nat × Multiset Network) : Prop where
  addresses : ∀ ip, (∃ n ∈ new.2, n.normal = ip) ↔ ∃ n ∈ old.2, n.normal = ip
  lookups : new.1 + saved = old.1

theorem Saves.refl (a : Nat × Multiset Network) : Saves 0 a a := ⟨fun _ => Iff.rfl, Int.add_zero _⟩

theorem Saves.add {s s' : Int} {a a' b b' : Nat × Multiset Network} (h : Saves s a b) (h' : Saves s' a' b') :
    Saves (s + s') (a + a') (b + b') := by
  refine ⟨fun ip => ?_, ?_⟩
  · simp only [Prod.snd_add, Multiset.mem_add, or_and_right, exists_or, h.addresses ip, h'.addresses ip]
  · have hl := h.lookups
    have hl' := h'.lookups
    simp only [Prod.fst_add, Nat.cast_add]
    omega

theorem Saves.report {s : Int} {a b : Branch} (h : Saves s (tally a) (tally b)) :
    (∀ ip, ip ∈ b.report.ips ↔ ip ∈ a.report.ips) ∧ b.report.lookups + s = a.report.lookups := by
  refine ⟨fun ip => ?_, h.lookups⟩
  rw [mem_report_ips, mem_report_ips]
  exact h.addresses ip

/-! ## Checks -/

variable {z : Question → Outcome} {limits : Limits} {d record text : String} {r : Record} {o : Options} {ask : Ask Id}

/-- What a check makes of a record. -/
theorem detailsOf_ok [Packages] {details : Details} (hlimits : o.limits = .ok limits) (hread : Record.read record = .ok r)
    (h : (detailsOf o ask record).run = .ok details) :
    details.flattening = (flatten limits ask 1 (includeTargets r)).run ∧
      suggestions r details.flattening o.share = .ok details.suggestions ∧
      rebuilt r details.suggestions = .ok details.rebuilt := by
  unfold detailsOf at h
  cases ha : analyze o.context record with
  | error e => rw [ha] at h; cases h
  | ok a =>
    have hr := analyze_record ha
    rw [hread] at hr
    obtain rfl : r = a.record := Option.some.inj hr
    rw [ha, hlimits] at h
    simp only [bind, pure] at h
    cases hf : (flattenWithin limits ask 1 (includeTargets a.record)).run with
    | error e => rw [Id.run] at hf; rw [hf] at h; cases h
    | ok f =>
      rw [Id.run] at hf
      rw [hf] at h
      dsimp only at h
      cases hs : suggestions a.record f o.share with
      | error e => rw [hs] at h; cases h
      | ok ss =>
        rw [hs] at h
        dsimp only at h
        cases hb : rebuilt a.record ss with
        | error e => rw [hb] at h; cases h
        | ok b =>
          rw [hb] at h
          obtain rfl := Except.ok.inj h
          exact ⟨flattenWithin_ok hf, hs, hb⟩

theorem checkDomain_ok [Packages] {name : String} {check : DomainCheck} {details : Details}
    (hpublished : (Record.published ask (Domain.key name)).run = .ok (.ok record))
    (h : (checkDomain o ask name).run = .ok check) (hdetails : check.result = .ok details) :
    (detailsOf o ask record).run = .ok details := by
  unfold checkDomain at h
  rw [Id.run_bind, hpublished] at h
  dsimp only [Id.run, bind] at h
  cases hd : (detailsOf o ask record).run with
  | error e => rw [Id.run] at hd; rw [hd] at h; cases h
  | ok d =>
    rw [Id.run] at hd
    rw [hd] at h
    obtain rfl := Except.ok.inj h
    exact congrArg Except.ok (Except.ok.inj hdetails)

/-! ## Contributions to a domain -/

def root (d : String) : Visit := ⟨0, [], d⟩

/-- What a domain resolves to. -/
def resolution (limits : Limits) (z : Question → Outcome) (d : String) : DomainResult :=
  (resolve limits (asking z) (root d)).run.report

/-- What a term of its record contributes to a domain. -/
def part (z : Question → Outcome) (limits : Limits) (d : String) (t : Term) : Branch :=
  contribution limits (asking z) limits.maxDepth (root d) (Step.ofTerm t)

theorem ofTerm_spelledOut (q : Qualifier) {n : Network} (h : n.scope = none) :
    Step.ofTerm (spelledOut q n) = .network n := by
  have hstrip : Text.strip n.normal = n.normal := Text.strip_of_noBlank fun c hc => (plain_normal h hc).1
  have hread := Network.ofText?_normal (spellable_of_unscoped h)
  have hk : Kind.ofName (spelledOut q n).name = kindOf n.family := Kind.ofName_name (by cases n.family <;> decide)
  unfold Step.ofTerm
  rw [hk]
  cases hf : n.family <;> simp [kindOf, Step.ofNetwork, spelledOut, hstrip, hread, hf]

theorem tally_spelledOut (q : Qualifier) {ns : List Network} (h : ∀ n ∈ ns, n.scope = none) :
    tally (Branch.join ((ns.map (spelledOut q)).map (part z limits d))) = (0, (ns : Multiset Network)) := by
  induction ns with
  | nil => rfl
  | cons n ns ih =>
    obtain ⟨hn, hns⟩ := List.forall_mem_cons.mp h
    rw [List.map_cons, List.map_cons, Branch.join_cons, tally_append, ih hns, part, ofTerm_spelledOut q hn,
      tally_contribution_network]
    rfl

theorem ofTerm_target {m : Mechanism} {domain : String} (h : target? m = some domain)
    (hpercent : ∀ v ∈ m.value, '%' ∉ v.toList) : Step.ofTerm m.term = .incl domain := by
  obtain ⟨hk, v, hv, hne, rfl⟩ := target?_some h
  have hname : Kind.ofName m.term.name = .incl := by
    have hname : m.term.name = Kind.incl.name := congrArg Kind.name hk
    rw [hname]
    decide
  have hvalue : m.term.value = some v := hv
  have hplain : Step.hasMacro (some v) = false := by
    simpa [Step.hasMacro] using hpercent v hv
  unfold Step.ofTerm
  rw [hname, hvalue, hplain]
  dsimp only
  rw [if_neg Bool.false_ne_true]
  split
  · rename_i he; cases he
  · rename_i he; exact absurd (Option.some.inj he) hne
  · rename_i he; rw [Option.some.inj he]

/-- A visit of the domain, in a zone where it publishes some record. -/
theorem tally_resolve {z : Question → Outcome} (hsteady : Steady z) (hrec : limits.recursive = true)
    (htime : limits.expired = false) (hkey : Domain.key d = d)
    (hpublished : (Record.published (asking z) d).run = .ok (.ok record)) :
    tally (resolve limits (asking z) (root d)).run
      = tally (Branch.join (((live record).filter Record.goesAsMechanism).map (part z limits d)))
        + tally (redirected limits (asking z) limits.maxDepth (root d) (planOf record).redirect) := by
  have hroot : (root d).domain = d := hkey
  have hroom : roomAt limits (root d).depth = limits.maxDepth + 1 := by
    show (limits.maxDepth + 1 - (0 : Int)).toNat = _
    omega
  have hfresh : (root d).domain ∉ (root d).path := List.not_mem_nil
  rw [← hroot] at hpublished
  obtain ⟨hosts, hlooked⟩ := answered_mapM (hostsBranch_answered hsteady (root d).domain) (planOf record).hosts
  have hwalk : resolve limits (asking z) (root d) = followed limits (asking z) limits.maxDepth (root d) record hosts := by
    rw [resolve, hroom]
    exact walk_followed hfresh htime hpublished hlooked
  have hsteps : (planOf record).steps = (live record).map Step.ofTerm := steps_ofTerms _
  rw [Id.run, hwalk, tally_followed (prompt_of_steady hsteady) hrec hlooked, hsteps, List.map_map]
  exact congrArg (· + _) (tally_goingAsMechanisms (live record))

/-! ## Domains whose record can be rebuilt -/

/-- A domain in normal form, in a steady zone, whose record is read without problems and is not taken for
something else: no modifier is named like a mechanism, no include is spelled with macros or like a length. -/
structure Flattenable [Packages] (z : Question → Outcome) (limits : Limits) (d record : String) (r : Record) : Prop where
  steady : Steady z
  unscoped : Unscoped (asking z)
  recursive : limits.recursive = true
  ascii : ∀ c ∈ d.toList, c.toNat < 128
  key : Domain.key d = d
  published : (Record.published (asking z) d).run = .ok (.ok record)
  read : Record.read record = .ok r
  sound : r.problems = []
  modifiers : ∀ m ∈ r.modifiers, Record.namedLikeMechanism m = false
  includes : ∀ m ∈ r.mechanisms, m.kind = .incl → ∀ v ∈ m.value, '%' ∉ v.toList ∧ v.toList.head? ≠ some '/'

section

variable {impact : Option Impact} {all ss : List Suggestion} {names : List (String × List String)} {domains : List String}
variable {m : Mechanism} {domain : String} {result : DomainResult} {f : Flattening}

/-- The visit of an include on its own, one level below a domain. -/
def alone (domain : String) : Visit := ⟨1, [], domain⟩

theorem roomAt_one (limits : Limits) : roomAt limits 1 = limits.maxDepth := by
  unfold roomAt
  omega

/-- The result of an include without errors is that of a clean visit one level down. -/
theorem clean_result (hf : f = (flatten limits ask 1 domains).run) (h : f.find? domain = some result)
    (herrors : result.errors = []) (hunflattened : result.unflattened = []) :
    Clean (walk limits ask limits.maxDepth (alone domain)) ∧
      result = (walk limits ask limits.maxDepth (alone domain)).report ∧
      awaited limits domain (walk limits ask limits.maxDepth (alone domain)) = walk limits ask limits.maxDepth (alone domain) := by
  have hclean := find?_flatten_clean (hf ▸ h) herrors hunflattened
  unfold resolve at hclean
  rw [roomAt_one] at hclean
  exact hclean

/-- Where something is replaced there was time to find it. -/
theorem timely (hf : f = (flatten limits (asking z) 1 domains).run) (hr : Replacing r f impact all names)
    (hne : names ≠ []) : limits.expired = false := by
  obtain ⟨p, hp⟩ := List.exists_mem_of_ne_nil names hne
  have hsome : ((Resolved.ofNames names).find? (Domain.key p.1)).isSome = true := find?_keyed_isSome hp rfl
  obtain ⟨ips, hips⟩ := Option.isSome_iff_exists.mp hsome
  obtain ⟨result, hresult, herrors, hunflattened, _⟩ := hr.ips_of_find? hips
  obtain ⟨_, _, _, _, hvisit⟩ := walk_clean (clean_result hf hresult herrors hunflattened).1
  exact hvisit.timely

namespace Flattenable

variable [Packages]

theorem replacing (h : Flattenable z limits d record r) (hall : suggestAll r f impact r.mechanisms = .ok all)
    (hperm : ss.Perm all) (hnames : replacements ss = .ok names) : Replacing r f impact all names where
  suggested := hall
  named := ⟨ss, hperm, hnames⟩
  qualifier := by
    intro m hm
    obtain ⟨_, _, _, _, hq, _⟩ := Record.mechanism_reads h.read h.sound hm
    exact hq
  cost := by
    intro m hm
    obtain ⟨_, _, _, _, _, hl⟩ := Record.mechanism_reads h.read h.sound hm
    exact hl
  noSlash := fun m hm hk v hv => (h.includes m hm hk v hv).2

theorem rebuilt (h : Flattenable z limits d record r) (hf : f = (flatten limits (asking z) 1 domains).run)
    (hr : Replacing r f impact all names) (hb : rebuild r (.ofNames names) = .ok text) :
    Rebuilt record r (.ofNames names) text where
  read := h.read
  sound := h.sound
  modifiers := h.modifiers
  rebuilt := hb
  plain := by
    intro domain ips hfind ip hip
    obtain ⟨result, hresult, herrors, hunflattened, rfl⟩ := hr.ips_of_find? hfind
    obtain ⟨hclean, rfl, _⟩ := clean_result hf hresult herrors hunflattened
    obtain ⟨n, hn, he⟩ := mem_report_ips.mp hip
    exact ⟨n, walk_unscoped h.unscoped hclean n hn, he⟩

/-- A mechanism that is kept contributes the same. -/
theorem part_kept (h : Flattenable z limits d record r) (hm : m ∈ r.mechanisms) :
    part (republished z d text) limits d m.term = part z limits d m.term := by
  have hvalue : ∀ w ∈ m.term.value, NoBlank w :=
    fun w hw c hc => ((Record.writable_of_mem h.read h.sound hm).value w hw c hc).1
  have hroot : (root d).domain = d := h.key
  unfold part
  rw [contribution_congr (agreeBut_republished z d text) h.ascii hroot hvalue]

/-- An include that is replaced contributed what the suggestion says. -/
theorem saves_replaced (h : Flattenable z limits d record r) (hf : f = (flatten limits (asking z) 1 domains).run)
    (hb : Rebuilt record r (.ofNames names) text) (hm : m ∈ beforeAll r.mechanisms) (htarget : target? m = some domain)
    (hfind : (Resolved.ofNames names).find? domain = some result.ips) (hresult : f.find? domain = some result)
    (herrors : result.errors = []) (hunflattened : result.unflattened = []) :
    Saves (1 + result.lookups) (tally (part z limits d m.term))
      (tally (Branch.join ((standing (.ofNames names) m).map (part (republished z d text) limits d)))) := by
  have hmem : m ∈ r.mechanisms := (List.takeWhile_sublist _).subset hm
  have hk := (target?_some htarget).1
  have hstep : Step.ofTerm m.term = .incl domain := ofTerm_target htarget fun v hv => (h.includes m hmem hk v hv).1
  obtain ⟨hclean, hreport, hawaited⟩ := clean_result hf hresult herrors hunflattened
  -- The visit of the include below the domain is the one that the suggestion was made from.
  have hwalk : walk limits (asking z) limits.maxDepth ((root d).next domain)
      = walk limits (asking z) limits.maxDepth (alone domain) := by
    have hnested : domain ∈ ((planOf record).branch d).nested :=
      mem_nested_of_live (hb.mem_live hm) (by rw [hstep]; exact List.mem_singleton_self _)
    have hnext : (root d).next domain = (alone domain).below d := by
      unfold root alone Visit.next Visit.below
      rw [h.key]
      rfl
    rw [hnext]
    exact walk_below h.recursive h.published hnested hclean (List.mem_singleton_self _)
  have hold : tally (part z limits d m.term) = (1, 0) + tally (walk limits (asking z) limits.maxDepth (alone domain)) := by
    unfold part
    rw [hstep, tally_contribution_incl, hwalk, hawaited]
  obtain ⟨ts, hts⟩ := hb.termsFor_ok hmem
  have hips : (target? m).bind (Resolved.ofNames names).find? = some result.ips := by
    rw [htarget, Option.bind_some, hfind]
  obtain ⟨ns, hstanding, hscope, hmemips, _⟩ := standing_replaced hips (hb.plain domain _ hfind) hts
  rw [hstanding, tally_spelledOut _ hscope, hold]
  refine ⟨fun ip => ?_, ?_⟩
  · have hip := hmemips ip
    rw [hreport, mem_report_ips] at hip
    simpa [tally] using hip.symm
  · rw [hreport]
    simp [tally, Branch.report]

/-- What is announced for one mechanism is what it contributes less. -/
theorem saves_mechanism (h : Flattenable z limits d record r) (hf : f = (flatten limits (asking z) 1 domains).run)
    (hr : Replacing r f impact all names) (hb : Rebuilt record r (.ofNames names) text) (hm : m ∈ beforeAll r.mechanisms)
    {o : Option Suggestion} (ho : suggest r f impact m = .ok o) :
    Saves (Sequence.total (·.savings) (o.toList.filter (·.isSafe))) (tally (part z limits d m.term))
      (tally (Branch.join ((standing (.ofNames names) m).map (part (republished z d text) limits d)))) := by
  have hmem : m ∈ r.mechanisms := (List.takeWhile_sublist _).subset hm
  rcases hr.kept_or_replaced hmem ho with ⟨hkept, hflag⟩ |
    ⟨domain, result, s, htarget, hfind, hresult, herrors, hunflattened, rfl, hsafe, hsavings⟩
  · have hnone : o.toList.filter (·.isSafe) = [] :=
      List.filter_eq_nil_iff.mpr fun s hs => by rw [hflag s (Option.mem_toList.mp hs)]; exact Bool.false_ne_true
    have hsame : Branch.join ((standing (.ofNames names) m).map (part (republished z d text) limits d))
        = part z limits d m.term := by
      rw [standing_kept hkept, List.map_singleton, Branch.join_cons, Branch.join_nil, Branch.append_empty,
        h.part_kept hmem]
    rw [hnone, hsame]
    exact .refl _
  · have hone : Sequence.total (·.savings) ((some s).toList.filter (·.isSafe)) = 1 + result.lookups := by
      rw [Option.toList_some, List.filter_cons_of_pos hsafe, ← hsavings]
      exact Int.add_zero _
    rw [hone]
    exact h.saves_replaced hf hb hm htarget hfind hresult herrors hunflattened

/-- What is announced for several mechanisms is what they contribute less together. -/
theorem saves_mechanisms (h : Flattenable z limits d record r) (hf : f = (flatten limits (asking z) 1 domains).run)
    (hr : Replacing r f impact all names) (hb : Rebuilt record r (.ofNames names) text) {ms : List Mechanism}
    (hms : ∀ m ∈ ms, m ∈ beforeAll r.mechanisms) (hss : suggestAll r f impact ms = .ok ss) :
    Saves (Sequence.total (·.savings) (ss.filter (·.isSafe)))
      (tally (Branch.join ((ms.map Mechanism.term).map (part z limits d))))
      (tally (Branch.join ((ms.flatMap (standing (.ofNames names))).map (part (republished z d text) limits d)))) := by
  induction ms generalizing ss with
  | nil =>
    obtain rfl : [] = ss := Except.ok.inj hss
    rw [List.flatMap_nil, List.map_nil, List.map_nil, List.map_nil]
    exact .refl _
  | cons m ms ih =>
    obtain ⟨o, rest, ho, hrest, rfl⟩ := suggestAll_cons hss
    obtain ⟨hm, hms⟩ := List.forall_mem_cons.mp hms
    rw [List.filter_append, Sequence.total_append, List.map_cons, List.map_cons, Branch.join_cons, tally_append,
      List.flatMap_cons, List.map_append, Branch.join_append, tally_append]
    exact (h.saves_mechanism hf hr hb hm ho).add (ih hms hrest)

end Flattenable

end

/-- With the rebuilt record in the place of its own a domain resolves to the same addresses, and takes fewer
lookups by what the safe suggestions for the includes before the first `all` announce. -/
theorem rebuilt_resolves_alike [Packages] (h : Flattenable z limits d record r) (hlimits : o.limits = .ok limits)
    {check : DomainCheck} {details : Details} {validation : Validation} (hcheck : (checkDomain o (asking z) d).run = .ok check)
    (hdetails : check.result = .ok details) (hrebuilt : details.rebuilt = some (text, validation)) :
    (∀ ip, ip ∈ (resolution limits (republished z d text) d).ips ↔ ip ∈ (resolution limits z d).ips) ∧
      ∃ impact front back, gradeShare o.share = .ok impact ∧
        suggestAll r details.flattening impact (beforeAll r.mechanisms) = .ok front ∧
        suggestAll r details.flattening impact (fromAll r.mechanisms) = .ok back ∧
        details.suggestions.Perm (front ++ back) ∧
        (resolution limits (republished z d text) d).lookups + Sequence.total (·.savings) (front.filter (·.isSafe))
          = (resolution limits z d).lookups := by
  obtain ⟨hf, hs, hb⟩ := detailsOf_ok hlimits h.read (checkDomain_ok (h.key.symm ▸ h.published) hcheck hdetails)
  rw [hrebuilt] at hb
  obtain ⟨names, hne, hnames, hb⟩ := rebuilt_ok hb
  obtain ⟨impact, all, himpact, hall, hperm⟩ := suggestions_ok hs
  have hr := h.replacing hall hperm hnames
  have hb := h.rebuilt hf hr hb
  have htime := timely hf hr hne
  rw [← beforeAll_append_fromAll r.mechanisms] at hall
  obtain ⟨front, back, hfront, hback, rfl⟩ := suggestAll_append hall
  have hsaves := h.saves_mechanisms hf hr hb (fun _ hm => hm) hfront
  -- Both visits come apart into what goes as a mechanism before the first `all`, and the redirect.
  have hnormal := Domain.normalize_of_key h.ascii h.key
  obtain ⟨hunquote, hcandidate, _⟩ := tokenize_rebuild hb.read hb.sound hb.plain hb.rebuilt
  have hold := tally_resolve h.steady h.recursive htime h.key h.published
  have hnew := tally_resolve (steady_republished h.steady d text) h.recursive htime h.key
    (published_republished hnormal h.published hunquote hcandidate)
  -- The redirect leads below the domain like any include, so it contributes the same.
  have hredirect : redirected limits (asking (republished z d text)) limits.maxDepth (root d) (planOf text).redirect
      = redirected limits (asking z) limits.maxDepth (root d) (planOf record).redirect := by
    have hroot : (root d).domain = d := h.key
    rw [hb.redirect, redirected_congr (agreeBut_republished z d text) h.ascii hroot fun w hw => noBlank_of_redirect hw]
  rw [hb.filter_live_record] at hold
  rw [hb.filter_live_text, hredirect] at hnew
  have hwhole := hsaves.add
    (.refl (tally (redirected limits (asking z) limits.maxDepth (root d) (planOf record).redirect)))
  rw [← hold, ← hnew, Int.add_zero] at hwhole
  exact ⟨hwhole.report.1, impact, front, back, himpact, hfront, hback, hperm, hwhole.report.2⟩

/-! ## Includes on both sides of an `all` -/

/-- A zone whose records name no hosts has no scopes if its networks have none. -/
theorem unscoped_zone {table : List (Question × List String)}
    (h : ∀ entry ∈ table, ∀ text ∈ entry.2, ∀ t ∈ Record.tokenize (Record.unquote text),
      Kind.ofName t.name ≠ .a ∧ Kind.ofName t.name ≠ .mx ∧
        ∀ n ∈ (Network.ofText? (t.value.getD "")).toList, n.scope = none) :
    Unscoped (asking (zone table)) := by
  intro name record hrecord t ht n hn
  obtain ⟨text, htext, he⟩ := record?_unquote hrecord
  have hasked : answers (asking (zone table)) (Domain.key name) "TXT"
      = answers (zone table) (Domain.normalize (Domain.key name)) (Text.upper "TXT") := by
    unfold answers asking Question.normalize
    rfl
  rw [hasked] at htext
  obtain ⟨entry, hentry, hmem⟩ := mem_answers_zone htext
  obtain ⟨ha, hmx, hspelled⟩ := h entry hentry text hmem t (he ▸ ht)
  refine hspelled n ?_
  rcases kind_of_networksOf hn with hk | hk | hk | hk
  · exact absurd hk ha
  · exact absurd hk hmx
  all_goals
    unfold Policy.networksOf at hn
    rw [hk] at hn
    exact hn

/-- The include before the `all` reaches the one behind it. -/
def straddle : String := "v=spf1 include:b.example -all include:c.example"

/-- The record with both includes replaced. -/
def straddled : String := "v=spf1 ip4:192.0.2.1 ip4:192.0.2.2 -all ip4:192.0.2.2"

def straddling : List (Question × List String) := (⟨"a.example", "TXT"⟩, [straddle]) :: chain

def usual : Options := ⟨.ok ⟨true, 3, 30, 8⟩, none, none, .sample 0⟩

theorem flattenable_straddling : ∃ r, Flattenable (zone straddling) ⟨true, 3, 30, 8⟩ "a.example" straddle r := by
  have hall : ∃ r ∈ (Record.read straddle).toOption,
      r.problems = [] ∧ (∀ m ∈ r.modifiers, Record.namedLikeMechanism m = false) ∧
        ∀ m ∈ r.mechanisms, m.kind = .incl → ∀ v ∈ m.value, '%' ∉ v.toList ∧ v.toList.head? ≠ some '/' := by
    decide +kernel
  obtain ⟨r, hr, hsound, hmodifiers, hincludes⟩ := hall
  have hascii : "a.example".toList.all (·.toNat < 128) = true := by decide
  refine ⟨r, steady_zone _, unscoped_zone (by decide +kernel), rfl,
    fun c hc => of_decide_eq_true (List.all_eq_true.mp hascii c hc), by decide +kernel, ?_, eq_ok_of_toOption hr,
    hsound, hmodifiers, hincludes⟩
  exact (published_asking (by decide +kernel)).mpr ⟨[straddle], by decide +kernel, by decide +kernel⟩

theorem rebuilt_resolves_alike_straddling :
    ∃ r check details validation, Flattenable (zone straddling) ⟨true, 3, 30, 8⟩ "a.example" straddle r ∧
      usual.limits = .ok ⟨true, 3, 30, 8⟩ ∧ (checkDomain usual (asking (zone straddling)) "a.example").run = .ok check ∧
      check.result = .ok details ∧ details.rebuilt = some (straddled, validation) ∧
      (∀ ip, ip ∈ (resolution ⟨true, 3, 30, 8⟩ (republished (zone straddling) "a.example" straddled) "a.example").ips ↔
        ip ∈ (resolution ⟨true, 3, 30, 8⟩ (zone straddling) "a.example").ips) ∧
      ∃ impact front back, gradeShare usual.share = .ok impact ∧
        suggestAll r details.flattening impact (beforeAll r.mechanisms) = .ok front ∧
        suggestAll r details.flattening impact (fromAll r.mechanisms) = .ok back ∧
        details.suggestions.Perm (front ++ back) ∧
        (resolution ⟨true, 3, 30, 8⟩ (republished (zone straddling) "a.example" straddled) "a.example").lookups
            + Sequence.total (·.savings) (front.filter (·.isSafe))
          = (resolution ⟨true, 3, 30, 8⟩ (zone straddling) "a.example").lookups := by
  obtain ⟨r, hr⟩ := flattenable_straddling
  have hall : ∃ check ∈ (checkDomain usual (asking (zone straddling)) "a.example").run.toOption,
      ∃ details ∈ check.result.toOption, ∃ p ∈ details.rebuilt, p.1 = straddled := by
    decide +kernel
  obtain ⟨check, hcheck, details, hdetails, ⟨text, validation⟩, hrebuilt, rfl⟩ := hall
  have hcheck := eq_ok_of_toOption hcheck
  have hdetails := eq_ok_of_toOption hdetails
  exact ⟨r, check, details, validation, hr, rfl, hcheck, hdetails, hrebuilt,
    rebuilt_resolves_alike hr rfl hcheck hdetails hrebuilt⟩

end SenderPolicy.Check
