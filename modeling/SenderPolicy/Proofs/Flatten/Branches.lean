/-
  SenderPolicy.Proofs.Flatten.Branches — branches that nothing went wrong in.

  A branch is clean if it has no trouble and leaves no term out. What is put together from branches is
  clean exactly if each of them is, and holds what they hold. The branch of an `a` or `mx` term is clean
  only if every question behind it was answered; then it holds the networks around all addresses.
  - `clean_join`: a branch is as clean as its parts.
  - `hostsBranch_clean`: the networks of a clean `a` or `mx` branch, and that no address is left out.
-/

import Mathlib.Data.List.Forall2
import SenderPolicy.Flatten.Workers
import SenderPolicy.Proofs.Policy.Meaning

namespace SenderPolicy.Flatten

open Dns Policy

namespace Branch

@[simp] theorem networks_append (a b : Branch) : (a ++ b).networks = a.networks ++ b.networks := rfl

@[simp] theorem nested_append (a b : Branch) : (a ++ b).nested = a.nested ++ b.nested := rfl

@[simp] theorem troubles_append (a b : Branch) : (a ++ b).troubles = a.troubles ++ b.troubles := rfl

@[simp] theorem lookups_append (a b : Branch) : (a ++ b).lookups = a.lookups + b.lookups := rfl

@[simp] theorem unflattened_append (a b : Branch) : (a ++ b).unflattened = a.unflattened ++ b.unflattened := rfl

@[simp] theorem silent_append (a b : Branch) : (a ++ b).silent = (a.silent || b.silent) := rfl

@[simp] theorem join_nil : join [] = empty := rfl

@[simp] theorem join_cons (b : Branch) (bs : List Branch) : join (b :: bs) = b ++ join bs := rfl

theorem networks_join (bs : List Branch) : (join bs).networks = bs.flatMap (·.networks) := by
  induction bs with
  | nil => rfl
  | cons b bs ih => simp [ih]

theorem nested_join (bs : List Branch) : (join bs).nested = bs.flatMap (·.nested) := by
  induction bs with
  | nil => rfl
  | cons b bs ih => simp [ih]

/-- Nothing went wrong, and every term is flattened. -/
def Clean (b : Branch) : Prop := b.troubles = [] ∧ b.unflattened = []

theorem clean_empty : Clean empty := ⟨rfl, rfl⟩

theorem clean_append {a b : Branch} : Clean (a ++ b) ↔ Clean a ∧ Clean b := by
  simp only [Clean, troubles_append, unflattened_append, List.append_eq_nil_iff]
  exact and_and_and_comm

theorem clean_join {bs : List Branch} : Clean (join bs) ↔ ∀ b ∈ bs, Clean b := by
  induction bs with
  | nil => simp [clean_empty]
  | cons b bs ih => simp [clean_append, ih]

theorem not_clean_failure (domain : String) (cause : Cause) : ¬ Clean (failure domain cause) := by
  intro h; cases h.1

end Branch

open Branch (Clean)

theorem append_not_silent {a b : Branch} (ha : a.silent = false) (hb : b.silent = false) : (a ++ b).silent = false := by
  rw [Branch.silent_append, ha, hb]
  rfl

theorem join_not_silent {bs : List Branch} (h : ∀ b ∈ bs, b.silent = false) : (Branch.join bs).silent = false := by
  induction bs with
  | nil => rfl
  | cons b bs ih =>
    obtain ⟨hb, hbs⟩ := List.forall_mem_cons.mp h
    exact append_not_silent hb (ih hbs)

/-! ## Questions without effects -/

variable {ask : Ask Id} {α β : Type}

theorem run_bind_ok {x : Lookup Id α} {f : α → Lookup Id β} {b : β} (h : (x >>= f).run = .ok b) :
    ∃ a, x.run = .ok a ∧ (f a).run = .ok b := by
  rw [ExceptT.run_bind] at h
  cases hx : x.run with
  | error e => rw [hx] at h; cases h
  | ok a => rw [hx] at h; exact ⟨a, rfl, h⟩

theorem run_mapM_ok {f : α → Lookup Id β} {as : List α} {bs : List β} (h : (as.mapM f).run = .ok bs) :
    List.Forall₂ (fun a b => (f a).run = .ok b) as bs := by
  induction as generalizing bs with
  | nil =>
    cases h
    exact .nil
  | cons a as ih =>
    rw [List.mapM_cons] at h
    obtain ⟨b, hb, h⟩ := run_bind_ok h
    obtain ⟨bs', hbs, h⟩ := run_bind_ok h
    cases h
    exact .cons hb (ih hbs)

theorem texts_run (ask : Ask Id) (name type : String) :
    (texts ask name type).run = match ask ⟨name, type⟩ with
      | .answers ts => .ok (.ok ts)
      | .failed f => .ok (.error f)
      | .crashed c => .error (.crash c)
      | .silent => .error .silence := by
  unfold texts
  rw [ExceptT.run_bind]
  cases ask ⟨name, type⟩ <;> rfl

theorem texts_ok {name type : String} {ts : List String} (h : (texts ask name type).run = .ok (.ok ts)) :
    ask ⟨name, type⟩ = .answers ts := by
  rw [texts_run] at h
  cases hq : ask ⟨name, type⟩ <;> rw [hq] at h <;> cases h
  rfl

theorem someTexts_ok {name type : String} {ts : List String} (h : (someTexts ask name type).run = .ok (.ok ts)) :
    answers ask name type = ts := by
  unfold someTexts at h
  obtain ⟨r, hr, h⟩ := run_bind_ok h
  rw [texts_run] at hr
  unfold answers
  cases hq : ask ⟨name, type⟩ <;> rw [hq] at hr <;> cases hr
  · cases h; rfl
  · dsimp only at h
    split at h <;> cases h
    rfl

theorem addresses_ok {name : String} {ts : List String} (h : (addresses ask name).run = .ok (.ok ts)) :
    checkAddresses name (answers ask name "A" ++ answers ask name "AAAA") = .ok ts := by
  unfold addresses at h
  obtain ⟨r4, hr4, h⟩ := run_bind_ok h
  cases r4 with
  | error f => cases h
  | ok v4 =>
    obtain ⟨r6, hr6, h⟩ := run_bind_ok h
    cases r6 with
    | error f => cases h
    | ok v6 =>
      rw [someTexts_ok hr4, someTexts_ok hr6]
      exact Except.ok.inj h

theorem exchanges_ok {name : String} {es : List Exchange} (h : (exchanges ask name).run = .ok (.ok es)) :
    Exchange.ofTexts name (answers ask name "MX") = .ok es := by
  unfold exchanges at h
  obtain ⟨r, hr, h⟩ := run_bind_ok h
  cases r with
  | error f => cases h
  | ok ts =>
    have hq := texts_ok hr
    unfold answers
    rw [hq]
    exact Except.ok.inj h

theorem published_ok {domain record : String} (h : (Record.published ask domain).run = .ok (.ok record)) :
    ∃ texts, ask ⟨domain, "TXT"⟩ = .answers texts ∧ Record.select texts domain = .ok record := by
  unfold Record.published at h
  obtain ⟨r, hr, h⟩ := run_bind_ok h
  cases r with
  | error f => cases h
  | ok texts =>
    have h : Record.ofAnswers domain (.ok texts) = .ok record := Except.ok.inj h
    unfold Record.ofAnswers at h
    dsimp only at h
    cases hs : Record.select texts domain with
    | error e => rw [hs] at h; cases h
    | ok r => rw [hs] at h; cases h; exact ⟨texts, texts_ok hr, hs⟩

/-! ## Addresses -/

theorem checkAddresses_ok {name : String} {texts sorted : List String} (h : checkAddresses name texts = .ok sorted) :
    ∀ t, t ∈ sorted ↔ t ∈ texts := by
  unfold checkAddresses at h
  split at h
  · cases h
  · cases h
    exact fun t => Sequence.mem_sort _

theorem mask_ok {v4 v6 : Option String} {text : String} {n : Network} (h : mask v4 v6 text = .ok n) :
    ∃ a, Address.ofText? text = some a ∧ widen? v4 v6 a = some n := by
  unfold mask at h
  cases ha : Address.ofText? text with
  | none => rw [ha] at h; cases h
  | some a =>
    rw [ha] at h
    refine ⟨a, rfl, ?_⟩
    unfold widen? byFamily
    exact congrArg Except.toOption h

theorem maskAll_ok {v4 v6 : Option String} {texts : List String} {ns : List Network} (h : maskAll v4 v6 texts = .ok ns) :
    List.Forall₂ (fun t n => mask v4 v6 t = .ok n) texts ns := by
  induction texts generalizing ns with
  | nil =>
    cases h
    exact .nil
  | cons t ts ih =>
    unfold maskAll at h
    cases hn : mask v4 v6 t with
    | error e => simp [hn, bind, Except.bind] at h
    | ok n =>
      cases hs : maskAll v4 v6 ts with
      | error e => simp [hn, hs, bind, Except.bind] at h
      | ok ns' =>
        simp only [hn, hs, bind, Except.bind, Except.ok.injEq] at h
        rw [← h]
        exact .cons hn (ih hs)

/-- All addresses are widened: none is left out and nothing else is there. -/
def Widened (ask : Ask Id) (names : List String) (v4 v6 : Option String) (networks : List Network) : Prop :=
  (∀ n, n ∈ networks ↔ ∃ name ∈ names, ∃ a ∈ addressesAt ask name, widen? v4 v6 a = some n) ∧
    ∀ name ∈ names, ∀ a ∈ addressesAt ask name, ∃ n, widen? v4 v6 a = some n

theorem addressBranch_clean {name : String} {v4 v6 : Option String} {b : Branch}
    (h : (addressBranch ask name v4 v6).run = .ok b) (hb : Clean b) : Widened ask [name] v4 v6 b.networks := by
  unfold addressBranch at h
  obtain ⟨r, hr, h⟩ := run_bind_ok h
  cases r with
  | error f => cases h; exact absurd hb (Branch.not_clean_failure _ _)
  | ok texts =>
    have hmem := checkAddresses_ok (addresses_ok hr)
    dsimp only at h
    split at h
    · cases h; exact absurd hb (Branch.not_clean_failure _ _)
    · rename_i networks hmask
      cases h
      have hall := maskAll_ok hmask
      have hwide : ∀ a ∈ addressesAt ask name, ∃ n ∈ networks, widen? v4 v6 a = some n := by
        intro a ha
        obtain ⟨t, ht, hta⟩ := List.mem_filterMap.mp ha
        obtain ⟨n, hn, hm⟩ := mem_forall₂_left hall ((hmem t).mpr ht)
        obtain ⟨a', ha', hw⟩ := mask_ok hm
        rw [hta] at ha'
        cases ha'
        exact ⟨n, hn, hw⟩
      simp only [Widened, List.mem_singleton, forall_eq, exists_eq_left]
      refine ⟨fun n => ⟨fun hn => ?_, ?_⟩, fun a ha => ?_⟩
      · obtain ⟨t, ht, hm⟩ := mem_forall₂_right hall hn
        obtain ⟨a, ha, hw⟩ := mask_ok hm
        exact ⟨a, List.mem_filterMap.mpr ⟨t, (hmem t).mp ht, ha⟩, hw⟩
      · rintro ⟨a, ha, hw⟩
        obtain ⟨n', hn', hw'⟩ := hwide a ha
        rw [hw] at hw'
        cases hw'
        exact hn'
      · obtain ⟨n, _, hw⟩ := hwide a ha
        exact ⟨n, hw⟩

theorem Widened.nil {v4 v6 : Option String} : Widened ask [] v4 v6 [] := ⟨by simp, by simp⟩

theorem Widened.append {names names' : List String} {v4 v6 : Option String} {ns ns' : List Network}
    (h : Widened ask names v4 v6 ns) (h' : Widened ask names' v4 v6 ns') :
    Widened ask (names ++ names') v4 v6 (ns ++ ns') := by
  refine ⟨fun n => ?_, fun name hname => ?_⟩
  · simp only [List.mem_append, h.1 n, h'.1 n, or_and_right, exists_or]
  · rcases List.mem_append.mp hname with hname | hname
    · exact h.2 name hname
    · exact h'.2 name hname

/-! ## Mail exchanges -/

theorem readAll_ok {name : String} {texts : List String} {es : List Exchange} (h : Exchange.readAll name texts = .ok es) :
    ∀ host, host ∈ es.map (·.host) ↔
      host ∈ texts.filterMap fun t => ((Exchange.ofText name t).toOption.getD none).map Exchange.host := by
  induction texts generalizing es with
  | nil => cases h; simp
  | cons t ts ih =>
    unfold Exchange.readAll at h
    cases he : Exchange.ofText name t with
    | error f => simp [he, bind, Except.bind] at h
    | ok e =>
      cases hs : Exchange.readAll name ts with
      | error f => simp [he, hs, bind, Except.bind] at h
      | ok es' =>
        simp only [he, hs, bind, Except.bind, Except.ok.injEq] at h
        intro host
        rw [← h, List.map_append, List.mem_append, ih hs host, List.filterMap_cons]
        cases e <;> simp [he, Except.toOption]

theorem exchangeBranches_clean {v4 v6 : Option String} {es : List Exchange} {bs : List Branch}
    (h : List.Forall₂ (fun e b => (exchangeBranch ask v4 v6 e).run = .ok b) es bs) (hb : Clean (Branch.join bs)) :
    Widened ask (es.map (·.host)) v4 v6 (Branch.join bs).networks := by
  induction h with
  | nil => exact .nil
  | cons he _ ih =>
    rw [Branch.join_cons, Branch.clean_append] at hb
    unfold exchangeBranch at he
    obtain ⟨b, hrun, he⟩ := run_bind_ok he
    cases he
    exact (addressBranch_clean hrun (Branch.clean_append.mp hb.1).2).append (ih hb.2)

theorem mxBranch_clean {target : String} {v4 v6 : Option String} {b : Branch}
    (h : (mxBranch ask target v4 v6).run = .ok b) (hb : Clean b) :
    ∃ hosts, Widened ask hosts v4 v6 b.networks ∧ ∀ host, host ∈ hosts ↔
      host ∈ (answers ask target "MX").filterMap fun t => ((Exchange.ofText target t).toOption.getD none).map Exchange.host := by
  unfold mxBranch at h
  obtain ⟨r, hr, h⟩ := run_bind_ok h
  cases r with
  | error f => cases h; exact absurd hb (Branch.not_clean_failure _ _)
  | ok es =>
    obtain ⟨bs, hbs, h⟩ := run_bind_ok h
    cases h
    rw [Branch.clean_append] at hb
    have hfew : ¬ es.length > maxExchanges := by
      intro hmany
      rw [if_pos hmany] at hb
      exact Branch.not_clean_failure _ _ hb.1
    have hall := run_mapM_ok hbs
    rw [List.take_of_length_le (Nat.le_of_not_lt hfew)] at hall
    refine ⟨es.map (·.host), ?_, fun host => ?_⟩
    · rw [Branch.networks_append, if_neg hfew]
      exact exchangeBranches_clean hall hb.2
    · have hes := exchanges_ok hr
      unfold Exchange.ofTexts at hes
      cases hread : Exchange.readAll target (answers ask target "MX") with
      | error f => rw [hread] at hes; cases hes
      | ok es' =>
        rw [hread] at hes
        obtain rfl : Sequence.sort Exchange.le es' = es := Except.ok.inj hes
        rw [← readAll_ok hread host]
        simp only [List.mem_map, Sequence.mem_sort]

/-! ## Terms with addresses -/

theorem widen?_covers {v4 v6 : Option String} {a : Address} {n : Network} (h : widen? v4 v6 a = some n) :
    n.Covers a.family a.value := by
  unfold widen? maskAddress at h
  split at h
  · cases h; exact Address.mem_cut _ _ _
  · split at h
    · rename_i hm
      cases h
      unfold Network.make? at hm
      split at hm
      · cases hm
      · split at hm <;> cases hm
        exact Address.mem_cut _ _ _
    · cases h

theorem Widened.congr {names names' : List String} {v4 v6 : Option String} {ns : List Network}
    (hnames : ∀ name, name ∈ names ↔ name ∈ names') (h : Widened ask names v4 v6 ns) : Widened ask names' v4 v6 ns := by
  refine ⟨fun n => ?_, fun name hname => h.2 name ((hnames name).mpr hname)⟩
  rw [h.1 n]
  simp only [hnames]

theorem ofNetwork_ne_hosts {kind : Mechanism.Kind} {family : Family} {value : Option String} {h : Hosts} :
    Step.ofNetwork kind family value ≠ .hosts h := by
  unfold Step.ofNetwork
  split
  · split <;> simp
  · simp

theorem ofHosts_eq_hosts {isMx : Bool} {t : Term} {h : Hosts} (ht : Step.ofHosts isMx t = .hosts h) :
    h = ⟨isMx, (Cidr.split t.value).domain, (Cidr.split t.value).v4, (Cidr.split t.value).v6⟩ := by
  unfold Step.ofHosts at ht
  dsimp only at ht
  split at ht <;> cases ht
  rfl

/-- The terms whose addresses have to be looked up. -/
theorem ofTerm_hosts {t : Term} {h : Hosts} (ht : Step.ofTerm t = .hosts h) :
    (Mechanism.Kind.ofName t.name = .a ∧
        h = ⟨false, (Cidr.split t.value).domain, (Cidr.split t.value).v4, (Cidr.split t.value).v6⟩) ∨
      (Mechanism.Kind.ofName t.name = .mx ∧
        h = ⟨true, (Cidr.split t.value).domain, (Cidr.split t.value).v4, (Cidr.split t.value).v6⟩) := by
  unfold Step.ofTerm at ht
  cases hk : Mechanism.Kind.ofName t.name <;> simp only [hk] at ht
  case a => exact Or.inl ⟨rfl, ofHosts_eq_hosts ht⟩
  case mx => exact Or.inr ⟨rfl, ofHosts_eq_hosts ht⟩
  case ip4 => exact absurd ht ofNetwork_ne_hosts
  case ip6 => exact absurd ht ofNetwork_ne_hosts
  case incl => (repeat' split at ht) <;> cases ht
  case other => split at ht <;> cases ht
  all_goals cases ht

theorem hostsBranch_clean {domain : String} {t : Term} {h : Hosts} {b : Branch} (ht : Step.ofTerm t = .hosts h)
    (hrun : (hostsBranch ask domain h).run = .ok b) (hb : Clean b) :
    Widened ask (hostsOf ask domain t) (Cidr.split t.value).v4 (Cidr.split t.value).v6 b.networks := by
  unfold hostsBranch at hrun
  rcases ofTerm_hosts ht with ⟨hk, rfl⟩ | ⟨hk, rfl⟩
  · have hw := addressBranch_clean hrun hb
    simpa only [hostsOf, hk] using hw
  · obtain ⟨hosts, hw, hmem⟩ := mxBranch_clean hrun hb
    refine hw.congr fun host => ?_
    rw [hmem host]
    simp only [hostsOf, hk]

end SenderPolicy.Flatten
