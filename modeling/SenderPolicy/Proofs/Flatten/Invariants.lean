/-
  SenderPolicy.Proofs.Flatten.Invariants — what holds throughout a flattening because it holds of each visit.

  A flattening is made of visits. Each of them asks for one record, then for the addresses of its terms, and leads to
  further visits; the branches are put together from a few kinds of pieces. So what is kept from a visit to the
  visits below it, and holds of the pieces, holds of all that is asked and of all branches: in the walk, for all
  domains, in the visits that crashed branches leave behind, and whenever workers take turns.
  - `Pieces.own`, `Pieces.hostsBranch`: a branch of a visit's own terms, from its pieces.
  - `Invariant.walk`, `Invariant.resolveAll`, `Invariant.finish`: one visit after the other.
  - `Task.Step.holds`: each step of the tasks of a pool.
-/

import SenderPolicy.Proofs.Flatten.Pool
import SenderPolicy.Proofs.Policy.Coverage

namespace SenderPolicy.Flatten

open Dns Policy
open Dns.Program (put)

/-! ## Networks that are found -/

theorem ofNetwork_spellable {kind : Mechanism.Kind} {family : Family} {value : Option String} {n : Network}
    (h : Step.ofNetwork kind family value = .network n) : n.Spellable := by
  unfold Step.ofNetwork at h
  split at h
  · rename_i m hm
    split at h <;> cases h
    exact Network.ofText?_spellable hm
  · cases h

theorem ofTerm_spellable {t : Term} {n : Network} (h : Step.ofTerm t = .network n) : n.Spellable := by
  unfold Step.ofTerm Step.ofHosts at h
  cases hk : Mechanism.Kind.ofName t.name <;> simp only [hk] at h
  case ip4 => exact ofNetwork_spellable h
  case ip6 => exact ofNetwork_spellable h
  all_goals (repeat' split at h) <;> cases h

theorem maskAll_spellable {v4 v6 : Option String} {texts : List String} {ns : List Network}
    (h : maskAll v4 v6 texts = .ok ns) : ∀ n ∈ ns, n.Spellable := by
  intro n hn
  obtain ⟨t, -, hmask⟩ := mem_forall₂_right (maskAll_ok h) hn
  obtain ⟨a, ha, hwide⟩ := mask_ok hmask
  exact widen?_spellable (Address.ofText?_fits ha) hwide

/-! ## The pieces of a branch -/

/-- That something holds of all pieces that branches are put together from, and of what is put together. -/
structure Pieces (B : Branch → Prop) : Prop where
  empty : B .empty
  append : ∀ {a b : Branch}, B a → B b → B (a ++ b)
  failure : ∀ domain cause, B (.failure domain cause)
  silence : ∀ domain cause, B { Branch.failure domain cause with silent := true }
  /-- An error in the place of a branch leaves behind what the branch has left behind. -/
  dropped : ∀ {b : Branch} (domain : String) (cause : Cause), B b → B { Branch.failure domain cause with pending := b.pending }
  found : ∀ {ns : List Network}, (∀ n ∈ ns, n.Spellable) → B (.found ns)
  /-- A term that takes a lookup goes on to a domain, or is left out, or neither of both. -/
  counted : ∀ {nested unflattened : List String} (troubles : List Trouble), nested.length + unflattened.length ≤ 1 →
    B { Branch.lookup with nested, troubles, unflattened }

namespace Pieces

variable {A B : Branch → Prop}

theorem and (ha : Pieces A) (hb : Pieces B) : Pieces fun b => A b ∧ B b where
  empty := ⟨ha.empty, hb.empty⟩
  append h h' := ⟨ha.append h.1 h'.1, hb.append h.2 h'.2⟩
  failure domain cause := ⟨ha.failure domain cause, hb.failure domain cause⟩
  silence domain cause := ⟨ha.silence domain cause, hb.silence domain cause⟩
  dropped domain cause h := ⟨ha.dropped domain cause h.1, hb.dropped domain cause h.2⟩
  found h := ⟨ha.found h, hb.found h⟩
  counted troubles h := ⟨ha.counted troubles h, hb.counted troubles h⟩

theorem join (h : Pieces B) {bs : List Branch} (hbs : ∀ b ∈ bs, B b) : B (Branch.join bs) := by
  induction bs with
  | nil => exact h.empty
  | cons b bs ih =>
    obtain ⟨hb, hbs⟩ := List.forall_mem_cons.mp hbs
    exact h.append hb (ih hbs)

theorem lookup (h : Pieces B) : B Branch.lookup := by
  show B { Branch.lookup with nested := [], troubles := [], unflattened := [] }
  exact h.counted [] (Nat.zero_le 1)

theorem step (h : Pieces B) (domain : String) (t : Term) : B ((Step.ofTerm t).branch domain) := by
  cases hs : Step.ofTerm t with
  | stop => exact h.empty
  | skip => exact h.empty
  | redirect target => exact h.empty
  | network n => exact h.found (List.forall_mem_singleton.mpr (ofTerm_spellable hs))
  | badNetwork kind value => exact h.failure _ _
  | unflattened t => exact h.counted _ (Nat.le_refl 1)
  | missingInclude => exact h.counted _ (Nat.zero_le 1)
  | incl target => exact h.counted _ (Nat.le_refl 1)
  | hosts hosts => exact h.lookup

theorem redirect (h : Pieces B) (target : Option String) : B (Plan.redirectBranch target) := by
  unfold Plan.redirectBranch
  split
  · exact h.empty
  split
  · exact h.counted _ (Nat.le_refl 1)
  · exact h.counted _ (Nat.le_refl 1)

theorem plan (h : Pieces B) (domain : String) (terms : List Term) : B ((Plan.ofTerms terms).branch domain) := by
  unfold Plan.branch
  refine h.append (h.join fun b hb => ?_) (h.redirect _)
  obtain ⟨step, hstep, rfl⟩ := List.mem_map.mp hb
  have hmem : step ∈ terms.map Step.ofTerm := (List.takeWhile_sublist _).subset hstep
  obtain ⟨t, -, rfl⟩ := List.mem_map.mp hmem
  exact h.step domain t

theorem own (h : Pieces B) (v : Visit) (record : String) : B (own v record) := h.plan v.domain (Record.tokenize record)

theorem addressBranch (h : Pieces B) (name : String) (v4 v6 : Option String) : Finds B (addressBranch put name v4 v6) := by
  refine (finds_of_forall (fun _ => trivial) _).bind fun r _ => ?_
  cases r with
  | error f => exact finds_pure (h.failure _ _)
  | ok texts =>
    dsimp only
    split
    · exact finds_pure (h.failure _ _)
    · rename_i ns hns
      exact finds_pure (h.found (maskAll_spellable hns))

theorem hostsBranch (h : Pieces B) (domain : String) (hosts : Hosts) : Finds B (hostsBranch put domain hosts) := by
  unfold Flatten.hostsBranch
  dsimp only
  split
  · refine (finds_of_forall (fun _ => trivial) _).bind fun r _ => ?_
    cases r with
    | error f => exact finds_pure (h.failure _ _)
    | ok es =>
      have hexchange : ∀ e, Finds B (exchangeBranch put hosts.v4 hosts.v6 e) := fun e =>
        (h.addressBranch e.host hosts.v4 hosts.v6).bind fun b hb => finds_pure (h.append h.lookup hb)
      refine (finds_mapM hexchange _).bind fun bs hbs => finds_pure (h.append ?_ (h.join hbs))
      split
      · exact h.failure _ _
      · exact h.empty
  · exact h.addressBranch _ _ _

theorem interrupted (h : Pieces B) (limits : Limits) (name : String) (i : Interruption) : B (interrupted limits name i) := by
  cases i with
  | crash c => exact h.failure _ _
  | silence => exact h.silence _ _

theorem awaited (h : Pieces B) {b : Branch} (hb : B b) (limits : Limits) (name : String) : B (awaited limits name b) := by
  unfold Flatten.awaited
  split
  · exact h.interrupted _ _ _
  · exact hb

theorem collected (h : Pieces B) (limits : Limits) (v : Visit) {gathered : Branch} {below : List Branch} (hgathered : B gathered)
    (hbelow : ∀ b ∈ below, B b) : B (collected limits v gathered below) := by
  unfold Flatten.collected
  split
  · exact h.dropped v.name .endless (h.join hbelow)
  · exact h.append hgathered (h.join hbelow)

end Pieces

/-! ## One visit after the other -/

/-- What is kept from a visit to those below it, with what holds of the questions and of the branches on the way. -/
structure Invariant (limits : Limits) (P : Visit → Prop) (Q : Question → Prop) (B : Branch → Prop) : Prop
    extends Pieces B where
  child : ∀ {v w : Visit} {record : String}, P v → w ∈ children limits v record → P w
  record : ∀ {v : Visit}, P v → Q ⟨v.domain, "TXT"⟩
  hosts : ∀ q : Question, q.type ∈ ["A", "AAAA", "MX"] → Q q
  /-- What is left of a visit that breaks down in the middle. -/
  broken : ∀ {v : Visit} {record : String} {i : Interruption}, P v →
    B { interrupted limits v.name i with pending := children limits v record }

namespace Invariant

variable {limits : Limits} {c : Client} {P : Visit → Prop} {Q : Question → Prop} {B : Branch → Prop} {v : Visit}

theorem walk (h : Invariant limits P Q B) (room : Nat) (hv : P v) :
    (walk limits put room v).Only Q ∧ (walk limits put room v).Gives B := by
  induction room generalizing v with
  | zero => exact ⟨.done _, .done (h.failure _ _)⟩
  | succ room ih =>
    unfold Flatten.walk
    dsimp only
    split
    · exact ⟨.done _, .done (h.failure _ _)⟩
    split
    · exact ⟨.done _, .done (h.failure _ _)⟩
    refine ⟨(looks_published (h.record hv)).only.bind fun r => ?_,
      (Program.gives_of_forall (fun _ => trivial) _).bind fun r _ => ?_⟩
    · rcases r with i | u | record
      · exact .done _
      · exact .done _
      · refine (looks_hosts h.hosts _ _).only.bind fun r => ?_
        cases r with
        | error i => exact .done _
        | ok hosts =>
          refine (Program.only_mapM fun child hchild => ?_).bind fun _ => .done _
          exact (ih (h.child hv hchild)).1.bind fun _ => .done _
    · rcases r with i | u | record
      · exact .done (h.interrupted _ _ _)
      · exact .done (h.failure _ _)
      · refine Program.Gives.bind (finds_mapM (h.hostsBranch _) _) fun r hr => ?_
        cases r with
        | error i => exact .done (h.broken hv)
        | ok hosts =>
          have hchild : ∀ child ∈ children limits v record,
              (do return awaited limits child.name (← Flatten.walk limits put room child) : Program Branch).Gives B :=
            fun child hchild => (ih (h.child hv hchild)).2.bind fun b hb => .done (h.awaited hb _ _)
          refine (Program.gives_mapM hchild).bind fun below hbelow => .done ?_
          exact h.collected limits v (h.append (h.own v record) (h.join (hr _ rfl))) hbelow

theorem resolveAll (h : Invariant limits P Q B) {depth : Int} {ds : List String} (hds : ∀ d ∈ ds, P ⟨depth, [], d⟩)
    (workers : Nat) :
    (resolveAll limits put depth workers ds).Only Q ∧
      (resolveAll limits put depth workers ds).Gives fun r => ∀ e ∈ r.1, B e.2 := by
  induction ds generalizing workers with
  | nil => cases workers <;> exact ⟨.done _, .done (List.forall_mem_nil _)⟩
  | cons d ds ih =>
    obtain ⟨hd, hds⟩ := List.forall_mem_cons.mp hds
    cases workers with
    | zero =>
      refine ⟨.done _, .done fun e he => ?_⟩
      obtain ⟨d', -, rfl⟩ := List.mem_map.mp he
      exact h.interrupted limits d' .silence
    | succ workers =>
      obtain ⟨honly, hgives⟩ := h.walk (roomAt limits depth) hd
      refine ⟨honly.bind fun b => (ih hds _).1.bind fun r => .done _, hgives.bind fun b hb => ?_⟩
      exact (ih hds _).2.bind fun r hr => .done (List.forall_mem_cons.mpr ⟨h.awaited hb _ _, hr⟩)

theorem finish (h : Invariant limits P Q B) (hpending : ∀ b, B b → ∀ w ∈ b.pending, P w) (rounds : Nat) {vs : List Visit}
    (hvs : ∀ w ∈ vs, P w) : (finish limits put rounds vs).Only Q := by
  induction rounds generalizing vs with
  | zero => cases vs <;> exact .done _
  | succ rounds ih =>
    cases vs with
    | nil => exact .done _
    | cons v vs =>
      -- What the rest may go on with depends on the branches, so these come with what holds of them.
      refine Program.Only.bind_gives (Program.only_mapM fun w hw => (h.walk _ (hvs w hw)).1)
        (Program.gives_mapM fun w hw => (h.walk _ (hvs w hw)).2) fun bs hbs => ih fun w hw => ?_
      obtain ⟨b, hb, hw⟩ := List.mem_flatMap.mp hw
      exact hpending b (hbs b hb) w hw

variable {σ : Type}

theorem resolve (h : Invariant limits P Q B) (ask : Ask (StateM σ)) (hv : P v) (s : σ) : B ((resolve limits ask v).run s).1 := by
  have hgives := (h.walk (roomAt limits v.depth) hv).2.run ask s
  rw [run_walk] at hgives
  exact hgives

/-- The branches of all domains. -/
theorem share (h : Invariant limits P Q B) (ask : Ask (StateM σ)) {depth : Int} {ds : List String}
    (hds : ∀ d ∈ ds, P ⟨depth, [], d⟩) (s : σ) : ∀ e ∈ ((share limits ask depth ds).run s).1, B e.2 := by
  have hgives := (h.resolveAll hds limits.workers).2.run ask s
  rw [run_resolveAll] at hgives
  rw [share_run]
  exact hgives

end Invariant

/-! ## Shared out among workers -/

section

variable {limits : Limits} {c : Client} {entries kept : Entries} {P : Visit → Prop} {Q : Question → Prop} {B : Branch → Prop}

/-- The same of a task: its visit, what it may still ask for, what it has gathered and may still gather. -/
inductive Task.Holds (P : Visit → Prop) (Q : Question → Prop) (B : Branch → Prop) : Task → Prop
  | waiting {v : Visit} : P v → Holds P Q B (.waiting v)
  | reading {v : Visit} {taken : Bool} {left : Reading} : P v → left.Only Q → Holds P Q B (.reading v taken left)
  | looking {v : Visit} {taken : Bool} {record : String} {left : Looking} {below : List Task} :
      P v → left.Only Q → left.Gives (fun r => ∀ hosts, r = .ok hosts → ∀ b ∈ hosts, B b) → (∀ t ∈ below, Holds P Q B t) →
      Holds P Q B (.looking v taken record left below)
  | collecting {v : Visit} {taken : Bool} {gathered : Branch} {results : List Branch} {orphans below : List Task} :
      B gathered → (∀ b ∈ results, B b) → (∀ t ∈ orphans, Holds P Q B t) → (∀ t ∈ below, Holds P Q B t) →
      Holds P Q B (.collecting v taken gathered results orphans below)
  | done {v : Visit} {b : Branch} {orphans : List Task} :
      B b → (∀ t ∈ orphans, Holds P Q B t) → Holds P Q B (.done v b orphans)

theorem holds_begin (h : Invariant limits P Q B) (hnormal : ∀ q, Q q → Q q.normalize) (c : Client) (taken : Bool) {v : Visit}
    (hv : P v) : (Task.begin limits c taken v).Holds P Q B := by
  unfold Task.begin
  split
  · exact .done (h.failure _ _) (List.forall_mem_nil _)
  split
  · exact .done (h.failure _ _) (List.forall_mem_nil _)
  split
  · exact .done (h.failure _ _) (List.forall_mem_nil _)
  · have honly := (looks_published (h.record hv)).only.access hnormal c
    rw [run_published] at honly
    exact .reading hv honly

theorem holds_waiting {vs : List Visit} (h : ∀ v ∈ vs, P v) : ∀ t ∈ vs.map Task.waiting, t.Holds P Q B := by
  intro t ht
  obtain ⟨v, hv, rfl⟩ := List.mem_map.mp ht
  exact .waiting (h v hv)

theorem holds_submit (h : Invariant limits P Q B) (hnormal : ∀ q, Q q → Q q.normalize) (c : Client) (taken : Bool)
    {v : Visit} (hv : P v) (record : String) :
    (Task.looking v taken record (hostsAccess c v record) ((children limits v record).map .waiting)).Holds P Q B := by
  have honly := (looks_hosts h.hosts v.domain (planOf record).hosts).only.access hnormal c
  have hgives := Program.Gives.access (finds_mapM (h.hostsBranch v.domain) (planOf record).hosts) c
  rw [run_hosts] at honly hgives
  exact .looking hv honly hgives (holds_waiting fun w hw => h.child hv hw)

/-- No step puts a question or gathers anything else. -/
theorem Task.Step.holds (h : Invariant limits P Q B) (hnormal : ∀ q, Q q → Q q.normalize) {free : Prop} {t t' : Task}
    (hstep : Task.Step limits c free entries t kept t') (ht : t.Holds P Q B) : t'.Holds P Q B := by
  induction hstep with
  | take _ => cases ht with | waiting hv => exact holds_begin h hnormal c _ hv
  | read haccess => cases ht with | reading hv hleft => exact .reading hv (haccess.only hleft)
  | interrupted => exact .done (h.interrupted _ _ _) (List.forall_mem_nil _)
  | unavailable => exact .done (h.failure _ _) (List.forall_mem_nil _)
  | submit => cases ht with | reading hv _ => exact holds_submit h hnormal c _ hv _
  | look haccess =>
    cases ht with
    | looking hv hleft hhosts hbelow => exact .looking hv (haccess.only hleft) (haccess.gives hhosts) hbelow
  | crash => cases ht with | looking hv _ _ hbelow => exact .done (h.broken hv) hbelow
  | gather =>
    cases ht with
    | looking _ _ hhosts hbelow =>
      cases hhosts with
      | done hhosts =>
        refine .collecting ?_ (List.forall_mem_nil _) (List.forall_mem_nil _) hbelow
        exact h.append (h.own _ _) (h.join (hhosts _ rfl))
  | makeInline =>
    cases ht with
    | collecting hgathered hresults horphans hbelow =>
      obtain ⟨hfirst, hrest⟩ := List.forall_mem_cons.mp hbelow
      cases hfirst with
      | waiting hw =>
        exact .collecting hgathered hresults horphans (List.forall_mem_cons.mpr ⟨holds_begin h hnormal c _ hw, hrest⟩)
  | collect =>
    cases ht with
    | collecting hgathered hresults horphans hbelow =>
      obtain ⟨hfirst, hrest⟩ := List.forall_mem_cons.mp hbelow
      cases hfirst with
      | done hb horphans' =>
        refine .collecting hgathered ?_ (List.forall_mem_append.mpr ⟨horphans, horphans'⟩) hrest
        exact List.forall_mem_append.mpr ⟨hresults, List.forall_mem_singleton.mpr hb⟩
  | finish =>
    cases ht with
    | collecting hgathered hresults horphans _ => exact .done (h.append hgathered (h.join hresults)) horphans
  | belowLooking _ ih =>
    cases ht with
    | looking hv hleft hhosts hbelow => exact .looking hv hleft hhosts (forall_replaced hbelow (ih (hbelow _ (by simp))))
  | belowCollecting _ ih =>
    cases ht with
    | collecting hgathered hresults horphans hbelow =>
      exact .collecting hgathered hresults horphans (forall_replaced hbelow (ih (hbelow _ (by simp))))
  | orphanCollecting _ ih =>
    cases ht with
    | collecting hgathered hresults horphans hbelow =>
      exact .collecting hgathered hresults (forall_replaced horphans (ih (horphans _ (by simp)))) hbelow
  | orphanDone _ ih =>
    cases ht with
    | done hb horphans => exact .done hb (forall_replaced horphans (ih (horphans _ (by simp))))

end

end SenderPolicy.Flatten
