/-
  SenderPolicy.Proofs.Dns.Accesses — asking step by step, at a cache that others use as well.

  To ask is no single step: the cache is looked into, the source is asked if nothing is there, and what comes back
  is put into the cache. Written as a tree of these accesses, it can be carried out one access at a time while
  others get at the same cache in between. Nothing is assumed of how the cache keeps things: an entry may be gone
  at any time, for want of room or because of its age.
  If the source answers every question in one way only, all of that makes no difference. A cache agrees with the
  source if it holds nothing but its answers; keys do not mix up two questions, since no record type has
  an underscore in it.
  - `exec_query`: carried out in one go, the accesses are the client's query.
  - `Question.key_inj`: a key belongs to one question.
  - `yields_query`, `Constant.yields_run`: whatever the accesses find, they come to one result.
  - `AccessStep.sound`: each access keeps that result and the agreement, and there is less left to do.
  - `AccessStep.gives`: what holds of all that accesses may come to is kept at any source.
  - `Program.Only.access`, `AccessStep.only`: so is what holds of all that the source is asked for.
-/

import SenderPolicy.Dns.Session
import SenderPolicy.Proofs.Dns.Programs

namespace SenderPolicy.Dns

/-- A program that gets at a cache and a source. -/
inductive Access (α : Type) where
  | done (a : α)
  /-- Looks into the cache for the answers to a question. -/
  | look (q : Question) (next : Option (List String) → Access α)
  /-- Asks the source. -/
  | resolve (q : Question) (next : Outcome → Access α)
  /-- Puts the answers to a question into the cache. -/
  | store (q : Question) (texts : List String) (next : Access α)

namespace Access

variable {α β : Type}

protected def bind : Access α → (α → Access β) → Access β
  | .done a, f => f a
  | .look q next, f => .look q fun hit => (next hit).bind f
  | .resolve q next, f => .resolve q fun o => (next o).bind f
  | .store q texts next, f => .store q texts (next.bind f)

instance : Monad Access where
  pure := .done
  bind := Access.bind

protected theorem bind_done (x : Access α) : x.bind .done = x := by
  induction x with
  | done a => rfl
  | look q next ih => exact congrArg (Access.look q) (funext ih)
  | resolve q next ih => exact congrArg (Access.resolve q) (funext ih)
  | store q texts next ih => exact congrArg (Access.store q texts) ih

protected theorem bind_assoc {γ : Type} (x : Access α) (f : α → Access β) (g : β → Access γ) :
    (x.bind f).bind g = x.bind fun a => (f a).bind g := by
  induction x with
  | done a => rfl
  | look q next ih => exact congrArg (Access.look q) (funext ih)
  | resolve q next ih => exact congrArg (Access.resolve q) (funext ih)
  | store q texts next ih => exact congrArg (Access.store q texts) ih

instance : LawfulMonad Access := LawfulMonad.mk' Access Access.bind_done (fun _ _ => rfl) Access.bind_assoc

end Access

/-! ## A client's query -/

namespace Client

/-- Answers a question in normal form from the cache, or by asking once. -/
def attemptAccess (q : Question) : Access Outcome :=
  .look q fun
    | some texts => .done (.answers texts)
    | none => .resolve q fun
      | .answers texts => .store q texts (.done (.answers texts))
      | o => .done o

def retryAccess : Nat → Question → Access Outcome
  | 0, q => attemptAccess q.normalize
  | n + 1, q => do
    let o ← attemptAccess q.normalize
    if o.isTransient then retryAccess n q.normalize else return o

def queryAccess (c : Client) : Ask Access := fun q => do return c.conclude (← retryAccess c.patience q)

end Client

namespace Access

variable {α β : Type} (c : Client)

/-- Carries out all accesses with a client's memory. -/
def exec : Access α → StateM Memory α
  | .done a => pure a
  | .look q next => fun m => exec (next (m.cache.lookup q.key).1) { m with cache := (m.cache.lookup q.key).2 }
  | .resolve q next => fun m => exec (next (c.resolve q m).1) (c.resolve q m).2
  | .store q texts next => fun m => exec next { m with cache := m.cache.store q.key texts }

theorem exec_bind (x : Access α) (f : α → Access β) : exec c (x >>= f) = exec c x >>= fun a => exec c (f a) := by
  induction x with
  | done a => rfl
  | look q next ih => exact funext fun m => congrFun (ih (m.cache.lookup q.key).1) _
  | resolve q next ih => exact funext fun m => congrFun (ih (c.resolve q m).1) _
  | store q texts next ih => exact funext fun m => congrFun ih _

theorem exec_attempt (q : Question) : exec c (Client.attemptAccess q) = c.attempt q := by
  funext m
  show exec c _ { m with cache := (m.cache.lookup q.key).2 } = _
  unfold Client.attempt
  obtain ⟨hit, cache⟩ := m.cache.lookup q.key
  cases hit with
  | some texts => rfl
  | none =>
    show exec c _ (c.resolve q { m with cache }).2 = _
    dsimp only
    obtain ⟨o, m'⟩ := c.resolve q { m with cache }
    cases o <;> rfl

theorem exec_retry (n : Nat) (q : Question) : exec c (Client.retryAccess n q) = c.retrying n q := by
  induction n generalizing q with
  | zero => exact exec_attempt c q.normalize
  | succ n ih =>
    funext m
    unfold Client.retryAccess
    rw [exec_bind, exec_attempt]
    show exec c (if (c.attempt q.normalize m).1.isTransient then _ else _) (c.attempt q.normalize m).2 = _
    unfold Client.retrying
    dsimp only
    split
    · rw [ih]
    · rfl

theorem exec_query (q : Question) : exec c (c.queryAccess q) = c.query q := by
  unfold Client.queryAccess
  rw [exec_bind, exec_retry]
  rfl

theorem exec_run (x : Program α) : exec c (x.run c.queryAccess) = x.run c.query := by
  induction x with
  | done a => rfl
  | ask q next ih =>
    show exec c (c.queryAccess q >>= fun o => (next o).run c.queryAccess) = _
    rw [exec_bind, exec_query]
    exact bind_congr ih

end Access

/-! ## Keys -/

namespace Question

theorem IsRegular.normalize {q : Question} (h : q.IsRegular) : q.normalize.IsRegular := by
  have hupper : ∀ t ∈ recordTypes, Text.upper t ∈ recordTypes := by decide +kernel
  exact hupper _ h

theorem IsRegular.no_underscore {q : Question} (h : q.IsRegular) : '_' ∉ q.type.toList := by
  have hall : ∀ t ∈ recordTypes, '_' ∉ t.toList := by decide +kernel
  exact hall _ h

theorem key_toList (q : Question) : q.key.toList = q.name.toList ++ '_' :: q.type.toList := by
  rw [Question.key, String.toList_append, String.toList_append, List.append_assoc]
  rfl

theorem type_of_tail {before type type' : List Char} (h : '_' :: type = before ++ '_' :: type') (ht : '_' ∉ type) :
    before = [] ∧ type = type' := by
  cases before with
  | nil => exact ⟨rfl, (List.cons.inj h).2⟩
  | cons c before =>
    rw [(List.cons.inj h).2] at ht
    exact absurd (List.mem_append_right _ List.mem_cons_self) ht

/-- The type is what follows the last underscore of the key. -/
theorem key_inj {q r : Question} (hq : q.IsRegular) (hr : r.IsRegular) (h : q.key = r.key) : q = r := by
  have hkey : q.name.toList ++ '_' :: q.type.toList = r.name.toList ++ '_' :: r.type.toList := by
    rw [← key_toList, ← key_toList, h]
  have hparts : q.name.toList = r.name.toList ∧ q.type.toList = r.type.toList := by
    rcases List.append_eq_append_iff.mp hkey with ⟨between, hname, htail⟩ | ⟨between, hname, htail⟩
    · obtain ⟨rfl, htype⟩ := type_of_tail htail hq.no_underscore
      exact ⟨by rw [hname, List.append_nil], htype⟩
    · obtain ⟨rfl, htype⟩ := type_of_tail htail hr.no_underscore
      exact ⟨by rw [hname, List.append_nil], htype.symm⟩
  cases q
  cases r
  rw [Question.mk.injEq]
  exact ⟨String.toList_inj.mp hparts.1, String.toList_inj.mp hparts.2⟩

end Question

/-! ## One result -/

section

variable {α β : Type} {outcome : Question → Outcome}

/-- What a cache holds: keys and answers. -/
abbrev Entries := List (String × List String)

/-- That a cache holds nothing but what the source answers. -/
def Agrees (outcome : Question → Outcome) (entries : Entries) : Prop :=
  ∀ e ∈ entries, ∀ q : Question, q.IsRegular → q.key = e.1 → outcome q = .answers e.2

theorem Agrees.subset {entries kept : Entries} (h : Agrees outcome entries) (hsub : kept ⊆ entries) :
    Agrees outcome kept := fun e he => h e (hsub he)

theorem Agrees.store {entries kept : Entries} {q : Question} {texts : List String}
    (h : Agrees outcome entries) (hq : q.IsRegular) (ho : outcome q = .answers texts)
    (hsub : kept ⊆ (q.key, texts) :: entries) :
    Agrees outcome kept := by
  intro e he r hr hkey
  rcases List.mem_cons.mp (hsub he) with rfl | he
  · rw [Question.key_inj hr hq hkey]
    exact ho
  · exact h e he r hr hkey

/-- That a program comes to one result at a source that answers in one way, whatever a cache that agrees with the
source has in it, and keeps this agreement. -/
inductive Yields (outcome : Question → Outcome) : Access α → α → Prop
  | done (a : α) : Yields outcome (.done a) a
  | look {q : Question} {next : Option (List String) → Access α} {a : α} :
      q.IsRegular → (∀ texts, outcome q = .answers texts → Yields outcome (next (some texts)) a) →
      Yields outcome (next none) a → Yields outcome (.look q next) a
  | resolve {q : Question} {next : Outcome → Access α} {a : α} :
      Yields outcome (next (outcome q)) a → Yields outcome (.resolve q next) a
  | store {q : Question} {texts : List String} {next : Access α} {a : α} :
      q.IsRegular → outcome q = .answers texts → Yields outcome next a → Yields outcome (.store q texts next) a

theorem Yields.of_done {a b : α} (h : Yields outcome (.done a) b) : b = a := by
  cases h
  rfl

theorem Yields.bind {x : Access α} {f : α → Access β} {a : α} {b : β} (hx : Yields outcome x a)
    (hf : Yields outcome (f a) b) :
    Yields outcome (x >>= f) b := by
  induction hx with
  | done a => exact hf
  | look hq _ _ hit miss => exact .look hq (fun texts ho => hit texts ho hf) (miss hf)
  | resolve _ ih => exact .resolve (ih hf)
  | store hq ho _ ih => exact .store hq ho (ih hf)

theorem yields_attempt {q : Question} (hq : q.IsRegular) : Yields outcome (Client.attemptAccess q) (outcome q) := by
  refine .look hq (fun texts ho => ?_) (.resolve ?_)
  · rw [ho]
    exact .done _
  · cases ho : outcome q with
    | answers texts => exact .store hq ho (.done _)
    | failed f => exact .done _
    | crashed e => exact .done _
    | silent => exact .done _

/-- What comes of asking so often again. -/
def settledRetry (outcome : Question → Outcome) : Nat → Question → Outcome
  | 0, q => outcome q.normalize
  | n + 1, q => if (outcome q.normalize).isTransient then settledRetry outcome n q.normalize else outcome q.normalize

/-- What a query comes to. -/
def settled (c : Client) (outcome : Question → Outcome) : Ask Id := fun q => c.conclude (settledRetry outcome c.patience q)

theorem yields_retry (n : Nat) {q : Question} (hq : q.IsRegular) :
    Yields outcome (Client.retryAccess n q) (settledRetry outcome n q) := by
  induction n generalizing q with
  | zero => exact yields_attempt hq.normalize
  | succ n ih =>
    refine (yields_attempt hq.normalize).bind ?_
    unfold settledRetry
    split
    · exact ih hq.normalize
    · exact .done _

theorem yields_query (c : Client) {q : Question} (hq : q.IsRegular) :
    Yields outcome (c.queryAccess q) (settled c outcome q).run :=
  (yields_retry c.patience hq).bind (.done _)

/-- A source that always answers is never silent to a client either. -/
theorem settled_ne_silent (c : Client) (h : ∀ q, outcome q ≠ .silent) (q : Question) :
    (settled c outcome q).run ≠ .silent := by
  have hretry : ∀ n q, settledRetry outcome n q ≠ .silent := by
    intro n
    induction n with
    | zero => exact fun q => h _
    | succ n ih =>
      intro q
      unfold settledRetry
      split
      · exact ih _
      · exact h _
  show c.conclude (settledRetry outcome c.patience q) ≠ .silent
  unfold Client.conclude
  split
  · exact hretry _ _
  · split
    · exact Outcome.noConfusion
    · exact hretry _ _

/-- A source that answers in one way, and what comes of it for a client that asks often enough. -/
structure Constant (c : Client) (outcome : Question → Outcome) (ask : Ask Id) : Prop where
  source : ∀ q asked, c.source q asked = outcome q
  query : ∀ q : Question, q.IsRegular → Yields outcome (c.queryAccess q) (ask q).run

theorem constant_settled {c : Client} (h : ∀ q asked, c.source q asked = outcome q) : Constant c outcome (settled c outcome) :=
  ⟨h, fun _ hq => yields_query c hq⟩

/-- A tree of regular questions comes to what the settled outcomes lead to. -/
theorem Constant.yields_run {c : Client} {ask : Ask Id} (h : Constant c outcome ask) {x : Program α}
    (hx : x.Only Question.IsRegular) : Yields outcome (x.run c.queryAccess) (x.run ask).run := by
  induction hx with
  | done a => exact .done a
  | ask hq _ ih => exact (h.query _ hq).bind (ih _)

end

/-! ## One access -/

/-- One access, at a cache of which any entry may be gone by then. -/
inductive AccessStep {α : Type} (c : Client) : Entries → Access α → Entries → Access α → Prop
  | hit {entries kept : Entries} {q : Question} {next : Option (List String) → Access α} {texts : List String} :
      (q.key, texts) ∈ entries → kept ⊆ entries → AccessStep c entries (.look q next) kept (next (some texts))
  | miss {entries kept : Entries} {q : Question} {next : Option (List String) → Access α} :
      kept ⊆ entries → AccessStep c entries (.look q next) kept (next none)
  | resolve {entries : Entries} {q : Question} {next : Outcome → Access α} (asked : Nat) :
      AccessStep c entries (.resolve q next) entries (next (c.source q asked))
  | store {entries kept : Entries} {q : Question} {texts : List String} {next : Access α} :
      kept ⊆ (q.key, texts) :: entries → AccessStep c entries (.store q texts next) kept next

section

variable {α : Type} {c : Client} {outcome : Question → Outcome} {entries kept : Entries} {x x' : Access α} {a : α}

/-- An access keeps the result and the agreement. -/
theorem AccessStep.sound (hsource : ∀ q n, c.source q n = outcome q) (h : AccessStep c entries x kept x')
    (hx : Yields outcome x a) (hentries : Agrees outcome entries) : Yields outcome x' a ∧ Agrees outcome kept := by
  cases h with
  | hit hmem hsub =>
    cases hx with
    | look hq hit _ => exact ⟨hit _ (hentries _ hmem _ hq rfl), hentries.subset hsub⟩
  | miss hsub =>
    cases hx with
    | look _ _ miss => exact ⟨miss, hentries.subset hsub⟩
  | resolve asked =>
    cases hx with
    | resolve hnext =>
      rw [hsource]
      exact ⟨hnext, hentries⟩
  | store hsub =>
    cases hx with
    | store hq ho hnext => exact ⟨hnext, hentries.store hq ho hsub⟩

/-- A program that is not done can get at the cache or the source. -/
theorem exists_accessStep (c : Client) (entries : Entries) (x : Access α) :
    (∃ a, x = .done a) ∨ ∃ kept x', AccessStep c entries x kept x' := by
  cases x with
  | done a => exact .inl ⟨a, rfl⟩
  | look q next => exact .inr ⟨_, _, .miss (List.Subset.refl _)⟩
  | resolve q next => exact .inr ⟨_, _, .resolve 0⟩
  | store q texts next => exact .inr ⟨_, _, .store (List.Subset.refl _)⟩

/-- So many accesses may still come, at a source that answers in one way. -/
def Access.size (outcome : Question → Outcome) : Access α → Nat
  | .done _ => 0
  | .look q next =>
    1 + max ((next none).size outcome) (match outcome q with | .answers texts => (next (some texts)).size outcome | _ => 0)
  | .resolve q next => 1 + (next (outcome q)).size outcome
  | .store _ _ next => 1 + next.size outcome

theorem AccessStep.size_lt (hsource : ∀ q n, c.source q n = outcome q) (h : AccessStep c entries x kept x')
    (hx : Yields outcome x a) (hentries : Agrees outcome entries) : x'.size outcome < x.size outcome := by
  cases h with
  | hit hmem _ =>
    cases hx with
    | look hq _ _ =>
      have ho := hentries _ hmem _ hq rfl
      simp only [Access.size, ho]
      omega
  | miss _ =>
    simp only [Access.size]
    omega
  | resolve asked =>
    simp only [Access.size, hsource]
    omega
  | store _ =>
    simp only [Access.size]
    omega

/-! ## What comes of it -/

/-- That everything accesses may come to has a property, whatever the cache and the source have. -/
inductive Access.Gives (r : α → Prop) : Access α → Prop
  | done {a : α} : r a → Gives r (.done a)
  | look {q : Question} {next : Option (List String) → Access α} : (∀ hit, Gives r (next hit)) → Gives r (.look q next)
  | resolve {q : Question} {next : Outcome → Access α} : (∀ o, Gives r (next o)) → Gives r (.resolve q next)
  | store {q : Question} {texts : List String} {next : Access α} : Gives r next → Gives r (.store q texts next)

theorem Access.gives_bind {β : Type} {r : β → Prop} {f : α → Access β} (hf : ∀ a, (f a).Gives r) (x : Access α) :
    (x >>= f).Gives r := by
  induction x with
  | done a => exact hf a
  | look q next ih => exact .look ih
  | resolve q next ih => exact .resolve ih
  | store q texts next ih => exact .store ih

/-- A client that gets at its cache and its source comes to nothing else than the tree. -/
theorem Program.Gives.access {r : α → Prop} {y : Program α} (h : y.Gives r) (c : Client) : (y.run c.queryAccess).Gives r := by
  induction h with
  | done ha => exact .done ha
  | ask _ ih => exact Access.gives_bind ih _

theorem AccessStep.gives {r : α → Prop} (h : AccessStep c entries x kept x') (hx : x.Gives r) : x'.Gives r := by
  cases h with
  | hit _ _ => cases hx with | look hnext => exact hnext _
  | miss _ => cases hx with | look hnext => exact hnext _
  | resolve asked => cases hx with | resolve hnext => exact hnext _
  | store _ => cases hx with | store hnext => exact hnext

/-- That the source is asked for nothing but questions with a property. -/
inductive Access.Only (p : Question → Prop) : Access α → Prop
  | done (a : α) : Only p (.done a)
  | look {q : Question} {next : Option (List String) → Access α} : (∀ hit, Only p (next hit)) → Only p (.look q next)
  | resolve {q : Question} {next : Outcome → Access α} : p q → (∀ o, Only p (next o)) → Only p (.resolve q next)
  | store {q : Question} {texts : List String} {next : Access α} : Only p next → Only p (.store q texts next)

variable {p : Question → Prop}

theorem Access.Only.bind {β : Type} {f : α → Access β} (hx : x.Only p) (hf : ∀ a, (f a).Only p) : (x >>= f).Only p := by
  induction hx with
  | done a => exact hf a
  | look _ ih => exact .look ih
  | resolve hq _ ih => exact .resolve hq ih
  | store _ ih => exact .store ih

theorem Access.only_of_forall (h : ∀ q, p q) (x : Access α) : x.Only p := by
  induction x with
  | done a => exact .done a
  | look q next ih => exact .look ih
  | resolve q next ih => exact .resolve (h q) ih
  | store q texts next ih => exact .store ih

theorem only_attempt {q : Question} (h : p q) : (Client.attemptAccess q).Only p := by
  refine .look fun hit => ?_
  cases hit with
  | some texts => exact .done _
  | none =>
    refine .resolve h fun o => ?_
    cases o with
    | answers texts => exact .store (.done _)
    | _ => exact .done _

/-- Nothing is asked for but what the tree asks for, again and again in normal form. -/
theorem only_retry (hnormal : ∀ q, p q → p q.normalize) (n : Nat) {q : Question} (h : p q) :
    (Client.retryAccess n q).Only p := by
  induction n generalizing q with
  | zero => exact only_attempt (hnormal q h)
  | succ n ih =>
    refine (only_attempt (hnormal q h)).bind fun o => ?_
    split
    · exact ih (hnormal q h)
    · exact .done _

theorem Program.Only.access (hnormal : ∀ q, p q → p q.normalize) {y : Program α} (h : y.Only p) (c : Client) :
    (y.run c.queryAccess).Only p := by
  induction h with
  | done a => exact .done a
  | ask hq _ ih => exact ((only_retry hnormal c.patience hq).bind fun o => .done _).bind ih

theorem AccessStep.only (h : AccessStep c entries x kept x') (hx : x.Only p) : x'.Only p := by
  cases h with
  | hit _ _ => cases hx with | look hnext => exact hnext _
  | miss _ => cases hx with | look hnext => exact hnext _
  | resolve asked => cases hx with | resolve _ hnext => exact hnext _
  | store _ => cases hx with | store hnext => exact hnext

/-! ## All accesses in one go -/

theorem Cache.lookup_step (m : Memory) (q : Question) (next : Option (List String) → Access α) :
    AccessStep c m.cache.entries (.look q next) (m.cache.lookup q.key).2.entries (next (m.cache.lookup q.key).1) := by
  unfold Cache.lookup
  split
  · cases hfind : m.cache.find? q.key with
    | none => exact .miss (List.Subset.refl _)
    | some texts =>
      obtain ⟨⟨key, texts⟩, hentry, rfl⟩ := Option.map_eq_some_iff.mp hfind
      obtain rfl : key = q.key := beq_iff_eq.mp (List.find?_some (p := fun e : String × List String => e.1 == q.key) hentry)
      exact .hit (List.mem_of_find?_eq_some hentry) (List.Subset.refl _)
  · exact .miss fun e he => (List.mem_filter.mp he).1

theorem Cache.store_step (m : Memory) (q : Question) (texts : List String) (next : Access α) :
    AccessStep c m.cache.entries (.store q texts next) (m.cache.store q.key texts).entries next := by
  refine .store fun e he => ?_
  rcases List.mem_append.mp he with he | he
  · refine List.mem_cons_of_mem _ ?_
    split at he
    · exact he
    · exact List.mem_of_mem_drop he
  · exact List.mem_cons.mpr (.inl (List.mem_singleton.mp he))

/-- A client carries accesses out one after the other, so it comes to their result and keeps the agreement. -/
theorem Yields.exec (hsource : ∀ q n, c.source q n = outcome q) (h : Yields outcome x a) {m : Memory}
    (hm : Agrees outcome m.cache.entries) : ((x.exec c).run m).1 = a := by
  induction x generalizing m with
  | done b => cases h; rfl
  | look q next ih =>
    obtain ⟨hnext, hm⟩ := (Cache.lookup_step m q next).sound hsource h hm
    exact ih _ hnext hm
  | resolve q next ih =>
    obtain ⟨hnext, hm⟩ := (AccessStep.resolve (m.asked.count q)).sound hsource h hm
    exact ih _ hnext hm
  | store q texts next ih =>
    obtain ⟨hnext, hm⟩ := (Cache.store_step m q texts next).sound hsource h hm
    exact ih hnext hm

end

end SenderPolicy.Dns
