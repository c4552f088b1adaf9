/-
  SenderPolicy.Proofs.Dns.Retries — how often a client asks, and what it remembers of it.

  What a query should do is one equation. An answer in the cache is the answer, and nothing else happens.
  Otherwise the client asks until something comes that is no transient failure, but only so often; what came
  last is what the query comes to, and answers are all that goes into the cache.
  A client asks again by starting over with the name it has just asked for, and that name is normalised
  once more. So the equation holds for every source and every memory exactly if the normal form of the name is
  its own normal form, or if nothing is ever asked again.
  - `lastTry_succ`: the last try, counted from the second one on.
  - `retrying_stable`: the equation, for a name in a stable normal form.
  - `retrying_stalled`: the names that are asked for if nothing but transient failures comes.
  - `query_disciplined_iff`: exactly when the equation holds.
  - `ascii_query_disciplined`: it holds for names in ASCII.
-/

import SenderPolicy.Proofs.Dns.Accesses
import SenderPolicy.Proofs.Domain.Stability

namespace SenderPolicy.Dns

/-- The last of the tries with these outcomes, if `r` more follow the first: the first one that is no transient
failure, or the one after which no try is left. -/
def lastTry (r : Nat) (o : Nat → Outcome) : Nat := ((List.range r).find? fun i => !(o i).isTransient).getD r

theorem lastTry_zero (o : Nat → Outcome) : lastTry 0 o = 0 := rfl

theorem lastTry_succ (r : Nat) (o : Nat → Outcome) :
    lastTry (r + 1) o = if (o 0).isTransient then lastTry r (fun i => o (i + 1)) + 1 else 0 := by
  unfold lastTry
  rw [List.range_succ_eq_map, List.find?_cons, List.find?_map]
  cases (o 0).isTransient with
  | false => rfl
  | true =>
    show (((List.range r).find? _).map Nat.succ).getD (r + 1) = ((List.range r).find? _).getD r + 1
    unfold Function.comp
    cases (List.range r).find? fun i => !(o (i + 1)).isTransient <;> rfl

/-- The memory after a question was asked so often with this outcome at last. -/
def Memory.after (m : Memory) (q : Question) (n : Nat) (o : Outcome) : Memory where
  cache := match o with
    | .answers texts => { m.cache with entries := m.cache.entries ++ [(q.key, texts)] }
    | _ => m.cache
  asked := List.replicate n q ++ m.asked

/-- Entries stay, and there is room for one more. -/
def Cache.Roomy (c : Cache) : Prop := c.lasting = true ∧ c.entries.length < c.capacity

namespace Client

/-- What the source is about to answer to a question, try by try. -/
def upcoming (c : Client) (q : Question) (m : Memory) (i : Nat) : Outcome := c.source q (m.asked.count q + i)

/-- What a query with `r` retries should do. -/
def Disciplined (c : Client) (r : Nat) (q : Question) (m : Memory) : Prop :=
  (c.query q).run m = match m.cache.find? q.normalize.key with
    | some texts => (.answers texts, m)
    | none =>
      let o := c.upcoming q.normalize m
      let n := lastTry r o
      (o n, m.after q.normalize (n + 1) (o n))

variable {c : Client} {q : Question} {m : Memory}

/-! ## A stable name -/

theorem attempt_missed (hm : m.cache.Roomy) (hmiss : m.cache.find? q.key = none) :
    c.attempt q m = (c.upcoming q m 0, m.after q 1 (c.upcoming q m 0)) := by
  unfold attempt
  rw [Cache.lookup_eq_of_lasting hm.1, hmiss]
  dsimp only
  have hresolve : c.resolve q m = (c.upcoming q m 0, { m with asked := q :: m.asked }) := rfl
  rw [hresolve]
  cases c.upcoming q m 0 with
  | answers texts =>
    unfold Memory.after Cache.store
    dsimp only
    rw [if_pos hm.2]
    rfl
  | failed f => rfl
  | crashed e => rfl
  | silent => rfl

theorem after_transient {n : Nat} {o : Outcome} (h : o.isTransient = true) :
    m.after q n o = { m with asked := List.replicate n q ++ m.asked } := by
  cases o with
  | failed f => rfl
  | answers texts => cases h
  | crashed e => cases h
  | silent => cases h

/-- What follows a failed try follows it also in the count. -/
theorem after_after {k n : Nat} (o : Outcome) :
    ({ m with asked := List.replicate n q ++ m.asked } : Memory).after q k o = m.after q (k + n) o := by
  unfold Memory.after
  rw [← List.append_assoc, ← List.replicate_add]

theorem upcoming_again (i : Nat) :
    c.upcoming q { m with asked := List.replicate 1 q ++ m.asked } i = c.upcoming q m (i + 1) := by
  unfold upcoming
  rw [List.count_append, List.count_replicate_self, Nat.add_comm 1, Nat.add_assoc, Nat.add_comm 1]

theorem retrying_stable (hq : q.normalize = q) (hm : m.cache.Roomy) (hmiss : m.cache.find? q.key = none) (n : Nat) :
    c.retrying n q m = (c.upcoming q m (lastTry n (c.upcoming q m)),
      m.after q (lastTry n (c.upcoming q m) + 1) (c.upcoming q m (lastTry n (c.upcoming q m)))) := by
  induction n generalizing m with
  | zero =>
    unfold retrying
    rw [hq, attempt_missed hm hmiss, lastTry_zero]
  | succ n ih =>
    unfold retrying
    rw [hq, attempt_missed hm hmiss, lastTry_succ]
    dsimp only
    cases ht : (c.upcoming q m 0).isTransient with
    | false => rfl
    | true =>
      -- The cache is as it was, so the next try misses it as well.
      rw [after_transient ht, if_pos rfl, if_pos rfl, ih (m := { m with asked := List.replicate 1 q ++ m.asked }) hm hmiss, after_after,
        funext (upcoming_again (c := c) (q := q) (m := m))]

theorem retrying_normalize (hq : q.normalize.normalize = q.normalize) (n : Nat) :
    c.retrying n q.normalize = c.retrying n q := by
  funext m
  cases n with
  | zero => unfold retrying; rw [hq]
  | succ n => unfold retrying; rw [hq]

/-- With a number of retries the last outcome stands. -/
theorem query_limited (r : Nat) (source : Source) (q : Question) (m : Memory) :
    (query ⟨some r, source⟩ q).run m = retrying ⟨some r, source⟩ r q m := rfl

theorem query_disciplined {r : Nat} {source : Source} (hq : r = 0 ∨ q.normalize.normalize = q.normalize)
    (hm : m.cache.Roomy) : Disciplined ⟨some r, source⟩ r q m := by
  unfold Disciplined
  cases hfind : m.cache.find? q.normalize.key with
  | some texts => exact query_cached hm.1 hfind
  | none =>
    rw [query_limited]
    rcases hq with rfl | hq
    · exact attempt_missed hm hfind
    · rw [← retrying_normalize hq, retrying_stable hq hm hfind]

/-! ## Nothing but transient failures -/

theorem retrying_stalled (retries : Option Int) (f : Failure) (hf : f.isTransient = true) (hm : m.cache.lasting = true)
    (hempty : m.cache.entries = []) (n : Nat) :
    ∃ asked, retrying ⟨retries, fun _ _ => .failed f⟩ n q m = (.failed f, { m with asked }) ∧
      q.normalize ∈ asked ∧ m.asked ⊆ asked := by
  have hattempt : ∀ (q : Question) (m : Memory), m.cache.lasting = true → m.cache.entries = [] →
      attempt ⟨retries, fun _ _ => .failed f⟩ q m = (.failed f, { m with asked := q :: m.asked }) := by
    intro q m hm hempty
    have hmiss : m.cache.find? q.key = none := by rw [Cache.find?, hempty]; rfl
    unfold attempt
    rw [Cache.lookup_eq_of_lasting hm, hmiss]
    rfl
  induction n generalizing q m with
  | zero => exact ⟨_, hattempt _ _ hm hempty, List.mem_cons_self, List.subset_cons_self _ _⟩
  | succ n ih =>
    obtain ⟨asked, hrun, -, hsub⟩ :=
      ih (q := q.normalize) (m := { m with asked := q.normalize :: m.asked }) hm hempty
    refine ⟨asked, ?_, hsub List.mem_cons_self, fun a ha => hsub (List.mem_cons_of_mem _ ha)⟩
    unfold retrying
    rw [hattempt _ _ hm hempty]
    show (if f.isTransient then _ else _) = _
    rw [if_pos hf]
    exact hrun

/-- An empty memory, with room for one entry. -/
def fresh : Memory := ⟨⟨1, true, []⟩, []⟩

/-- Nothing has come from the source in time. -/
def late : Failure := ⟨.timeout, ""⟩

/-- A source of which nothing is ever heard in time. -/
def stalled (r : Nat) : Client := ⟨some r, fun _ _ => .failed late⟩

theorem stable_of_disciplined {r : Nat} (hr : 0 < r) (h : Disciplined (stalled r) r q fresh) :
    q.normalize.normalize = q.normalize := by
  obtain ⟨n, rfl⟩ := Nat.exists_eq_succ_of_ne_zero (Nat.ne_of_gt hr)
  -- The second try asks for the normal form of the name that the first one asked for.
  obtain ⟨asked, hrun, hmem, -⟩ := retrying_stalled (q := q.normalize) (m := { fresh with asked := [q.normalize] })
    (some (n + 1 : Nat)) late rfl rfl rfl n
  have hasked : (((stalled (n + 1)).query q).run fresh).2.asked = asked := by
    unfold stalled
    rw [query_limited]
    exact congrArg (·.2.asked) hrun
  unfold Disciplined at h
  rw [h] at hasked
  rw [← hasked] at hmem
  exact (List.mem_append.mp hmem).elim List.eq_of_mem_replicate fun h => nomatch h

/-- A query does what it should, whatever the source answers and the memory holds, exactly if its name is asked for
in one form only. -/
theorem query_disciplined_iff (q : Question) (r : Nat) :
    (∀ (source : Source) (m : Memory), m.cache.Roomy → Disciplined ⟨some r, source⟩ r q m) ↔
      r = 0 ∨ q.normalize.normalize = q.normalize := by
  constructor
  · intro h
    rcases Nat.eq_zero_or_pos r with hr | hr
    · exact .inl hr
    · exact .inr (stable_of_disciplined hr (h _ fresh ⟨rfl, by decide⟩))
  · intro hq source m hm
    exact query_disciplined hq hm

/-- What is asked for under a name in ASCII is as it should be. -/
theorem ascii_query_disciplined {r : Nat} {source : Source} (htype : q.IsRegular)
    (hname : ∀ c ∈ q.name.toList, c.toNat < 128) (hm : m.cache.Roomy) : Disciplined ⟨some r, source⟩ r q m := by
  refine query_disciplined (.inr ?_) hm
  have hupper : ∀ t ∈ recordTypes, Text.upper (Text.upper t) = Text.upper t := by decide +kernel
  unfold Question.normalize
  rw [Domain.normalize_ascii hname, hupper _ htype]

/-- A capital with a mark that only the small letter composes with. -/
def caron : Question := ⟨"J\u030c.example", "TXT"⟩

/-- The composed name has answers, the other one only fails. -/
def caronSource : Source := fun q _ => if q.name = "\u01f0.example" then .answers ["x"] else .failed late

/-- A memory that holds the answers for the composed name. -/
def caronMemory : Memory := ⟨⟨2, true, [("\u01f0.example_TXT", ["x"])]⟩, []⟩

theorem caron_normalize : caron.normalize = ⟨"j\u030c.example", "TXT"⟩ ∧
    caron.normalize.normalize = ⟨"\u01f0.example", "TXT"⟩ := by
  have htype : Text.upper "TXT" = "TXT" := by decide
  obtain ⟨hfirst, hagain⟩ := Domain.normalize_caron
  unfold Question.normalize caron
  exact ⟨by rw [hfirst, htype], by rw [hfirst, hagain, htype, htype]⟩

/-- One try fails in time, and what the cache holds for another name is taken for the second one. -/
theorem caron_query_changes_name :
    ((query ⟨some 1, caronSource⟩ caron).run caronMemory).1 = .answers ["x"] ∧
      ¬ Disciplined ⟨some 1, caronSource⟩ 1 caron caronMemory := by
  obtain ⟨hn, hnn⟩ := caron_normalize
  have hquery : ((query ⟨some 1, caronSource⟩ caron).run caronMemory).1 = .answers ["x"] := by
    have hquery : (query ⟨some 1, caronSource⟩ caron).run caronMemory
        = retrying ⟨some 1, caronSource⟩ 1 caron caronMemory := query_limited 1 caronSource caron caronMemory
    rw [hquery]
    unfold retrying retrying
    rw [hnn, hn]
    decide +kernel
  refine ⟨hquery, fun h => ?_⟩
  unfold Disciplined at h
  rw [h, hn] at hquery
  revert hquery
  decide +kernel

end Client

end SenderPolicy.Dns
