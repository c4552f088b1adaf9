/-
  SenderPolicy.Dns.Session — asking with retries, and what is remembered between questions.

  A client that has the answer to a question in its cache does not ask again. Otherwise it asks, and
  asks once more after each transient failure until its retries are used up. A list of answers, even an
  empty one, goes into the cache. The memory also holds every question that was really asked, since a
  source may answer the same question differently the next time.
  - `query_cached`: what the cache holds is not asked for.
  - `attempt_failed_cache`: a failure is never remembered.
-/

import SenderPolicy.Dns.Cache
import SenderPolicy.Dns.Question

namespace SenderPolicy.Dns

/-- What comes back when a question is asked that has been asked so many times before. -/
abbrev Source := Question → Nat → Outcome

structure Client where
  /-- How often to ask again; if that is not known, a transient failure is a crash. -/
  retries : Option Int
  source : Source

structure Memory where
  cache : Cache
  /-- The questions asked, latest first. -/
  asked : List Question
  deriving DecidableEq, Repr

namespace Client

/-- Puts the question to the source. -/
def resolve (c : Client) (q : Question) (m : Memory) : Outcome × Memory :=
  (c.source q (m.asked.count q), { m with asked := q :: m.asked })

/-- Answers a question in normal form from the cache, or by asking once. -/
def attempt (c : Client) (q : Question) (m : Memory) : Outcome × Memory :=
  match m.cache.lookup q.key with
  | (some texts, cache) => (.answers texts, { m with cache })
  | (none, cache) =>
    match c.resolve q { m with cache } with
    | (.answers texts, m) => (.answers texts, { m with cache := m.cache.store q.key texts })
    | r => r

/-- Asks again after a transient failure, `n` times at most. -/
def retrying (c : Client) : Nat → Question → Memory → Outcome × Memory
  | 0, q, m => c.attempt q.normalize m
  | n + 1, q, m =>
    let r := c.attempt q.normalize m
    if r.1.isTransient then retrying c n q.normalize r.2 else r

/-- How often a question is asked again. -/
def patience (c : Client) : Nat := (c.retries.getD 0).toNat

/-- What comes of the outcome of the last try: it stands, unless it is not known whether a transient failure may. -/
def conclude (c : Client) (o : Outcome) : Outcome :=
  match c.retries with
  | some _ => o
  | none => if o.isTransient then .crashed .noRetryLimit else o

def query (c : Client) (q : Question) : StateM Memory Outcome := fun m =>
  let r := c.retrying c.patience q m
  (c.conclude r.1, r.2)

theorem attempt_cached {c : Client} {q : Question} {m : Memory} {texts : List String}
    (hl : m.cache.lasting = true) (h : m.cache.find? q.key = some texts) : c.attempt q m = (.answers texts, m) := by
  simp [attempt, Cache.lookup_eq_of_lasting hl, h]

theorem query_cached {c : Client} {q : Question} {m : Memory} {texts : List String}
    (hl : m.cache.lasting = true) (h : m.cache.find? q.normalize.key = some texts) :
    (c.query q).run m = (.answers texts, m) := by
  have hr : c.retrying c.patience q m = (.answers texts, m) := by
    cases c.patience with
    | zero => exact attempt_cached hl h
    | succ n => simp [retrying, attempt_cached hl h, Outcome.isTransient]
  show (c.conclude (c.retrying c.patience q m).1, (c.retrying c.patience q m).2) = _
  rw [hr]
  unfold conclude
  cases c.retries <;> rfl

theorem attempt_failed_cache {c : Client} {q : Question} {m m' : Memory} {f : Failure}
    (hl : m.cache.lasting = true) (h : c.attempt q m = (.failed f, m')) : m'.cache = m.cache := by
  unfold attempt at h
  rw [Cache.lookup_eq_of_lasting hl] at h
  split at h
  · simp at h
  · rename_i heq
    injection heq with _ hc
    subst hc
    split at h
    · simp at h
    · rename_i hr
      injection h with h1 h2
      subst h2
      rfl

end Client

end SenderPolicy.Dns
