/-
  SenderPolicy.Settings — the defaults, and what an environment can change about them.
  - `ofEnvironment_empty`: an empty environment changes nothing.
-/

import SenderPolicy.Text.Numeral

namespace SenderPolicy

structure Settings where
  cacheCapacity : Int
  /-- How many seconds an answer stays in the cache. -/
  cacheAge : Int
  httpsUrl : String
  maxDepth : Int
  timeout : Float
  workers : Int

namespace Settings

def version : String := "1.0.0"

/-- The seconds that one question may take. -/
def questionTimeout : Float := 2.0

def retries : Int := 1

def default : Settings := ⟨200000, 1800, "https://cloudflare-dns.com/dns-query", 3, 30.0, 8⟩

/-- The number that a variable spells, if it is set. -/
def valueOr {α : Type} (read : String → Except Text.NumeralError α) (usual : α) (value : Option String) :
    Except Text.NumeralError α :=
  match value with
  | some s => read s
  | none => .ok usual

/-- The settings in an environment, whose variables are looked at in a fixed order. -/
def ofEnvironment (env : String → Option String) : Except Text.NumeralError Settings := do
  let capacity ← valueOr Text.readInt default.cacheCapacity (env "DNS_CACHE_MAX_LEN")
  let age ← valueOr Text.readInt default.cacheAge (env "DNS_CACHE_MAX_AGE_SECONDS")
  let depth ← valueOr Text.readInt default.maxDepth (env "SPF_FLATTEN_MAX_DEPTH")
  let timeout ← valueOr Text.readReal default.timeout (env "SPF_FLATTEN_TIMEOUT")
  let workers ← valueOr Text.readInt default.workers (env "SPF_FLATTEN_MAX_WORKERS")
  .ok ⟨capacity, age, (env "DOH_URL").getD default.httpsUrl, depth, timeout, workers⟩

theorem ofEnvironment_empty : (ofEnvironment fun _ => none).toOption = some default := rfl

end Settings

end SenderPolicy
