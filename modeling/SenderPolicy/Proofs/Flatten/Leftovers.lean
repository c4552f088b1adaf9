/-
  SenderPolicy.Proofs.Flatten.Leftovers — what a flattening leaves over, against the lookups that it has counted.

  A term that takes a lookup is left out, or goes on to one domain, or has its addresses looked up, and so has the
  redirect. So a branch never has more terms left out and domains gone on to than lookups. Putting branches together
  keeps that, and what stands in the place of a branch that failed, broke down, came back to its own path, was too deep
  or late has nothing left over.
  - `accounted_pieces`: each piece of a branch is accounted for.
  - `Produced.branches`: so is all that a flattening reports, in whatever way it has come about.
-/

import SenderPolicy.Proofs.Flatten.Containment
import SenderPolicy.Proofs.Flatten.Deadline

namespace SenderPolicy.Flatten

open Dns

/-- No more is left over than lookups were counted. -/
def Branch.Accounted (b : Branch) : Prop := b.unflattened.length + b.nested.length ≤ b.lookups

def DomainResult.Accounted (r : DomainResult) : Prop := (r.unflattened.length + r.nested.length : Int) ≤ r.lookups

theorem Branch.Accounted.report {b : Branch} (h : b.Accounted) : b.report.Accounted := Int.ofNat_le.mpr h

theorem accounted_pieces : Pieces Branch.Accounted where
  empty := Nat.le_refl 0
  append := by
    intro a b ha hb
    unfold Branch.Accounted at ha hb ⊢
    rw [Branch.unflattened_append, Branch.nested_append, Branch.lookups_append, List.length_append, List.length_append]
    omega
  failure _ _ := Nat.le_refl 0
  silence _ _ := Nat.le_refl 0
  dropped _ _ _ := Nat.le_refl 0
  found _ := Nat.le_refl 0
  counted := by
    intro nested unflattened troubles h
    show unflattened.length + nested.length ≤ 1
    omega

/-- That every branch is accounted for, and that its networks are read off their texts again. -/
theorem sound_invariant (limits : Limits) :
    Invariant limits (fun _ => True) (fun _ => True) fun b => b.Accounted ∧ b.Legible where
  toPieces := accounted_pieces.and legible_pieces
  child _ _ := trivial
  record _ := trivial
  hosts _ _ := trivial
  broken := @fun v _ i _ => ⟨accounted_pieces.interrupted limits v.name i, legible_pieces.interrupted limits v.name i⟩

/-- What a flattening may come to: with one domain after the other at a source with any memory, or shared out among
workers who may run out of time at any moment. -/
inductive Flattening.Produced : Flattening → Prop
  | inTurn {σ : Type} (limits : Limits) (ask : Ask (StateM σ)) (depth : Int) (domains : List String) (s : σ) :
      Produced ((flatten limits ask depth domains).run s).1
  | shared {limits : Limits} {c : Client} {p q : Pool} {f : Flattening} :
      (∀ t ∈ p.tasks, ∃ v, t.Opens limits c v) → Pool.TimedRun limits c p q → q.Closes limits f → Produced f

theorem Flattening.Produced.branches {f : Flattening} (h : f.Produced) :
    ∀ e ∈ f.resolved, ∃ b : Branch, (b.Accounted ∧ b.Legible) ∧ e.2 = b.report := by
  cases h with
  | inTurn limits ask depth domains s =>
    intro e he
    obtain ⟨⟨d, b⟩, hb, rfl⟩ := List.mem_map.mp he
    exact ⟨b, (sound_invariant limits).share ask (fun _ _ => trivial) s (d, b) hb, rfl⟩
  | @shared limits c p q f hopens hrun hcloses =>
    refine hcloses.holds (sound_invariant limits).toPieces (hrun.holds (sound_invariant limits) (fun _ _ => trivial) ?_)
    intro t ht
    obtain ⟨v, hopen⟩ := hopens t ht
    exact hopen.holds (sound_invariant limits) (fun _ _ => trivial) trivial

theorem Flattening.Produced.accounted {f : Flattening} (h : f.Produced) {e : String × DomainResult} (he : e ∈ f.resolved) :
    e.2.Accounted := by
  obtain ⟨b, ⟨hb, -⟩, hresult⟩ := h.branches e he
  rw [hresult]
  exact hb.report

/-- Every address that is reported is read. -/
theorem Flattening.Produced.reads {f : Flattening} (h : f.Produced) {e : String × DomainResult} (he : e ∈ f.resolved) :
    ∀ ip ∈ e.2.ips, ∃ n, Network.read ip = .ok n := by
  obtain ⟨b, ⟨-, hb⟩, hresult⟩ := h.branches e he
  intro ip hip
  rw [hresult] at hip
  obtain ⟨n, hn, rfl⟩ := List.mem_map.mp hip
  exact ⟨n, hb n (List.mem_eraseDups.mp ((Sequence.mem_sort _).mp hn))⟩

end SenderPolicy.Flatten
