/-
  SenderPolicy.Proofs.Advice.Overlaps — which networks of a record are reported to overlap.

  Mechanisms that repeat each other are looked for by their texts, and networks that share an address by what they are,
  except for equal ones, which are left to the first search. So two networks that share an address are reported unless they
  are equal and spelled differently, and then they are only if the later one repeats some other mechanism. Nothing is said
  to overlap that does not.
  - `mem_duplicates_iff`, `mem_overlapping_iff`: what the two searches find, by the order of the mechanisms.
  - `exists_network`: every network mechanism of a record that was read has a network for a value.
  - `exists_findings`: a record that was read has findings, with all that the two searches find.
  - `overlaps_reported_iff`: which of the networks that share an address are reported.
  - `equal_networks_are_not_reported`: one network, spelled with and without its length.
-/

import SenderPolicy.Advice.Findings
import SenderPolicy.Installed
import SenderPolicy.Proofs.Address.Blocks
import SenderPolicy.Proofs.Record.Rereading

namespace SenderPolicy.Advice

open Mechanism (Kind)

/-! ## Pairs in order -/

section Pairs

variable {α β : Type} {a b c : α} {l : List α}

theorem pair_sublist_cons : [a, b].Sublist (c :: l) ↔ [a, b].Sublist l ∨ (a = c ∧ b ∈ l) := by
  rw [List.cons_sublist_cons', List.singleton_sublist]

theorem pair_sublist_filterMap {f : α → Option β} {x y : β} :
    [x, y].Sublist (l.filterMap f) ↔ ∃ a b, [a, b].Sublist l ∧ f a = some x ∧ f b = some y := by
  induction l with
  | nil => simp
  | cons c l ih =>
    simp only [pair_sublist_cons]
    cases hc : f c with
    | none =>
      rw [List.filterMap_cons_none hc, ih]
      constructor
      · rintro ⟨a, b, hab, hx, hy⟩
        exact ⟨a, b, .inl hab, hx, hy⟩
      · rintro ⟨a, b, hab | ⟨rfl, -⟩, hx, hy⟩
        · exact ⟨a, b, hab, hx, hy⟩
        · rw [hc] at hx
          cases hx
    | some z =>
      rw [List.filterMap_cons_some hc, pair_sublist_cons, ih, List.mem_filterMap]
      constructor
      · rintro (⟨a, b, hab, hx, hy⟩ | ⟨rfl, b, hb, hy⟩)
        · exact ⟨a, b, .inl hab, hx, hy⟩
        · exact ⟨c, b, .inr ⟨rfl, hb⟩, hc, hy⟩
      · rintro ⟨a, b, hab | ⟨rfl, hb⟩, hx, hy⟩
        · exact .inl ⟨a, b, hab, hx, hy⟩
        · exact .inr ⟨Option.some.inj (hx.symm.trans hc), b, hb, hy⟩

end Pairs

/-! ## Repetitions -/

variable {ms : List Mechanism} {a b : Mechanism}

/-- An earlier mechanism has the same kind and, but for the case, the same value. -/
def Repeats (ms : List Mechanism) (b : Mechanism) : Prop := ∃ a, [a, b].Sublist ms ∧ duplicateKey a = duplicateKey b

theorem mem_duplicatesAfter_iff {seen : List (String × String)} :
    b ∈ duplicatesAfter seen ms ↔ (b ∈ ms ∧ duplicateKey b ∈ seen) ∨ Repeats ms b := by
  -- By induction for all keys seen so far: what the first mechanism is repeated by moves from one side to the other.
  induction ms generalizing seen with
  | nil => simp [duplicatesAfter, Repeats]
  | cons m ms ih =>
    have hrepeats : Repeats (m :: ms) b ↔ Repeats ms b ∨ (b ∈ ms ∧ duplicateKey m = duplicateKey b) := by
      unfold Repeats
      simp only [pair_sublist_cons, or_and_right, exists_or, and_assoc, exists_eq_left]
    have hstep : b ∈ duplicatesAfter seen (m :: ms) ↔
        (b = m ∧ duplicateKey m ∈ seen) ∨ b ∈ duplicatesAfter (duplicateKey m :: seen) ms := by
      have hunfold : duplicatesAfter seen (m :: ms) = if seen.contains (duplicateKey m) then
          m :: duplicatesAfter (duplicateKey m :: seen) ms else duplicatesAfter (duplicateKey m :: seen) ms := rfl
      rw [hunfold]
      by_cases hseen : duplicateKey m ∈ seen
      · rw [if_pos (List.contains_iff_mem.mpr hseen), List.mem_cons, and_iff_left hseen]
      · rw [if_neg (by simpa using hseen)]
        simp [hseen]
    rw [hstep, ih, hrepeats, List.mem_cons, List.mem_cons]
    constructor
    · rintro (⟨rfl, hseen⟩ | ⟨hb, hkey | hseen⟩ | hrepeats)
      · exact .inl ⟨.inl rfl, hseen⟩
      · exact .inr (.inr ⟨hb, hkey.symm⟩)
      · exact .inl ⟨.inr hb, hseen⟩
      · exact .inr (.inl hrepeats)
    · rintro (⟨rfl | hb, hseen⟩ | hrepeats | ⟨hb, hkey⟩)
      · exact .inl ⟨rfl, hseen⟩
      · exact .inr (.inl ⟨hb, .inr hseen⟩)
      · exact .inr (.inr hrepeats)
      · exact .inr (.inl ⟨hb, .inl hkey.symm⟩)

theorem mem_duplicates_iff : b ∈ duplicates ms ↔ Repeats ms b := by
  unfold duplicates
  rw [mem_duplicatesAfter_iff]
  simp

/-! ## Networks -/

/-- A mechanism for a network, with its value and the network. -/
structure IsNetwork (m : Mechanism) (v : String) (n : Network) : Prop where
  kind : isNetworkKind m.kind = true
  value : m.value = some v
  network : Network.ofText? v = some n

/-- Whether there is an address in both networks. -/
def ShareAddress (n m : Network) : Prop := ∃ family value, n.Covers family value ∧ m.Covers family value

theorem overlaps_iff_shareAddress {n m : Network} : n.overlaps m = true ↔ ShareAddress n m := by
  constructor
  · intro h
    obtain ⟨hfamily, hbase, hbase'⟩ := Network.overlaps_iff.mp h
    by_cases hle : n.base ≤ m.base
    · exact ⟨m.family, m.base, ⟨hfamily, hle, hbase'⟩, m.covers_base⟩
    · exact ⟨n.family, n.base, n.covers_base, hfamily.symm, by omega, hbase⟩
  · rintro ⟨family, value, hn, hm⟩
    exact Network.overlaps_of_covers hn hm

/-- The value and the network of a mechanism for one. -/
def networkOf? (m : Mechanism) : Option (String × Network) :=
  if isNetworkKind m.kind then m.value.bind fun v => (Network.ofText? v).map fun n => (v, n) else none

theorem networkOf?_iff {m : Mechanism} {v : String} {n : Network} : networkOf? m = some (v, n) ↔ IsNetwork m v n := by
  unfold networkOf?
  constructor
  · intro h
    by_cases hkind : isNetworkKind m.kind = true
    · rw [if_pos hkind] at h
      obtain ⟨v', hvalue, hpair⟩ := Option.bind_eq_some_iff.mp h
      obtain ⟨n', hnetwork, hsame⟩ := Option.map_eq_some_iff.mp hpair
      cases hsame
      exact ⟨hkind, hvalue, hnetwork⟩
    · rw [if_neg hkind] at h
      cases h
  · rintro ⟨hkind, hvalue, hnetwork⟩
    rw [if_pos hkind, hvalue, Option.bind_some, hnetwork, Option.map_some]

theorem pair_networksOf {v w : String} {n m : Network} :
    [(v, n), (w, m)].Sublist (networksOf ms) ↔ ∃ a b, [a, b].Sublist ms ∧ IsNetwork a v n ∧ IsNetwork b w m := by
  have hnetworks : networksOf ms = ms.filterMap networkOf? := List.filterMap_filter
  rw [hnetworks, pair_sublist_filterMap]
  simp only [networkOf?_iff]

theorem mem_overlapping_iff {l : List (String × Network)} {v w : String} :
    (v, w) ∈ overlapping l ↔ ∃ n m, [(v, n), (w, m)].Sublist l ∧ n ≠ m ∧ ShareAddress n m := by
  induction l with
  | nil => simp [overlapping]
  | cons x l ih =>
    obtain ⟨v', n'⟩ := x
    have hhead : (v, w) ∈ (l.filter fun o => n' ≠ o.2 && n'.overlaps o.2).map (fun o => (v', o.1)) ↔
        ∃ n m, ((v, n) = (v', n') ∧ (w, m) ∈ l) ∧ n ≠ m ∧ ShareAddress n m := by
      rw [List.mem_map]
      constructor
      · rintro ⟨⟨w', m⟩, hmem, hpair⟩
        obtain ⟨hl, hkept⟩ := List.mem_filter.mp hmem
        obtain ⟨hne, hoverlaps⟩ := Bool.and_eq_true_iff.mp hkept
        cases hpair
        exact ⟨n', m, ⟨rfl, hl⟩, of_decide_eq_true hne, overlaps_iff_shareAddress.mp hoverlaps⟩
      · rintro ⟨n, m, ⟨hfirst, hl⟩, hne, hshare⟩
        cases hfirst
        have hkept : (decide (n' ≠ m) && n'.overlaps m) = true := by
          rw [overlaps_iff_shareAddress.mpr hshare, Bool.and_true]
          exact decide_eq_true hne
        exact ⟨(w, m), List.mem_filter.mpr ⟨hl, hkept⟩, rfl⟩
    have hunfold : overlapping ((v', n') :: l) =
        (l.filter fun o => n' ≠ o.2 && n'.overlaps o.2).map (fun o => (v', o.1)) ++ overlapping l := rfl
    rw [hunfold, List.mem_append, hhead, ih]
    simp only [pair_sublist_cons, or_and_right, exists_or]
    exact or_comm

/-! ## Records -/

variable {record : String} {r : Record}

/-- A mechanism that has been read can take its value. -/
theorem checkValue_of_read [Packages] (h : Record.read record = .ok r) {m : Mechanism} (hm : m ∈ r.mechanisms) :
    Mechanism.checkValue m.kind m.value = none := by
  obtain ⟨seen, token, faults, ws, -, hterm⟩ := Record.isRead_of_read h m hm
  obtain ⟨w, -, hread⟩ := Record.readFrom_of_mechanism hterm
  exact (Record.readMechanism_eq hread).2.2.2

theorem checkNetwork_of_checkValue {k : Kind} {value : Option String} (hkind : isNetworkKind k = true)
    (h : Mechanism.checkValue k value = none) :
    ∃ family, (value.getD "").isEmpty = false ∧ Mechanism.checkNetwork k family (value.getD "") = none := by
  have hboth : ∀ {missing : TermError} {family : Family},
      (if (value.getD "").isEmpty then some missing else Mechanism.checkNetwork k family (value.getD "")) = none →
      (value.getD "").isEmpty = false ∧ Mechanism.checkNetwork k family (value.getD "") = none := by
    intro missing family hnone
    by_cases hempty : (value.getD "").isEmpty = true
    · rw [if_pos hempty] at hnone
      cases hnone
    · rw [if_neg hempty] at hnone
      exact ⟨by simpa using hempty, hnone⟩
  rcases Bool.or_eq_true_iff.mp hkind with hk | hk
  · obtain rfl := beq_iff_eq.mp hk
    exact ⟨.v4, hboth h⟩
  · obtain rfl := beq_iff_eq.mp hk
    exact ⟨.v6, hboth h⟩

/-- The value of a mechanism for a network is one. -/
theorem exists_network [Packages] (h : Record.read record = .ok r) {m : Mechanism} (hm : m ∈ r.mechanisms)
    (hkind : isNetworkKind m.kind = true) : ∃ v n, IsNetwork m v n := by
  obtain ⟨family, hnonempty, hnetwork⟩ := checkNetwork_of_checkValue hkind (checkValue_of_read h hm)
  cases hm : m.value with
  | none => rw [hm] at hnonempty; cases hnonempty
  | some v =>
    rw [hm] at hnetwork
    unfold Mechanism.checkNetwork at hnetwork
    split at hnetwork
    · cases hnetwork
    · split at hnetwork
      · cases hnetwork
      · rename_i n hn
        exact ⟨v, n, hkind, hm, hn⟩

/-! ## Redundancies -/

/-- Whether a mechanism is to be removed because of another one. -/
def isRedundancy : Finding → Bool
  | .duplicate _ | .overlap _ _ => true
  | _ => false

theorem duplicate_mem_redundancies : .duplicate b ∈ redundancies ms ↔ Repeats ms b := by
  unfold redundancies
  rw [← mem_duplicates_iff]
  simp

/-- Different networks that share an address, the earlier one first. -/
theorem overlap_mem_redundancies {v w : String} : .overlap v w ∈ redundancies ms ↔
    ∃ n m, (∃ a b, [a, b].Sublist ms ∧ IsNetwork a v n ∧ IsNetwork b w m) ∧ n ≠ m ∧ ShareAddress n m := by
  unfold redundancies
  simp only [← pair_networksOf, ← mem_overlapping_iff]
  simp

/-! ## Findings -/

theorem values_read_ne_missing {values : List (Option String)} (h : ∀ v ∈ values, v.isSome = true) : Values.read values ≠ .missing := by
  induction values with
  | nil => simp [Values.read]
  | cons value values ih =>
    obtain ⟨hvalue, hvalues⟩ := List.forall_mem_cons.mp h
    obtain ⟨v, rfl⟩ := Option.isSome_iff_exists.mp hvalue
    unfold Values.read
    split
    · simp
    · cases hrest : Values.read values with
      | networks vs => simp
      | missing => exact absurd hrest (ih hvalues)
      | notNetwork => simp

theorem exists_consolidationOf {kind : Kind} (h : ∀ m ∈ ms, m.kind = kind → m.value.isSome = true) :
    ∃ fs, consolidationOf ms kind = .ok fs ∧ ∀ f ∈ fs, isRedundancy f = false := by
  have hvalues : ∀ v ∈ (ms.filter fun m => m.kind == kind && m.qualifier == .pass).map (·.value), v.isSome = true := by
    intro v hv
    obtain ⟨m, hm, rfl⟩ := List.mem_map.mp hv
    obtain ⟨hmem, hkept⟩ := List.mem_filter.mp hm
    exact h m hmem (beq_iff_eq.mp (Bool.and_eq_true_iff.mp hkept).1)
  unfold consolidationOf
  cases hread : Values.read ((ms.filter fun m => m.kind == kind && m.qualifier == .pass).map (·.value)) with
  | missing => exact absurd hread (values_read_ne_missing hvalues)
  | notNetwork => exact ⟨[], rfl, by simp⟩
  | networks values =>
    dsimp only
    cases Network.consolidate values with
    | error e => exact ⟨[], rfl, by simp⟩
    | ok blocks =>
      refine ⟨_, rfl, fun f hf => ?_⟩
      split at hf
      · rw [List.mem_singleton.mp hf]
        rfl
      · cases hf

/-- A record that was read has findings, and among them are all redundancies. -/
theorem exists_findings [Packages] (h : Record.read record = .ok r) :
    ∃ fs, findings r = .ok fs ∧ ∀ f, isRedundancy f = true → (f ∈ fs ↔ f ∈ redundancies r.mechanisms) := by
  have hvalues : ∀ kind, isNetworkKind kind = true → ∀ m ∈ r.mechanisms, m.kind = kind → m.value.isSome = true := by
    intro kind hkind m hm hsame
    obtain ⟨v, n, hnetwork⟩ := exists_network h hm (hsame ▸ hkind)
    rw [hnetwork.value]
    rfl
  obtain ⟨v4, hv4, hother⟩ := exists_consolidationOf (hvalues .ip4 rfl)
  obtain ⟨v6, hv6, hother'⟩ := exists_consolidationOf (hvalues .ip6 rfl)
  refine ⟨_, by rw [findings, consolidations, hv4, hv6]; rfl, fun f hf => ?_⟩
  have hflattenable : f ∉ flattenable r := by
    intro hmem
    unfold flattenable at hmem
    split at hmem
    · obtain ⟨m, -, rfl⟩ := List.mem_map.mp hmem
      cases hf
    · cases hmem
  have hpointer : f ∉ (r.mechanisms.filter (·.kind == .ptr)).map Finding.pointer := by
    intro hmem
    obtain ⟨m, -, rfl⟩ := List.mem_map.mp hmem
    cases hf
  have hjoined : f ∉ v4 ++ v6 := by
    intro hmem
    rcases List.mem_append.mp hmem with hmem | hmem
    · rw [hother f hmem] at hf
      cases hf
    · rw [hother' f hmem] at hf
      cases hf
  simp only [Sequence.mem_sort, List.mem_append] at hjoined ⊢
  simp only [hflattenable, hjoined, hpointer, false_or, or_false]

/-- Of the network mechanisms of a record that was read, let two share an address. They are reported as a repetition or as
an overlap if their networks are different, or if the later one repeats some mechanism, and else they are not. And all
networks that are reported to overlap share an address. -/
theorem overlaps_reported_iff [Packages] (h : Record.read record = .ok r) : ∃ fs, findings r = .ok fs ∧
    (∀ a b, [a, b].Sublist r.mechanisms → isNetworkKind a.kind = true → isNetworkKind b.kind = true →
      ∃ v w n m, IsNetwork a v n ∧ IsNetwork b w m ∧
        (ShareAddress n m → (.duplicate b ∈ fs ∨ .overlap v w ∈ fs ↔ n ≠ m ∨ Repeats r.mechanisms b))) ∧
    ∀ v w, .overlap v w ∈ fs → ∃ n m, Network.ofText? v = some n ∧ Network.ofText? w = some m ∧ ShareAddress n m := by
  obtain ⟨fs, hfs, hredundant⟩ := exists_findings h
  refine ⟨fs, hfs, ?_, ?_⟩
  · intro a b hab hkind hkind'
    obtain ⟨v, n, ha⟩ := exists_network h (hab.subset (by simp)) hkind
    obtain ⟨w, m, hb⟩ := exists_network h (hab.subset (by simp)) hkind'
    refine ⟨v, w, n, m, ha, hb, fun hshare => ?_⟩
    rw [hredundant _ rfl, hredundant _ rfl, duplicate_mem_redundancies, overlap_mem_redundancies, or_comm]
    -- The values determine the networks, so an overlap with these values is one of these two networks.
    refine or_congr_left ⟨?_, fun hne => ⟨n, m, ⟨a, b, hab, ha, hb⟩, hne, hshare⟩⟩
    rintro ⟨n', m', ⟨a', b', -, ha', hb'⟩, hne, -⟩
    obtain rfl : n = n' := Option.some.inj (ha.network.symm.trans ha'.network)
    obtain rfl : m = m' := Option.some.inj (hb.network.symm.trans hb'.network)
    exact hne
  · intro v w hoverlap
    obtain ⟨n, m, ⟨a, b, -, ha, hb⟩, -, hshare⟩ := overlap_mem_redundancies.mp ((hredundant _ rfl).mp hoverlap)
    exact ⟨n, m, ha.network, hb.network, hshare⟩

/-- A mechanism for IPv4 as it is read. -/
def v4Mechanism (q : Qualifier) (value : String) : Mechanism := ⟨.ip4, q, some value, 0, false, 0, [], []⟩

/-- An address within a block before it. -/
theorem overlaps_reported_iff_nested :
    ∃ r fs, Record.read "v=spf1 ip4:192.0.2.0/24 ~ip4:192.0.2.5" = .ok r ∧ findings r = .ok fs ∧
      (.duplicate (v4Mechanism .softFail "192.0.2.5") ∈ fs ∨ .overlap "192.0.2.0/24" "192.0.2.5" ∈ fs) := by
  have hmechanisms : (Record.read "v=spf1 ip4:192.0.2.0/24 ~ip4:192.0.2.5").toOption.map (·.mechanisms) =
      some [v4Mechanism .pass "192.0.2.0/24", v4Mechanism .softFail "192.0.2.5"] := by decide +kernel
  cases hread : Record.read "v=spf1 ip4:192.0.2.0/24 ~ip4:192.0.2.5" with
  | error e => rw [hread] at hmechanisms; cases hmechanisms
  | ok r =>
    rw [hread] at hmechanisms
    have hsame : r.mechanisms = _ := Option.some.inj hmechanisms
    obtain ⟨fs, hfs, hreported, -⟩ := overlaps_reported_iff hread
    obtain ⟨v, w, n, m, ha, hb, hiff⟩ := hreported _ _ (by rw [hsame]) rfl rfl
    have hvalue : "192.0.2.0/24" = v := Option.some.inj ha.value
    have hvalue' : "192.0.2.5" = w := Option.some.inj hb.value
    subst hvalue hvalue'
    have hoverlaps : (Network.ofText? "192.0.2.0/24").bind (fun n => (Network.ofText? "192.0.2.5").map fun m =>
        decide (n ≠ m) && n.overlaps m) = some true := by decide +kernel
    rw [ha.network, hb.network] at hoverlaps
    obtain ⟨hne, hshare⟩ := Bool.and_eq_true_iff.mp (Option.some.inj hoverlaps)
    exact ⟨r, fs, rfl, hfs, (hiff (overlaps_iff_shareAddress.mp hshare)).mpr (.inl (of_decide_eq_true hne))⟩

/-- With the length of an address behind it, an address is the same network and another text. -/
theorem equal_networks_are_not_reported :
    ∃ r a b v w n, Record.read "v=spf1 ip4:192.0.2.1 ?ip4:192.0.2.1/32 -all" = .ok r ∧ [a, b].Sublist r.mechanisms ∧
      IsNetwork a v n ∧ IsNetwork b w n ∧ ShareAddress n n ∧ findings r = .ok [] := by
  have hboth : (Record.read "v=spf1 ip4:192.0.2.1 ?ip4:192.0.2.1/32 -all").toOption.map
      (fun r => (r.mechanisms.take 2, (findings r).toOption)) =
      some ([v4Mechanism .pass "192.0.2.1", v4Mechanism .neutral "192.0.2.1/32"], some []) := by decide +kernel
  have hsame : Network.ofText? "192.0.2.1/32" = Network.ofText? "192.0.2.1" := by decide +kernel
  have hnetwork : (Network.ofText? "192.0.2.1").isSome = true := by decide +kernel
  obtain ⟨n, hn⟩ := Option.isSome_iff_exists.mp hnetwork
  cases hread : Record.read "v=spf1 ip4:192.0.2.1 ?ip4:192.0.2.1/32 -all" with
  | error e => rw [hread] at hboth; cases hboth
  | ok r =>
    rw [hread] at hboth
    obtain ⟨hmechanisms, hnone⟩ := Prod.mk.inj (Option.some.inj hboth)
    have hpair : [v4Mechanism .pass "192.0.2.1", v4Mechanism .neutral "192.0.2.1/32"].Sublist r.mechanisms :=
      hmechanisms ▸ List.take_sublist 2 r.mechanisms
    obtain ⟨fs, hfs, -⟩ := exists_findings hread
    rw [hfs] at hnone
    obtain rfl : fs = [] := Option.some.inj hnone
    exact ⟨r, _, _, _, _, n, rfl, hpair, ⟨rfl, rfl, hn⟩, ⟨rfl, rfl, hsame.trans hn⟩,
      ⟨_, _, n.covers_base, n.covers_base⟩, hfs⟩

end SenderPolicy.Advice
