/-
  SenderPolicy.Proofs.Check.Listing — the lines of a list of domains, and how often a domain is checked.

  Repetitions are removed from the names in the lines, but what is checked is the key of a name, which has no dot at its
  end. Dots and line ends are taken off a line first, and white space and further columns after them. So a dot in front
  of a blank or a comma stays with the name: the domain is listed with it, and once more without it.
  - `domains_of_run`: the results are those of the keys of the listed names, in order.
  - `Entry.firstColumn_eq`: what is left of a line, for each of the shapes that it may have.
  - `Writes.name_eq`, `Writes.domain_eq`: the name in a line that writes a host, and the domain that is checked for it.
  - `domains_distinct_iff`: exactly when no domain is checked twice.
  - `dotted_line_is_checked_again`: a domain, and the same with a dot and a space behind it.
-/

import Mathlib.Data.List.Nodup
import SenderPolicy.Check.Domain
import SenderPolicy.Installed
import SenderPolicy.Proofs.Address.ReadBack
import SenderPolicy.Proofs.Domain.Stability
import SenderPolicy.Proofs.Text.Lowering

namespace SenderPolicy.Text

/-! ## What trimming leaves -/

variable {p : Char → Bool} {cs ds before behind : List Char} {c : Char}

theorem trimEnd_behind (h : ∀ c ∈ behind, p c = true) (cs : List Char) : trimEnd p (cs ++ behind) = trimEnd p cs := by
  unfold trimEnd
  rw [List.reverse_append, List.dropWhile_append_of_pos fun c hc => h c (List.mem_reverse.mp hc)]

/-- Behind a character that stays, nothing is taken from the text in front. -/
theorem trimEnd_before (h : ∃ c ∈ ds, p c = false) (cs : List Char) : trimEnd p (cs ++ ds) = cs ++ trimEnd p ds := by
  obtain ⟨c, hc, hp⟩ := h
  have hne : (ds.reverse.dropWhile p).isEmpty = false := by
    rw [List.isEmpty_eq_false_iff, Ne, List.dropWhile_eq_nil_iff]
    intro hall
    rw [hall c (List.mem_reverse.mpr hc)] at hp
    cases hp
  unfold trimEnd
  rw [List.reverse_append, List.dropWhile_append, hne, if_neg Bool.false_ne_true, List.reverse_append, List.reverse_reverse]

/-- A character that stays is the last one to be looked at, whatever is behind it. -/
theorem trimEnd_stop (h : p c = false) (cs ds : List Char) : ∃ rest, trimEnd p (cs ++ c :: ds) = cs ++ c :: rest := by
  unfold trimEnd
  rw [List.reverse_append, List.reverse_cons, List.append_assoc, List.singleton_append, List.dropWhile_append]
  split
  · rw [List.dropWhile_cons_of_neg (by simp [h])]
    exact ⟨[], by simp⟩
  · exact ⟨(ds.reverse.dropWhile p).reverse, by simp⟩

/-- Between the characters in front and those behind, the rest of a text stays. -/
theorem trim_between (hbefore : ∀ c ∈ before, p c = true) (hne : cs ≠ []) (h : ∀ c ∈ cs, p c = false) (behind : List Char) :
    trim p (before ++ cs ++ behind) = trimEnd p (cs ++ behind) := by
  obtain ⟨c, rest, rfl⟩ := List.exists_cons_of_ne_nil hne
  unfold trim
  rw [List.append_assoc, List.dropWhile_append_of_pos hbefore, List.cons_append,
    List.dropWhile_cons_of_neg (by simp [h c List.mem_cons_self])]

theorem trimEnd_of_forall (h : ∀ c ∈ cs, p c = false) : trimEnd p cs = cs :=
  trimEnd_self fun c hc => h c (List.mem_of_getLast? hc)

end SenderPolicy.Text

namespace SenderPolicy.Check

open Dns Text

variable {σ : Type} {ask : Ask (StateM σ)} {o : Options} {name : String} {names lines : List String} {s s' : σ}

/-! ## The domains of the results -/

theorem exists_of_run_bind {α β : Type} {x : StateM σ α} {f : α → StateM σ β} {b : β} (h : (x >>= f).run s = (b, s')) :
    ∃ a s₁, x.run s = (a, s₁) ∧ (f a).run s₁ = (b, s') := ⟨_, _, rfl, h⟩

theorem eq_of_run_pure {α : Type} {a b : α} (h : (pure a : StateM σ α).run s = (b, s')) : a = b := congrArg Prod.fst h

theorem domain_of_run [Packages] {c : DomainCheck} (h : (checkDomain o ask name).run s = (.ok c, s')) :
    c.domain = Domain.key name := by
  unfold checkDomain at h
  obtain ⟨r, s₁, -, h⟩ := exists_of_run_bind h
  rcases r with i | u | record
  · cases eq_of_run_pure h
  · rw [← Except.ok.inj (eq_of_run_pure h)]
  · obtain ⟨d, s₂, -, h⟩ := exists_of_run_bind h
    cases d with
    | error e => cases eq_of_run_pure h
    | ok d => rw [← Except.ok.inj (eq_of_run_pure h)]

theorem domains_of_run [Packages] {cs : List DomainCheck} (h : (checkAll o ask names).run s = (.ok cs, s')) :
    cs.map (·.domain) = names.map Domain.key := by
  induction names generalizing s s' cs with
  | nil =>
    rw [← Except.ok.inj (eq_of_run_pure h)]
    rfl
  | cons name names ih =>
    unfold checkAll at h
    obtain ⟨r, s₁, hfirst, h⟩ := exists_of_run_bind h
    cases r with
    | error e => cases eq_of_run_pure h
    | ok c =>
      dsimp only at h
      split at h
      · cases eq_of_run_pure h
      · obtain ⟨r, s₂, hrest, h⟩ := exists_of_run_bind h
        cases r with
        | error e => cases eq_of_run_pure h
        | ok rest =>
          rw [← Except.ok.inj (eq_of_run_pure h), List.map_cons, List.map_cons, domain_of_run hfirst, ih hrest]

/-! ## The listed names -/

/-- A line whose name has a dot; the others are left out. -/
def IsListed (line : String) : Prop := '.' ∈ (nameOf line).toList

/-- The domain that is checked for a line. -/
def domainOf (line : String) : String := Domain.key (nameOf line)

theorem mem_listed : name ∈ listed lines ↔ ∃ line ∈ lines, IsListed line ∧ nameOf line = name := by
  unfold listed
  rw [List.mem_filter, Sequence.mem_sort, List.mem_eraseDups, List.mem_map, List.contains_iff_mem]
  constructor
  · rintro ⟨⟨line, hline, rfl⟩, hdot⟩
    exact ⟨line, hline, hdot, rfl⟩
  · rintro ⟨line, hline, hdot, rfl⟩
    exact ⟨⟨line, hline, rfl⟩, hdot⟩

theorem nodup_listed (lines : List String) : (listed lines).Nodup :=
  ((Sequence.sort_perm textLe _).nodup_iff.mpr (nodup_eraseDups _)).filter _

/-- No two of the listed names have one key if and only if no two lines of different names do. -/
theorem nodup_keys_iff : ((listed lines).map Domain.key).Nodup ↔
    ∀ x ∈ lines, ∀ y ∈ lines, IsListed x → IsListed y → domainOf x = domainOf y → nameOf x = nameOf y := by
  rw [List.nodup_map_iff_inj_on (nodup_listed lines)]
  constructor
  · intro h x hx y hy hxdot hydot hsame
    exact h _ (mem_listed.mpr ⟨x, hx, hxdot, rfl⟩) _ (mem_listed.mpr ⟨y, hy, hydot, rfl⟩) hsame
  · intro h name hname other hother hsame
    obtain ⟨x, hx, hxdot, rfl⟩ := mem_listed.mp hname
    obtain ⟨y, hy, hydot, rfl⟩ := mem_listed.mp hother
    exact h x hx y hy hxdot hydot hsame

/-! ## Lines that write a host -/

def isDotOrEnd (c : Char) : Bool := c == '.' || c == '\r' || c == '\n'

/-- A name of a host in ASCII, without the dots at its end. -/
structure IsHost (host : List Char) : Prop where
  ascii : ∀ c ∈ host, c.toNat < 128
  noBlank : ∀ c ∈ host, isBlank c = false
  noComma : ',' ∉ host
  last : ∃ c, host.getLast? = some c ∧ c ≠ '.'

/-- A line that writes a host, and the number of dots that stay with its name. -/
inductive Entry (host : List Char) : Nat → List Char → Prop where
  /-- Behind the host there are dots and line ends, in any order. -/
  | ended {lead ends : List Char} : (∀ c ∈ lead, isBlank c = true) → (∀ c ∈ ends, isDotOrEnd c = true) →
      Entry host 0 (lead ++ host ++ ends)
  /-- White space other than line ends is behind the host and its dots. -/
  | padded {lead pad ends : List Char} (n : Nat) : (∀ c ∈ lead, isBlank c = true) → (∀ c ∈ pad, isBlank c = true) →
      (∃ c ∈ pad, isDotOrEnd c = false) → (∀ c ∈ ends, isDotOrEnd c = true) →
      Entry host n (lead ++ (host ++ List.replicate n '.') ++ (pad ++ ends))
  /-- Further columns are behind them. -/
  | column {lead pad columns : List Char} (n : Nat) : (∀ c ∈ lead, isBlank c = true) →
      (∀ c ∈ pad, isBlank c = true ∧ c.toNat < 128) →
      Entry host n (lead ++ (host ++ List.replicate n '.') ++ (pad ++ ',' :: columns))

/-- A line writes a host, and this many dots stay with the name. -/
structure Writes (line : String) (host : List Char) (n : Nat) : Prop where
  isHost : IsHost host
  entry : Entry host n line.toList

variable {host line : List Char} {n : Nat}

/-- The first column of a line. -/
def firstColumn (line : List Char) : List Char := (trim isBlank (trimEnd isDotOrEnd line)).takeWhile (· != ',')

theorem nameOf_eq (line : String) : nameOf line = Domain.normalize (String.ofList (firstColumn line.toList)) := rfl

theorem IsHost.body (h : IsHost host) (n : Nat) :
    ∀ c ∈ host ++ List.replicate n '.', isBlank c = false ∧ c.toNat < 128 ∧ (c != ',') = true := by
  intro c hc
  rcases List.mem_append.mp hc with hc | hc
  · refine ⟨h.noBlank c hc, h.ascii c hc, ?_⟩
    rw [bne_iff_ne]
    rintro rfl
    exact h.noComma hc
  · rw [List.eq_of_mem_replicate hc]
    decide

theorem IsHost.body_ne_nil (h : IsHost host) (n : Nat) : host ++ List.replicate n '.' ≠ [] := by
  obtain ⟨c, hc, -⟩ := h.last
  exact List.append_ne_nil_of_left_ne_nil (List.ne_nil_of_mem (List.mem_of_getLast? hc)) _

/-- The last character of a host is no line end either. -/
theorem IsHost.stays (h : IsHost host) :
    (∃ c ∈ host, isDotOrEnd c = false) ∧ ∀ c ∈ host.getLast?, isDotOrEnd c = false := by
  obtain ⟨c, hc, hdot⟩ := h.last
  have hmem : c ∈ host := List.mem_of_getLast? hc
  have hend : isDotOrEnd c = false := by
    have hblank := h.noBlank c hmem
    simp only [isDotOrEnd, Bool.or_eq_false_iff, beq_eq_false_iff_ne]
    refine ⟨⟨hdot, ?_⟩, ?_⟩
    all_goals
      rintro rfl
      exact absurd hblank (by decide)
  refine ⟨⟨c, hmem, hend⟩, fun d hd => ?_⟩
  rw [hc] at hd
  exact Option.some.inj hd ▸ hend

theorem blank_ne_comma {c : Char} (h : isBlank c = true) : (c != ',') = true := by
  rw [bne_iff_ne]
  rintro rfl
  exact absurd h (by decide)

/-- The first column is the host with the dots that stay, and perhaps with white space that is taken off later. -/
theorem Entry.firstColumn_eq (h : IsHost host) (he : Entry host n line) :
    ∃ pad, firstColumn line = host ++ List.replicate n '.' ++ pad ∧ ∀ c ∈ pad, isBlank c = true ∧ c.toNat < 128 := by
  have hbody := h.body n
  have hne := h.body_ne_nil n
  have hblank : ∀ c ∈ host ++ List.replicate n '.', isBlank c = false := fun c hc => (hbody c hc).1
  have hcomma : ∀ c ∈ host ++ List.replicate n '.', (c != ',') = true := fun c hc => (hbody c hc).2.2
  unfold firstColumn
  cases he with
  | ended hlead hends =>
    rw [List.replicate_zero, List.append_nil] at *
    obtain ⟨hstays, hlast⟩ := h.stays
    have htrim := trim_between hlead hne hblank []
    rw [List.append_nil, List.append_nil, trimEnd_of_forall hblank] at htrim
    rw [trimEnd_behind hends, trimEnd_before hstays, trimEnd_self hlast, htrim, List.takeWhile_eq_self_iff.mpr hcomma]
    exact ⟨[], (List.append_nil _).symm, List.forall_mem_nil _⟩
  | padded _ hlead hpad hstays hends =>
    rw [← List.append_assoc, trimEnd_behind hends, trimEnd_before hstays, trim_between hlead hne hblank,
      trimEnd_behind fun c hc => hpad c ((trimEnd_sublist _ _).subset hc), trimEnd_of_forall hblank,
      List.takeWhile_eq_self_iff.mpr hcomma]
    exact ⟨[], (List.append_nil _).symm, List.forall_mem_nil _⟩
  | @column lead pad columns _ hlead hpad =>
    obtain ⟨rest, hrest⟩ := trimEnd_stop (p := isDotOrEnd) (c := ',') rfl (lead ++ (host ++ List.replicate n '.') ++ pad) columns
    obtain ⟨rest', hrest'⟩ := trimEnd_stop (p := isBlank) (c := ',') rfl (host ++ List.replicate n '.' ++ pad) rest
    rw [← List.append_assoc, hrest, List.append_assoc, trim_between hlead hne hblank, ← List.append_assoc, hrest',
      List.takeWhile_append_of_pos, List.takeWhile_cons_of_neg (by simp), List.append_nil]
    · exact ⟨pad, rfl, hpad⟩
    · intro c hc
      exact (List.mem_append.mp hc).elim (hcomma c) fun hc => blank_ne_comma (hpad c hc).1

/-- The name in a line that writes a host is the host in lower case, with the dots that stay. -/
theorem Writes.name_eq {line : String} (h : Writes line host n) :
    (nameOf line).toList = host.map Char.toLower ++ List.replicate n '.' := by
  obtain ⟨pad, hcolumn, hpad⟩ := h.entry.firstColumn_eq h.isHost
  have hbody := h.isHost.body n
  have hascii : ∀ c ∈ host ++ List.replicate n '.' ++ pad, c.toNat < 128 := by
    intro c hc
    exact (List.mem_append.mp hc).elim (fun hc => (hbody c hc).2.1) fun hc => (hpad c hc).2
  have hblank : ∀ c ∈ host ++ List.replicate n '.', isBlank c = false := fun c hc => (hbody c hc).1
  have htrim := trim_between (List.forall_mem_nil _) (h.isHost.body_ne_nil n) hblank pad
  rw [List.nil_append, trimEnd_behind fun c hc => (hpad c hc).1, trimEnd_of_forall hblank] at htrim
  rw [nameOf_eq, hcolumn, Domain.normalize, String.toList_ofList, String.toList_ofList, Domain.normalizeChars_ascii hascii,
    htrim, List.map_append, List.map_replicate]
  rfl

theorem IsHost.lowered_last (h : IsHost host) : ∀ c ∈ (host.map Char.toLower).getLast?, (c == '.') = false := by
  obtain ⟨d, hd, hdot⟩ := h.last
  intro c hc
  rw [List.getLast?_map, hd] at hc
  obtain rfl := Option.some.inj hc
  rw [beq_eq_false_iff_ne, Ne, toLower_eq_iff rfl]
  exact hdot

/-- The domain that is checked for it is the host in lower case. -/
theorem Writes.domain_eq {line : String} (h : Writes line host n) : domainOf line = String.ofList (host.map Char.toLower) := by
  obtain ⟨pad, hcolumn, hpad⟩ := h.entry.firstColumn_eq h.isHost
  have hstable : Domain.normalize (nameOf line) = nameOf line := by
    rw [nameOf_eq]
    refine Domain.normalize_ascii fun c hc => ?_
    rw [String.toList_ofList, hcolumn] at hc
    exact (List.mem_append.mp hc).elim (fun hc => (h.isHost.body n c hc).2.1) fun hc => (hpad c hc).2
  have hdots : ∀ c ∈ List.replicate n '.', (c == '.') = true := fun c hc => beq_iff_eq.mpr (List.eq_of_mem_replicate hc)
  rw [domainOf, Domain.key, hstable, dropDots, h.name_eq, trimEnd_behind hdots, trimEnd_self h.isHost.lowered_last]

theorem Writes.isListed_iff {line : String} (h : Writes line host n) : IsListed line ↔ '.' ∈ host ∨ 0 < n := by
  unfold IsListed
  rw [h.name_eq, List.mem_append, List.mem_map, List.mem_replicate]
  refine or_congr ⟨?_, fun hdot => ⟨'.', hdot, rfl⟩⟩ (by simp [Nat.pos_iff_ne_zero])
  rintro ⟨c, hc, hlow⟩
  rwa [← (toLower_eq_iff rfl).mp hlow]

/-- Two lines for one host have one name if and only if as many dots stay with the one as with the other. -/
theorem Writes.name_eq_iff {x y : String} {host' : List Char} {n' : Nat} (hx : Writes x host n) (hy : Writes y host' n')
    (hsame : host.map Char.toLower = host'.map Char.toLower) : nameOf x = nameOf y ↔ n = n' := by
  rw [← String.toList_inj, hx.name_eq, hy.name_eq, hsame, List.append_cancel_left_eq, List.replicate_inj]
  simp

/-- What is checked. The results are those of the keys of the listed names; no domain is among them twice if and only if
lines for one domain have one name. And among lines that write hosts in ASCII, with the decorations that a list may have,
that is so if and only if as many dots stay with the name in all lines for one host. -/
theorem domains_distinct_iff [Packages] {σ : Type} (o : Options) (ask : Ask (StateM σ)) (lines : List String) {s s' : σ}
    {cs : List DomainCheck} (h : (checkDomains o ask lines).run s = (.ok cs, s')) :
    cs.map (·.domain) = (listed lines).map Domain.key ∧
      ((cs.map (·.domain)).Nodup ↔
        ∀ x ∈ lines, ∀ y ∈ lines, IsListed x → IsListed y → domainOf x = domainOf y → nameOf x = nameOf y) ∧
      ∀ (host : String → List Char) (dots : String → Nat), (∀ line ∈ lines, Writes line (host line) (dots line)) →
        ((cs.map (·.domain)).Nodup ↔
          ∀ x ∈ lines, ∀ y ∈ lines, ('.' ∈ host x ∨ 0 < dots x) → ('.' ∈ host y ∨ 0 < dots y) →
            (host x).map Char.toLower = (host y).map Char.toLower → dots x = dots y) := by
  have hdomains : cs.map (·.domain) = (listed lines).map Domain.key := domains_of_run h
  rw [hdomains]
  refine ⟨rfl, nodup_keys_iff, fun host dots hwrites => nodup_keys_iff.trans ?_⟩
  refine forall₂_congr fun x hx => forall₂_congr fun y hy => ?_
  have hwx := hwrites x hx
  have hwy := hwrites y hy
  rw [hwx.isListed_iff, hwy.isListed_iff, hwx.domain_eq, hwy.domain_eq, String.ofList_inj]
  exact forall₃_congr fun _ _ hsame => hwx.name_eq_iff hwy hsame

/-! ## A list of one domain -/

/-- A zone with one policy, and a check without pauses. -/
def oneRecord : Ask (StateM Unit) := fun q =>
  pure (if q = ⟨"a.example", "TXT"⟩ then .answers ["v=spf1 -all"] else .failed (.noRecords q))

def unhurried : Options := ⟨.ok ⟨true, 10, 20, 8⟩, some (.int 0), none, .sample 0⟩

theorem exists_checks [Packages] {ds : List String}
    (h : ((checkDomains unhurried oneRecord lines).run ()).1.toOption.map (·.map (·.domain)) = some ds) :
    ∃ cs, (checkDomains unhurried oneRecord lines).run () = (.ok cs, ()) ∧ cs.map (·.domain) = ds := by
  generalize (checkDomains unhurried oneRecord lines).run () = result at h
  obtain ⟨r, s⟩ := result
  cases r with
  | error e => cases h
  | ok cs => exact ⟨cs, rfl, Option.some.inj h⟩

theorem isHost_of_all (h : host.all (fun c => c.toNat < 128 && !isBlank c && c != ',') = true)
    (hlast : ∃ c, host.getLast? = some c ∧ c ≠ '.') : IsHost host := by
  have hall : ∀ c ∈ host, (c.toNat < 128 ∧ isBlank c = false) ∧ c ≠ ',' := by simpa using h
  exact ⟨fun c hc => (hall c hc).1.1, fun c hc => (hall c hc).1.2, fun hc => (hall ',' hc).2 rfl, hlast⟩

/-- In capitals with a line end, and with a second column. -/
theorem domains_distinct_iff_decorated :
    ∃ cs, (checkDomains unhurried oneRecord ["A.example.\r\n", " a.example, mail"]).run () = (.ok cs, ()) ∧
      (cs.map (·.domain)).Nodup := by
  obtain ⟨cs, hrun, -⟩ := @exists_checks ["A.example.\r\n", " a.example, mail"] _ ["a.example"] (by decide +kernel)
  have hhost : IsHost "a.example".toList := isHost_of_all (by decide) ⟨'e', by decide, by decide⟩
  have hupper : IsHost "A.example".toList := isHost_of_all (by decide) ⟨'e', by decide, by decide⟩
  have hended : Writes "A.example.\r\n" "A.example".toList 0 := by
    refine ⟨hupper, ?_⟩
    rw [show "A.example.\r\n".toList = [] ++ "A.example".toList ++ ".\r\n".toList by decide]
    exact .ended (List.forall_mem_nil _) (List.all_eq_true.mp (by decide))
  have hcolumn : Writes " a.example, mail" "a.example".toList 0 := by
    refine ⟨hhost, ?_⟩
    rw [show " a.example, mail".toList = " ".toList ++ ("a.example".toList ++ List.replicate 0 '.') ++ ([] ++ ',' :: " mail".toList)
      by decide]
    exact .column 0 (List.all_eq_true.mp (by decide)) (List.forall_mem_nil _)
  obtain ⟨-, -, hentries⟩ := domains_distinct_iff unhurried oneRecord _ hrun
  refine ⟨cs, hrun, (hentries (fun line => if line = " a.example, mail" then "a.example".toList else "A.example".toList)
    (fun _ => 0) ?_).mpr fun _ _ _ _ _ _ _ => rfl⟩
  rw [List.forall_mem_cons, List.forall_mem_singleton]
  exact ⟨hended, hcolumn⟩

/-- A dot in front of a space stays with the name, and is taken off when the domain is checked. -/
theorem dotted_line_is_checked_again :
    ∃ cs, (checkDomains unhurried oneRecord ["a.example", "a.example. "]).run () = (.ok cs, ()) ∧
      cs.map (·.domain) = ["a.example", "a.example"] ∧ ¬ (cs.map (·.domain)).Nodup := by
  obtain ⟨cs, hrun, hdomains⟩ := @exists_checks ["a.example", "a.example. "] _ ["a.example", "a.example"] (by decide +kernel)
  exact ⟨cs, hrun, hdomains, by rw [hdomains]; decide⟩

end SenderPolicy.Check
