/-
  SenderPolicy.Proofs.Dns.Reordering — the order of answers makes no difference to a lookup.

  The answers to a question come in any order. What is looked up of them is put into an order of its own: addresses
  by their texts, exchanges by priority and host; and of the texts of a domain only one may be a record. If an answer
  cannot be read, the lookup fails whichever of them is met first, though what it says may name another one. So a
  program that is given the same answers in another order asks the same questions, and what it looks up is the same,
  or fails in the same way.
  - `Zone.source_reorders`: entries that differ in order bring outcomes that differ in order, with every transport.
  - `gathered_perm`: reading answers one by one, where every failure is of one kind.
  - `Twin.bind`, `twin_mapM`, `Twin.run`: two runs of a program, by induction on the tree.
  - `matches_addresses`, `matches_exchanges`, `matches_published`: the lookups are the same.
-/

import Mathlib.Data.List.Forall2
import SenderPolicy.Dns.Zone
import SenderPolicy.Proofs.Dns.Accesses

namespace SenderPolicy.Dns

/-! ## Outcomes in another order -/

/-- That two outcomes are the same answers, maybe in another order, or failures of the same kind. -/
inductive Outcome.Reorders : Outcome → Outcome → Prop
  | answers {texts texts' : List String} : texts.Perm texts' → Reorders (.answers texts) (.answers texts')
  | failed {f f' : Failure} : f.kind = f'.kind → Reorders (.failed f) (.failed f')
  | crashed (c : Crash) : Reorders (.crashed c) (.crashed c)
  | silent : Reorders .silent .silent

/-- That two results are both errors or both values, and how these are related. -/
inductive Paired {ε α : Type} (E : ε → ε → Prop) (V : α → α → Prop) : Except ε α → Except ε α → Prop
  | error {e e' : ε} : E e e' → Paired E V (.error e) (.error e')
  | ok {a a' : α} : V a a' → Paired E V (.ok a) (.ok a')

def Failure.SameKind (f f' : Failure) : Prop := f.kind = f'.kind

/-- That what is found is related, or that there are failures of one kind instead. -/
abbrev Finding {α : Type} (V : α → α → Prop) : Except Failure α → Except Failure α → Prop := Paired Failure.SameKind V

namespace Outcome

theorem Reorders.refl (o : Outcome) : o.Reorders o := by
  cases o with
  | answers texts => exact .answers (.refl _)
  | failed f => exact .failed rfl
  | crashed c => exact .crashed c
  | silent => exact .silent

theorem Reorders.isTransient {o o' : Outcome} (h : o.Reorders o') : o.isTransient = o'.isTransient := by
  cases h with
  | failed hkind =>
    show FailureKind.isTransient _ = FailureKind.isTransient _
    rw [hkind]
  | _ => rfl

end Outcome

/-- Asking again makes no difference either. -/
theorem settled_reorders {c c' : Client} {outcome outcome' : Question → Outcome} (hretries : c.retries = c'.retries)
    (h : ∀ q, (outcome q).Reorders (outcome' q)) (q : Question) :
    Outcome.Reorders (settled c outcome q).run (settled c' outcome' q).run := by
  have hretry : ∀ n q, (settledRetry outcome n q).Reorders (settledRetry outcome' n q) := by
    intro n
    induction n with
    | zero => exact fun q => h q.normalize
    | succ n ih =>
      intro q
      unfold settledRetry
      rw [(h q.normalize).isTransient]
      split
      · exact ih _
      · exact h _
  have hpatience : c.patience = c'.patience := by rw [Client.patience, Client.patience, hretries]
  show (c.conclude (settledRetry outcome c.patience q)).Reorders (c'.conclude (settledRetry outcome' c'.patience q))
  have hlast := hretry c'.patience q
  rw [hpatience, Client.conclude, Client.conclude, hlast.isTransient, hretries]
  split
  · exact hlast
  · split
    · exact .refl _
    · exact hlast

/-! ## Reading answers one by one -/

section

variable {α β : Type}

theorem Paired.trans {E : β → β → Prop} {V : α → α → Prop} {x y z : Except β α} (hE : ∀ {a b c}, E a b → E b c → E a c)
    (hV : ∀ {a b c}, V a b → V b c → V a c) (h : Paired E V x y) (h' : Paired E V y z) : Paired E V x z := by
  cases h with
  | error he =>
    cases h' with
    | error he' => exact .error (hE he he')
  | ok ha =>
    cases h' with
    | ok ha' => exact .ok (hV ha ha')

theorem error_of_map {x : Except Failure α} {f : α → β} {e : Failure} (h : x.map f = .error e) : x = .error e := by
  cases x with
  | error e' =>
    cases h
    rfl
  | ok a => cases h

/-- What is read of answers one by one does not depend on their order, if every failure is of one kind. -/
theorem gathered_perm {f : α → Except Failure (List β)} {g : List α → Except Failure (List β)} {kind : FailureKind}
    (hf : ∀ a e, f a = .error e → e.kind = kind) (hnil : g [] = .ok [])
    (hcons : ∀ a as, g (a :: as) = do
      let bs ← f a
      let rest ← g as
      .ok (bs ++ rest))
    {as as' : List α} (h : as.Perm as') : Finding List.Perm (g as) (g as') := by
  induction h with
  | nil =>
    rw [hnil]
    exact .ok (.refl _)
  | @cons a l l' _ ih =>
    rw [hcons, hcons]
    cases f a with
    | error e => exact .error rfl
    | ok bs =>
      generalize g l = x, g l' = y at ih
      cases ih with
      | error hsame => exact .error hsame
      | ok hperm => exact .ok (hperm.append_left bs)
  | swap a b l =>
    rw [hcons, hcons, hcons, hcons]
    cases ha : f a with
    | error e =>
      cases hb : f b with
      -- Whichever is met first is the failure, and nothing but the kind of it is the same.
      | error e' => exact .error ((hf b e' hb).trans (hf a e ha).symm)
      | ok bs => exact .error rfl
    | ok as =>
      cases f b with
      | error e' => exact .error rfl
      | ok bs =>
        cases g l with
        | error e => exact .error rfl
        | ok rest =>
          have hswap : (bs ++ (as ++ rest)).Perm (as ++ (bs ++ rest)) := by
            rw [← List.append_assoc, ← List.append_assoc]
            exact List.perm_append_comm.append_right rest
          exact .ok hswap
  | trans _ _ ih ih' => exact ih.trans Eq.trans List.Perm.trans ih'

end

/-! ## Records, addresses and exchanges -/

theorem select_perm {texts texts' : List String} (h : texts.Perm texts') (domain : String) :
    Record.select texts domain = Record.select texts' domain := by
  have hcandidates : (Record.candidates texts).Perm (Record.candidates texts') := (h.map _).filter _
  unfold Record.select
  generalize Record.candidates texts = cs, Record.candidates texts' = cs' at hcandidates
  match cs with
  | [] => rw [hcandidates.nil_eq]
  | [record] => rw [List.singleton_perm.mp hcandidates]
  | a :: b :: rest =>
    have hlength := hcandidates.length_eq
    match cs' with
    | [] => cases hlength
    | [record] => cases hlength
    | _ :: _ :: _ => rfl

theorem textLe_antisymm (a b : String) (h : textLe a b = true) (h' : textLe b a = true) : a = b := by
  simp only [textLe, Bool.not_eq_true', decide_eq_false_iff_not, String.not_lt] at h h'
  exact String.le_antisymm h h'

theorem checkAddresses_perm {texts texts' : List String} (h : texts.Perm texts') (name : String) :
    Finding (· = ·) (checkAddresses name texts) (checkAddresses name texts') := by
  have hnone : texts.find? (fun t => (Address.ofText? t).isNone) = none ↔
      texts'.find? (fun t => (Address.ofText? t).isNone) = none := by
    rw [List.find?_eq_none, List.find?_eq_none]
    simp only [h.mem_iff]
  unfold checkAddresses
  cases hfind : texts.find? fun t => (Address.ofText? t).isNone with
  | none =>
    rw [hnone.mp hfind]
    exact .ok (Sequence.sort_eq_of_perm textLe_trans textLe_total textLe_antisymm h)
  | some t =>
    cases hfind' : texts'.find? fun t => (Address.ofText? t).isNone with
    | none =>
      rw [hnone.mpr hfind'] at hfind
      cases hfind
    | some t' => exact .error rfl

namespace Exchange

theorem le_iff {a b : Exchange} :
    a.le b = true ↔ a.priority < b.priority ∨ a.priority = b.priority ∧ textLe a.host b.host = true := by
  unfold le
  by_cases h : a.priority = b.priority
  · simp [h]
  · simp [h]

theorem le_trans (a b c : Exchange) (h : a.le b = true) (h' : b.le c = true) : a.le c = true := by
  rw [le_iff] at *
  rcases h with h | ⟨h, hhost⟩
  · rcases h' with h' | ⟨h', -⟩
    · exact .inl (by omega)
    · exact .inl (by omega)
  · rcases h' with h' | ⟨h', hhost'⟩
    · exact .inl (by omega)
    · exact .inr ⟨h.trans h', textLe_trans _ _ _ hhost hhost'⟩

theorem le_total (a b : Exchange) : a.le b = true ∨ b.le a = true := by
  rw [le_iff, le_iff]
  by_cases h : a.priority = b.priority
  · rcases textLe_total a.host b.host with hhost | hhost
    · exact .inl (.inr ⟨h, hhost⟩)
    · exact .inr (.inr ⟨h.symm, hhost⟩)
  · by_cases hlt : a.priority < b.priority
    · exact .inl (.inl hlt)
    · exact .inr (.inl (by omega))

theorem le_antisymm (a b : Exchange) (h : a.le b = true) (h' : b.le a = true) : a = b := by
  rw [le_iff] at h h'
  rcases h with h | ⟨h, hhost⟩
  · rcases h' with h' | ⟨h', -⟩ <;> omega
  · rcases h' with h' | ⟨-, hhost'⟩
    · omega
    · cases a
      cases b
      rw [mk.injEq]
      exact ⟨h, textLe_antisymm _ _ hhost hhost'⟩

theorem ofText_malformed {name text : String} {e : Failure} (h : ofText name text = .error e) : e.kind = .malformed := by
  unfold ofText at h
  dsimp only at h
  split at h
  · cases h
  · split at h
    · split at h
      · cases h
      · cases h
        rfl
    · cases h
      rfl

theorem ofTexts_perm {texts texts' : List String} (h : texts.Perm texts') (name : String) :
    Finding (· = ·) (ofTexts name texts) (ofTexts name texts') := by
  have hkind : ∀ t e, (ofText name t).map Option.toList = .error e → e.kind = .malformed :=
    fun t e he => ofText_malformed (error_of_map he)
  have hread : Finding List.Perm (readAll name texts) (readAll name texts') := by
    refine gathered_perm hkind rfl (fun t ts => ?_) h
    rw [readAll]
    cases ofText name t <;> rfl
  unfold ofTexts
  generalize readAll name texts = x, readAll name texts' = y at hread
  cases hread with
  | error hkind => exact .error hkind
  | ok hperm => exact .ok (Sequence.sort_eq_of_perm le_trans le_total le_antisymm hperm)

end Exchange

/-! ## Entries of a zone -/

namespace Https

theorem readData_malformed {q : Question} {data : Json} {e : Failure} (h : readData q data = .error e) :
    e.kind = .malformed := by
  unfold readData at h
  split at h
  · split at h
    · cases h
    · dsimp only at h
      split at h
      · cases h
        rfl
      · cases h
  · cases h
    rfl

theorem readAll_perm {ds ds' : List Json} (h : ds.Perm ds') (q : Question) :
    Finding List.Perm (readAll q ds) (readAll q ds') := by
  have hkind : ∀ d e, (readData q d).map ([·]) = .error e → e.kind = .malformed :=
    fun d e he => readData_malformed (error_of_map he)
  refine gathered_perm hkind rfl (fun d ds => ?_) h
  rw [readAll]
  cases readData q d <;> rfl

theorem answerSection_list (items : List Json) : answerSection (.arr items) = .ok items := by
  cases items <;> rfl

/-- Replies with the same status and the same answers, maybe in another order. -/
theorem readBody_reorders (q : Question) {body body' : Json} {items items' : List Json} (h : items.Perm items')
    (hstatus : body.field? "Status" = body'.field? "Status") (hanswer : body.field? "Answer" = some (.arr items))
    (hanswer' : body'.field? "Answer" = some (.arr items')) : (readBody q body).Reorders (readBody q body') := by
  unfold readBody
  rw [hstatus, hanswer, hanswer', Option.getD_some, Option.getD_some, answerSection_list, answerSection_list]
  split
  · exact .refl _
  split
  · exact .refl _
  · rename_i wanted _
    have hdata : (dataOf wanted items).Perm (dataOf wanted items') := h.filterMap _
    have hread := readAll_perm hdata q
    dsimp only
    generalize readAll q (dataOf wanted items) = x, readAll q (dataOf wanted items') = y at hread
    cases hread with
    | error hkind => exact .failed hkind
    | @ok texts texts' hperm =>
      match texts with
      | [] => rw [hperm.nil_eq]; exact .refl _
      | t :: ts =>
        match texts' with
        | [] => exact absurd hperm.length_eq (by simp)
        | t' :: ts' => exact .answers hperm

end Https

namespace Zone

/-- That two entries list the same answers, maybe in another order: by themselves, or in a server's reply. -/
inductive EntryReorders : Json → Json → Prop
  | same (entry : Json) : EntryReorders entry entry
  | listed {items items' : List Json} : items.Perm items' → EntryReorders (.arr items) (.arr items')
  | served {body body' : Json} {items items' : List Json} : items.Perm items' →
      body.field? "Status" = body'.field? "Status" → body.field? "Answer" = some (.arr items) →
      body'.field? "Answer" = some (.arr items') → EntryReorders (.obj [("payload", body)]) (.obj [("payload", body')])

/-- That two lists have the same keys, and that their values are related one by one. -/
def Keyed {α : Type} (R : α → α → Prop) : List (String × α) → List (String × α) → Prop :=
  List.Forall₂ fun e e' => e.1 = e'.1 ∧ R e.2 e'.2

/-- That two zones differ only in the order of the answers inside their entries. -/
def Reorders (z z' : Zone) : Prop := Keyed (Keyed EntryReorders) z.names z'.names

theorem find?_keyed {α : Type} {R : α → α → Prop} {es es' : List (String × α)} (h : Keyed R es es') (key : String) :
    Option.Rel R ((es.find? (·.1 == key)).map (·.2)) ((es'.find? (·.1 == key)).map (·.2)) := by
  induction h with
  | nil => exact .none
  | @cons e e' es es' he _ ih =>
    rw [List.find?_cons, List.find?_cons, ← he.1]
    by_cases hkey : e.1 == key
    · simp only [hkey, Option.map_some]
      exact .some he.2
    · simp only [hkey]
      exact ih

theorem entry?_reorders {z z' : Zone} (h : z.Reorders z') (q : Question) :
    z.has q.name = z'.has q.name ∧ Option.Rel EntryReorders (z.entry? q) (z'.entry? q) := by
  have htypes : Option.Rel (Keyed EntryReorders) (z.types? q.name) (z'.types? q.name) := find?_keyed h q.name
  unfold has entry?
  generalize z.types? q.name = x, z'.types? q.name = y at htypes
  cases htypes with
  | none => exact ⟨rfl, .none⟩
  | some htypes => exact ⟨rfl, find?_keyed htypes q.type⟩

theorem texts_perm {items items' : List Json} (h : items.Perm items') : (texts (.arr items)).Perm (texts (.arr items')) :=
  h.filterMap _

theorem outcome_reorders (t : Transport) (q : Question) {entry entry' : Json} (h : EntryReorders entry entry') :
    (outcome t q entry).Reorders (outcome t q entry') := by
  cases h with
  | same => exact .refl _
  | listed hperm =>
    cases t with
    | plain => exact .answers (texts_perm hperm)
    | stub =>
      show (Stub.interpret q (if q.type = "TXT" then _ else _)).Reorders
        (Stub.interpret q (if q.type = "TXT" then _ else _))
      split
      · exact .answers (((hperm.map _).filter _).map _)
      · exact .answers ((texts_perm hperm).map _)
    | https => exact .refl _
  | @served body body' _ _ hperm hstatus hanswer hanswer' =>
    cases t with
    | plain => exact .refl _
    | stub => exact .refl _
    | https =>
      show (Https.interpret q (.body body)).Reorders (Https.interpret q (.body body'))
      match body, body' with
      | .obj fields, .obj fields' => exact Https.readBody_reorders q hperm hstatus hanswer hanswer'

theorem entryFor_reorders (asked : Nat) {entry entry' : Json} (h : EntryReorders entry entry') :
    EntryReorders (entryFor asked entry) (entryFor asked entry') := by
  cases h with
  | same => exact .same _
  | listed hperm => exact .listed hperm
  | served hperm hstatus hanswer hanswer' => exact .served hperm hstatus hanswer hanswer'

/-- Zones that differ in order bring outcomes that differ in order, with every transport. -/
theorem source_reorders {z z' : Zone} (h : z.Reorders z') (t : Transport) (q : Question) (asked : Nat) :
    (z.source t q asked).Reorders (z'.source t q asked) := by
  obtain ⟨hname, hentry⟩ := entry?_reorders h q
  unfold source
  rw [hname]
  generalize z.entry? q = x, z'.entry? q = y at hentry
  cases hentry with
  | none => exact .refl _
  | some hentry => exact outcome_reorders t q (entryFor_reorders asked hentry)

end Zone

/-! ## Two runs -/

namespace Program

variable {α β : Type}

/-- That two programs ask the same questions as long as they are answered the same in any order, and how what they come
to is related. -/
inductive Twin (R : α → α → Prop) : Program α → Program α → Prop
  | done {a a' : α} : R a a' → Twin R (.done a) (.done a')
  | ask {q : Question} {next next' : Outcome → Program α} :
      (∀ o o', o.Reorders o' → Twin R (next o) (next' o')) → Twin R (.ask q next) (.ask q next')

variable {R : α → α → Prop} {S : β → β → Prop}

theorem Twin.bind {x y : Program α} {f g : α → Program β} (h : Twin R x y) (hf : ∀ a a', R a a' → Twin S (f a) (g a')) :
    Twin S (x >>= f) (y >>= g) := by
  induction h with
  | done ha => exact hf _ _ ha
  | ask _ ih => exact .ask fun o o' ho => ih o o' ho

theorem twin_mapM {f g : α → Program β} (hf : ∀ a, Twin S (f a) (g a)) (as : List α) :
    Twin (List.Forall₂ S) (as.mapM f) (as.mapM g) := by
  induction as with
  | nil => exact .done .nil
  | cons a as ih =>
    rw [List.mapM_cons, List.mapM_cons]
    exact (hf a).bind fun b b' hb => ih.bind fun bs bs' hbs => .done (.cons hb hbs)

/-- At sources that differ in order two such programs come to related results. -/
theorem Twin.run {ask ask' : Ask Id} {x y : Program α} (h : Twin R x y)
    (hask : ∀ q, Outcome.Reorders (ask q).run (ask' q).run) : R (x.run ask).run (y.run ask').run := by
  induction h with
  | done ha => exact ha
  | @ask q next next' _ ih => exact ih _ _ (hask q)

end Program

/-- The same for lookups, which are interrupted alike or find what is related. -/
def Matches {α : Type} (R : α → α → Prop) (x y : Lookup Program α) : Prop := Program.Twin (Paired (· = ·) R) x.run y.run

section

variable {α β : Type} {R : α → α → Prop} {S : β → β → Prop}

theorem matches_pure {a a' : α} (h : R a a') : Matches R (pure a) (pure a') := .done (.ok h)

theorem Matches.bind {x y : Lookup Program α} {f g : α → Lookup Program β} (h : Matches R x y)
    (hf : ∀ a a', R a a' → Matches S (f a) (g a')) : Matches S (x >>= f) (y >>= g) := by
  refine Program.Twin.bind h fun r r' hr => ?_
  cases hr with
  | error hi =>
    rw [hi]
    exact .done (.error rfl)
  | ok ha => exact hf _ _ ha

theorem matches_mapM {f : α → Lookup Program β} (hf : ∀ a, Matches S (f a) (f a)) (as : List α) :
    Matches (List.Forall₂ S) (as.mapM f) (as.mapM f) := by
  induction as with
  | nil => exact matches_pure .nil
  | cons a as ih =>
    rw [List.mapM_cons]
    exact (hf a).bind fun b b' hb => ih.bind fun bs bs' hbs => matches_pure (.cons hb hbs)

end

open Program (put)

theorem matches_texts (name type : String) : Matches (Finding List.Perm) (texts put name type) (texts put name type) := by
  refine Program.Twin.ask fun o o' ho => ?_
  cases ho with
  | answers hperm => exact .done (.ok (.ok hperm))
  | failed hkind => exact .done (.ok (.error hkind))
  | crashed c => exact .done (.error rfl)
  | silent => exact .done (.error rfl)

theorem matches_someTexts (name type : String) :
    Matches (Finding List.Perm) (someTexts put name type) (someTexts put name type) := by
  refine (matches_texts name type).bind fun r r' hr => ?_
  cases hr with
  | ok hperm => exact matches_pure (.ok hperm)
  | @error f f' hkind =>
    have hsame : f.kind = f'.kind := hkind
    dsimp only
    rw [hsame]
    split
    · exact matches_pure (.ok (.refl _))
    · exact matches_pure (.error hkind)

/-- The addresses of a name are the same, in the same order. -/
theorem matches_addresses (name : String) : Matches (Finding (· = ·)) (addresses put name) (addresses put name) := by
  refine (matches_someTexts name "A").bind fun r r' hr => ?_
  cases hr with
  | error hkind => exact matches_pure (.error hkind)
  | ok hv4 =>
    refine (matches_someTexts name "AAAA").bind fun r r' hr => ?_
    cases hr with
    | error hkind => exact matches_pure (.error hkind)
    | ok hv6 => exact matches_pure (checkAddresses_perm (hv4.append hv6) name)

/-- The mail exchanges of a name are the same, in the same order. -/
theorem matches_exchanges (name : String) : Matches (Finding (· = ·)) (exchanges put name) (exchanges put name) := by
  refine (matches_texts name "MX").bind fun r r' hr => ?_
  cases hr with
  | error hkind => exact matches_pure (.error hkind)
  | ok hperm => exact matches_pure (Exchange.ofTexts_perm hperm name)

/-- A domain publishes the same record, or none. -/
theorem matches_published (domain : String) :
    Matches (Paired (fun _ _ => True) (· = ·)) (Record.published put domain) (Record.published put domain) := by
  refine (matches_texts domain "TXT").bind fun r r' hr => matches_pure ?_
  cases hr with
  | error hkind => exact .error trivial
  | @ok texts texts' hperm =>
    unfold Record.ofAnswers
    dsimp only
    rw [select_perm hperm]
    split
    · exact .error trivial
    · exact .ok rfl

end SenderPolicy.Dns
