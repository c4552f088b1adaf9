/-
  SenderPolicy.Proofs.Dns.Programs — lookups as trees of questions.

  A program that does nothing but ask is a tree: it puts a question and goes on in one way for every outcome.
  Lookups are written over an arbitrary way to ask, so each of them is also such a tree, one and the same for
  all sources, and looking up at a source is going down the tree. What is asked on the way is then a matter of
  the tree and of the outcomes, however these come about.
  - `run_mapM`, `runLookup_mapM`: going down a list of trees, one after the other.
  - `runLookup_texts`, `runLookup_addresses`, `runLookup_exchanges`: the lookups are their trees.
  - `asked_bind`: what is asked is asked in order.
  - `run_congr`: a source matters only by the outcomes of what is asked.
  - `Gives.run`: what a tree can come to is all that a run comes to.
-/

import SenderPolicy.Record.Published

namespace SenderPolicy.Dns

inductive Program (α : Type) where
  | done (a : α)
  | ask (q : Question) (next : Outcome → Program α)

namespace Program

variable {α β : Type}

protected def bind : Program α → (α → Program β) → Program β
  | .done a, f => f a
  | .ask q next, f => .ask q fun o => (next o).bind f

instance : Monad Program where
  pure := .done
  bind := Program.bind

protected theorem bind_done (x : Program α) : x.bind .done = x := by
  induction x with
  | done a => rfl
  | ask q next ih => exact congrArg (Program.ask q) (funext ih)

protected theorem bind_assoc {γ : Type} (x : Program α) (f : α → Program β) (g : β → Program γ) :
    (x.bind f).bind g = x.bind fun a => (f a).bind g := by
  induction x with
  | done a => rfl
  | ask q next ih => exact congrArg (Program.ask q) (funext ih)

instance : LawfulMonad Program := LawfulMonad.mk' Program Program.bind_done (fun _ _ => rfl) Program.bind_assoc

/-- The program that puts one question. -/
def put : Ask Program := fun q => .ask q .done

variable {m : Type → Type} [Monad m]

def run (ask : Ask m) : Program α → m α
  | .done a => pure a
  | .ask q next => do
    let o ← ask q
    (next o).run ask

theorem run_pure (ask : Ask m) (a : α) : (pure a : Program α).run ask = pure a := rfl

variable [LawfulMonad m]

theorem run_put (ask : Ask m) (q : Question) : (put q).run ask = ask q := bind_pure (ask q)

theorem run_bind (ask : Ask m) (x : Program α) (f : α → Program β) :
    (x >>= f).run ask = x.run ask >>= fun a => (f a).run ask := by
  induction x with
  | done a => exact (pure_bind a fun a => (f a).run ask).symm
  | ask q next ih =>
    show (ask q >>= fun o => ((next o).bind f).run ask) = (ask q >>= fun o => (next o).run ask) >>= _
    rw [bind_assoc]
    exact bind_congr ih

theorem run_mapM (ask : Ask m) (f : α → Program β) (as : List α) :
    (as.mapM f).run ask = as.mapM fun a => (f a).run ask := by
  induction as with
  | nil => rfl
  | cons a as ih => simp only [List.mapM_cons, run_bind, run_pure, ih]

end Program

open Program

variable {m : Type → Type} [Monad m] {α β : Type}

/-! ## Lookups -/

def runLookup (ask : Ask m) (x : Lookup Program α) : Lookup m α := ExceptT.mk (x.run.run ask)

theorem runLookup_pure (ask : Ask m) (a : α) : runLookup ask (pure a) = pure a := rfl

variable [LawfulMonad m]

theorem runLookup_put (ask : Ask m) (q : Question) :
    runLookup ask (monadLift (put q) : Lookup Program Outcome) = monadLift (ask q) := by
  show ExceptT.mk (((put q) >>= fun o => pure (Except.ok o)).run ask) = _
  rw [run_bind, run_put]
  exact congrArg ExceptT.mk (bind_pure_comp _ _)

theorem runLookup_bind (ask : Ask m) (x : Lookup Program α) (f : α → Lookup Program β) :
    runLookup ask (x >>= f) = runLookup ask x >>= fun a => runLookup ask (f a) := by
  show ExceptT.mk ((x.run >>= ExceptT.bindCont f).run ask) = ExceptT.mk (x.run.run ask >>= _)
  rw [run_bind]
  refine congrArg ExceptT.mk (bind_congr fun r => ?_)
  cases r <;> rfl

theorem runLookup_mapM (ask : Ask m) (f : α → Lookup Program β) (as : List α) :
    runLookup ask (as.mapM f) = as.mapM fun a => runLookup ask (f a) := by
  induction as with
  | nil => rfl
  | cons a as ih => simp only [List.mapM_cons, runLookup_bind, runLookup_pure, ih]

theorem runLookup_texts (ask : Ask m) (name type : String) : runLookup ask (texts put name type) = texts ask name type := by
  unfold texts
  rw [runLookup_bind]
  refine Eq.trans (congrArg (· >>= _) (runLookup_put ask _)) (bind_congr fun o => ?_)
  cases o <;> rfl

theorem runLookup_someTexts (ask : Ask m) (name type : String) :
    runLookup ask (someTexts put name type) = someTexts ask name type := by
  unfold someTexts
  rw [runLookup_bind, runLookup_texts]
  refine bind_congr fun r => ?_
  cases r <;> rfl

theorem runLookup_addresses (ask : Ask m) (name : String) : runLookup ask (addresses put name) = addresses ask name := by
  unfold addresses
  rw [runLookup_bind, runLookup_someTexts]
  refine bind_congr fun r => ?_
  cases r with
  | error f => rfl
  | ok v4 =>
    dsimp only
    rw [runLookup_bind, runLookup_someTexts]
    refine bind_congr fun r => ?_
    cases r <;> rfl

theorem runLookup_exchanges (ask : Ask m) (name : String) : runLookup ask (exchanges put name) = exchanges ask name := by
  unfold exchanges
  rw [runLookup_bind, runLookup_texts]
  refine bind_congr fun r => ?_
  cases r <;> rfl

theorem runLookup_published (ask : Ask m) (domain : String) :
    runLookup ask (Record.published put domain) = Record.published ask domain := by
  unfold Record.published
  rw [runLookup_bind, runLookup_texts]
  rfl

/-! ## What is asked -/

namespace Program

variable {σ : Type}

/-- The questions that are asked on the way through a program, at a source with a memory. -/
def asked (ask : Ask (StateM σ)) : Program α → σ → List Question
  | .done _, _ => []
  | .ask q next, s => q :: (next ((ask q).run s).1).asked ask ((ask q).run s).2

theorem asked_bind (ask : Ask (StateM σ)) (x : Program α) (f : α → Program β) (s : σ) :
    (x >>= f).asked ask s = x.asked ask s ++ (f ((x.run ask).run s).1).asked ask ((x.run ask).run s).2 := by
  induction x generalizing s with
  | done a => rfl
  | ask q next ih => exact congrArg (q :: ·) (ih _ _)

/-- What is asked for a list is asked for one of its members, after those before it. -/
theorem mem_asked_mapM {ask : Ask (StateM σ)} {f : α → Program β} {as : List α} {s : σ} {q : Question}
    (h : q ∈ (as.mapM f).asked ask s) :
    ∃ before a after, as = before ++ a :: after ∧
      q ∈ (f a).asked ask ((before.mapM fun a => (f a).run ask).run s).2 := by
  induction as generalizing s with
  | nil => cases h
  | cons a as ih =>
    rw [List.mapM_cons, asked_bind] at h
    rcases List.mem_append.mp h with h | h
    · exact ⟨[], a, as, rfl, h⟩
    · rw [asked_bind] at h
      rcases List.mem_append.mp h with h | h
      · obtain ⟨before, b, after, rfl, hq⟩ := ih h
        refine ⟨a :: before, b, after, rfl, ?_⟩
        rw [List.mapM_cons]
        exact hq
      · cases h

theorem asked_bind_eq {ask : Ask (StateM σ)} {x : Program α} {f : α → Program β} {s t : σ} {a : α}
    (h : (x.run ask).run s = (a, t)) : (x >>= f).asked ask s = x.asked ask s ++ (f a).asked ask t := by
  rw [asked_bind, h]

/-- That every question which may come up in a program has a property. -/
inductive Only (p : Question → Prop) : Program α → Prop
  | done (a : α) : Only p (.done a)
  | ask {q : Question} {next : Outcome → Program α} : p q → (∀ o, Only p (next o)) → Only p (.ask q next)

variable {p : Question → Prop}

theorem only_pure (a : α) : (pure a : Program α).Only p := .done a

theorem Only.of_asked {ask : Ask (StateM σ)} {x : Program α} {s : σ} {q : Question} (h : x.Only p) (hq : q ∈ x.asked ask s) :
    p q := by
  induction h generalizing s with
  | done a => cases hq
  | ask hp _ ih =>
    rcases List.mem_cons.mp hq with rfl | hq
    · exact hp
    · exact ih _ hq

theorem Only.bind {x : Program α} {f : α → Program β} (hx : x.Only p) (hf : ∀ a, (f a).Only p) : (x >>= f).Only p := by
  induction hx with
  | done a => exact hf a
  | ask hp _ ih => exact .ask hp ih

theorem only_mapM {f : α → Program β} {as : List α} (hf : ∀ a ∈ as, (f a).Only p) : (as.mapM f).Only p := by
  induction as with
  | nil => exact .done _
  | cons a as ih =>
    obtain ⟨ha, has⟩ := List.forall_mem_cons.mp hf
    rw [List.mapM_cons]
    exact ha.bind fun b => (ih has).bind fun bs => only_pure _

/-- Another source that agrees on everything that is asked makes no difference. -/
theorem run_congr {ask ask' : Ask (StateM σ)} {x : Program α} {s : σ} (h : ∀ q ∈ x.asked ask s, ask' q = ask q) :
    (x.run ask').run s = (x.run ask).run s := by
  induction x generalizing s with
  | done a => rfl
  | ask q next ih =>
    obtain ⟨hq, hnext⟩ := List.forall_mem_cons.mp h
    show ((next ((ask' q).run s).1).run ask').run ((ask' q).run s).2 = ((next ((ask q).run s).1).run ask).run ((ask q).run s).2
    rw [hq]
    exact ih _ hnext

end Program

/-- The same for a lookup. -/
def Looks (p : Question → Prop) (x : Lookup Program α) : Prop := x.run.Only p

variable {p : Question → Prop} {name type : String}

theorem Looks.only {x : Lookup Program α} (h : Looks p x) : x.run.Only p := h

theorem looks_pure (a : α) : Looks p (pure a) := show Program.Only p (pure (Except.ok a)) from Program.only_pure _

theorem looks_throw (i : Interruption) : Looks p (throw i : Lookup Program α) :=
  show Program.Only p (pure (Except.error i)) from Program.only_pure _

theorem Looks.bind {x : Lookup Program α} {f : α → Lookup Program β} (hx : Looks p x) (hf : ∀ a, Looks p (f a)) :
    Looks p (x >>= f) := by
  refine hx.only.bind fun r => ?_
  cases r with
  | error i => exact .done _
  | ok a => exact hf a

theorem looks_mapM {f : α → Lookup Program β} (hf : ∀ a, Looks p (f a)) (as : List α) : Looks p (as.mapM f) := by
  induction as with
  | nil => exact looks_pure _
  | cons a as ih =>
    rw [List.mapM_cons]
    exact (hf a).bind fun b => ih.bind fun bs => looks_pure _

theorem looks_put {q : Question} (h : p q) : Looks p (monadLift (put q) : Lookup Program Outcome) :=
  Program.Only.ask h fun _ => .done _

theorem looks_texts (h : p ⟨name, type⟩) : Looks p (texts put name type) := by
  refine (looks_put h).bind fun o => ?_
  cases o with
  | answers ts => exact looks_pure _
  | failed f => exact looks_pure _
  | crashed c => exact looks_throw _
  | silent => exact looks_throw _

theorem looks_someTexts (h : p ⟨name, type⟩) : Looks p (someTexts put name type) := by
  refine (looks_texts h).bind fun r => ?_
  cases r <;> exact looks_pure _

theorem looks_addresses (h4 : p ⟨name, "A"⟩) (h6 : p ⟨name, "AAAA"⟩) : Looks p (addresses put name) := by
  refine (looks_someTexts h4).bind fun r => ?_
  cases r with
  | error f => exact looks_pure _
  | ok v4 =>
    refine (looks_someTexts h6).bind fun r => ?_
    cases r <;> exact looks_pure _

theorem looks_exchanges (h : p ⟨name, "MX"⟩) : Looks p (exchanges put name) := by
  refine (looks_texts h).bind fun r => ?_
  cases r <;> exact looks_pure _

theorem looks_published (h : p ⟨name, "TXT"⟩) : Looks p (Record.published put name) :=
  (looks_texts h).bind fun _ => looks_pure _

/-- The types of the records that are ever asked for. -/
def recordTypes : List String := ["A", "AAAA", "MX", "TXT"]

def Question.IsRegular (q : Question) : Prop := q.type ∈ recordTypes

/-! ## What comes of it -/

namespace Program

variable {σ : Type} {r : α → Prop} {t : β → Prop}

/-- That everything a program may come to has a property, whatever it is answered. -/
inductive Gives (r : α → Prop) : Program α → Prop
  | done {a : α} : r a → Gives r (.done a)
  | ask {q : Question} {next : Outcome → Program α} : (∀ o, Gives r (next o)) → Gives r (.ask q next)

theorem gives_of_forall (h : ∀ a, r a) (x : Program α) : x.Gives r := by
  induction x with
  | done a => exact .done (h a)
  | ask q next ih => exact .ask ih

theorem Gives.bind {x : Program α} {f : α → Program β} (hx : x.Gives r) (hf : ∀ a, r a → (f a).Gives t) :
    (x >>= f).Gives t := by
  induction hx with
  | done ha => exact hf _ ha
  | ask _ ih => exact .ask ih

theorem gives_mapM {f : α → Program β} {as : List α} (hf : ∀ a ∈ as, (f a).Gives t) :
    (as.mapM f).Gives fun bs => ∀ b ∈ bs, t b := by
  induction as with
  | nil => exact .done (List.forall_mem_nil _)
  | cons a as ih =>
    obtain ⟨ha, has⟩ := List.forall_mem_cons.mp hf
    rw [List.mapM_cons]
    exact ha.bind fun b hb => (ih has).bind fun bs hbs => .done (List.forall_mem_cons.mpr ⟨hb, hbs⟩)

/-- What is asked afterwards may depend on what has come out. -/
theorem Only.bind_gives {p : Question → Prop} {x : Program α} {f : α → Program β} (hx : x.Only p) (hgives : x.Gives r)
    (hf : ∀ a, r a → (f a).Only p) : (x >>= f).Only p := by
  induction hgives with
  | done ha => exact hf _ ha
  | ask _ ih =>
    cases hx with
    | ask hq hnext => exact .ask hq fun o => ih o (hnext o)

theorem Gives.run {x : Program α} (h : x.Gives r) (ask : Ask (StateM σ)) (s : σ) : r ((x.run ask).run s).1 := by
  induction h generalizing s with
  | done ha => exact ha
  | ask _ ih => exact ih _ _

end Program

/-- The same for what a lookup finds if it is not interrupted. -/
def Finds (r : α → Prop) (x : Lookup Program α) : Prop := x.run.Gives fun e => ∀ a, e = .ok a → r a

section

variable {r : α → Prop} {t : β → Prop}

theorem finds_pure {a : α} (h : r a) : Finds r (pure a) := by
  refine Program.Gives.done fun b hb => ?_
  obtain rfl := Except.ok.inj hb
  exact h

theorem finds_of_forall (h : ∀ a, r a) (x : Lookup Program α) : Finds r x :=
  Program.gives_of_forall (fun _ a _ => h a) x.run

theorem Finds.bind {x : Lookup Program α} {f : α → Lookup Program β} (hx : Finds r x) (hf : ∀ a, r a → Finds t (f a)) :
    Finds t (x >>= f) := by
  refine Program.Gives.bind hx fun e he => ?_
  cases e with
  | error i => exact .done fun _ hb => nomatch hb
  | ok a => exact hf a (he a rfl)

theorem finds_mapM {f : α → Lookup Program β} (hf : ∀ a, Finds t (f a)) (as : List α) :
    Finds (fun bs => ∀ b ∈ bs, t b) (as.mapM f) := by
  induction as with
  | nil => exact finds_pure (List.forall_mem_nil _)
  | cons a as ih =>
    rw [List.mapM_cons]
    exact (hf a).bind fun b hb => ih.bind fun bs hbs => finds_pure (List.forall_mem_cons.mpr ⟨hb, hbs⟩)

theorem Finds.run {σ : Type} {x : Lookup Program α} (h : Finds r x) {ask : Ask (StateM σ)} {s : σ} {a : α}
    (hrun : ((runLookup ask x).run.run s).1 = .ok a) : r a :=
  Program.Gives.run h ask s a hrun

end

end SenderPolicy.Dns
