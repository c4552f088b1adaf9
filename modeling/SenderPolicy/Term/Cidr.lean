/-
  SenderPolicy.Term.Cidr — the target and the two lengths in the value of `a` and `mx`.

  The value `example.com/24//64` names a domain, a length for IPv4 of one or two digits and one for
  IPv6 of one to three. The domain is cut off as early as the rest can be read as lengths, and each of
  the three parts may be missing. The digits may be of any script.
  - `splitChars_join`: the parts written one after the other are the value again.
-/

import SenderPolicy.Text.Digit

namespace SenderPolicy.Cidr

open Text

/-- The parts of a value; a missing one is `none`. -/
structure Parts where
  domain : Option String
  v4 : Option String
  v6 : Option String
  deriving DecidableEq, Repr

/-- One to `most` digits that make up the whole text. -/
def isLength (most : Nat) (cs : List Char) : Bool := 1 ≤ cs.length && cs.length ≤ most && cs.all isDecimal

/-- Both lengths, if the text is made of nothing else. -/
def lengths? (cs : List Char) : Option (Option (List Char) × Option (List Char)) :=
  match cs with
  | [] => some (none, none)
  | '/' :: '/' :: q => if isLength 3 q then some (none, some q) else none
  | '/' :: rest =>
    let p := rest.takeWhile (· != '/')
    if !isLength 2 p then none
    else match rest.dropWhile (· != '/') with
      | [] => some (some p, none)
      | '/' :: '/' :: q => if isLength 3 q then some (some p, some q) else none
      | _ => none
  | _ => none

/-- The shortest domain behind which only lengths stand, and these lengths. -/
def splitChars : List Char → List Char × Option (List Char) × Option (List Char)
  | [] => ([], none, none)
  | c :: cs =>
    match lengths? (c :: cs) with
    | some (p, q) => ([], p, q)
    | none =>
      let (d, p, q) := splitChars cs
      (c :: d, p, q)

def nonempty (cs : List Char) : Option String := if cs.isEmpty then none else some (String.ofList cs)

def ofChars (cs : List Char) : Parts :=
  let (d, p, q) := splitChars cs
  ⟨nonempty d, p.map String.ofList, q.map String.ofList⟩

/-- A value without a line end at its very end, which belongs to none of its parts. -/
def body (value : Option String) : List Char :=
  let cs := (value.getD "").toList
  if cs.getLast? == some '\n' then cs.dropLast else cs

def split (value : Option String) : Parts := ofChars (body value)

/-- The split of a value, unless it holds a line end inside. -/
def split? (value : Option String) : Option Parts :=
  if (body value).contains '\n' then none else some (split value)

/-- The written form of the lengths. -/
def lengthsText (p q : Option (List Char)) : List Char :=
  (match p with | some p => '/' :: p | none => []) ++ (match q with | some q => '/' :: '/' :: q | none => [])

theorem lengths?_text {cs : List Char} {p q : Option (List Char)} (h : lengths? cs = some (p, q)) :
    lengthsText p q = cs := by
  unfold lengths? at h
  split at h
  · simp only [Option.some.injEq, Prod.mk.injEq] at h
    obtain ⟨rfl, rfl⟩ := h; rfl
  · split at h <;> simp only [Option.some.injEq, Prod.mk.injEq, reduceCtorEq] at h
    obtain ⟨rfl, rfl⟩ := h; rfl
  · rename_i rest _
    have happ := List.takeWhile_append_dropWhile (p := (· != '/')) (l := rest)
    dsimp only at h
    split at h
    · simp at h
    · split at h
      · rename_i hd
        simp only [Option.some.injEq, Prod.mk.injEq] at h
        obtain ⟨rfl, rfl⟩ := h
        rw [hd, List.append_nil] at happ
        simp [lengthsText, happ]
      · rename_i hd
        split at h <;> simp only [Option.some.injEq, Prod.mk.injEq, reduceCtorEq] at h
        obtain ⟨rfl, rfl⟩ := h
        rw [hd] at happ
        simp [lengthsText, happ]
      · simp at h
  · simp at h

theorem splitChars_join (cs : List Char) :
    (splitChars cs).1 ++ lengthsText (splitChars cs).2.1 (splitChars cs).2.2 = cs := by
  induction cs with
  | nil => rfl
  | cons c cs ih =>
    unfold splitChars
    split
    · rename_i p q h
      simpa using lengths?_text h
    · simpa using ih

example : split (some "example.com/24//64") = ⟨some "example.com", some "24", some "64"⟩ := by decide
example : split (some "a//64/24") = ⟨some "a//64", some "24", none⟩ := by decide

end SenderPolicy.Cidr
