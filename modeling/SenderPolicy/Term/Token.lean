/-
  SenderPolicy.Term.Token — the shape of a term, without its syntax.

  A token is a mechanism if a known keyword stands in front of its first colon or slash, a qualifier
  aside, and else a modifier if it has an equals sign. Keywords match in any case, and so do characters
  that fold to their letters; the name of the term is the keyword in lower case.
  - `modifier?_join`: a modifier is its name, an equals sign and its value.
-/

import SenderPolicy.Term.Grammar
import SenderPolicy.Text.Case

namespace SenderPolicy.Token

open Text

def keywords : List (List Char) := Mechanism.Kind.standard.map fun k => k.name.toList

/-- The keyword of a mechanism as it is written, with what stands before and behind it. -/
structure Written where
  qualifier : Qualifier
  keyword : List Char
  /-- Empty, or begins with a colon or a slash. -/
  rest : List Char
  deriving DecidableEq, Repr

def endsKeyword (c : Char) : Bool := c == ':' || c == '/'

def mechanism? (token : List Char) : Option Written :=
  let body := Grammar.unqualified token
  let keyword := body.takeWhile (!endsKeyword ·)
  if keywords.any (spells keyword ·) then
    some ⟨((Grammar.qualifier? token).map (·.1)).getD .pass, keyword, body.dropWhile (!endsKeyword ·)⟩
  else none

/-- The value behind a keyword: a colon is dropped, a slash belongs to the value. -/
def value? : List Char → Option String
  | [] => none
  | c :: cs => some (String.ofList (if c == ':' then cs else c :: cs))

def Written.term (w : Written) : Term := ⟨lower (String.ofList w.keyword), w.qualifier, value? w.rest⟩

/-- The texts before and behind the first equals sign. -/
def modifier? (token : List Char) : Option (String × String) :=
  match token.dropWhile (· != '=') with
  | [] => none
  | _ :: value => some (String.ofList (token.takeWhile (· != '=')), String.ofList value)

def isModifierName : List Char → Bool
  | [] => false
  | c :: cs => isLetter c && cs.all Grammar.isNameChar

/-- The term that a token has the shape of. -/
def term? (token : String) : Option Term :=
  match mechanism? token.toList with
  | some w => some w.term
  | none => (modifier? token.toList).map fun (name, value) => ⟨lower name, .pass, some value⟩

theorem modifier?_join {token : List Char} {name value : String} (h : modifier? token = some (name, value)) :
    name.toList ++ '=' :: value.toList = token := by
  unfold modifier? at h
  split at h
  · simp at h
  · rename_i c cs hd
    have hc := List.head?_dropWhile_not (· != '=') token
    rw [hd] at hc
    obtain rfl : c = '=' := by simpa using hc
    simp only [Option.some.injEq, Prod.mk.injEq] at h
    obtain ⟨rfl, rfl⟩ := h
    simpa [hd] using List.takeWhile_append_dropWhile (p := (· != '=')) (l := token)

example : term? "-INCLUDE:a.example" = some ⟨"include", .fail, some "a.example"⟩ := by decide
example : term? "mx/24" = some ⟨"mx", .pass, some "/24"⟩ := by decide

end SenderPolicy.Token
