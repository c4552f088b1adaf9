/-
  SenderPolicy.Proofs.Advice.QuotedStrings — a published record is read as the record.

  A record is published as strings of limited length, each in quotes, with white space between them or with none. The
  cuts fall anywhere, so a string may begin or end with blanks, or have nothing else in it; then the quotes around it
  look like two quotes with a gap between them, which join what stands on both sides. But quotes are taken in pairs
  from the left, and the very first one has no blank behind it, since a record does not begin with a blank. So each
  closing quote is taken with the opening one behind it, and what is between an opening and a closing quote stays.
  - `joinFrom_written`: behind the first quote the strings are read one after the other.
  - `unquote_written`: the strings are read as what they spell together.
  - `strings_read_back`: the strings of a validated record are short, spell the record, and are read as the record.
-/

import SenderPolicy.Advice.Publishing
import SenderPolicy.Installed
import SenderPolicy.Proofs.Record.Rereading
import SenderPolicy.Proofs.Text.Words

namespace SenderPolicy.Record

open Text

/-! ## Strings in quotes -/

/-- That a text is made of strings in quotes, with white space between them or with none. -/
inductive Written : List (List Char) → List Char → Prop
  | last (cs : List Char) : Written [cs] ('"' :: cs ++ ['"'])
  | cons {cs gap text : List Char} {strings : List (List Char)} :
      (∀ c ∈ gap, isBlank c = true) → Written strings text → Written (cs :: strings) ('"' :: cs ++ '"' :: gap ++ text)

theorem Written.ends {strings : List (List Char)} {text : List Char} (h : Written strings text) :
    text.head? = some '"' ∧ text.getLast? = some '"' := by
  induction h with
  | last cs => exact ⟨rfl, List.getLast?_concat⟩
  | cons _ _ ih =>
    refine ⟨rfl, ?_⟩
    rw [List.getLast?_append, ih.2]
    rfl

theorem joinFrom_plain_append {cs : List Char} (h : '"' ∉ cs) (rest : List Char) :
    joinFrom none (cs ++ rest) = cs ++ joinFrom none rest := by
  induction cs with
  | nil => rfl
  | cons c cs ih =>
    simp only [List.mem_cons, not_or] at h
    have hc : c ≠ '"' := fun e => h.1 e.symm
    simp [joinFrom, hc, ih h.2]

/-- Two quotes with nothing but white space between them go, and all of it with them. -/
theorem joinFrom_gap {gap : List Char} (h : ∀ c ∈ gap, isBlank c = true) (seen rest : List Char) :
    joinFrom (some seen) (gap ++ '"' :: rest) = joinFrom none rest := by
  induction gap generalizing seen with
  | nil => simp [joinFrom]
  | cons c gap ih =>
    obtain ⟨hc, hgap⟩ := List.forall_mem_cons.mp h
    have hquote : c ≠ '"' := by
      rintro rfl
      exact absurd hc (by decide)
    rw [List.cons_append, joinFrom, if_neg hquote, if_pos hc]
    exact ih hgap _

/-- Behind the first quote the strings are read one after the other. -/
theorem joinFrom_written {strings : List (List Char)} {text : List Char} (h : Written strings text)
    (hquote : ∀ cs ∈ strings, '"' ∉ cs) : ∃ body, text = '"' :: body ∧ joinFrom none body = strings.flatten := by
  induction h with
  | last cs =>
    refine ⟨cs ++ ['"'], rfl, ?_⟩
    rw [joinFrom_plain_append (hquote cs (by simp))]
    simp [joinFrom]
  | @cons cs gap text strings hgap _ ih =>
    obtain ⟨hcs, hrest⟩ := List.forall_mem_cons.mp hquote
    obtain ⟨body, rfl, hbody⟩ := ih hrest
    refine ⟨cs ++ '"' :: gap ++ '"' :: body, rfl, ?_⟩
    rw [List.append_assoc, joinFrom_plain_append hcs, List.cons_append, joinFrom, if_pos rfl, joinFrom_gap hgap, hbody]
    rfl

/-- The first quote goes alone if what stands behind it is neither a blank nor a quote. -/
theorem joinFrom_first {c : Char} (hquote : c ≠ '"') (hblank : isBlank c = false) (cs : List Char) :
    joinFrom none ('"' :: c :: cs) = joinFrom none (c :: cs) := by
  simp [joinFrom, hquote, hblank]

/-- Strings of which the first one begins, and the last one ends, with something else than a blank are read as what
they spell together. -/
theorem unquote_written {c : Char} {cs text : List Char} {strings : List (List Char)} (h : Written ((c :: cs) :: strings) text)
    (hquote : ∀ s ∈ (c :: cs) :: strings, '"' ∉ s) (hfirst : isBlank c = false)
    (hlast : ∀ d ∈ ((c :: cs) :: strings).flatten.getLast?, isBlank d = false) :
    unquoteChars text = ((c :: cs) :: strings).flatten := by
  obtain ⟨hhead, hend⟩ := h.ends
  have hplain : isBlank '"' = false := by decide
  have htext : trim isBlank text = text := by
    refine trim_self (fun d hd => ?_) fun d hd => ?_
    · rw [hhead] at hd
      cases hd
      exact hplain
    · rw [hend] at hd
      cases hd
      exact hplain
  obtain ⟨body, rfl, hbody⟩ := joinFrom_written h hquote
  have hstart : ∃ rest, body = c :: rest := by
    cases h with
    | last => exact ⟨_, rfl⟩
    | cons => exact ⟨_, rfl⟩
  obtain ⟨rest, rfl⟩ := hstart
  have hc : c ≠ '"' := by
    rintro rfl
    exact hquote _ List.mem_cons_self List.mem_cons_self
  rw [unquoteChars, htext, joinFrom_first hc hfirst, hbody]
  refine trim_self (fun d hd => ?_) hlast
  cases hd
  exact hfirst

theorem unquote_written_empty {text : List Char} (h : Written [[]] text) : unquoteChars text = [] := by
  cases h with
  | last => rfl
  | cons _ hnone => cases hnone

/-- Reading sees of a text only what is left of it without its quotes. -/
theorem read_congr [Packages] {text record : String} (h : unquote text = unquote record) : read text = read record := by
  unfold read tokens
  rw [h]

/-- An unquoted text has no quote, and no blank at its ends. -/
theorem unquote_plain (record : String) :
    '"' ∉ (unquote record).toList ∧ (∀ c ∈ (unquote record).toList.head?, isBlank c = false) ∧
      ∀ c ∈ (unquote record).toList.getLast?, isBlank c = false := by
  rw [unquote, String.toList_ofList, unquoteChars]
  refine ⟨fun hm => ?_, head_trim _, last_trim _⟩
  exact quote_not_mem_joinFrom none _ (by simp) ((trim_sublist _ _).subset hm)

end SenderPolicy.Record

namespace SenderPolicy.Advice

open Record (Written)

/-! ## The strings of a record -/

theorem length_le_of_mem_chunks {cs piece : List Char} (h : piece ∈ chunks cs) : piece.length ≤ maxStringLength := by
  obtain ⟨i, -, rfl⟩ := List.mem_map.mp h
  exact List.length_take_le _ _

theorem chunks_cons (c : Char) (cs : List Char) : ∃ first rest, chunks (c :: cs) = (c :: first) :: rest := by
  obtain ⟨n, hn⟩ : ∃ n, ((c :: cs).length + (maxStringLength - 1)) / maxStringLength = n + 1 := by
    refine ⟨((c :: cs).length + (maxStringLength - 1)) / maxStringLength - 1, ?_⟩
    simp only [List.length_cons, maxStringLength]
    omega
  rw [chunks, hn, List.range_succ_eq_map, List.map_cons]
  exact ⟨cs.take (maxStringLength - 1), _, rfl⟩

theorem toList_txtStrings (record : String) :
    (txtStrings record).map String.toList = if record = "" then [[]] else chunks record.toList := by
  unfold txtStrings
  split
  · rfl
  · rw [List.map_map]
    simp

theorem length_txtStrings {record s : String} (h : s ∈ txtStrings record) : s.length ≤ maxStringLength := by
  unfold txtStrings at h
  split at h
  · obtain rfl := List.mem_singleton.mp h
    decide
  · obtain ⟨piece, hpiece, rfl⟩ := List.mem_map.mp h
    rw [String.length_ofList]
    exact length_le_of_mem_chunks hpiece

theorem flatten_txtStrings (record : String) : ((txtStrings record).map String.toList).flatten = record.toList := by
  rw [toList_txtStrings]
  split
  · rename_i h
    rw [h]
    rfl
  · exact flatten_chunks _

theorem join_txtStrings (record : String) : String.join (txtStrings record) = record := by
  rw [← String.toList_inj, String.toList_join, List.flatMap_def, flatten_txtStrings]

/-- Whatever white space is between its strings, a published record is unquoted to itself. -/
theorem unquote_txtStrings (record : String) {text : String}
    (h : Written ((txtStrings (Record.unquote record)).map String.toList) text.toList) :
    Record.unquote text = Record.unquote record := by
  obtain ⟨hquote, hhead, hlast⟩ := Record.unquote_plain record
  rw [toList_txtStrings] at h
  rw [← String.toList_inj]
  by_cases hempty : Record.unquote record = ""
  · rw [if_pos hempty] at h
    rw [Record.unquote, String.toList_ofList, Record.unquote_written_empty h, hempty]
    rfl
  · rw [if_neg hempty] at h
    obtain ⟨c, cs, hraw⟩ := List.exists_cons_of_ne_nil fun he => hempty (String.toList_inj.mp he)
    have hflatten := flatten_chunks (Record.unquote record).toList
    obtain ⟨first, rest, hchunks⟩ := chunks_cons c cs
    rw [hraw] at h hquote hhead hlast hflatten ⊢
    rw [hchunks] at h hflatten
    rw [Record.unquote, String.toList_ofList, ← hflatten]
    refine Record.unquote_written h (fun piece hpiece hmem => hquote ?_) (hhead c rfl) ?_
    · rw [← hflatten]
      exact List.mem_flatten_of_mem hpiece hmem
    · rw [hflatten]
      exact hlast

theorem validate_of_read [Packages] {record : String} {r : Record} (h : Record.read record = .ok r) :
    validate record = .ok ⟨r, txtStrings r.raw, r.raw.utf8ByteSize, sizeWarnings r.raw⟩ := by
  rw [validate, h]
  rfl

theorem raw_of_read [Packages] {record : String} {r : Record} (h : Record.read record = .ok r) :
    r.raw = Record.unquote record := by
  obtain ⟨os, -, rfl⟩ := Record.read_ok h
  rfl

/-- The strings that a validated record is published as are short and spell the record; and whatever white space is
between them, they are read as the record. -/
theorem strings_read_back [Packages] {record : String} {r : Record} (h : Record.read record = .ok r) :
    ∃ v, validate record = .ok v ∧ v.record = r ∧ (∀ s ∈ v.strings, s.length ≤ maxStringLength) ∧
      String.join v.strings = r.raw ∧
      ∀ text : String, Written (v.strings.map String.toList) text.toList → Record.read text = .ok r := by
  refine ⟨_, validate_of_read h, rfl, fun s hs => length_txtStrings hs, join_txtStrings r.raw, fun text htext => ?_⟩
  have hstrings : Written ((txtStrings r.raw).map String.toList) text.toList := htext
  rw [raw_of_read h] at hstrings
  rw [Record.read_congr (unquote_txtStrings record hstrings), h]

/-! ## A string of blanks -/

def firstWord : List Char := ['v', '=', 's', 'p', 'f', '1']

def lastWord : List Char := ['-', 'a', 'l', 'l']

/-- A record with blanks between its two words. -/
def spreadChars (blanks : Nat) : List Char := firstWord ++ ' ' :: (List.replicate blanks ' ' ++ lastWord)

def spread (blanks : Nat) : String := String.ofList (spreadChars blanks)

theorem runs_blanks (n : Nat) (cs : List Char) :
    Text.runs Text.isBlank (List.replicate n ' ' ++ cs) = Text.runs Text.isBlank cs := by
  induction n with
  | zero => rfl
  | succ n ih =>
    have hcut := List.splitOnP_append_cons_of_forall_mem (List.forall_mem_nil (Text.isBlank · = false)) ' '
      (by decide) (List.replicate n ' ' ++ cs)
    rw [List.replicate_succ, List.cons_append, Text.runs]
    rw [List.nil_append] at hcut
    rw [hcut]
    exact ih

theorem unquote_spread (n : Nat) : Record.unquote (spread n) = spread n := by
  have hquote : '"' ∉ spreadChars n := by simp [spreadChars, firstWord, lastWord]
  have hself : Record.unquoteChars (spreadChars n) = spreadChars n := by
    refine Text.unquoteChars_self hquote (fun c hc => ?_) fun c hc => ?_
    · obtain rfl : 'v' = c := by simpa [spreadChars, firstWord] using hc
      decide
    · obtain rfl : 'l' = c := by simpa [spreadChars, lastWord, List.getLast?_append, List.getLast?_cons] using hc
      decide
  rw [Record.unquote, spread, String.toList_ofList, hself]

theorem tokens_spread (n : Nat) : Record.tokens (spread n) = ["v=spf1", "-all"] := by
  have hfirst : ∀ c ∈ firstWord, Text.isBlank c = false := by
    have hall : firstWord.all (fun c => !Text.isBlank c) = true := by decide
    simpa only [List.all_eq_true, Bool.not_eq_true'] using hall
  have hrest : Text.runs Text.isBlank (List.replicate n ' ' ++ lastWord) = [lastWord] := runs_blanks n lastWord
  have hruns : Text.runs Text.isBlank (spreadChars n) = [firstWord, lastWord] := by
    rw [Text.runs, spreadChars, List.splitOnP_append_cons_of_forall_mem hfirst ' ' (by decide),
      List.filter_cons_of_pos (by decide)]
    exact congrArg (firstWord :: ·) hrest
  rw [Record.tokens, unquote_spread, Text.words, spread, String.toList_ofList, hruns]
  decide

theorem read_spread [Packages] (n : Nat) : ∃ r, Record.read (spread n) = .ok r := by
  obtain ⟨os, hos⟩ : ∃ os, Record.readTerms ⟨false, false⟩ ["-all"] = .ok os := ⟨_, by rfl⟩
  exact ⟨_, Record.read_of_tokens (tokens_spread n) hos⟩

/-- The record below is cut into a string that ends with blanks, one of nothing but blanks, and one that begins with
blanks. -/
def spreadPieces : List (List Char) :=
  [firstWord ++ List.replicate 249 ' ', List.replicate 255 ' ', List.replicate 6 ' ' ++ lastWord]

def spreadText : String :=
  String.ofList ('"' :: (firstWord ++ List.replicate 249 ' ') ++ '"' :: [] ++ ('"' :: List.replicate 255 ' ' ++
    '"' :: [' '] ++ ('"' :: (List.replicate 6 ' ' ++ lastWord) ++ ['"'])))

theorem chunks_spread : chunks (spreadChars 509) = spreadPieces := by decide +kernel

theorem written_spread : Written spreadPieces spreadText.toList := by
  rw [spreadText, String.toList_ofList, spreadPieces]
  exact .cons (List.forall_mem_nil _) (.cons (List.forall_mem_singleton.mpr (by decide)) (.last _))

theorem pieces_spread : (txtStrings (Record.unquote (spread 509))).map String.toList = spreadPieces := by
  have hchars : (spread 509).toList = spreadChars 509 := String.toList_ofList
  have hne : spread 509 ≠ "" := by
    intro he
    rw [he] at hchars
    cases hchars
  rw [unquote_spread, toList_txtStrings, if_neg hne, hchars, chunks_spread]

theorem strings_read_back_spread :
    ∃ r v, Record.read (spread 509) = .ok r ∧ validate (spread 509) = .ok v ∧
      v.strings.map String.toList = spreadPieces ∧ Record.read spreadText = .ok r := by
  obtain ⟨r, h⟩ := read_spread 509
  obtain ⟨v, hv, -, -, -, hback⟩ := strings_read_back h
  have hstrings : v.strings = txtStrings (Record.unquote (spread 509)) := by
    have hval := validate_of_read h
    rw [hv] at hval
    rw [Except.ok.inj hval, raw_of_read h]
  have hpieces : v.strings.map String.toList = spreadPieces := by rw [hstrings, pieces_spread]
  refine ⟨r, v, h, hv, hpieces, hback spreadText ?_⟩
  rw [hpieces]
  exact written_spread

end SenderPolicy.Advice
