/-
  SenderPolicy.Proofs.Dns.Presentation — TXT records as two transports bring them.

  A TXT record is a list of strings, which together are one text. A stub resolver brings the strings as bytes; a
  server for DNS over HTTPS writes each of them in quotes, with a backslash before every quote and every backslash
  of it, and blanks between the strings. In a written string no quote stands on its own, so the strings are found
  again as they were written (`segments_presentation`). What is read off them is something else: the backslash before
  a quote goes, the one before a backslash stays. So every quote comes back, and every backslash comes back twice.
  - `textOf_presentation`: what is read off a written record.
  - `doubled_eq_iff`: a text without backslashes comes back as it is, and no other one does.
  - `transports_agree_iff`: the transports bring the same texts exactly if no string has a backslash.
  - `backslash_comes_back_twice`: a record that they read differently.
-/

import SenderPolicy.Dns.Https
import SenderPolicy.Dns.Stub

namespace SenderPolicy.Dns.Https

/-! ## The written form -/

/-- A character of a string as it is written between quotes. -/
def escapeChar (c : Char) : List Char := if c = '"' ∨ c = '\\' then ['\\', c] else [c]

def escape (cs : List Char) : List Char := cs.flatMap escapeChar

def quote (s : String) : List Char := '"' :: escape s.toList ++ ['"']

/-- The written form of a record of printable strings. -/
def presentation (strings : List String) : String := String.ofList ([' '].intercalate (strings.map quote))

/-- An answer in which a server writes a TXT record. -/
def answer (strings : List String) : Json := .obj [("type", .int 16), ("data", .str (presentation strings))]

/-- The reply in which it writes some of them. -/
def writing (records : List (List String)) : Reply :=
  .body (.obj [("Status", .int 0), ("Answer", .arr (records.map answer))])

/-- The text with each backslash twice. -/
def doubledChars (cs : List Char) : List Char := cs.flatMap fun c => if c = '\\' then ['\\', '\\'] else [c]

def doubled (s : String) : String := String.ofList (doubledChars s.toList)

/-! ## Strings that are found again -/

theorem segment?_other {c : Char} {cs : List Char} (hq : c ≠ '"') (hb : c ≠ '\\') :
    segment? (c :: cs) = (segment? cs).map fun (s, r) => (c :: s, r) := by
  rw [segment?]
  · exact hq
  · exact fun rest e => absurd e hb
  · exact fun c' rest e => absurd e hb
  · exact fun e => absurd e hb

/-- A written string ends where its closing quote stands. -/
theorem segment?_escape (cs rest : List Char) : segment? (escape cs ++ '"' :: rest) = some (escape cs, rest) := by
  induction cs with
  | nil => simp [escape, segment?]
  | cons c cs ih =>
    simp only [escape, List.flatMap_cons, List.append_assoc] at ih ⊢
    by_cases hq : c = '"'
    · subst hq
      simp [escapeChar, segment?, ih]
    by_cases hb : c = '\\'
    · subst hb
      simp [escapeChar, segment?, ih]
    · simp [escapeChar, hq, hb, segment?_other, ih]

theorem segments_quote (s : String) (rest : List Char) : segments (quote s ++ rest) = escape s.toList :: segments rest := by
  have h := segment?_escape s.toList rest
  simp only [quote, List.cons_append, List.append_assoc, List.nil_append]
  rw [segments]
  split
  · split
    · rename_i s' r heq
      rw [h] at heq
      cases heq
      rfl
    · rename_i heq
      rw [h] at heq
      cases heq
  · rename_i hne
    exact absurd rfl hne

theorem segments_blank (cs : List Char) : segments (' ' :: cs) = segments cs := by
  rw [segments]
  simp

/-- The strings of a written record are found again as they were written. -/
theorem segments_presentation (strings : List String) :
    segments ([' '].intercalate (strings.map quote)) = strings.map fun s => escape s.toList := by
  induction strings with
  | nil => simp [segments]
  | cons s strings ih =>
    cases strings with
    | nil =>
      have h := segments_quote s []
      simpa [segments] using h
    | cons t strings =>
      rw [List.map_cons, List.map_cons, List.intercalate_cons_cons, List.append_assoc, segments_quote, List.cons_append,
        List.nil_append, segments_blank, ← List.map_cons, ih]
      rfl

/-! ## What is read off them -/

theorem unescape_other {c : Char} (h : c ≠ '\\') (cs : List Char) : unescape (c :: cs) = c :: unescape cs := by
  rw [unescape]
  exact fun rest e => absurd e h

/-- A backslash does not take away one that is written behind it. -/
theorem unescape_backslash (cs : List Char) : unescape ('\\' :: escape cs) = '\\' :: unescape (escape cs) := by
  cases cs with
  | nil => rfl
  | cons c cs =>
    by_cases hq : c = '"'
    · subst hq
      rfl
    by_cases hb : c = '\\'
    · subst hb
      rfl
    · have h : escape (c :: cs) = c :: escape cs := by simp [escape, escapeChar, hq, hb]
      rw [h, unescape]
      intro rest e
      simp_all

theorem unescape_escape (cs : List Char) : unescape (escape cs) = doubledChars cs := by
  induction cs with
  | nil => rfl
  | cons c cs ih =>
    by_cases hq : c = '"'
    · subst hq
      show '"' :: unescape (escape cs) = '"' :: doubledChars cs
      rw [ih]
    by_cases hb : c = '\\'
    · subst hb
      show unescape ('\\' :: '\\' :: escape cs) = '\\' :: '\\' :: doubledChars cs
      rw [unescape, unescape_backslash, ih]
      intro rest _ e
      simp at e
    · have h : escape (c :: cs) = c :: escape cs := by simp [escape, escapeChar, hq, hb]
      rw [h, unescape_other hb, ih]
      simp [doubledChars, hb]

/-- Every quote of a written record comes back, and every backslash comes back twice. -/
theorem textOf_presentation (strings : List String) : textOf (presentation strings) = doubled (String.join strings) := by
  have h := segments_presentation strings
  unfold textOf
  rw [presentation, String.toList_ofList, h, doubled, String.toList_join]
  cases strings with
  | nil => rfl
  | cons s strings =>
    simp only [List.map_cons]
    congr 1
    rw [← List.map_cons (f := fun s : String => escape s.toList), List.flatMap_map]
    simp only [unescape_escape, doubledChars, List.flatMap_assoc]

/-! ## The same texts -/

theorem length_doubledChars (cs : List Char) : (doubledChars cs).length = cs.length + cs.count '\\' := by
  induction cs with
  | nil => rfl
  | cons c cs ih =>
    simp only [doubledChars, List.flatMap_cons, List.length_append, List.length_cons] at ih ⊢
    by_cases hb : c = '\\'
    · subst hb
      simp [ih]
      omega
    · simp [hb, ih]
      omega

theorem doubledChars_eq_iff (cs : List Char) : doubledChars cs = cs ↔ '\\' ∉ cs := by
  constructor
  · intro h hmem
    have hlength := length_doubledChars cs
    have hpos := List.count_pos_iff.mpr hmem
    rw [h] at hlength
    omega
  · intro h
    induction cs with
    | nil => rfl
    | cons c cs ih =>
      simp only [List.mem_cons, not_or] at h
      have hc : c ≠ '\\' := fun e => h.1 e.symm
      have htail : doubledChars cs = cs := ih h.2
      simp only [doubledChars, List.flatMap_cons, hc, if_false] at htail ⊢
      rw [htail]
      rfl

/-- A text without backslashes comes back as it is, and no other one does. -/
theorem doubled_eq_iff (s : String) : doubled s = s ↔ '\\' ∉ s.toList := by
  rw [← doubledChars_eq_iff, doubled]
  constructor
  · intro h
    rw [← String.toList_inj, String.toList_ofList] at h
    exact h
  · intro h
    rw [h, String.ofList_toList]

theorem dataOf_writing (records : List (List String)) :
    dataOf 16 (records.map answer) = records.map fun strings => .str (presentation strings) := by
  induction records with
  | nil => rfl
  | cons strings records ih =>
    unfold dataOf at ih ⊢
    rw [List.map_cons, List.filterMap_cons, ih]
    rfl

theorem readAll_presentation (name : String) (records : List (List String)) :
    readAll ⟨name, "TXT"⟩ (records.map fun strings => .str (presentation strings))
      = .ok (records.map fun strings => doubled (String.join strings)) := by
  induction records with
  | nil => rfl
  | cons strings records ih =>
    have h : readData ⟨name, "TXT"⟩ (.str (presentation strings)) = .ok (doubled (String.join strings)) := by
      simp only [readData, if_true, textOf_presentation]
    simp only [List.map_cons, readAll, h, ih, bind, Except.bind]

/-- What a client of DNS over HTTPS reads off written records. -/
theorem interpret_writing (name : String) {records : List (List String)} (h : records ≠ []) :
    interpret ⟨name, "TXT"⟩ (writing records) = .answers (records.map fun strings => doubled (String.join strings)) := by
  have hstatus : status? ⟨name, "TXT"⟩ (.int 0) = none := rfl
  have hnumber : typeNumber? "TXT" = some 16 := by decide
  have hdata := dataOf_writing records
  have hall := readAll_presentation name records
  cases records with
  | nil => exact absurd rfl h
  | cons strings records =>
    show readBody ⟨name, "TXT"⟩ (.obj [("Status", .int 0), ("Answer", .arr ((strings :: records).map answer))]) = _
    generalize hbody : Json.obj [("Status", .int 0), ("Answer", .arr ((strings :: records).map answer))] = body
    have hzero : (body.field? "Status").getD .null = .int 0 := by
      rw [← hbody]
      rfl
    have hanswers : answerSection ((body.field? "Answer").getD .null) = .ok ((strings :: records).map answer) := by
      rw [← hbody]
      rfl
    simp only [readBody, hzero, hstatus, hnumber, hanswers, hdata, hall]
    rfl

end SenderPolicy.Dns.Https

namespace SenderPolicy.Dns

open Https (writing presentation doubled doubled_eq_iff)

/-- What a stub resolver brings of the same records. -/
theorem interpret_strings (q : Question) {records : List (List String)} (h : ∀ strings ∈ records, strings ≠ []) :
    Stub.interpret q (.strings (records.map fun strings => strings.map String.toByteArray))
      = .answers (records.map String.join) := by
  have hkept : (records.map fun strings => strings.map String.toByteArray).filter (!·.isEmpty)
      = records.map fun strings => strings.map String.toByteArray := by
    rw [List.filter_eq_self]
    intro bytes hbytes
    obtain ⟨strings, hstrings, rfl⟩ := List.mem_map.mp hbytes
    simpa using h strings hstrings
  simp only [Stub.interpret, hkept, List.map_map, Outcome.answers.injEq]
  exact List.map_congr_left fun strings _ => Stub.textOf_strings strings

/-- Of records with strings in them a stub resolver brings the strings, one after the other, and a server for DNS over
HTTPS the same with each backslash twice. So they bring the same texts exactly if no string has a backslash. -/
theorem transports_agree_iff (name : String) {records : List (List String)} (hsome : records ≠ [])
    (hstrings : ∀ strings ∈ records, strings ≠ []) :
    Stub.interpret ⟨name, "TXT"⟩ (.strings (records.map fun strings => strings.map String.toByteArray))
        = .answers (records.map String.join) ∧
      Https.interpret ⟨name, "TXT"⟩ (writing records)
        = .answers (records.map fun strings => doubled (String.join strings)) ∧
      (Https.interpret ⟨name, "TXT"⟩ (writing records)
          = Stub.interpret ⟨name, "TXT"⟩ (.strings (records.map fun strings => strings.map String.toByteArray)) ↔
        ∀ strings ∈ records, ∀ s ∈ strings, '\\' ∉ s.toList) := by
  have hstub := interpret_strings ⟨name, "TXT"⟩ hstrings
  have hhttps := Https.interpret_writing name hsome
  refine ⟨hstub, hhttps, ?_⟩
  rw [hstub, hhttps, Outcome.answers.injEq, List.map_inj_left]
  have hplain : ∀ strings : List String, doubled (String.join strings) = String.join strings ↔ ∀ s ∈ strings, '\\' ∉ s.toList := by
    intro strings
    rw [doubled_eq_iff, String.toList_join, List.mem_flatMap]
    simp
  simp only [hplain]

/-- A record with quotes in it, in two strings. -/
def quotedRecord : List String := ["v=spf1 exp=\"a\"", " \"-all"]

theorem transports_agree_iff_quoted :
    [quotedRecord] ≠ [] ∧ (∀ strings ∈ [quotedRecord], strings ≠ []) ∧
      Https.interpret ⟨"a.example", "TXT"⟩ (writing [quotedRecord]) = .answers ["v=spf1 exp=\"a\" \"-all"] ∧
      Https.interpret ⟨"a.example", "TXT"⟩ (writing [quotedRecord])
        = Stub.interpret ⟨"a.example", "TXT"⟩ (.strings [quotedRecord.map String.toByteArray]) := by
  have hsome : [quotedRecord] ≠ [] := List.cons_ne_nil _ _
  have hstrings : ∀ strings ∈ [quotedRecord], strings ≠ [] := by decide
  obtain ⟨-, hhttps, hiff⟩ := transports_agree_iff "a.example" hsome hstrings
  refine ⟨hsome, hstrings, ?_, hiff.mpr (by decide)⟩
  rw [hhttps]
  decide

/-- One string of three characters is brought as one of four. -/
theorem backslash_comes_back_twice :
    presentation ["a\\b"] = "\"a\\\\b\"" ∧
      Https.interpret ⟨"a.example", "TXT"⟩ (writing [["a\\b"]]) = .answers ["a\\\\b"] ∧
      Stub.interpret ⟨"a.example", "TXT"⟩ (.strings [["a\\b".toByteArray]]) = .answers ["a\\b"] ∧
      Https.interpret ⟨"a.example", "TXT"⟩ (writing [["a\\b"]])
        ≠ Stub.interpret ⟨"a.example", "TXT"⟩ (.strings [["a\\b".toByteArray]]) := by
  have hhttps : Https.interpret ⟨"a.example", "TXT"⟩ (writing [["a\\b"]]) = .answers ["a\\\\b"] := by
    rw [Https.interpret_writing "a.example" (List.cons_ne_nil _ _)]
    decide
  have hstub : Stub.interpret ⟨"a.example", "TXT"⟩ (.strings [["a\\b".toByteArray]]) = .answers ["a\\b"] :=
    @interpret_strings ⟨"a.example", "TXT"⟩ [["a\\b"]] (by decide)
  refine ⟨by decide, hhttps, hstub, ?_⟩
  rw [hhttps, hstub]
  decide

end SenderPolicy.Dns
