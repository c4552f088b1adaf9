/-
  SenderPolicy.Report.Table — reports as the rows of a table, and as CSV text.

  A row has a cell for what its report knows about. The CSV text has a fixed list of columns, a header,
  and lines that end in a carriage return and a line feed; a cell is quoted if it holds a comma, a quote
  or a line end, with its quotes doubled, and an unknown or missing one is empty.
  - `singleQuotes_doubleQuotes`: what was doubled reads back.
-/

import SenderPolicy.Json.Display
import SenderPolicy.Report.Encode

namespace SenderPolicy.Report

/-- What a table can be made of: an analysis of a record, or a check of a domain. -/
inductive Item where
  | analysis (a : Check.Analysis)
  | check (c : Check.DomainCheck)

def Item.json : Item → Json
  | .analysis a => Report.analysis a
  | .check c => Report.check c

abbrev Row := List (String × Json)

def joined (texts : List String) : Json := .str ("|".intercalate texts)

def headCells (domain base text : Json) (valid : Bool) : Row :=
  [("domain", domain), ("base_domain", base), ("spf_record", text), ("spf_valid", .bool valid)]

def analysisCells (a : Check.Analysis) : Row :=
  [("spf_errors", joined (a.record.problems.map (·.message))), ("spf_warnings", joined (a.record.warnings.map (·.message))),
    ("dns_lookups", .int a.breakdown.total), ("compliance_status", .str a.breakdown.compliance.name),
    ("risk", .str a.outlook.risk.name), ("macro_risk", .str a.macros.risk.name)]

def flatteningCells (d : Check.Details) : Row :=
  [("flattening_status", .str d.flattening.status.name), ("flattening_total_ips", .int d.flattening.totalIps),
    ("flattening_errors", joined d.flattening.errors), ("flattened_record", .optional (fun r => .str r.1) d.rebuilt)]

def row : Item → Row
  | .analysis a => headCells .null .null (.str a.record.raw) a.record.isSound ++ analysisCells a
  | .check c =>
    match c.result with
    | .ok d =>
      headCells (.str c.domain) (.str c.base) (.str d.analysis.record.raw) d.analysis.record.isSound
        ++ analysisCells d.analysis ++ flatteningCells d
    | .error u => headCells (.str c.domain) (.str c.base) .null false ++ [("spf_error", .str u.message)]

/-! ## CSV -/

def columns : List String :=
  ["domain", "base_domain", "spf_valid", "spf_record", "dns_lookups", "compliance_status", "risk", "macro_risk",
    "flattening_status", "flattening_total_ips", "flattened_record", "spf_error", "spf_errors", "spf_warnings",
    "flattening_errors"]

def needsQuotes (cs : List Char) : Bool := cs.any fun c => c == ',' || c == '"' || c == '\r' || c == '\n'

/-- Every quote twice. -/
def doubleQuotes : List Char → List Char
  | [] => []
  | c :: cs => if c = '"' then '"' :: '"' :: doubleQuotes cs else c :: doubleQuotes cs

def quoteCell (s : String) : String :=
  if needsQuotes s.toList then String.ofList ('"' :: doubleQuotes s.toList ++ ['"']) else s

def cellText : Option Json → String
  | none | some .null => ""
  | some v => v.display

def line (cells : List String) : String := ",".intercalate (cells.map quoteCell) ++ "\r\n"

def cell (r : Row) (column : String) : String := cellText ((r.find? (·.1 == column)).map (·.2))

def csv (rows : List Row) : String := line columns ++ String.join (rows.map fun r => line (columns.map (cell r)))

/-- Two quotes read as one. -/
def singleQuotes : List Char → Option (List Char)
  | [] => some []
  | '"' :: '"' :: cs => (singleQuotes cs).map ('"' :: ·)
  | c :: cs => if c = '"' then none else (singleQuotes cs).map (c :: ·)

theorem singleQuotes_doubleQuotes (cs : List Char) : singleQuotes (doubleQuotes cs) = some cs := by
  induction cs with
  | nil => rfl
  | cons c cs ih => by_cases h : c = '"' <;> simp [doubleQuotes, singleQuotes, h, ih]

example : line ["a", "x,\"y\"", ""] = "a,\"x,\"\"y\"\"\",\r\n" := by decide

end SenderPolicy.Report
