/-
  SenderPolicy.Report.Encode — records and what is said about them, as JSON values.

  Every report is an object whose fields come in a fixed order. What is missing is null.
-/

import SenderPolicy.Check.Domain
import SenderPolicy.Json.Basic

namespace SenderPolicy.Report

open Advice MacroString

def messages {α : Type} (message : α → String) (xs : List α) : Json := Json.strings (xs.map message)

/-! ## Records -/

def mechanism (m : Mechanism) : Json :=
  .obj [("type", .str m.kind.name), ("qualifier", .str m.qualifier.text),
    ("value", .optional .str m.value), ("lookup_count", .int m.lookups), ("has_macros", .bool m.hasMacros),
    ("macro_count", .int m.macroCount), ("resolved_ips", .strings m.resolvedIps), ("errors", .strings m.errors)]

def modifier (m : Modifier) : Json :=
  .obj [("type", .str m.kind.name), ("name", .str m.name), ("value", .str m.value),
    ("lookup_count", .int m.lookups), ("has_macros", .bool m.hasMacros)]

def record (r : Record) : Json :=
  .obj [("version", .str r.version), ("mechanisms", .arr (r.mechanisms.map mechanism)),
    ("modifiers", .arr (r.modifiers.map modifier)), ("total_lookups", .int r.totalLookups), ("raw", .str r.raw),
    ("errors", messages Problem.message r.problems), ("warnings", messages Warning.message r.warnings),
    ("is_valid", .bool r.isValid)]

def term (t : Term) : Json :=
  .obj [("type", .str t.name), ("qualifier", .str t.qualifier.text), ("value", .optional .str t.value)]

def entry (e : Budget.Entry) : Json :=
  .obj [("term", .str e.term), ("lookups", .int e.lookups), ("source", .str (if e.isModifier then "modifier" else "mechanism"))]

def breakdown (b : Budget.Breakdown) : Json :=
  .obj [("include_count", .int b.includes), ("a_count", .int b.a), ("mx_count", .int b.mx), ("ptr_count", .int b.ptr),
    ("exists_count", .int b.existence), ("redirect_count", .int b.redirect), ("total_lookups", .int b.total),
    ("compliance_status", .str b.compliance.name), ("detailed_breakdown", .arr (b.entries.map entry))]

/-! ## Macros -/

def expression (e : Expression) : Json :=
  .obj [("raw", .str e.raw), ("letter", .str e.letter.name), ("digits", .optional .int e.transformers.digits),
    ("reverse", .bool e.transformers.reversed), ("delimiters", .str (String.ofList e.transformers.delimiters)),
    ("url_escape", .bool e.transformers.encoded), ("position", .nat e.position), ("security_risk", .str e.risk.name)]

def macros (a : MacroString.Analysis) : Json :=
  .obj [("macros", .arr (a.expressions.map expression)), ("total_macros", .nat a.expressions.length),
    ("complexity_score", .nat a.complexity), ("security_risks", .strings a.concerns),
    ("performance_warnings", messages MacroString.Warning.message a.warnings),
    ("optimization_suggestions", messages MacroString.Advice.message a.advice),
    ("errors", messages Fault.message a.faults)]

def trial (t : Trial) : Json :=
  .obj [("expanded", .optional .str t.expanded), ("is_valid", .bool t.isValid),
    ("errors", messages ExpansionError.message t.errors), ("security_risk", .str t.risk.name)]

def abuse (a : Abuse × Expression) : Json :=
  .obj [("type", .str a.1.name), ("severity", .str (if a.1.isGrave then "high" else "medium")), ("macro", .str a.2.raw),
    ("description", .str a.1.description)]

def termReport (t : TermReport) : Json :=
  .obj [("term", .str t.text), ("type", .str t.kindName), ("macros", .arr (t.expressions.map expression)),
    ("expanded_example", .optional .str t.sample), ("errors", messages Fault.message t.faults),
    ("risk_level", .str t.risk.name), ("vulnerabilities", .arr (t.abuses.map abuse)),
    ("dns_lookups_per_message", .real (Float.ofNat t.halves / 2))]

def summary (s : Summary) : Json :=
  .obj [("terms", .arr (s.terms.map termReport)), ("total_macros", .nat s.expressions.length),
    ("risk_level", .str s.risk.name), ("complexity_score", .nat s.complexity),
    ("processing_overhead", .str s.overhead.name), ("recommendations", messages Recommendation.message s.recommendations)]

/-! ## Advice -/

def outlook (o : Outlook) : Json :=
  .obj [("current_risk", .str o.risk.name), ("lookup_utilization", .real o.utilization),
    ("failure_risk", .str (failureName o.risk)), ("recommended_actions", messages Action.message o.actions)]

def findingName : Finding → String
  | .flattenInclude _ => "flatten_include"
  | .duplicate _ | .overlap _ _ => "remove_redundant"
  | .consolidation _ _ _ => "use_ip4"
  | .pointer _ => "remove_ptr"

def finding (f : Finding) : Json :=
  .obj [("type", .str (findingName f)), ("severity", .str f.severity.name), ("description", .str f.description),
    ("mechanism", .str f.mechanism), ("current_lookups", .int f.savings), ("estimated_savings", .int f.savings),
    ("implementation", .str f.implementation)]

def suggestion (s : Suggestion) : Json :=
  .obj [("mechanism", .str s.mechanism.text), ("estimated_savings", .int s.savings), ("implementation", .str s.implementation),
    ("current_lookups", .int s.currentLookups), ("flattened_lookups", .int s.flattenedLookups), ("ips", .strings s.ips),
    ("safe", .bool s.isSafe), ("impact", .optional (fun i => .str i.name) s.impact)]

def validation (v : Validation) : Json :=
  .obj [("is_valid", .bool v.record.isSound), ("lookup_count", .int v.record.totalLookups), ("record_size", .nat v.bytes),
    ("txt_strings", .strings v.strings), ("warnings", .strings v.warnings),
    ("errors", messages Problem.message v.record.problems)]

/-! ## Flattening -/

def domainResult (r : Flatten.DomainResult) : Json :=
  .obj [("ips", .strings r.ips), ("nested_includes", .strings r.nested), ("errors", .strings r.errors),
    ("dns_lookups", .int r.lookups), ("unflattened", .strings r.unflattened)]

def flattening (f : Flatten.Flattening) : Json :=
  .obj [("resolved_domains", .obj (f.resolved.map fun (domain, r) => (domain, domainResult r))),
    ("total_ips", .int f.totalIps), ("errors", .strings f.errors), ("status", .str f.status.name)]

def exchange (e : Dns.Exchange) : Json := .obj [("priority", .int e.priority), ("exchange", .str e.host)]

/-! ## Checks -/

/-- The parts of an analysis apart from the record's text. -/
def analysisParts (a : Check.Analysis) : List (String × Json) :=
  [("parsed", record a.record), ("lookups", breakdown a.breakdown), ("risk", outlook a.outlook),
    ("optimizations", .arr (a.findings.map finding)), ("macros", summary a.macros)]

def recordParts (a : Check.Analysis) : List (String × Json) :=
  [("record", .str a.record.raw), ("valid", .bool a.record.isSound)]

def analysis (a : Check.Analysis) : Json := .obj (recordParts a ++ analysisParts a)

def detailParts (d : Check.Details) : List (String × Json) :=
  recordParts d.analysis ++ analysisParts d.analysis ++
    [("flattening", flattening d.flattening), ("flattening_suggestions", .arr (d.suggestions.map suggestion)),
      ("flattened_record", .optional (fun r => .str r.1) d.rebuilt),
      ("flattened_record_validation", .optional (fun r => validation r.2) d.rebuilt)]

def check (c : Check.DomainCheck) : Json :=
  .obj ([("domain", .str c.domain), ("base_domain", .str c.base)] ++
    match c.result with
    | .ok d => detailParts d
    | .error u => [("record", .null), ("valid", .bool false), ("error", .str u.message)])

end SenderPolicy.Report
