import NamespacePolicy.Json.Shape
import NamespacePolicy.Json.Writer
import NamespacePolicy.Report

/-! Reports as JSON. -/

namespace NamespacePolicy

namespace Location

def toJson (l : Location) : Json :=
  .record [("file", .ofString l.file), ("line", .ofNat l.line), ("column", .ofNat l.column)]

def shape : Json.Shape :=
  ⟨"Location",
    [.needed "file" Json.path, .needed "line" Json.natural, .needed "column" Json.natural]⟩

def ofJson (j : Json) : Except JsonError Location := do
  let members ← Json.members shape false j
  return {
    file := ← Json.member members "file" Json.path
    line := ← Json.member members "line" Json.natural
    column := ← Json.member members "column" Json.natural }

end Location

def IssueKind.ofJson (j : Json) : Except JsonError IssueKind := do
  let name ← Json.variant (all.map name) j
  match ofName? name with
  | some kind => return kind
  | none => throw .malformed

def Severity.ofJson (j : Json) : Except JsonError Severity := do
  let name ← Json.variant ["info", "warning", "error"] j
  match ofText? name with
  | some severity => return severity
  | none => throw .malformed

namespace Issue

/-- A location is only written if there is one. -/
def toJson (i : Issue) : Json :=
  let location := match i.location with
    | some l => [("location", l.toJson)]
    | none => []
  .record ([("kind", .ofString i.kind.name), ("severity", .ofString i.severity.text),
    ("message", .ofString i.message)] ++ location)

def shape : Json.Shape :=
  ⟨"Issue",
    [.needed "kind" IssueKind.ofJson, .needed "severity" Severity.ofJson,
      .needed "message" Json.text, .free "location" (Json.optional Location.ofJson)]⟩

def ofJson (j : Json) : Except JsonError Issue := do
  let members ← Json.members shape false j
  return {
    kind := ← Json.member members "kind" IssueKind.ofJson
    severity := ← Json.member members "severity" Severity.ofJson
    message := ← Json.member members "message" Json.text
    location := ← members.getD "location" (Json.optional Location.ofJson) none }

end Issue

namespace Report

def toJson (r : Report) : Json :=
  .record [("issues", .array (r.issues.map Issue.toJson)),
    ("dependencies_checked", .ofNat r.checked)]

def shape : Json.Shape :=
  ⟨"AnalysisResult",
    [.needed "issues" (Json.list Issue.ofJson), .needed "dependencies_checked" Json.natural]⟩

def ofJson (j : Json) : Except JsonError Report := do
  let members ← Json.members shape false j
  return {
    issues := ← Json.member members "issues" (Json.list Issue.ofJson)
    checked := ← Json.member members "dependencies_checked" Json.natural }

def compactJson (r : Report) : String := r.toJson.compactText

def prettyJson (r : Report) : String := r.toJson.prettyText

def parse (text : String) : Except JsonError Report := Json.parse ofJson text

end Report

end NamespacePolicy
