import NamespacePolicy.Files.Basic
import NamespacePolicy.PolicyFile.Draft
import NamespacePolicy.PolicyFile.Shape

/-! Why a policy file cannot be used. -/

namespace NamespacePolicy

open Text

/-- What the engine that reads documents says of a text that is none. -/
structure Diagnosis where
  span? : Option Span
  message : String

/-- An engine that names no place means the beginning of the text. -/
def Diagnosis.span (d : Diagnosis) : Span := d.span?.getD ⟨0, 0⟩

/-- The engines that read documents and expressions.  Which texts they refuse is known, but places
and reasons come in their own words. -/
structure Engines where
  document : List Char → Diagnosis
  /-- Why a pattern between slashes is no expression. -/
  expression : String → String

inductive PolicyFault where
  | unreadable (cause : AccessError)
  /-- Some bytes are no text; the span is the first of them. -/
  | encoding (position : Position) (span : Span)
  /-- The text is no TOML document. -/
  | grammar (text : List Char)
  | shape (position : Position) (error : ShapeError)
  | rejected (position : Position) (rejection : Rejection)
deriving DecidableEq, Repr

structure PolicyError where
  path : Path
  fault : PolicyFault
deriving DecidableEq, Repr

namespace PolicyError

variable (engines : Engines)

/-- Where the fault lies. -/
def position? (e : PolicyError) : Option Position :=
  match e.fault with
  | .unreadable _ => none
  | .encoding position _ => some position
  | .grammar text => some (.ofOffset text (engines.document text).span.start)
  | .shape position _ => some position
  | .rejected position _ => some position

def located (path : String) (position : Position) (message : String) : String :=
  path ++ ":" ++ toString position.line ++ ":" ++ toString position.column ++ ": " ++ message

def message (e : PolicyError) : String :=
  match e.fault with
  | .unreadable cause => "failed to read config file " ++ e.path.text ++ ": " ++ cause.message
  | .encoding position _ => located e.path.text position "invalid UTF-8 sequence"
  | .grammar text =>
      let diagnosis := engines.document text
      located e.path.text (.ofOffset text diagnosis.span.start) diagnosis.message
  | .shape position error => located e.path.text position error.cause.message
  | .rejected position rejection =>
      located e.path.text position (rejection.message engines.expression)

/-- A fault that has a place is reported with that place in front. -/
theorem exists_message_eq {e : PolicyError} {position : Position}
    (h : e.position? engines = some position) :
    ∃ text, e.message engines = located e.path.text position text := by
  obtain ⟨path, fault⟩ := e
  cases fault with
  | unreadable cause => cases h
  | encoding | grammar | shape | rejected =>
      cases h
      exact ⟨_, rfl⟩

end PolicyError

end NamespacePolicy
