import NamespacePolicy.PolicyFile.Error
import NamespacePolicy.Toml.Document

/-! Policy files from their text and from their bytes. -/

namespace NamespacePolicy

open Text

namespace PolicyFault

def parseText (text : List Char) : Except PolicyFault Draft :=
  match Toml.parse text with
  | .error _ => .error (.grammar text)
  | .ok entries =>
      match PolicyFile.ofEntries entries with
      | .error e => .error (.shape (.ofOffset text e.span.start) e)
      | .ok file => file.draft.mapError fun r => .rejected (.ofOffset text r.span.start) r

/-- The draft that some bytes say.  Of bytes that are no text, the first one that does not belong
to the longest text before it is at fault; its line and column are those of the text that is shown
for the bytes. -/
def parseBytes (bytes : List UInt8) : Except PolicyFault Draft :=
  match Utf8.decodeLongest bytes with
  | (text, []) => parseText text
  | (text, _) =>
      let offset := Utf8.size text
      .error (.encoding (.ofOffset (Utf8.lossy bytes) offset) ⟨offset, offset + 1⟩)

end PolicyFault

/-- Engines that say where the readers of this library stop, and little else. -/
def Engines.plain : Engines where
  document text :=
    match Toml.parse text with
    | .error fault => ⟨some ⟨fault.offset, fault.offset⟩, "the text is no TOML document"⟩
    | .ok _ => ⟨none, ""⟩
  expression _ := "the expression is ill-formed or too large"

def Draft.parse (path : Path) (text : String) : Except PolicyError Draft :=
  (PolicyFault.parseText text.toList).mapError (PolicyError.mk path)

def Files.draft (files : Files) (path : Path) : Except PolicyError Draft :=
  match files.read path with
  | .error cause => .error ⟨path, .unreadable cause⟩
  | .ok bytes => (PolicyFault.parseBytes bytes).mapError (PolicyError.mk path)

end NamespacePolicy
