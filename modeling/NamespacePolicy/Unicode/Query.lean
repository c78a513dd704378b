import NamespacePolicy.Unicode.Age
import NamespacePolicy.Unicode.ScriptExtension
import NamespacePolicy.Unicode.TextBreak

/-!
The names under which a pattern asks for sets of characters.  Names are compared without regard to
case, blanks, hyphens and underscores.
-/

namespace NamespacePolicy.Unicode

/-- General categories that join several others or none of them. -/
def groupedCategories : List (List String × CharClass) := [
  (["any"], .any),
  (["ascii"], .interval 0 0x7F),
  (["assigned"], assigned),
  (["cn", "unassigned"], .compl assigned),
  (["l", "letter"], letter),
  (["lc", "casedletter"], .join [category "lu", category "ll", category "lt"]),
  (["m", "mark", "combiningmark"], mark),
  (["n", "number"], numeric),
  (["p", "punctuation", "punct"], categoriesStarting 'p'),
  (["s", "symbol"], categoriesStarting 's'),
  (["z", "separator"], categoriesStarting 'z'),
  (["c", "other"], .union (categoriesStarting 'c') (.compl assigned))]

/-- The form in which names are compared: lower case, only the characters that matter, and no
leading `is`; `isc` alone keeps its name. -/
def looseName (name : List Char) : String :=
  let low := name.map Char.toLower
  let body := if low.take 2 = ['i', 's'] then low.drop 2 else low
  let kept := body.filter fun c => c.toNat < 128 && c != ' ' && c != '_' && c != '-'
  if low.take 2 = ['i', 's'] ∧ kept = ['c'] then "isc" else String.ofList kept

def categoryNamed (name : String) : Option CharClass :=
  (groupedCategories.find? (·.1.contains name)).map (·.2)
    <|> NamedClass.lookup? name generalCategories

/-- The set that a single name asks for: a property, a general category or a script.  The names
that a category shares with a property mean the category. -/
def classNamed (name : List Char) : Option CharClass :=
  let name := looseName name
  (if name = "cf" ∨ name = "sc" ∨ name = "lc" then none else propertyNamed name)
    <|> categoryNamed name <|> scriptNamed name

/-- The set that a property name and a value ask for. -/
def classValued (property value : List Char) : Option CharClass :=
  let value := looseName value
  match looseName property with
  | "gc" | "generalcategory" => categoryNamed value
  | "sc" | "script" => scriptNamed value
  | "scx" | "scriptextensions" => scriptExtensionNamed value
  | "age" => ageNamed value
  | "gcb" | "graphemeclusterbreak" => breakClassNamed value graphemeClasses
  | "wb" | "wordbreak" => breakClassNamed value wordClasses
  | "sb" | "sentencebreak" => breakClassNamed value sentenceClasses
  | _ => none

end NamespacePolicy.Unicode
