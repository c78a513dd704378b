import NamespacePolicy.Files.Path

/-!
What can be found out about files.  The rest of the library asks nothing else, so it makes no
difference where the files are.
-/

namespace NamespacePolicy

inductive AccessError where
  | notFound
  | denied
  | notFolder
  | isFolder
  | tooManyLinks
deriving DecidableEq, Repr

def AccessError.message : AccessError → String
  | notFound => "No such file or directory (os error 2)"
  | denied => "Permission denied (os error 13)"
  | notFolder => "Not a directory (os error 20)"
  | isFolder => "Is a directory (os error 21)"
  | tooManyLinks => "Too many levels of symbolic links (os error 40)"

/-- What shows that a file was changed. -/
structure Fingerprint where
  /-- Nothing where times of changes are not kept. -/
  modified : Option Int
  size : Nat
deriving DecidableEq, Repr

/-- The state of all files at some moment. -/
structure Files where
  /-- The absolute path, without links and dots, of what is there. -/
  canonical? : Path → Option Path
  /-- The fingerprint of a file, if there is one; folders have none. -/
  fingerprint? : Path → Option Fingerprint
  read : Path → Except AccessError (List UInt8)

end NamespacePolicy
