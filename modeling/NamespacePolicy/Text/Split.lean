/-!
Texts cut at a separator.  Cutting and joining are inverse to each other as long as no piece
holds the separator, so a dotted name and its list of components carry the same information.
-/

namespace NamespacePolicy.Text

/-- The pieces between the separators; there is always one more piece than there are
separators, so the empty text has one empty piece. -/
def split (sep : Char) : List Char → List (List Char)
  | [] => [[]]
  | c :: rest =>
      if c = sep then [] :: split sep rest
      else
        match split sep rest with
        | [] => [[c]]
        | piece :: pieces => (c :: piece) :: pieces

/-- The pieces with one separator between neighbours. -/
def join (sep : Char) : List (List Char) → List Char
  | [] => []
  | [piece] => piece
  | piece :: pieces => piece ++ sep :: join sep pieces

theorem split_ne_nil (sep : Char) (text : List Char) : split sep text ≠ [] := by
  cases text with
  | nil => simp [split]
  | cons c rest =>
      simp only [split]
      split
      · simp
      · split <;> simp

theorem join_cons_of_ne_nil (sep : Char) (piece : List Char) {pieces : List (List Char)}
    (h : pieces ≠ []) : join sep (piece :: pieces) = piece ++ sep :: join sep pieces := by
  cases pieces with
  | nil => exact absurd rfl h
  | cons next more => rfl

theorem join_split (sep : Char) (text : List Char) : join sep (split sep text) = text := by
  induction text with
  | nil => rfl
  | cons c rest ih =>
      simp only [split]
      split
      · next h => rw [join_cons_of_ne_nil sep [] (split_ne_nil sep rest), ih, h]; rfl
      · split
        · next h => exact absurd h (split_ne_nil sep rest)
        · next piece pieces h =>
            rw [h] at ih
            cases pieces with
            | nil => simpa [join] using ih
            | cons next more => simpa [join] using ih

def pieces (sep : Char) (text : String) : List String :=
  (split sep text.toList).map String.ofList

/-- The non-empty pieces between spaces and line ends. -/
def words (text : String) : List (List Char) :=
  (split ' ' (text.toList.map fun c => if c = '\n' then ' ' else c)).filter (· ≠ [])

/-- Strings with a separating text between neighbours. -/
def joined (sep : String) : List String → String
  | [] => ""
  | [only] => only
  | first :: rest => first ++ sep ++ joined sep rest

end NamespacePolicy.Text
