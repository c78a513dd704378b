import NamespacePolicy.Proofs.Walks

/-!
Paths without dots.  Cleaning up a path leaves a plain spelling that goes up at its beginning only,
and from every folder it leads where the path led.  Without symbolic links that is also where a walk
arrives.
-/

namespace NamespacePolicy.Proofs.Normalization

open NamespacePolicy.Path Paths Separation Spelling Walks

theorem isMove_of_mem_filterMap {p : Path} {pieces : List String} (h : pieces ⊆ p.pieces)
    {part : Part} (hpart : part ∈ pieces.filterMap part?) : IsMove part := by
  obtain ⟨piece, hpiece, hsome⟩ := List.mem_filterMap.mp hpart
  rw [IsMove, text_of_part? hsome]
  exact ⟨hsome, not_mem_of_mem_pieces (h hpiece)⟩

/-- What a path begins with, and the moves after it. -/
theorem exists_moves (p : Path) :
    ∃ moves, (∀ part ∈ moves, IsMove part) ∧ p.pieces.filterMap part? = moves ∧
      (p.isAbsolute = true ∧ p.parts = .root :: moves ∨
        p.isAbsolute = false ∧ (p.parts = moves ∨ p.parts = .here :: moves)) := by
  refine ⟨_, fun part => isMove_of_mem_filterMap (List.Subset.refl _), rfl, ?_⟩
  cases hpieces : p.pieces with
  | nil => exact absurd hpieces (pieces_ne_nil _ _)
  | cons first rest =>
      have habsolute := isAbsolute_iff hpieces
      rw [parts_eq, hpieces, partsOf]
      by_cases hroot : first = "" ∧ rest ≠ []
      · refine .inl ⟨habsolute.mpr hroot, ?_⟩
        obtain ⟨rfl, hrest⟩ := hroot
        rw [leading_of_root hrest]
        rfl
      · refine .inr ⟨by simpa [hroot] using habsolute, ?_⟩
        rw [leading, if_neg hroot]
        by_cases hdot : first = "."
        · subst hdot
          exact .inr rfl
        · rw [if_neg hdot, List.filterMap_cons]
          cases part? first with
          | none => exact .inl rfl
          | some part => exact .inl rfl

section Moves

variable {moves : List Part} (h : ∀ part ∈ moves, IsMove part)

include h

theorem filterMap_map_text : (moves.map Part.text).filterMap part? = moves := by
  have hsome : ∀ part ∈ moves, (part? ∘ Part.text) part = some part :=
    fun part hpart => (h part hpart).1
  rw [List.filterMap_map, List.filterMap_congr hsome, List.filterMap_some]

theorem pieces_ofParts_moves (hne : moves ≠ []) :
    (ofParts moves).pieces = moves.map Part.text := by
  have htext : ofParts moves = ⟨Text.joined "/" (moves.map Part.text)⟩ := by
    rw [ofParts]
    rintro rfl
    exact absurd (h .root List.mem_cons_self).1 (by decide)
  rw [htext]
  refine pieces_joined rfl (by simp [hne]) ?_
  intro piece hpiece
  obtain ⟨part, hpart, rfl⟩ := List.mem_map.mp hpiece
  exact (h part hpart).2

theorem pieces_ofParts_root (hne : moves ≠ []) :
    (ofParts (.root :: moves)).pieces = "" :: moves.map Part.text := by
  have htext : ofParts (.root :: moves) = ⟨Text.joined "/" ("" :: moves.map Part.text)⟩ := by
    rw [ofParts]
    · rfl
    · intro hroot
      exact hne (List.cons.inj hroot).2
  rw [htext]
  refine pieces_joined rfl (List.cons_ne_nil _ _) ?_
  intro piece hpiece
  rcases List.mem_cons.mp hpiece with rfl | hpiece
  · simp
  · obtain ⟨part, hpart, rfl⟩ := List.mem_map.mp hpiece
    exact (h part hpart).2

theorem parts_ofParts_moves : (ofParts moves).parts = moves := by
  cases hmoves : moves with
  | nil => decide
  | cons first rest =>
      have hfirst : IsMove first := h first (hmoves ▸ List.mem_cons_self)
      have hne : first.text ≠ "" ∧ first.text ≠ "." := by
        rw [← not_or, ← part?_eq_none_iff, hfirst.1]
        exact Option.some_ne_none first
      have hrest := filterMap_map_text fun part hpart =>
        h part (hmoves ▸ List.mem_cons_of_mem first hpart)
      have hpieces := pieces_ofParts_moves h (hmoves ▸ List.cons_ne_nil first rest)
      rw [hmoves, List.map_cons] at hpieces
      rw [parts_eq, hpieces, partsOf, leading, if_neg (by simp [hne]), if_neg hne.2, hfirst.1,
        hrest]
      rfl

end Moves

/-- The moves that are left when names that are left again are taken back. -/
def folded (moves : List Part) : List Part := (moves.foldl fold []).reverse

/-- Going up comes before all names. -/
def UpsFirst (moves : List Part) : Prop :=
  ∃ (ups : Nat) (names : List String),
    moves = List.replicate ups .up ++ names.map .name

theorem fold_name (done : List Part) (text : String) :
    fold done (.name text) = .name text :: done := by
  cases done with
  | nil => rfl
  | cons top rest => cases top <;> rfl

theorem foldl_fold_names (names : List String) (done : List Part) :
    (names.map Part.name).foldl fold done = (names.map Part.name).reverse ++ done := by
  induction names generalizing done with
  | nil => rfl
  | cons text rest ih =>
      rw [List.map_cons, List.foldl_cons, fold_name, ih]
      simp

theorem fold_up_replicate (ups : Nat) :
    fold (List.replicate ups .up) .up = List.replicate (ups + 1) .up := by
  cases ups <;> rfl

theorem fold_subset (done : List Part) (part : Part) : fold done part ⊆ part :: done := by
  unfold fold
  split
  · exact List.subset_cons_self ..
  · exact List.Subset.trans (List.subset_cons_self ..) (List.subset_cons_self ..)
  · exact List.Subset.refl _

theorem fold_concat_root {part : Part} (hpart : IsMove part) (done : List Part) :
    fold (done ++ [.root]) part = fold done part ++ [.root] := by
  rcases isMove_cases hpart with rfl | ⟨text, rfl⟩
  · cases done with
    | nil => rfl
    | cons top rest => cases top <;> rfl
  · rw [fold_name, fold_name, List.cons_append]

theorem upsFirst_fold {done : List Part} (h : UpsFirst done.reverse) {part : Part}
    (hpart : IsMove part) : UpsFirst (fold done part).reverse := by
  obtain ⟨ups, names, hdone⟩ := h
  rcases isMove_cases hpart with rfl | ⟨text, rfl⟩
  · rcases List.eq_nil_or_concat' names with rfl | ⟨init, last, rfl⟩
    · have hups : done = List.replicate ups .up := by
        rw [← List.reverse_inj, hdone]
        simp
      refine ⟨ups + 1, [], ?_⟩
      rw [hups, fold_up_replicate]
      simp
    · have hnames :
          done = .name last :: (init.map Part.name).reverse ++ List.replicate ups .up := by
        rw [← List.reverse_inj, hdone]
        simp
      refine ⟨ups, init, ?_⟩
      rw [hnames]
      simp [fold]
  · refine ⟨ups, names ++ [text], ?_⟩
    rw [fold_name]
    simp [hdone]

section Moves

variable {moves : List Part} (h : ∀ part ∈ moves, IsMove part)

include h

theorem upsFirst_folded : UpsFirst (folded moves) := by
  -- The invariant of the pass: the parts that are done go up only at their beginning.
  have hpass : ∀ done : List Part, UpsFirst done.reverse →
      UpsFirst (moves.foldl fold done).reverse := by
    induction moves with
    | nil => exact fun done hdone => hdone
    | cons part rest ih =>
        obtain ⟨hpart, hrest⟩ := List.forall_mem_cons.mp h
        exact fun done hdone => ih hrest _ (upsFirst_fold hdone hpart)
  exact hpass [] ⟨0, [], rfl⟩

theorem foldl_fold_concat_root (done : List Part) :
    moves.foldl fold (done ++ [.root]) = moves.foldl fold done ++ [.root] := by
  induction moves generalizing done with
  | nil => rfl
  | cons part rest ih =>
      obtain ⟨hpart, hrest⟩ := List.forall_mem_cons.mp h
      rw [List.foldl_cons, List.foldl_cons, fold_concat_root hpart, ih hrest]

end Moves

theorem foldl_fold_subset (moves done : List Part) : moves.foldl fold done ⊆ moves ++ done := by
  induction moves generalizing done with
  | nil => exact List.Subset.refl _
  | cons part rest ih =>
      intro other hother
      rcases List.mem_append.mp (ih (fold done part) hother) with hrest | hdone
      · simp [hrest]
      · have hmem := fold_subset done part hdone
        rcases List.mem_cons.mp hmem with rfl | hmem <;> simp [*]

theorem isMove_of_mem_folded {moves : List Part} (h : ∀ part ∈ moves, IsMove part) :
    ∀ part ∈ folded moves, IsMove part := by
  intro part hpart
  have hmem := foldl_fold_subset moves [] (List.mem_reverse.mp hpart)
  exact h part (by simpa using hmem)

theorem folded_of_upsFirst {moves : List Part} (h : UpsFirst moves) : folded moves = moves := by
  obtain ⟨ups, names, rfl⟩ := h
  have hups : ∀ more : Nat, (List.replicate ups Part.up).foldl fold (List.replicate more .up) =
      List.replicate (ups + more) .up := by
    induction ups with
    | zero => simp
    | succ ups ih =>
        intro more
        rw [List.replicate_succ, List.foldl_cons, fold_up_replicate, ih, Nat.add_right_comm,
          Nat.add_assoc]
  have hbegin := hups 0
  rw [List.replicate_zero, Nat.add_zero] at hbegin
  rw [folded, List.foldl_append, hbegin, foldl_fold_names]
  simp

/-- What an absolute path begins with, and nothing for other paths. -/
def start (p : Path) : List Part := if p.isAbsolute then [.root] else []

theorem reverse_foldl_fold {p : Path} {moves : List Part} (h : ∀ part ∈ moves, IsMove part)
    (hparts : p.isAbsolute = true ∧ p.parts = .root :: moves ∨
      p.isAbsolute = false ∧ (p.parts = moves ∨ p.parts = .here :: moves)) :
    (p.parts.foldl fold []).reverse = start p ++ folded moves := by
  rw [start]
  rcases hparts with ⟨habsolute, hparts⟩ | ⟨hrelative, hparts | hparts⟩
  · have hroot : moves.foldl fold [.root] = moves.foldl fold [] ++ [.root] :=
      foldl_fold_concat_root h []
    have hfirst : fold [] .root = [.root] := rfl
    rw [hparts, List.foldl_cons, hfirst, hroot, if_pos habsolute, List.reverse_append]
    rfl
  · rw [hparts, if_neg (by simp [hrelative])]
    rfl
  · rw [hparts, if_neg (by simp [hrelative])]
    rfl

theorem parts_ofParts_start {moves : List Part} (h : ∀ part ∈ moves, IsMove part) (p : Path) :
    (ofParts (start p ++ moves)).parts = start p ++ moves := by
  rw [start]
  split
  · exact parts_ofParts h
  · exact parts_ofParts_moves h

/-- The moves that are left of a path, and the path that they make. -/
theorem exists_normalized (p : Path) :
    ∃ moves, (∀ part ∈ moves, IsMove part) ∧ UpsFirst moves ∧
      moves = folded (p.pieces.filterMap part?) ∧ p.normalized = ofParts (start p ++ moves) ∧
      p.normalized.parts = (p.parts.foldl fold []).reverse ∧
      p.normalized.parts = start p ++ moves := by
  obtain ⟨moves, hmoves, hpieces, hparts⟩ := exists_moves p
  have hfold := reverse_foldl_fold hmoves hparts
  have hleft := isMove_of_mem_folded hmoves
  have hnormalized : p.normalized = ofParts (start p ++ folded moves) := by
    rw [normalized, hfold]
  have hstart : p.normalized.parts = start p ++ folded moves := by
    rw [hnormalized, parts_ofParts_start hleft]
  exact ⟨folded moves, hleft, upsFirst_folded hmoves, by rw [hpieces], hnormalized,
    hstart.trans hfold.symm, hstart⟩

section Normalized

variable (p : Path)

theorem isAbsolute_normalized : p.normalized.isAbsolute = p.isAbsolute := by
  obtain ⟨moves, hmoves, -, -, -, -, hparts⟩ := exists_normalized p
  rw [Bool.eq_iff_iff, isAbsolute_iff_head? p.normalized, hparts, start]
  split
  · next habsolute => simp [habsolute]
  · next hrelative =>
    refine iff_of_false ?_ hrelative
    intro hhead
    have hroot := hmoves .root (List.mem_of_mem_head? hhead)
    exact absurd hroot.1 (by decide)

theorem normalized_normalized : p.normalized.normalized = p.normalized := by
  obtain ⟨moves, hmoves, hups, -, hnormalized, -, hparts⟩ := exists_normalized p
  have hstart : start p.normalized = start p := by rw [start, isAbsolute_normalized, start]
  have hfold : (p.normalized.parts.foldl fold []).reverse = start p.normalized ++ folded moves := by
    apply reverse_foldl_fold hmoves
    rw [hparts, isAbsolute_normalized, start]
    cases p.isAbsolute <;> simp
  calc
    p.normalized.normalized = ofParts (start p.normalized ++ folded moves) := by
      rw [normalized, hfold]
    _ = ofParts (start p ++ moves) := by rw [hstart, folded_of_upsFirst hups]
    _ = p.normalized := hnormalized.symm

theorem dot_not_mem_pieces_normalized : "." ∉ p.normalized.pieces := by
  obtain ⟨moves, hmoves, -, -, hnormalized, -⟩ := exists_normalized p
  have htexts : "." ∉ moves.map Part.text := by
    intro hdot
    obtain ⟨part, hpart, htext⟩ := List.mem_map.mp hdot
    have hsome := (hmoves part hpart).1
    rw [htext] at hsome
    exact Option.some_ne_none part hsome.symm
  rw [hnormalized, start]
  by_cases hne : moves = []
  · subst hne
    split <;> decide
  · split
    · rw [List.singleton_append, pieces_ofParts_root hmoves hne]
      simpa using htexts
    · rw [List.nil_append, pieces_ofParts_moves hmoves hne]
      exact htexts

end Normalized

/-- The folder that a part leads to from another one.  Nothing lies above the root. -/
def arrive (here : List String) : Part → List String
  | .root => []
  | .here => here
  | .up => here.dropLast
  | .name text => here ++ [text]

def destination (here : List String) (p : Path) : List String := p.parts.foldl arrive here

theorem arrive_fold (here : List String) (done : List Part) (part : Part) :
    (fold done part).reverse.foldl arrive here =
      arrive (done.reverse.foldl arrive here) part := by
  unfold fold
  split
  · rfl
  · next text done =>
    rw [List.reverse_cons, List.foldl_concat]
    simp [arrive]
  · rw [List.reverse_cons, List.foldl_concat]

theorem arrive_foldl_fold (here : List String) (parts done : List Part) :
    (parts.foldl fold done).reverse.foldl arrive here =
      parts.foldl arrive (done.reverse.foldl arrive here) := by
  induction parts generalizing done with
  | nil => rfl
  | cons part rest ih => rw [List.foldl_cons, ih, arrive_fold, List.foldl_cons]

/-- No link stands anywhere in the tree. -/
def LinkFree (root : FileNode) : Prop := ∀ names target, root.at? names ≠ some (.link target)

/-- A walk from a folder meets no link and ends at something that is there. -/
def Reaches (root : FileNode) (here pieces names : List String) : Prop :=
  walk root 0 here pieces = .ok (.existing names)

section Reaches

variable {root : FileNode} {here names : List String}

theorem reaches_iff_leads {pieces : List String} :
    Reaches root here pieces names ↔ Leads root 0 here pieces 0 names := by
  constructor
  · intro h
    obtain ⟨left, hleads⟩ := exists_leads h
    obtain rfl : left = 0 := Nat.le_zero.mp hleads.left_le
    exact hleads
  · exact Leads.walk_eq

theorem Reaches.isFolder {piece : String} {rest : List String}
    (h : Reaches root here (piece :: rest) names) : IsFolder root here := by
  cases reaches_iff_leads.mp h with
  | skip hfolder hpart h => exact hfolder
  | up hfolder h => exact hfolder
  | enter hpart hentry hlink h =>
      obtain ⟨entries, hfolder, -⟩ := at?_concat_eq_some_iff.mp hentry
      exact ⟨entries, hfolder⟩

theorem reaches_append_iff {pieces rest : List String} :
    Reaches root here (pieces ++ rest) names ↔
      ∃ mid, Reaches root here pieces mid ∧ Reaches root mid rest names := by
  simp only [reaches_iff_leads]
  constructor
  · intro h
    obtain ⟨less, mid, hfirst, hrest⟩ := h.split
    obtain rfl : less = 0 := Nat.le_zero.mp hfirst.left_le
    exact ⟨mid, hfirst, hrest⟩
  · rintro ⟨mid, hfirst, hrest⟩
    exact hfirst.append hrest

/-- What is skipped need not be walked. -/
theorem Reaches.moves {pieces : List String} (h : Reaches root here pieces names) :
    Reaches root here ((pieces.filterMap part?).map Part.text) names := by
  obtain ⟨less, hsteps⟩ := (reaches_iff_leads.mp h).steps
  rw [map_text_filterMap]
  exact hsteps.walk_eq

/-- A walk that meets no link ends where its parts lead. -/
theorem Reaches.eq_foldl_arrive {pieces : List String} (h : Reaches root here pieces names) :
    names = (pieces.filterMap part?).foldl arrive here := by
  obtain ⟨left, hleads⟩ := exists_leads h
  clear h
  generalize hlinks : 0 = links at hleads
  induction hleads with
  | done => rfl
  | skip hfolder hpart h ih =>
      rw [List.filterMap_cons_none hpart]
      exact ih hlinks
  | up hfolder h ih => exact ih hlinks
  | follow hpart hentry h ih => exact absurd hlinks (Nat.succ_ne_zero _).symm
  | enter hpart hentry hlink h ih =>
      rw [List.filterMap_cons_some hpart]
      exact ih hlinks

theorem Reaches.skip {rest : List String} (h : Reaches root here rest names)
    (hfolder : IsFolder root here) : Reaches root here ("" :: rest) names :=
  reaches_iff_leads.mpr (.skip hfolder rfl (reaches_iff_leads.mp h))

/-- Going up takes back the name that was walked last. -/
theorem Reaches.fold {done : List Part} {part : Part} {rest : List String}
    (hdone : ∀ other ∈ done, IsMove other) (hpart : IsMove part)
    (h : Reaches root here (done.reverse.map Part.text ++ part.text :: rest) names) :
    Reaches root here ((fold done part).reverse.map Part.text ++ rest) names := by
  unfold Path.fold
  split
  · exact absurd hpart.1 (by decide)
  · next text done =>
    have htext : part? text = some (.name text) := (hdone _ List.mem_cons_self).1
    rw [List.reverse_cons, List.map_append, List.append_assoc] at h
    obtain ⟨mid, hmid, h⟩ := reaches_append_iff.mp h
    have hback := (reaches_iff_leads.mp h).of_name_up htext
    exact reaches_append_iff.mpr ⟨mid, hmid, reaches_iff_leads.mpr hback⟩
  · simpa using h

theorem Reaches.folded {moves : List Part} (hmoves : ∀ part ∈ moves, IsMove part)
    (h : Reaches root here (moves.map Part.text) names) :
    Reaches root here ((folded moves).map Part.text) names := by
  have hpass : ∀ done : List Part, (∀ part ∈ done, IsMove part) →
      Reaches root here (done.reverse.map Part.text ++ moves.map Part.text) names →
        Reaches root here ((moves.foldl Path.fold done).reverse.map Part.text) names := by
    clear h
    induction moves with
    | nil =>
        intro done hdone h
        simpa using h
    | cons part rest ih =>
        obtain ⟨hpart, hrest⟩ := List.forall_mem_cons.mp hmoves
        intro done hdone h
        refine ih hrest _ ?_ (h.fold hdone hpart)
        intro other hother
        rcases List.mem_cons.mp (fold_subset done part hother) with rfl | hmem
        · exact hpart
        · exact hdone other hmem
  exact hpass [] (by simp) h

theorem Reaches.ofParts_start {moves : List Part} (hmoves : ∀ part ∈ moves, IsMove part)
    (h : Reaches root here (moves.map Part.text) names) (hfolder : IsFolder root here) (p : Path) :
    Reaches root here (ofParts (start p ++ moves)).pieces names := by
  rw [start]
  by_cases hne : moves = []
  · subst hne
    split
    · exact (h.skip hfolder).skip hfolder
    · exact h.skip hfolder
  · split
    · rw [List.singleton_append, pieces_ofParts_root hmoves hne]
      exact h.skip hfolder
    · rw [List.nil_append, pieces_ofParts_moves hmoves hne]
      exact h

theorem Reaches.normalized {p : Path} (h : Reaches root here p.pieces names) :
    Reaches root here p.normalized.pieces names := by
  obtain ⟨moves, hmoves, -, rfl, hnormalized, -, -⟩ := exists_normalized p
  have hfolder : IsFolder root here := by
    cases hpieces : p.pieces with
    | nil => exact absurd hpieces (pieces_ne_nil _ _)
    | cons first rest => exact (hpieces ▸ h).isFolder
  rw [hnormalized]
  refine Reaches.ofParts_start hmoves (h.moves.folded ?_) hfolder p
  exact fun part => isMove_of_mem_filterMap (List.Subset.refl _)

end Reaches

theorem linkFree_file (content : List UInt8) (modified : Int) :
    LinkFree (.file content modified) := by
  intro names target
  cases names <;> simp [FileNode.at?, FileNode.entry?]

theorem linkFree_folder {entries : List (String × FileNode)}
    (h : ∀ entry ∈ entries, LinkFree entry.2) : LinkFree (.folder entries) := by
  intro names target hlink
  cases names with
  | nil => simp [FileNode.at?] at hlink
  | cons first rest =>
      obtain ⟨node, hnode, hrest⟩ := Option.bind_eq_some_iff.mp hlink
      obtain ⟨before, after, hentries, -⟩ := List.lookup_eq_some_iff.mp hnode
      exact h (first, node) (by simp [hentries]) rest target hrest

theorem reaches_of_linkFree {root : FileNode} (hroot : LinkFree root) {links : Nat}
    {here pieces names : List String} (h : walk root links here pieces = .ok (.existing names)) :
    Reaches root here pieces names := by
  obtain ⟨left, hleads⟩ := exists_leads h
  rw [reaches_iff_leads]
  clear h
  induction hleads with
  | done => exact .done
  | skip hfolder hpart h ih => exact .skip hfolder hpart ih
  | up hfolder h ih => exact .up hfolder ih
  | follow hpart hentry h ih => exact absurd hentry (hroot _ _)
  | enter hpart hentry hlink h ih => exact .enter hpart hentry hlink ih

theorem Reaches.walk_eq {root : FileNode} {here pieces names : List String}
    (h : Reaches root here pieces names) (links : Nat) :
    walk root links here pieces = .ok (.existing names) := by
  have hmore := ((reaches_iff_leads.mp h).add links).walk_eq
  rwa [Nat.zero_add] at hmore

theorem destination_normalized (here : List String) (p : Path) :
    destination here p.normalized = destination here p := by
  obtain ⟨-, -, -, -, -, hfold, -⟩ := exists_normalized p
  rw [destination, hfold, arrive_foldl_fold]
  rfl

theorem Reaches.eq_destination {root : FileNode} {here names : List String} {p : Path}
    (h : Reaches root here p.pieces names) (hhere : p.isAbsolute = true → here = []) :
    names = destination here p := by
  obtain ⟨moves, -, hpieces, hparts⟩ := exists_moves p
  rw [h.eq_foldl_arrive, hpieces, destination]
  rcases hparts with ⟨habsolute, hparts⟩ | ⟨-, hparts | hparts⟩
  · rw [hparts, hhere habsolute]
    rfl
  · rw [hparts]
  · rw [hparts]
    rfl

/-- Cleaning up a path settles it: doing so again changes nothing.  The path stays absolute or
relative, has no dots, goes up at its beginning only, and leads from every folder where it led
before.  In a tree without links, every walk along the path ends there, and so does the walk along
the path that was cleaned up. -/
theorem normalized_leads_alike (p : Path) :
    p.normalized.normalized = p.normalized ∧
    p.normalized.isAbsolute = p.isAbsolute ∧
    "." ∉ p.normalized.pieces ∧
    (∃ (ups : Nat) (names : List String), p.normalized.parts =
      (if p.isAbsolute then [.root] else []) ++ List.replicate ups .up ++ names.map .name) ∧
    (∀ here, destination here p.normalized = destination here p) ∧
    ∀ (root : FileNode) (links : Nat) (here names : List String), LinkFree root →
      (p.isAbsolute = true → here = []) →
      walk root links here p.pieces = .ok (.existing names) →
      names = destination here p ∧
        walk root links here p.normalized.pieces = .ok (.existing names) := by
  refine ⟨normalized_normalized p, isAbsolute_normalized p, dot_not_mem_pieces_normalized p, ?_,
    fun here => destination_normalized here p, ?_⟩
  · obtain ⟨moves, -, ⟨ups, names, rfl⟩, -, -, -, hparts⟩ := exists_normalized p
    exact ⟨ups, names, by rw [hparts, start, List.append_assoc]⟩
  · intro root links here names hroot hhere hwalk
    have hreaches := reaches_of_linkFree hroot hwalk
    exact ⟨hreaches.eq_destination hhere, hreaches.normalized.walk_eq links⟩

/-- The folder `a` is left again and need not be walked through. -/
theorem left_folder_leads_alike :
    let root : FileNode :=
      .folder [("a", .folder []), ("b", .folder [("c", .file [] 0)])]
    let p : Path := ⟨"../a/.././b//c"⟩
    LinkFree root ∧ walk root 40 ["b"] p.pieces = .ok (.existing ["b", "c"]) ∧
      p.normalized = ⟨"../b/c"⟩ ∧
      walk root 40 ["b"] p.normalized.pieces = .ok (.existing ["b", "c"]) := by
  intro root p
  have hroot : LinkFree root := by
    apply linkFree_folder
    simp only [List.forall_mem_cons, List.not_mem_nil, false_implies, implies_true, and_true]
    refine ⟨linkFree_folder (by simp), linkFree_folder ?_⟩
    simpa using linkFree_file [] 0
  have hwalk : walk root 40 ["b"] p.pieces = .ok (.existing ["b", "c"]) := by decide +kernel
  obtain ⟨-, -, -, -, -, hwalks⟩ := normalized_leads_alike p
  exact ⟨hroot, hwalk, by decide +kernel, (hwalks root 40 ["b"] _ hroot (by decide) hwalk).2⟩

end NamespacePolicy.Proofs.Normalization
