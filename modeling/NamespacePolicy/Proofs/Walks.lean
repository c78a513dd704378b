import NamespacePolicy.Proofs.Spelling

/-!
Walks that arrive, step by step.  A walk can be split at any piece, goes on from the folder where a
part of it ended, and comes to plain names only.  It needs none of the pieces that are skipped.
-/

namespace NamespacePolicy.Proofs.Walks

open NamespacePolicy.Path Paths Separation Spelling

/-- A part that pieces in the middle of a path can stand for: going up, or a name. -/
def IsMove (part : Part) : Prop := part? part.text = some part ∧ '/' ∉ part.text.toList

theorem isMove_cases {part : Part} (h : IsMove part) : part = .up ∨ ∃ text, part = .name text := by
  cases part with
  | root => exact absurd h.1 (by decide)
  | here => exact absurd h.1 (by decide)
  | up => exact .inl rfl
  | name text => exact .inr ⟨text, rfl⟩

/-- Names that pieces of a path can be. -/
def Plain (names : List String) : Prop := ∀ name ∈ names, IsMove (.name name)

def IsFolder (root : FileNode) (here : List String) : Prop :=
  ∃ entries, root.at? here = some (.folder entries)

/-- Where a link in a folder begins its target. -/
def linkStart (here : List String) (target : String) : List String :=
  if (Path.mk target).isAbsolute then [] else here

/-- From `here`, with so many links to follow, the pieces lead to `names`, and `left` of the links
are left. -/
inductive Leads (root : FileNode) :
    (links : Nat) → (here pieces : List String) → (left : Nat) → (names : List String) → Prop
  | done {links : Nat} {here : List String} : Leads root links here [] links here
  | skip {links left : Nat} {here rest names : List String} {piece : String}
      (hfolder : IsFolder root here) (hpart : part? piece = none)
      (h : Leads root links here rest left names) : Leads root links here (piece :: rest) left names
  | up {links left : Nat} {here rest names : List String}
      (hfolder : IsFolder root here) (h : Leads root links here.dropLast rest left names) :
      Leads root links here (".." :: rest) left names
  | follow {links left : Nat} {here rest names : List String} {piece target : String}
      (hpart : part? piece = some (.name piece))
      (hentry : root.at? (here ++ [piece]) = some (.link target))
      (h : Leads root links (linkStart here target) ((Path.mk target).pieces ++ rest) left names) :
      Leads root (links + 1) here (piece :: rest) left names
  | enter {links left : Nat} {here rest names : List String} {piece : String} {node : FileNode}
      (hpart : part? piece = some (.name piece))
      (hentry : root.at? (here ++ [piece]) = some node) (hlink : ∀ target, node ≠ .link target)
      (h : Leads root links (here ++ [piece]) rest left names) :
      Leads root links here (piece :: rest) left names

section Walk

variable {root : FileNode} {links left : Nat} {here pieces rest names : List String}
  {piece : String}

theorem at?_append (root : FileNode) (here rest : List String) :
    root.at? (here ++ rest) = (root.at? here).bind (·.at? rest) := by
  induction here generalizing root with
  | nil => rfl
  | cons first others ih =>
      rw [List.cons_append, FileNode.at?, FileNode.at?]
      cases root.entry? first with
      | none => rfl
      | some node => exact ih node

theorem at?_concat (root : FileNode) (here : List String) (name : String) :
    root.at? (here ++ [name]) = (root.at? here).bind fun node => node.entry? name := by
  rw [at?_append]
  congr 1
  funext node
  rw [FileNode.at?]
  cases node.entry? name <;> rfl

theorem at?_concat_eq_some_iff {node : FileNode} :
    root.at? (here ++ [piece]) = some node ↔
      ∃ entries, root.at? here = some (.folder entries) ∧ entries.lookup piece = some node := by
  rw [at?_concat]
  cases hnode : root.at? here with
  | none => simp
  | some found => cases found <;> simp [FileNode.entry?]

theorem isFolder_of_append (h : IsFolder root (here ++ names)) : IsFolder root here := by
  induction names generalizing here with
  | nil => simpa using h
  | cons name rest ih =>
      rw [List.append_cons] at h
      obtain ⟨others, hnode⟩ := ih h
      obtain ⟨entries, hfolder, -⟩ := at?_concat_eq_some_iff.mp hnode
      exact ⟨entries, hfolder⟩

theorem part?_cases (piece : String) :
    (piece = "" ∨ piece = ".") ∧ part? piece = none ∨ piece = ".." ∧ part? piece = some .up ∨
      ¬ (piece = "" ∨ piece = ".") ∧ piece ≠ ".." ∧ part? piece = some (.name piece) := by
  unfold part?
  split <;> simp_all

theorem ne_of_part?_name (h : part? piece = some (.name piece)) :
    ¬ (piece = "" ∨ piece = ".") ∧ piece ≠ ".." := by
  refine ⟨?_, ?_⟩
  · rw [← part?_eq_none_iff, h]
    exact Option.some_ne_none _
  · rintro rfl
    exact absurd h (by decide)

theorem walk_skip (hfolder : IsFolder root here) (hpart : part? piece = none) :
    walk root links here (piece :: rest) = walk root links here rest := by
  obtain ⟨entries, hfolder⟩ := hfolder
  have hdot := (part?_eq_none_iff piece).mp hpart
  cases links <;> simp only [walk, walkBy, hfolder, if_pos hdot]

theorem walk_up (hfolder : IsFolder root here) :
    walk root links here (".." :: rest) = walk root links here.dropLast rest := by
  obtain ⟨entries, hfolder⟩ := hfolder
  cases links <;> simp [walk, walkBy, hfolder]

theorem walk_follow {target : String} (hpart : part? piece = some (.name piece))
    (hentry : root.at? (here ++ [piece]) = some (.link target)) :
    walk root (links + 1) here (piece :: rest) =
      walk root links (linkStart here target) ((Path.mk target).pieces ++ rest) := by
  obtain ⟨entries, hfolder, hentry⟩ := at?_concat_eq_some_iff.mp hentry
  obtain ⟨hdot, hup⟩ := ne_of_part?_name hpart
  simp only [walk, walkBy, hfolder, hentry, if_neg hdot, if_neg hup, linkStart]

theorem walk_enter {node : FileNode} (hpart : part? piece = some (.name piece))
    (hentry : root.at? (here ++ [piece]) = some node) (hlink : ∀ target, node ≠ .link target) :
    walk root links here (piece :: rest) = walk root links (here ++ [piece]) rest := by
  obtain ⟨entries, hfolder, hentry⟩ := at?_concat_eq_some_iff.mp hentry
  obtain ⟨hdot, hup⟩ := ne_of_part?_name hpart
  cases node with
  | link target => exact absurd rfl (hlink target)
  | file content modified =>
      cases links <;> simp only [walk, walkBy, hfolder, hentry, if_neg hdot, if_neg hup]
  | folder others =>
      cases links <;> simp only [walk, walkBy, hfolder, hentry, if_neg hdot, if_neg hup]

/-- A walk that arrived goes on as a walk from the place where it arrived. -/
theorem Leads.walk_append (h : Leads root links here pieces left names) (more : List String) :
    walk root links here (pieces ++ more) = walk root left names more := by
  induction h with
  | done => rfl
  | skip hfolder hpart h ih => rw [List.cons_append, walk_skip hfolder hpart, ih]
  | up hfolder h ih => rw [List.cons_append, walk_up hfolder, ih]
  | follow hpart hentry h ih =>
      rw [List.cons_append, walk_follow hpart hentry, ← List.append_assoc, ih]
  | enter hpart hentry hlink h ih => rw [List.cons_append, walk_enter hpart hentry hlink, ih]

theorem Leads.walk_eq (h : Leads root links here pieces left names) :
    walk root links here pieces = .ok (.existing names) := by
  have hwalk := h.walk_append []
  rw [List.append_nil] at hwalk
  rw [hwalk]
  cases left <;> rfl

theorem leads_of_walkBy {follow : List String → List String → Except AccessError Place}
    (hfollow : ∀ start pieces names, follow start pieces = .ok (.existing names) →
      ∃ others left, links = others + 1 ∧ Leads root others start pieces left names)
    (h : walkBy root follow here pieces = .ok (.existing names)) :
    ∃ left, Leads root links here pieces left names := by
  induction pieces generalizing here with
  | nil =>
      obtain rfl : here = names := by simpa [walkBy] using h
      exact ⟨links, .done⟩
  | cons piece rest ih =>
      rw [walkBy] at h
      cases hnode : root.at? here with
      | none => simp [hnode] at h
      | some node =>
          cases node with
          | file content modified => simp [hnode] at h
          | link target => simp [hnode] at h
          | folder entries =>
              rcases part?_cases piece with ⟨hdot, hpart⟩ | ⟨rfl, hpart⟩ | ⟨hdot, hup, hpart⟩
              · simp only [hnode, if_pos hdot] at h
                obtain ⟨left, hleads⟩ := ih h
                exact ⟨left, .skip ⟨entries, hnode⟩ hpart hleads⟩
              · simp only [hnode, String.reduceEq, or_self, if_false, if_true] at h
                obtain ⟨left, hleads⟩ := ih h
                exact ⟨left, .up ⟨entries, hnode⟩ hleads⟩
              · simp only [hnode, if_neg hdot, if_neg hup] at h
                have hentry : ∀ {found : FileNode}, entries.lookup piece = some found →
                    root.at? (here ++ [piece]) = some found :=
                  fun hfound => at?_concat_eq_some_iff.mpr ⟨entries, hnode, hfound⟩
                split at h
                · split at h <;> simp at h
                · next target hfound =>
                  obtain ⟨others, left, rfl, hleads⟩ := hfollow _ _ _ h
                  exact ⟨left, .follow hpart (hentry hfound) hleads⟩
                · next found hlink hfound =>
                  obtain ⟨left, hleads⟩ := ih h
                  refine ⟨left, .enter hpart (hentry hfound) ?_ hleads⟩
                  rintro target rfl
                  exact hlink target rfl

theorem exists_leads (h : walk root links here pieces = .ok (.existing names)) :
    ∃ left, Leads root links here pieces left names := by
  induction links generalizing here pieces names with
  | zero => exact leads_of_walkBy (fun _ _ _ h => by simp at h) h
  | succ links ih =>
      refine leads_of_walkBy ?_ h
      intro start pieces names hfollow
      obtain ⟨left, hleads⟩ := ih hfollow
      exact ⟨links, left, rfl, hleads⟩

theorem Leads.append {less : Nat} {mid : List String} (h : Leads root links here pieces less mid)
    (hrest : Leads root less mid rest left names) :
    Leads root links here (pieces ++ rest) left names := by
  induction h with
  | done => exact hrest
  | skip hfolder hpart h ih => exact .skip hfolder hpart (ih hrest)
  | up hfolder h ih => exact .up hfolder (ih hrest)
  | follow hpart hentry h ih => exact .follow hpart hentry (List.append_assoc .. ▸ ih hrest)
  | enter hpart hentry hlink h ih => exact .enter hpart hentry hlink (ih hrest)

/-- A walk can be stopped after any piece. -/
theorem Leads.split (h : Leads root links here (pieces ++ rest) left names) :
    ∃ less mid, Leads root links here pieces less mid ∧ Leads root less mid rest left names := by
  generalize hall : pieces ++ rest = all at h
  induction h generalizing pieces with
  | done =>
      obtain ⟨rfl, rfl⟩ := List.append_eq_nil_iff.mp hall
      exact ⟨_, _, .done, .done⟩
  | skip hfolder hpart h ih =>
      rcases List.append_eq_cons_iff.mp hall with ⟨rfl, rfl⟩ | ⟨others, rfl, rfl⟩
      · exact ⟨_, _, .done, .skip hfolder hpart h⟩
      · obtain ⟨less, mid, hfirst, hrest⟩ := ih rfl
        exact ⟨less, mid, .skip hfolder hpart hfirst, hrest⟩
  | up hfolder h ih =>
      rcases List.append_eq_cons_iff.mp hall with ⟨rfl, rfl⟩ | ⟨others, rfl, rfl⟩
      · exact ⟨_, _, .done, .up hfolder h⟩
      · obtain ⟨less, mid, hfirst, hrest⟩ := ih rfl
        exact ⟨less, mid, .up hfolder hfirst, hrest⟩
  | follow hpart hentry h ih =>
      rcases List.append_eq_cons_iff.mp hall with ⟨rfl, rfl⟩ | ⟨others, rfl, rfl⟩
      · exact ⟨_, _, .done, .follow hpart hentry h⟩
      · obtain ⟨less, mid, hfirst, hrest⟩ := ih (List.append_assoc ..)
        exact ⟨less, mid, .follow hpart hentry hfirst, hrest⟩
  | enter hpart hentry hlink h ih =>
      rcases List.append_eq_cons_iff.mp hall with ⟨rfl, rfl⟩ | ⟨others, rfl, rfl⟩
      · exact ⟨_, _, .done, .enter hpart hentry hlink h⟩
      · obtain ⟨less, mid, hfirst, hrest⟩ := ih rfl
        exact ⟨less, mid, .enter hpart hentry hlink hfirst, hrest⟩

theorem Leads.of_skipped (hpart : part? piece = none)
    (h : Leads root links here (piece :: rest) left names) :
    Leads root links here rest left names := by
  cases h with
  | skip hfolder hpart h => exact h
  | up hfolder h => exact absurd hpart (by decide)
  | follow hname hentry h => exact absurd (hname.symm.trans hpart) (Option.some_ne_none _)
  | enter hname hentry hlink h => exact absurd (hname.symm.trans hpart) (Option.some_ne_none _)

/-- A walk along pieces that are skipped at their end is over before. -/
theorem Leads.of_skipped_last (hpart : part? piece = none)
    (h : Leads root links here (pieces ++ [piece]) left names) :
    Leads root links here pieces left names := by
  obtain ⟨less, mid, hfirst, hlast⟩ := h.split
  cases hlast.of_skipped hpart
  exact hfirst

/-- With more links to follow, a walk arrives as well. -/
theorem Leads.add (h : Leads root links here pieces left names) (more : Nat) :
    Leads root (links + more) here pieces (left + more) names := by
  induction h with
  | done => exact .done
  | skip hfolder hpart h ih => exact .skip hfolder hpart ih
  | up hfolder h ih => exact .up hfolder ih
  | follow hpart hentry h ih => exact Nat.add_right_comm .. ▸ .follow hpart hentry ih
  | enter hpart hentry hlink h ih => exact .enter hpart hentry hlink ih

theorem Leads.left_le (h : Leads root links here pieces left names) : left ≤ links := by
  induction h with
  | done => exact Nat.le_refl _
  | skip hfolder hpart h ih => exact ih
  | up hfolder h ih => exact ih
  | follow hpart hentry h ih => exact Nat.le_succ_of_le ih
  | enter hpart hentry hlink h ih => exact ih

/-- Without links to follow, going up from a name leads back to its folder. -/
theorem Leads.of_name_up (hname : part? piece = some (.name piece))
    (h : Leads root 0 here (piece :: ".." :: rest) left names) :
    Leads root 0 here rest left names := by
  cases h with
  | skip hfolder hpart h => exact absurd (hname.symm.trans hpart) (Option.some_ne_none _)
  | up hfolder h => exact absurd hname (by decide)
  | enter hpart hentry hlink h =>
      cases h with
      | skip hfolder hpart h => exact absurd hpart (by decide)
      | up hfolder h =>
          rw [List.dropLast_concat] at h
          exact h
      | enter hpart hentry hlink h => exact absurd hpart (by decide)

/-- What is skipped is not needed to arrive. -/
theorem Leads.steps (h : Leads root links here pieces left names) :
    ∃ less, Leads root links here (Spelling.steps pieces) less names := by
  -- Dropping what is skipped before the last piece makes no difference to the walk.
  rcases List.eq_nil_or_concat' pieces with rfl | ⟨init, last, rfl⟩
  · exact ⟨left, h⟩
  have hwalk := h.walk_eq
  rw [← walk_steps] at hwalk
  obtain ⟨less, hleads⟩ := exists_leads hwalk
  rw [steps_append]
  by_cases hlast : part? last = none
  · rw [steps_cons_of_none hlast]
    exact ⟨less, (hleads.of_skipped_last hlast).append .done⟩
  · rw [steps_cons_of_ne_none hlast]
    exact ⟨less, hleads⟩

theorem plain_append : Plain (names ++ rest) ↔ Plain names ∧ Plain rest := List.forall_mem_append

theorem plain_singleton :
    Plain [piece] ↔ part? piece = some (.name piece) ∧ '/' ∉ piece.toList :=
  List.forall_mem_singleton

/-- A walk comes to names that pieces can be. -/
theorem Leads.plain (h : Leads root links here pieces left names) (hhere : Plain here)
    (hpieces : ∀ piece ∈ pieces, '/' ∉ piece.toList) : Plain names := by
  induction h with
  | done => exact hhere
  | skip hfolder hpart h ih => exact ih hhere (List.forall_mem_cons.mp hpieces).2
  | up hfolder h ih =>
      refine ih ?_ (List.forall_mem_cons.mp hpieces).2
      exact fun name hname => hhere name (List.mem_of_mem_dropLast hname)
  | follow hpart hentry h ih =>
      refine ih ?_ ?_
      · rw [linkStart]
        split
        · exact List.forall_mem_nil _
        · exact hhere
      · intro piece hpiece
        rcases List.mem_append.mp hpiece with hpiece | hpiece
        · exact not_mem_of_mem_pieces hpiece
        · exact hpieces piece (List.mem_cons_of_mem _ hpiece)
  | enter hpart hentry hlink h ih =>
      obtain ⟨hslash, hrest⟩ := List.forall_mem_cons.mp hpieces
      exact ih (plain_append.mpr ⟨hhere, plain_singleton.mpr ⟨hpart, hslash⟩⟩) hrest

/-- The names between two folders lead from the one to the other. -/
theorem leads_of_isFolder (hplain : Plain names) (h : IsFolder root (here ++ names)) :
    Leads root links here names links (here ++ names) := by
  induction names generalizing here with
  | nil =>
      rw [List.append_nil]
      exact .done
  | cons name rest ih =>
      obtain ⟨hname, hrest⟩ := List.forall_mem_cons.mp hplain
      rw [List.append_cons] at h ⊢
      obtain ⟨entries, hentry⟩ := isFolder_of_append h
      exact .enter hname.1 hentry (by simp) (ih hrest h)

/-- Names that are no links lead nowhere else. -/
theorem Leads.eq_append (h : Leads root links here pieces left names) (hplain : Plain pieces)
    (hlink : ∀ before, before <+: pieces → ∀ target,
      root.at? (here ++ before) ≠ some (.link target)) : names = here ++ pieces := by
  induction h with
  | done => exact (List.append_nil _).symm
  | skip hfolder hpart h ih =>
      have hname := (List.forall_mem_cons.mp hplain).1.1
      exact absurd (hname.symm.trans hpart) (Option.some_ne_none _)
  | up hfolder h ih => exact absurd (List.forall_mem_cons.mp hplain).1.1 (by decide)
  | follow hpart hentry h ih => exact absurd hentry (hlink [_] (by simp) _)
  | enter hpart hentry hnode h ih =>
      rw [List.append_cons]
      refine ih (List.forall_mem_cons.mp hplain).2 ?_
      intro before hbefore target
      rw [← List.append_cons]
      exact hlink _ (List.cons_prefix_cons.mpr ⟨rfl, hbefore⟩) target

end Walk

section Absolute

variable {t : FileTree} {p : Path} {names : List String}

theorem existing?_eq_some_iff (hp : p.isAbsolute = true) :
    t.existing? p = some names ↔
      walk t.root FileTree.maxLinks [] p.pieces = .ok (.existing names) := by
  rw [FileTree.existing?, locate_of_isAbsolute t hp]
  split
  · next found hwalk => simp [hwalk]
  · next hwalk => simpa using fun h => hwalk names h

/-- The names that an absolute path leads to, by the parts after the root. -/
theorem leads_of_existing? (hp : p.isAbsolute = true) (h : t.existing? p = some names) :
    ∃ left, Leads t.root FileTree.maxLinks [] (p.parts.tail.map Part.text) left names := by
  obtain ⟨left, hleads⟩ := exists_leads ((existing?_eq_some_iff hp).mp h)
  rw [← steps_pieces hp]
  exact hleads.steps

/-- A folder is there for every path with parts that lead to it. -/
theorem existing?_of_leads (hp : p.isAbsolute = true) (hfolder : IsFolder t.root names)
    {left : Nat} (h : Leads t.root FileTree.maxLinks [] (p.parts.tail.map Part.text) left names) :
    t.existing? p = some names := by
  -- The dot is the last piece that a walk along the steps alone needs.
  have hdot : Leads t.root FileTree.maxLinks [] (Spelling.steps p.pieces ++ ["."]) left names := by
    rw [steps_pieces hp]
    exact h.append (.skip hfolder rfl .done)
  have hwalk := hdot.walk_eq
  rw [walk_steps] at hwalk
  obtain ⟨less, hleads⟩ := exists_leads hwalk
  exact (existing?_eq_some_iff hp).mpr (hleads.of_skipped_last rfl).walk_eq

theorem plain_of_existing? (hp : p.isAbsolute = true) (h : t.existing? p = some names) :
    Plain names := by
  obtain ⟨left, hleads⟩ := exists_leads ((existing?_eq_some_iff hp).mp h)
  exact hleads.plain (List.forall_mem_nil _) fun piece hpiece => not_mem_of_mem_pieces hpiece

/-- The walks to two paths, one of which goes on with names. -/
theorem map_text_tail_of_parts {q : Path} (hp : p.isAbsolute = true) {rest : List String}
    (hparts : q.parts = p.parts ++ rest.map .name) :
    q.parts.tail.map Part.text = p.parts.tail.map Part.text ++ rest := by
  obtain ⟨others, hroot, -⟩ := parts_of_isAbsolute hp
  rw [hparts, hroot]
  simp [Part.text, Function.comp_def]

/-- A folder below an existing one is there under every path that goes on with the names between
them. -/
theorem existing?_of_parts_append {q : Path} (hp : p.isAbsolute = true)
    (h : t.existing? p = some names) {rest : List String} (hplain : Plain rest)
    (hfolder : IsFolder t.root (names ++ rest)) (hparts : q.parts = p.parts ++ rest.map .name) :
    t.existing? q = some (names ++ rest) := by
  obtain ⟨left, hleads⟩ := leads_of_existing? hp h
  apply existing?_of_leads (isAbsolute_of_parts_append hp hparts) hfolder
  rw [map_text_tail_of_parts hp hparts]
  exact hleads.append (leads_of_isFolder hplain hfolder)

end Absolute

end NamespacePolicy.Proofs.Walks
