import NamespacePolicy.Proofs.Readers
import NamespacePolicy.Toml.Document

/-!
The keys of a document.  Tables come together from headers, braces and dotted keys, and each may be
opened again in some way; still no table has a key twice.
-/

namespace NamespacePolicy.Proofs.DocumentKeys

open Readers Toml

/-- No table in the value has a key twice. -/
inductive Distinct : Node → Prop
  | string (span : Text.Span) (text : String) : Distinct (.string span text)
  | integer (span : Text.Span) (n : Int) : Distinct (.integer span n)
  | floating (span : Text.Span) (x : Binary64) : Distinct (.floating span x)
  | boolean (span : Text.Span) (value : Bool) : Distinct (.boolean span value)
  | date (span : Text.Span) : Distinct (.date span)
  | array {span : Text.Span} {items : List Node} (h : ∀ item ∈ items, Distinct item) :
      Distinct (.array span items)
  | table {span : Option Text.Span} {form : TableForm} {entries : Entries}
      (keys : (entries.map (·.1.text)).Nodup) (values : ∀ e ∈ entries, Distinct e.2) :
      Distinct (.table span form entries)
  | tables {span : Option Text.Span} {items : List Node} (h : ∀ item ∈ items, Distinct item) :
      Distinct (.tables span items)

structure DistinctEntries (entries : Entries) : Prop where
  keys : (entries.map (·.1.text)).Nodup
  values : ∀ e ∈ entries, Distinct e.2

theorem distinct_table_iff {span : Option Text.Span} {form : TableForm} {entries : Entries} :
    Distinct (.table span form entries) ↔ DistinctEntries entries := by
  constructor
  · rintro (_ | _ | _ | _ | _ | _ | ⟨hkeys, hvalues⟩)
    exact ⟨hkeys, hvalues⟩
  · rintro ⟨hkeys, hvalues⟩
    exact .table hkeys hvalues

theorem distinct_tables_iff {span : Option Text.Span} {items : List Node} :
    Distinct (.tables span items) ↔ ∀ item ∈ items, Distinct item := by
  constructor
  · rintro (_ | _ | _ | _ | _ | _ | _ | h)
    exact h
  · exact .tables

theorem distinctEntries_nil : DistinctEntries [] := ⟨List.nodup_nil, by simp⟩

section Entries

variable {entries result : Entries} {key : Key} {value : Node}

theorem DistinctEntries.append_new (h : DistinctEntries entries) (hvalue : Distinct value)
    (hkey : key.text ∉ entries.map (·.1.text)) : DistinctEntries (entries ++ [(key, value)]) where
  keys := by
    rw [List.map_append, List.map_singleton, ← List.concat_eq_append, List.nodup_concat]
    exact ⟨hkey, h.keys⟩
  values := by
    rw [List.forall_mem_append, List.forall_mem_singleton]
    exact ⟨h.values, hvalue⟩

theorem DistinctEntries.without (h : DistinctEntries entries) (name : String) :
    DistinctEntries (entries.without name) where
  keys := h.keys.sublist (List.filter_sublist.map _)
  values e he := h.values e (List.mem_of_mem_filter he)

theorem DistinctEntries.value? (h : DistinctEntries entries) {name : String}
    (hvalue : entries.value? name = some value) : Distinct value := by
  obtain ⟨e, he, rfl⟩ := Option.map_eq_some_iff.mp hvalue
  exact h.values e (List.mem_of_find?_eq_some he)

theorem not_mem_keys_of_value? {name : String} (h : (entries.value? name).isSome = false) :
    name ∉ entries.map (·.1.text) := by
  simpa [Entries.value?] using h

/-- A change of one value adds at most its own key. -/
theorem mem_update_keys {change : Option Node → Option Node}
    (h : entries.update key change = some result) {name : String}
    (hname : name ∈ result.map (·.1.text)) : name = key.text ∨ name ∈ entries.map (·.1.text) := by
  induction entries generalizing result with
  | nil =>
      obtain ⟨value, -, rfl⟩ := Option.map_eq_some_iff.mp h
      exact .inl (List.mem_singleton.mp hname)
  | cons first rest ih =>
      rw [Entries.update] at h
      split at h
      · obtain ⟨value, -, rfl⟩ := Option.map_eq_some_iff.mp h
        exact .inr hname
      · obtain ⟨tail, htail, rfl⟩ := Option.map_eq_some_iff.mp h
        rcases List.mem_cons.mp hname with rfl | hname
        · exact .inr List.mem_cons_self
        · exact (ih htail hname).imp_right (List.mem_cons_of_mem _)

theorem DistinctEntries.update {change : Option Node → Option Node} (h : DistinctEntries entries)
    (hchange : ∀ old new, (∀ v ∈ old, Distinct v) → change old = some new → Distinct new)
    (hupdate : entries.update key change = some result) : DistinctEntries result := by
  induction entries generalizing result with
  | nil =>
      obtain ⟨value, hvalue, rfl⟩ := Option.map_eq_some_iff.mp hupdate
      refine ⟨List.nodup_singleton _, List.forall_mem_singleton.mpr ?_⟩
      exact hchange none value (by simp) hvalue
  | cons first rest ih =>
      obtain ⟨hnew, hkeys⟩ := List.nodup_cons.mp h.keys
      obtain ⟨hfirst, hvalues⟩ := List.forall_mem_cons.mp h.values
      rw [Entries.update] at hupdate
      split at hupdate
      · obtain ⟨value, hvalue, rfl⟩ := Option.map_eq_some_iff.mp hupdate
        refine ⟨List.nodup_cons.mpr ⟨hnew, hkeys⟩, List.forall_mem_cons.mpr ⟨?_, hvalues⟩⟩
        exact hchange _ value (by simpa using hfirst) hvalue
      · next hne =>
          obtain ⟨tail, htail, rfl⟩ := Option.map_eq_some_iff.mp hupdate
          have hrest := ih ⟨hkeys, hvalues⟩ htail
          refine ⟨List.nodup_cons.mpr ⟨fun hmem => ?_, hrest.keys⟩,
            List.forall_mem_cons.mpr ⟨hfirst, hrest.values⟩⟩
          exact (mem_update_keys htail hmem).elim hne hnew

/-- A change of the table at the end of a path keeps the keys apart in all tables on the way. -/
theorem DistinctEntries.atPath {form own : TableForm} {path : List Key}
    {change : TableForm → Entries → Option Entries} (h : DistinctEntries entries)
    (hchange : ∀ own inner result, DistinctEntries inner → change own inner = some result →
      DistinctEntries result)
    (hpath : Entries.atPath form change path own entries = some result) :
    DistinctEntries result := by
  induction path generalizing own entries result with
  | nil => exact hchange own entries result h hpath
  | cons key path ih =>
      rw [Entries.atPath] at hpath
      refine h.update (fun old new hold hnew => ?_) hpath
      split at hnew
      · obtain ⟨inner, hinner, rfl⟩ := Option.map_eq_some_iff.mp hnew
        exact distinct_table_iff.mpr (ih distinctEntries_nil hinner)
      · split at hnew
        · cases hnew
        · obtain ⟨inner, hinner, rfl⟩ := Option.map_eq_some_iff.mp hnew
          have htable := distinct_table_iff.mp (hold _ rfl)
          exact distinct_table_iff.mpr (ih htable hinner)
      -- Through an array of tables the path goes on in the last of them.
      · next span items =>
          have hitems : ∀ item ∈ items.reverse, Distinct item := by
            simpa using distinct_tables_iff.mp (hold _ rfl)
          split at hnew
          · next last own inner before heq =>
              obtain ⟨hlast, hbefore⟩ := List.forall_mem_cons.mp (heq ▸ hitems)
              obtain ⟨inner, hinner, rfl⟩ := Option.map_eq_some_iff.mp hnew
              have hinner := ih (distinct_table_iff.mp hlast) hinner
              refine distinct_tables_iff.mpr ?_
              simpa [or_imp, forall_and] using ⟨hbefore, distinct_table_iff.mpr hinner⟩
          · cases hnew
      · cases hnew

theorem DistinctEntries.insert {own : TableForm} {path : List Key} (h : DistinctEntries entries)
    (hvalue : Distinct value) (hinsert : entries.insert path key value own = some result) :
    DistinctEntries result := by
  refine h.atPath (fun form inner result hinner hchange => ?_) hinsert
  split at hchange
  · cases hchange
  split at hchange
  · cases hchange
  · next hnew =>
      cases hchange
      exact hinner.append_new hvalue (not_mem_keys_of_value? (by simpa using hnew))

end Entries

structure DistinctDraft (d : Draft) : Prop where
  root : DistinctEntries d.root
  entries : DistinctEntries d.entries

section Drafts

variable {d next : Draft} {path : List Key} {key : Key}

theorem DistinctDraft.close {result : Entries} (h : DistinctDraft d)
    (hclose : d.close = some result) : DistinctEntries result := by
  rw [Draft.close] at hclose
  split at hclose
  · cases hclose
    exact h.entries
  · next last _ =>
      have htable : Distinct (.table (some d.span) .header d.entries) :=
        distinct_table_iff.mpr h.entries
      refine h.root.atPath (fun own inner result hinner hchange => ?_) hclose
      refine hinner.update (fun old new hold hnew => ?_) hchange
      -- The open table joins an array, or takes the place of its key if nothing stands there yet.
      split at hnew
      · next span items =>
          split at hnew
          · cases hnew
            have hitems := distinct_tables_iff.mp (hold _ rfl)
            refine distinct_tables_iff.mpr ?_
            rw [List.forall_mem_append, List.forall_mem_singleton]
            exact ⟨hitems, htable⟩
          · cases hnew
      · cases hnew
      · split at hnew
        · cases hnew
          exact distinct_tables_iff.mpr (List.forall_mem_singleton.mpr htable)
        · cases hnew
          exact htable

/-- What an implied table had before its header. -/
theorem DistinctEntries.kept {entries : Entries} (h : DistinctEntries entries) (path : List Key) :
    DistinctEntries (Draft.openTable.kept key path entries) := by
  induction path generalizing entries with
  | nil =>
      rw [Draft.openTable.kept]
      split
      · next hvalue => exact distinct_table_iff.mp (h.value? hvalue)
      · exact distinctEntries_nil
  | cons first path ih =>
      rw [Draft.openTable.kept]
      split
      · next hvalue => exact ih (distinct_table_iff.mp (h.value? hvalue))
      · next hvalue =>
          split
          · next hlast =>
              have hitems := distinct_tables_iff.mp (h.value? hvalue)
              exact ih (distinct_table_iff.mp (hitems _ (List.mem_of_getLast? hlast)))
          · exact distinctEntries_nil
      · exact distinctEntries_nil

theorem DistinctDraft.openTable {span : Text.Span} (h : DistinctDraft d)
    (hopen : d.openTable path key span = some next) : DistinctDraft next := by
  obtain ⟨root, hroot, hopen⟩ := Option.bind_eq_some_iff.mp hopen
  obtain ⟨parent, hparent, hopen⟩ := Option.bind_eq_some_iff.mp hopen
  cases hopen
  have hclosed := h.close hroot
  refine ⟨hclosed.atPath (fun own inner result hinner hchange => ?_) hparent, hclosed.kept path⟩
  split at hchange
  · cases hchange
    exact hinner
  · cases hchange
    exact hinner.without key.text
  · cases hchange

theorem DistinctDraft.openElement {span : Text.Span} (h : DistinctDraft d)
    (hopen : d.openElement path key span = some next) : DistinctDraft next := by
  obtain ⟨closed, hclosed, hopen⟩ := Option.bind_eq_some_iff.mp hopen
  obtain ⟨root, hroot, hopen⟩ := Option.bind_eq_some_iff.mp hopen
  cases hopen
  refine ⟨(h.close hclosed).atPath (fun own inner result hinner hchange => ?_) hroot,
    distinctEntries_nil⟩
  refine hinner.update (fun old new hold hnew => ?_) hchange
  split at hnew
  · cases hnew
    exact distinct_tables_iff.mpr (by simp)
  · cases hnew
    exact hold _ rfl
  · cases hnew

theorem DistinctDraft.give {value : Node} (h : DistinctDraft d) (hvalue : Distinct value)
    (hgive : d.give path key value = some next) : DistinctDraft next := by
  obtain ⟨entries, hentries, hgive⟩ := Option.bind_eq_some_iff.mp hgive
  cases hgive
  exact ⟨h.root, h.entries.insert hvalue hentries⟩

end Drafts

theorem yields_fail {α : Type} {P : α → Prop} : Yields P (Reader.fail : Reader α) :=
  fun _ _ _ h => by cases h

theorem yields_failAt {α : Type} {P : α → Prop} (offset : Nat) :
    Yields P (Reader.failAt offset : Reader α) :=
  fun _ _ _ h => by cases h

theorem yields_readScalar : Yields Distinct Reader.readScalar := by
  refine yields_bind fun start => yields_bind fun text => ?_
  split
  · exact yields_fail
  · next scalar left _ =>
      refine yields_bind fun _ => yields_bind fun stop => yields_pure ?_
      cases scalar with
      | integer n => exact .integer _ n
      | floating x => exact .floating _ x
      | boolean value => exact .boolean _ value
      | date => exact .date _

theorem distinct_of_pairs {pairs : List ((List Key × Key) × Node)} {entries result : Entries}
    (hpairs : ∀ pair ∈ pairs, Distinct pair.2) (h : DistinctEntries entries)
    (hinsert : pairs.foldlM (fun entries ((path, key), value) =>
      Entries.insert path key value .inline entries) entries = some result) :
    DistinctEntries result := by
  induction pairs generalizing entries with
  | nil =>
      cases hinsert
      exact h
  | cons pair pairs ih =>
      obtain ⟨hpair, hpairs⟩ := List.forall_mem_cons.mp hpairs
      obtain ⟨inner, hinner, hinsert⟩ := Option.bind_eq_some_iff.mp hinsert
      exact ih hpairs (h.insert hpair hinner) hinsert

section Values

variable {fuel : Nat}

/-- The readers of the given fuel give values that keep their keys apart.  Those of one more do so
because the readers inside them do. -/
structure ReadersYield (fuel : Nat) : Prop where
  value : ∀ depth, Yields Distinct (Reader.readValue fuel depth)
  items : ∀ depth, Yields (fun items => ∀ item ∈ items, Distinct item)
    (Reader.readItems fuel depth)
  pairs : ∀ depth, Yields (fun pairs => ∀ pair ∈ pairs, Distinct pair.2)
    (Reader.readPairs fuel depth)

theorem ReadersYield.value_succ (h : ReadersYield fuel) (depth : Nat) :
    Yields Distinct (Reader.readValue (fuel + 1) depth) := by
  rw [Reader.readValue]
  refine yields_bind fun start => yields_bind fun c => ?_
  split
  · exact yields_bind fun text => yields_bind fun stop => yields_pure (.string _ text)
  · exact yields_bind fun text => yields_bind fun stop => yields_pure (.string _ text)
  · extract_lets next
    have hnext : ∀ u, Yields Distinct (next u) := fun _ => yields_bind fun _ =>
      (h.items (depth + 1)).bind fun items hitems => yields_bind fun stop =>
        yields_pure (.array hitems)
    exact .ite (yields_bind hnext) (hnext ())
  · extract_lets next
    have hnext : ∀ u, Yields Distinct (next u) := by
      refine fun _ => yields_bind fun _ => yields_bind fun _ => yields_bind fun inside =>
        (h.pairs (depth + 1)).bind fun pairs hpairs => ?_
      extract_lets table
      cases htable : table with
      | none => exact yields_failAt inside
      | some entries =>
          have hentries := distinct_of_pairs hpairs distinctEntries_nil htable
          exact yields_bind fun _ => yields_bind fun _ => yields_bind fun stop =>
            yields_pure (distinct_table_iff.mpr hentries)
    exact .ite (yields_bind hnext) (hnext ())
  · exact yields_readScalar

theorem ReadersYield.items_succ (h : ReadersYield fuel) (depth : Nat) :
    Yields (fun items => ∀ item ∈ items, Distinct item) (Reader.readItems (fuel + 1) depth) := by
  rw [Reader.readItems]
  refine yields_bind fun _ => ?_
  extract_lets next
  have hnext : ∀ u, Yields (fun items => ∀ item ∈ items, Distinct item) (next u) := by
    refine fun _ => yields_bind fun _ => .ite (yields_pure (by simp)) ?_
    refine yields_bind fun start => (h.value depth).bind fun item hitem => yields_bind fun _ => ?_
    extract_lets more
    have hmore : ∀ u, Yields (fun items => ∀ item ∈ items, Distinct item) (more u) := by
      refine fun _ => yields_bind fun _ => .ite ?_ ?_
      · exact (h.items depth).bind fun items hitems =>
          yields_pure (List.forall_mem_cons.mpr ⟨hitem, hitems⟩)
      · exact yields_bind fun _ => yields_pure (List.forall_mem_singleton.mpr hitem)
    exact .ite (hmore ()) (yields_bind hmore)
  exact .ite (hnext ()) (yields_bind hnext)

theorem ReadersYield.pairs_succ (h : ReadersYield fuel) (depth : Nat) :
    Yields (fun pairs => ∀ pair ∈ pairs, Distinct pair.2) (Reader.readPairs (fuel + 1) depth) := by
  rw [Reader.readPairs]
  refine yields_bind fun _ => yields_bind fun c => ?_
  split
  · refine .ite ?_ (yields_pure (by simp))
    refine yields_bind fun key => yields_bind fun _ => yields_bind fun _ =>
      (h.value depth).bind fun value hvalue => yields_bind fun _ => yields_bind fun _ =>
        yields_bind fun _ => ?_
    have hlast : ∀ pair ∈ [(key, value)], Distinct pair.2 :=
      List.forall_mem_singleton.mpr hvalue
    split
    · refine .ite (yields_bind fun _ => ?_) (yields_pure hlast)
      exact (h.pairs depth).bind fun pairs hpairs =>
        yields_pure (List.forall_mem_cons.mpr ⟨hvalue, hpairs⟩)
    · exact yields_pure hlast
  · exact yields_pure (by simp)

theorem readersYield (fuel : Nat) : ReadersYield fuel := by
  induction fuel with
  | zero => exact ⟨fun _ => yields_fail, fun _ => yields_fail, fun _ => yields_fail⟩
  | succ fuel ih => exact ⟨ih.value_succ, ih.items_succ, ih.pairs_succ⟩

end Values

theorem yields_readHeader {d : Draft} (h : DistinctDraft d) :
    Yields DistinctDraft (Reader.readHeader d) := by
  rw [Reader.readHeader]
  refine yields_bind fun start => yields_bind fun isElement => ?_
  extract_lets next
  have hnext : ∀ u, Yields DistinctDraft (next u) := by
    refine fun _ => yields_bind fun (path, key) => yields_bind fun _ => yields_bind fun stop => ?_
    extract_lets span
    refine yields_bind fun _ => ?_
    split
    · next opened hopen =>
        refine yields_pure ?_
        split at hopen
        · exact h.openElement hopen
        · exact h.openTable hopen
    · exact yields_failAt start
  exact .ite (hnext ()) (yields_bind hnext)

theorem yields_readEntry {d : Draft} (h : DistinctDraft d) :
    Yields DistinctDraft (Reader.readEntry d) := by
  rw [Reader.readEntry]
  refine yields_bind fun start => yields_bind fun (path, key) => yields_bind fun _ =>
    yields_bind fun _ => yields_bind fun text => ?_
  refine ((readersYield _).value 0).bind fun value hvalue =>
    yields_bind fun _ => ?_
  split
  · next given hgive => exact yields_pure (h.give hvalue hgive)
  · exact yields_failAt start

theorem yields_readLinesOf (fuel : Nat) {d : Draft} (h : DistinctDraft d) :
    Yields DistinctDraft (Reader.readLinesOf fuel d) := by
  induction fuel generalizing d with
  | zero => exact yields_pure h
  | succ fuel ih =>
      rw [Reader.readLinesOf]
      refine yields_bind fun _ => yields_bind fun c => ?_
      split
      · exact yields_pure h
      · exact (yields_readHeader h).bind fun d hd => ih hd
      · exact yields_bind fun _ => ih h
      · refine yields_bind fun _ => .ite (ih h) (.ite yields_fail ?_)
        exact (yields_readEntry h).bind fun d hd => ih hd

/-- No table of a document has a key twice, however often it is opened. -/
theorem distinct_of_parse {text : List Char} {entries : Entries}
    (h : parse text = .ok entries) : DistinctEntries entries := by
  have hyields : Yields DistinctEntries Reader.readDocument := by
    rw [Reader.readDocument]
    have hempty : DistinctDraft {} := ⟨distinctEntries_nil, distinctEntries_nil⟩
    refine yields_bind fun _ => yields_bind fun text =>
      (yields_readLinesOf _ hempty).bind fun d hd => ?_
    split
    · next entries hclose => exact yields_pure (hd.close hclose)
    · exact yields_fail
  obtain ⟨⟨read, cursor⟩, hread, rfl⟩ := Records.map_eq_ok_iff.mp h
  exact hyields _ _ _ hread

end NamespacePolicy.Proofs.DocumentKeys
