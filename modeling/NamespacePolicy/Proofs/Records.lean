import Mathlib.Data.List.Forall2
import Mathlib.Data.List.Nodup
import NamespacePolicy.Json.Shape

/-!
Records by their members.  Whether members make a record, and what a field of the record holds,
hangs on which members there are and not on their order.
-/

namespace NamespacePolicy.Proofs.Records

section Results

variable {E α β : Type}

theorem ok_bind (a : α) (next : α → Except E β) : (.ok a >>= next) = next a :=
  rfl

theorem bind_eq_ok_iff {result : Except E α} {next : α → Except E β} {b : β} :
    (result >>= next) = .ok b ↔ ∃ a, result = .ok a ∧ next a = .ok b := by
  cases result with
  | ok a => simp [ok_bind]
  | error e => simp [bind, Except.bind]

theorem map_eq_ok_iff {result : Except E α} {f : α → β} {b : β} :
    result.map f = .ok b ↔ ∃ a, result = .ok a ∧ f a = b := by
  cases result <;> simp [Except.map]

theorem mapM_eq_ok_iff {f : α → Except E β} {as : List α} {bs : List β} :
    as.mapM f = .ok bs ↔ List.Forall₂ (fun a b => f a = .ok b) as bs := by
  induction as generalizing bs with
  | nil => simp [pure, Except.pure, eq_comm]
  | cons a as ih =>
      rw [List.mapM_cons, bind_eq_ok_iff, List.forall₂_cons_left_iff]
      simp only [bind_eq_ok_iff, ih, pure, Except.pure, Except.ok.injEq]
      constructor
      · rintro ⟨b, hb, rest, hrest, rfl⟩
        exact ⟨b, rest, hb, hrest, rfl⟩
      · rintro ⟨b, rest, hb, hrest, rfl⟩
        exact ⟨b, hb, rest, hrest, rfl⟩

theorem exists_bind_eq_ok {result : Except E α} {next : α → Except E β}
    (h : ∃ a, result = .ok a) (hnext : ∀ a, result = .ok a → ∃ b, next a = .ok b) :
    ∃ b, (result >>= next) = .ok b := by
  obtain ⟨a, rfl⟩ := h
  exact hnext a rfl

theorem exists_mapM_eq_ok_iff {f : α → Except E β} {as : List α} :
    (∃ bs, as.mapM f = .ok bs) ↔ ∀ a ∈ as, ∃ b, f a = .ok b := by
  simp only [mapM_eq_ok_iff]
  induction as with
  | nil => simp
  | cons a as ih =>
      rw [List.forall_mem_cons, ← ih]
      constructor
      · rintro ⟨_, _ | ⟨hfirst, hrest⟩⟩
        exact ⟨⟨_, hfirst⟩, _, hrest⟩
      · rintro ⟨⟨b, hfirst⟩, bs, hrest⟩
        exact ⟨b :: bs, .cons hfirst hrest⟩

theorem exists_error {result : Except E α} (h : ∀ a, result ≠ .ok a) : ∃ e, result = .error e := by
  cases result with
  | ok a => exact absurd rfl (h a)
  | error e => exact ⟨e, rfl⟩

end Results

section Members

variable {V E α : Type} {s : Shape V E} {members : Members V} {name : String}

theorem lookup_eq_some_iff (hkeys : (members.map (·.1)).Nodup) {v : V} :
    members.lookup name = some v ↔ (name, v) ∈ members := by
  induction members with
  | nil => simp
  | cons m members ih =>
      obtain ⟨key, own⟩ := m
      obtain ⟨hnew, hkeys⟩ := List.nodup_cons.mp hkeys
      by_cases h : name = key
      · subst h
        have hnot : (name, v) ∉ members := fun hv =>
          hnew (List.mem_map.mpr ⟨(name, v), hv, rfl⟩)
        simp [hnot, eq_comm]
      · have hkey : (name == key) = false := by simpa using h
        simp [List.lookup_cons, hkey, ih hkeys, h]

theorem value_unique (hkeys : (members.map (·.1)).Nodup) {v w : V} (hv : (name, v) ∈ members)
    (hw : (name, w) ∈ members) : v = w := by
  rw [← lookup_eq_some_iff hkeys] at hv hw
  exact Option.some.inj (hv.symm.trans hw)

theorem get_eq_ok_iff (hkeys : (members.map (·.1)).Nodup) {read : V → Except E α}
    {absent : Mismatch → E} {a : α} :
    members.get name read absent = .ok a ↔ ∃ v, (name, v) ∈ members ∧ read v = .ok a := by
  simp only [← lookup_eq_some_iff hkeys, Members.get]
  cases members.lookup name <;> simp

theorem getD_eq_ok_iff (hkeys : (members.map (·.1)).Nodup) {read : V → Except E α}
    {default a : α} :
    members.getD name read default = .ok a ↔
      (∃ v, (name, v) ∈ members ∧ read v = .ok a) ∨
        (∀ v, (name, v) ∉ members) ∧ a = default := by
  simp only [← lookup_eq_some_iff hkeys, Members.getD]
  cases members.lookup name <;> simp [eq_comm]

/-- Every member is one that the record has, and its field takes its value. -/
def Checked (s : Shape V E) (members : Members V) : Prop :=
  ∀ m ∈ members, ∃ field, s.field? m.1 = some field ∧ field.check m.2 = .ok ()

theorem field?_eq_some_iff (hnames : s.names.Nodup) {field : Field V E} :
    s.field? name = some field ↔ field ∈ s.fields ∧ field.name = name := by
  rw [Shape.names] at hnames
  rw [Shape.field?]
  constructor
  · intro h
    exact ⟨List.mem_of_find?_eq_some h, by simpa using List.find?_some h⟩
  · rintro ⟨hfield, rfl⟩
    cases hfound : s.fields.find? (·.name == field.name) with
    | none => simpa using List.find?_eq_none.mp hfound field hfield
    | some other =>
        have hname : other.name = field.name := by simpa using List.find?_some hfound
        have hother := List.mem_of_find?_eq_some hfound
        rw [List.inj_on_of_nodup_map hnames hother hfield hname]

theorem checked_iff (hnames : s.names.Nodup) :
    Checked s members ↔
      (∀ m ∈ members, m.1 ∈ s.names) ∧
        ∀ field ∈ s.fields, ∀ v, (field.name, v) ∈ members → field.check v = .ok () := by
  simp only [Checked, field?_eq_some_iff hnames]
  constructor
  · intro h
    refine ⟨fun m hm => ?_, fun field hfield v hv => ?_⟩
    · obtain ⟨field, ⟨hfield, hname⟩, -⟩ := h m hm
      exact hname ▸ List.mem_map_of_mem hfield
    · obtain ⟨other, ⟨hother, hname⟩, hcheck⟩ := h _ hv
      rwa [List.inj_on_of_nodup_map hnames hother hfield hname] at hcheck
  · rintro ⟨hdeclared, hchecks⟩ ⟨name, v⟩ hm
    obtain ⟨field, hfield, rfl⟩ := List.mem_map.mp (hdeclared _ hm)
    exact ⟨field, ⟨hfield, rfl⟩, hchecks field hfield v hm⟩

theorem missing?_eq_none_iff :
    s.missing? members = none ↔
      ∀ f ∈ s.fields, f.required = true → ∃ v, (f.name, v) ∈ members := by
  simp [Shape.missing?]

theorem needed_check_iff {read : V → Except E α} {v : V} :
    (Field.needed name read).check v = .ok () ↔ ∃ a, read v = .ok a := by
  simp [Field.needed, map_eq_ok_iff]

theorem free_check_iff {read : V → Except E α} {v : V} :
    (Field.free name read).check v = .ok () ↔ ∃ a, read v = .ok a := by
  simp [Field.free, map_eq_ok_iff]

end Members

section Objects

variable {s : Json.Shape} {strict : Bool} {members : Members Json}

theorem checkMembers_record {seen : List String} (hkeys : (members.map (·.1)).Nodup)
    (hseen : ∀ m ∈ members, m.1 ∉ seen) (hfields : Checked s members) :
    Json.checkMembers s strict seen
      (members.map fun (key, value) => (.ofString key, value)) = .ok members := by
  induction members generalizing seen with
  | nil => rfl
  | cons m members ih =>
      obtain ⟨hnew, hkeys⟩ := List.nodup_cons.mp hkeys
      obtain ⟨field, hfield, hcheck⟩ := hfields m List.mem_cons_self
      have hkey : m.1 ∉ seen := hseen m List.mem_cons_self
      have hrest : ∀ m' ∈ members, m'.1 ∉ m.1 :: seen := by
        intro m' hm'
        rw [List.mem_cons, not_or]
        refine ⟨fun heq => hnew ?_, hseen m' (List.mem_cons_of_mem _ hm')⟩
        exact List.mem_map.mpr ⟨m', hm', heq⟩
      have hmembers := ih hkeys hrest fun m' hm' => hfields m' (List.mem_cons_of_mem _ hm')
      simp only [Json.ofString] at hmembers
      simp only [List.map_cons, Json.ofString, Json.checkMembers, hfield, hkey, hcheck, hmembers]
      rfl

/-- A record is read as it was written if no name stands in it twice, every member fits its field,
and no field is left out that has to be there. -/
theorem members_record (hkeys : (members.map (·.1)).Nodup) (hfields : Checked s members)
    (hmissing : s.missing? members = none) :
    Json.members s strict (.record members) = .ok members := by
  have hmembers : Json.checkMembers s strict []
      (members.map fun (key, value) => (.ofString key, value)) = .ok members :=
    checkMembers_record hkeys (by simp) hfields
  simp only [Json.members, Json.record, hmembers, ok_bind, hmissing]
  rfl

theorem of_checkMembers_cons {seen : List String} {name value : Json} {object : List (Json × Json)}
    (h : Json.checkMembers s true seen ((name, value) :: object) = .ok members) :
    ∃ key rest, name = .ofString key ∧ key ∉ seen ∧
      (∃ field, s.field? key = some field ∧ field.check value = .ok ()) ∧
        Json.checkMembers s true (key :: seen) object = .ok rest ∧
          members = (key, value) :: rest := by
  cases name with
  | string text =>
      cases text with
      | none => simp [Json.checkMembers] at h
      | some key =>
          cases hfield : s.field? key with
          | none => simp [Json.checkMembers, hfield] at h
          | some field =>
              simp only [Json.checkMembers, hfield] at h
              split at h
              · cases h
              · next hseen =>
                  obtain ⟨⟨⟩, hcheck, h⟩ := bind_eq_ok_iff.mp h
                  obtain ⟨rest, hrest, h⟩ := bind_eq_ok_iff.mp h
                  cases h
                  exact ⟨key, rest, rfl, hseen, ⟨field, hfield, hcheck⟩, hrest, rfl⟩
  | _ => simp [Json.checkMembers] at h

/-- Nothing in a strict object is passed over: what is read of it are its members, each of which has
a name of its own that the record has. -/
theorem of_checkMembers {seen : List String} {object : List (Json × Json)}
    (h : Json.checkMembers s true seen object = .ok members) :
    object = (members.map fun (key, value) => (.ofString key, value)) ∧
      (members.map (·.1)).Nodup ∧ (∀ m ∈ members, m.1 ∉ seen) ∧ Checked s members := by
  induction object generalizing seen members with
  | nil =>
      cases h
      simp [Checked]
  | cons m object ih =>
      obtain ⟨name, value⟩ := m
      obtain ⟨key, rest, rfl, hseen, hcheck, hrest, rfl⟩ := of_checkMembers_cons h
      obtain ⟨rfl, hkeys, hnew, hchecks⟩ := ih hrest
      have hkey' : key ∉ rest.map (·.1) := by
        intro hmem
        obtain ⟨m', hm', rfl⟩ := List.mem_map.mp hmem
        exact hnew m' hm' List.mem_cons_self
      refine ⟨rfl, List.nodup_cons.mpr ⟨hkey', hkeys⟩, ?_,
        List.forall_mem_cons.mpr ⟨hcheck, hchecks⟩⟩
      refine List.forall_mem_cons.mpr ⟨hseen, fun m' hm' hmem => ?_⟩
      exact hnew m' hm' (List.mem_cons_of_mem _ hmem)

/-- A strict object is read if and only if its members make the record. -/
theorem members_object_iff {object : List (Json × Json)} :
    Json.members s true (.object object) = .ok members ↔
      .object object = Json.record members ∧ (members.map (·.1)).Nodup ∧ Checked s members ∧
        s.missing? members = none := by
  constructor
  · intro h
    obtain ⟨read, hread, h⟩ := bind_eq_ok_iff.mp h
    cases hmissing : s.missing? read with
    | some missing => simp [hmissing, throw, throwThe, MonadExceptOf.throw] at h
    | none =>
        simp only [hmissing] at h
        cases h
        obtain ⟨rfl, hkeys, -, hchecked⟩ := of_checkMembers hread
        exact ⟨rfl, hkeys, hchecked, hmissing⟩
  · rintro ⟨heq, hkeys, hchecked, hmissing⟩
    rw [heq]
    exact members_record hkeys hchecked hmissing

end Objects

end NamespacePolicy.Proofs.Records
