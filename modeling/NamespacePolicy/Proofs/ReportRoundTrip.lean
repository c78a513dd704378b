import NamespacePolicy.Command.Output
import NamespacePolicy.Proofs.JsonWriting
import NamespacePolicy.Proofs.Records

/-!
Reports survive being written and read: whatever a report holds, its JSON text gives the same report
back, as long as its numbers have 64 bits.
-/

namespace NamespacePolicy.Proofs.ReportRoundTrip

open NamespacePolicy.Proofs.JsonGrammar
open NamespacePolicy.Proofs.JsonWriting
open NamespacePolicy.Proofs.Records

/-- Every number of the report has 64 bits. -/
structure Fits (r : Report) : Prop where
  checked : r.checked < UInt64.size
  places : ∀ i ∈ r.issues, ∀ l ∈ i.location, l.line < UInt64.size ∧ l.column < UInt64.size

theorem list_map_ok {α : Type} {read : Json → Except JsonError α} {write : α → Json}
    (h : ∀ a, read (write a) = .ok a) (as : List α) :
    Json.list read (.array (as.map write)) = .ok as := by
  rw [Json.list, mapM_eq_ok_iff, List.forall₂_map_left_iff]
  exact List.forall₂_same.mpr fun a _ => h a

theorem member_of_lookup {α : Type} {name : String} {read : Json → Except JsonError α} {j : Json}
    {a : α} {members : Members Json} (hmember : members.lookup name = some j)
    (h : read j = .ok a) : Json.member members name read = .ok a := by
  simp [Json.member, Members.get, hmember, h]

theorem location_ofJson_toJson (l : Location) : Location.ofJson l.toJson = .ok l := by
  have hmembers : Json.members Location.shape false l.toJson = .ok
      [("file", .ofString l.file), ("line", .ofNat l.line), ("column", .ofNat l.column)] := by
    refine members_record (by simp) ?_ rfl
    simp only [Checked, List.forall_mem_cons]
    exact ⟨⟨_, rfl, rfl⟩, ⟨_, rfl, rfl⟩, ⟨_, rfl, rfl⟩, by simp⟩
  rw [Location.ofJson, hmembers]
  rfl

theorem kind_ofJson (k : IssueKind) : IssueKind.ofJson (.ofString k.name) = .ok k := by
  cases k <;> rfl

theorem severity_ofJson (s : Severity) : Severity.ofJson (.ofString s.text) = .ok s := by
  cases s <;> rfl

theorem optional_location (l : Location) :
    Json.optional Location.ofJson l.toJson = .ok (some l) := by
  change (Location.ofJson l.toJson).map some = _
  rw [location_ofJson_toJson]
  rfl

theorem issue_of_members {j : Json} {i : Issue} {members : Members Json}
    (h : Json.members Issue.shape false j = .ok members)
    (hkind : members.lookup "kind" = some (.ofString i.kind.name))
    (hseverity : members.lookup "severity" = some (.ofString i.severity.text))
    (hmessage : members.lookup "message" = some (.ofString i.message))
    (hlocation : members.getD "location" (Json.optional Location.ofJson) none = .ok i.location) :
    Issue.ofJson j = .ok i := by
  have htext : Json.text (.ofString i.message) = .ok i.message := rfl
  rw [Issue.ofJson, h, ok_bind, member_of_lookup hkind (kind_ofJson _), ok_bind,
    member_of_lookup hseverity (severity_ofJson _), ok_bind,
    member_of_lookup hmessage htext, ok_bind, hlocation]
  rfl

theorem issue_ofJson_toJson (i : Issue) : Issue.ofJson i.toJson = .ok i := by
  obtain ⟨kind, severity, message, location⟩ := i
  have hkind := kind_ofJson kind
  have hseverity := severity_ofJson severity
  cases location with
  | none =>
      refine issue_of_members (members_record (by simp) ?_ rfl) rfl rfl rfl rfl
      simp only [Checked, List.append_nil, List.forall_mem_cons]
      exact ⟨⟨_, rfl, needed_check_iff.mpr ⟨_, hkind⟩⟩,
        ⟨_, rfl, needed_check_iff.mpr ⟨_, hseverity⟩⟩, ⟨_, rfl, rfl⟩,
        by simp⟩
  | some l =>
      have hlocation := optional_location l
      refine issue_of_members (members_record (by simp) ?_ rfl) rfl rfl rfl hlocation
      simp only [Checked, List.cons_append, List.nil_append, List.forall_mem_cons]
      exact ⟨⟨_, rfl, needed_check_iff.mpr ⟨_, hkind⟩⟩,
        ⟨_, rfl, needed_check_iff.mpr ⟨_, hseverity⟩⟩, ⟨_, rfl, rfl⟩,
        ⟨_, rfl, free_check_iff.mpr ⟨_, hlocation⟩⟩, by simp⟩

theorem report_ofJson_toJson (r : Report) : Report.ofJson r.toJson = .ok r := by
  have hissues := list_map_ok issue_ofJson_toJson r.issues
  have hmembers : Json.members Report.shape false r.toJson = .ok
      [("issues", .array (r.issues.map Issue.toJson)),
        ("dependencies_checked", .ofNat r.checked)] := by
    refine members_record (by simp) ?_ rfl
    simp only [Checked, List.forall_mem_cons]
    exact ⟨⟨_, rfl, needed_check_iff.mpr ⟨_, hissues⟩⟩, ⟨_, rfl, rfl⟩, by simp⟩
  rw [Report.ofJson, hmembers, ok_bind, member_of_lookup rfl hissues]
  rfl

theorem spellable_location {l : Location}
    (h : l.line < UInt64.size ∧ l.column < UInt64.size) : Spellable l.toJson := by
  refine .record ?_
  simp only [List.forall_mem_cons]
  exact ⟨.string _, .natural h.1, .natural h.2, by simp⟩

theorem spellable_issue {i : Issue}
    (h : ∀ l ∈ i.location, l.line < UInt64.size ∧ l.column < UInt64.size) : Spellable i.toJson := by
  refine .record ?_
  simp only [List.cons_append, List.nil_append, List.forall_mem_cons]
  refine ⟨.string _, .string _, .string _, ?_⟩
  obtain ⟨kind, severity, message, location⟩ := i
  cases location with
  | none => simp
  | some l => simpa using spellable_location (h l rfl)

theorem spellable_report {r : Report} (h : Fits r) : Spellable r.toJson := by
  refine .record ?_
  simp only [List.forall_mem_cons]
  refine ⟨.array fun item hitem => ?_, .natural h.checked, by simp⟩
  obtain ⟨i, hi, rfl⟩ := List.mem_map.mp hitem
  exact spellable_issue (h.places i hi)

/-- Any text that spells the JSON of a report is read as the report. -/
theorem parse_of_spells {r : Report} {text : String} (h : Spells r.toJson text.toList) :
    Report.parse text = .ok r := by
  simp [Report.parse, Json.parse, read_of_spells h, report_ofJson_toJson]

/-- A report is read back from each of its texts, with the issues in their order: from the text on
one line, from the indented one, and from what a command prints. -/
theorem parse_written {r : Report} (h : Fits r) :
    Report.parse r.compactJson = .ok r ∧ Report.parse r.prettyJson = .ok r ∧
      Report.parse (r.print .json) = .ok r := by
  have hcompact : Spells r.toJson r.compactJson.toList := spells_compactText (spellable_report h)
  have hpretty : Spells r.toJson r.prettyJson.toList := spells_prettyText (spellable_report h)
  have hbreak : Blank ['\n'] := by simp [Blank, Json.isSpace]
  refine ⟨parse_of_spells hcompact, parse_of_spells hpretty, parse_of_spells ?_⟩
  rw [Report.print, String.toList_append]
  exact hpretty.append_blank hbreak

/-- Names, numbers and a message that are hard to write. -/
def hard : Report :=
  { issues :=
      [{ kind := .illegalDependency
         severity := .error
         message := "\"A\\B\" \x00\t\n ∀ 𝔘"
         location := some { file := "C:\\Ä b\x1f.cs", line := UInt64.size - 1, column := 0 } },
        { kind := .configDisabled, severity := .info, message := "" }]
    checked := UInt64.size - 1 }

theorem parse_written_hard :
    Fits hard ∧ Report.parse hard.compactJson = .ok hard ∧
      Report.parse hard.prettyJson = .ok hard ∧ Report.parse (hard.print .json) = .ok hard := by
  have hfits : Fits hard := ⟨by decide, by simp [hard]⟩
  exact ⟨hfits, parse_written hfits⟩

end NamespacePolicy.Proofs.ReportRoundTrip
