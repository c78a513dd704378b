import Mathlib.Data.List.Nodup
import NamespacePolicy.Hierarchy
import NamespacePolicy.Proofs.Paths

/-!
Which policy files are found for a folder: files of this name in the folder and in those above it,
each with its fingerprint, and none of them twice.
-/

namespace NamespacePolicy.Proofs.Discovery

open Hierarchy Paths

theorem fingerprint?_of_mem_discover {files : Files} {folder : Path} {depth : Nat}
    {f : Path × Fingerprint} (h : f ∈ discover files folder depth) :
    files.fingerprint? f.1 = some f.2 := by
  simp only [discover, List.mem_reverse, List.mem_filterMap] at h
  obtain ⟨above, -, hfound⟩ := h
  obtain ⟨fingerprint, hfingerprint, rfl⟩ := Option.map_eq_some_iff.mp hfound
  exact hfingerprint

theorem parts_join_policyFileName (folder : Path) :
    (folder.join policyFileName).parts = folder.parts ++ [.name "nsdepcop.toml"] :=
  parts_join rfl (by decide) folder

/-- No folder contributes twice. -/
theorem parts_discover_nodup (files : Files) (folder : Path) (depth : Nat) :
    ((discover files folder depth).map (·.1.parts)).Nodup := by
  have hfolders := parts_ancestors_nodup ((files.canonical? folder).getD folder)
  rw [List.Nodup, List.pairwise_map] at hfolders
  rw [discover, List.map_reverse, List.nodup_reverse, List.Nodup, List.pairwise_map,
    List.pairwise_filterMap]
  refine (hfolders.sublist (List.take_sublist _ _)).imp ?_
  intro a b hne x hx y hy heq
  obtain ⟨_, -, rfl⟩ := Option.map_eq_some_iff.mp hx
  obtain ⟨_, -, rfl⟩ := Option.map_eq_some_iff.mp hy
  rw [parts_join_policyFileName, parts_join_policyFileName] at heq
  exact hne (List.append_cancel_right heq)

end NamespacePolicy.Proofs.Discovery
