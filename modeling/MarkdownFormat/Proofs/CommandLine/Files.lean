/-
# Writing files

A file that has been written is read back as it was written, and every other file is as
before. A plain file that is there already can be written.
-/

import MarkdownFormat.CommandLine.Files

namespace MarkdownFormat.Files

/-- A file that is there, and not a folder at the same time. -/
def IsPlain (files : Files) (path : Path) : Prop :=
  (files.read? path).isSome ∧ files.isFolder path.steps = false

/-- Only the file that is put changes. -/
theorem lookup_put (files : Files) (steps other : List String) (contents : Bytes) :
    (files.put steps contents).lookup other =
      if other = steps then some contents else files.lookup other := by
  induction files with
  | nil => grind [put]
  | cons file rest ih =>
      obtain ⟨name, old⟩ := file
      by_cases hsame : name = steps
      · grind [put]
      · rw [put, if_neg hsame, List.lookup_cons, List.lookup_cons, ih]
        grind

/-- What is looked up is there. -/
theorem mem_of_lookup {files : Files} {steps : List String} {contents : Bytes}
    (hlookup : files.lookup steps = some contents) : (steps, contents) ∈ files := by
  induction files with
  | nil => cases hlookup
  | cons file rest ih => grind

/-- What lies on the way to a file is a folder. -/
theorem isFolder_take {files : Files} {steps : List String} {contents : Bytes}
    (hlookup : files.lookup steps = some contents) {count : Nat} (hcount : count < steps.length) :
    files.isFolder (steps.take count) = true := by
  have hmem := mem_of_lookup hlookup
  have hbelow : ((steps.take count).isPrefixOf steps && (steps.take count).length < steps.length)
      = true := by
    have hextends : (steps.take count).isPrefixOf steps = true :=
      List.isPrefixOf_iff_prefix.mpr (List.take_prefix count steps)
    rw [hextends, List.length_take, Nat.min_eq_left (Nat.le_of_lt hcount)]
    simpa using hcount
  rw [isFolder, Bool.or_eq_true]
  exact .inr (List.any_eq_true.mpr ⟨_, hmem, hbelow⟩)

/-- Writing a plain file that is there succeeds. -/
theorem IsPlain.write_eq {files : Files} {path : Path} (hplain : files.IsPlain path)
    (contents : Bytes) : files.write path contents = .ok (files.put path.steps contents) := by
  obtain ⟨hthere, hfile⟩ := hplain
  have hnamed : path.toFolder = false := by
    cases hfolder : path.toFolder with
    | false => rfl
    | true => simp [read?, hfolder] at hthere
  rw [read?, hnamed] at hthere
  obtain ⟨old, hold⟩ := Option.isSome_iff_exists.mp hthere
  have hparents : ((List.range path.steps.length).map fun count => path.steps.take count).findSome?
      files.folderFault? = none := by
    rw [List.findSome?_eq_none_iff]
    intro steps hsteps
    obtain ⟨count, hcount, rfl⟩ := List.mem_map.mp hsteps
    rw [folderFault?, isFolder_take hold (List.mem_range.mp hcount)]
    rfl
  simp [write, hparents, hnamed, hfile]

/-- A written file is read as it was written, and the others as before. -/
theorem read?_of_write {files last : Files} {path : Path} {contents : Bytes}
    (hwrite : files.write path contents = .ok last) :
    last.read? path = some contents ∧
      ∀ other : Path, other.steps ≠ path.steps → last.read? other = files.read? other := by
  simp only [write] at hwrite
  split at hwrite
  · cases hwrite
  · split at hwrite
    · cases hwrite
    · rename_i hfree
      rw [Bool.or_eq_true, not_or] at hfree
      cases hwrite
      refine ⟨?_, ?_⟩
      · simp [read?, hfree.1, lookup_put]
      · intro other hother
        simp [read?, lookup_put, hother]

end MarkdownFormat.Files
