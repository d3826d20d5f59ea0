import PropertyTesting.Storage

/-!
# Writing at the end of a file

A path that leads to a file (`HasFile`) goes on leading there, whatever is written at its end, since
where paths lead to depends on directories alone (`place?_congr`). Opening the file again finds what
was written, and what is written then comes after it.
-/

namespace PropertyTesting.Storage

variable {s : Storage} {place other : List FileName} {path : Path} {content : ByteArray}

/-! ## What stands at a place -/

theorem lookup?_put_same (below : place ≠ []) (s : Storage) (entry : StorageEntry) :
    (s.put place entry).lookup? place = some entry := by
  simp [lookup?, put, below]

theorem lookup?_put_of_ne (distinct : other ≠ place) (s : Storage) (entry : StorageEntry) :
    (s.put place entry).lookup? other = s.lookup? other := by
  have kept : (s.entries.filter fun e => e.1 ≠ place).lookup other = s.entries.lookup other := by
    induction s.entries with
    | nil => rfl
    | cons e entries ih =>
      by_cases replaced : e.1 = place
      · have unequal : (other == e.1) = false := beq_false_of_ne (replaced ▸ distinct)
        rw [List.filter_cons_of_neg (by simp [replaced]), ih, List.lookup_cons, unequal]
      · rw [List.filter_cons_of_pos (by simp [replaced]), List.lookup_cons, List.lookup_cons, ih]
  have unequal : (other == place) = false := beq_false_of_ne distinct
  simp only [lookup?, put, List.lookup_cons, unequal, kept]

/-- The working directory is no file. -/
theorem ne_nil_of_not_directory (notDirectory : s.isDirectory place = false) : place ≠ [] := by
  rintro rfl
  cases notDirectory

/-- A file that is put where no directory stands makes and replaces no directory. -/
theorem isDirectory_put (notDirectory : s.isDirectory place = false) (content : ByteArray) :
    (s.put place (.file content)).isDirectory = s.isDirectory := by
  funext other
  by_cases same : other = place
  · subst same
    rw [notDirectory, isDirectory, lookup?_put_same (ne_nil_of_not_directory notDirectory)]
  · rw [isDirectory, isDirectory, lookup?_put_of_ne same]

/-! ## Where paths lead to -/

theorem follow?_congr {s' : Storage} (same : s'.isDirectory = s.isDirectory)
    (place names : List FileName) : s'.follow? place names = s.follow? place names := by
  induction names generalizing place with
  | nil => rfl
  | cons name rest ih => simp only [follow?, same, ih]

/-- Paths lead to the same places where the same directories stand. -/
theorem place?_congr {s' : Storage} (same : s'.isDirectory = s.isDirectory) (path : Path) :
    s'.place? path = s.place? path := by
  simp only [place?, follow?_congr same]

/-! ## Files -/

/-- A path leads to a place where a file stands. -/
structure HasFile (s : Storage) (path : Path) (place : List FileName)
    (content : ByteArray) : Prop where
  leads : s.place? path = some place
  stands : s.lookup? place = some (.file content)

namespace HasFile

theorem not_directory (file : s.HasFile path place content) : s.isDirectory place = false := by
  rw [isDirectory, file.stands]

theorem read? (file : s.HasFile path place content) : s.read? path = some content := by
  simp [Storage.read?, file.leads, file.stands]

/-- A file that is there is opened as it is. -/
theorem openToAppend? (file : s.HasFile path place content) :
    s.openToAppend? path = some (place, s) := by
  simp [Storage.openToAppend?, file.leads, file.stands]

theorem put (leads : s.place? path = some place) (notDirectory : s.isDirectory place = false)
    (content : ByteArray) : (s.put place (.file content)).HasFile path place content where
  leads := by rw [place?_congr (isDirectory_put notDirectory content), leads]
  stands := lookup?_put_same (ne_nil_of_not_directory notDirectory) s _

/-- What is written at the end of a file comes after what it held. -/
theorem append (file : s.HasFile path place content) (bytes : ByteArray) :
    (s.append place bytes).HasFile path place (content ++ bytes) := by
  rw [Storage.append, file.stands]
  exact put file.leads file.not_directory (content ++ bytes)

end HasFile

/-- A path that can be opened leads to a file from then on, which is empty if it was missing. -/
theorem hasFile_of_openToAppend? {s' : Storage} (opened : s.openToAppend? path = some (place, s')) :
    s'.HasFile path place ((s.read? path).getD ByteArray.empty) := by
  simp only [openToAppend?, Option.bind_eq_bind, Option.bind_eq_some_iff] at opened
  obtain ⟨there, leads, opened⟩ := opened
  cases stands : s.lookup? there with
  | none =>
    have missing : s.read? path = none := by simp [read?, leads, stands]
    simp only [stands, Option.some.injEq, Prod.mk.injEq] at opened
    obtain ⟨rfl, rfl⟩ := opened
    rw [missing]
    exact .put leads (by rw [isDirectory, stands]) _
  | some entry =>
    cases entry with
    | directory => simp [stands] at opened
    | file content =>
      have file : s.HasFile path there content := ⟨leads, stands⟩
      simp only [stands, Option.some.injEq, Prod.mk.injEq] at opened
      obtain ⟨rfl, rfl⟩ := opened
      rw [file.read?]
      exact file

end PropertyTesting.Storage
