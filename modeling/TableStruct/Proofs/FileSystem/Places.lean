import TableStruct.FileSystem
import Mathlib.Tactic.SplitIfs

/-!
# Places and their contents

Where a path leads to depends on the directories alone, whatever the files
hold (`SameTree.locate_iff`); only what is reported of a path that leads
nowhere depends on the files. So writing a file moves no place, and what is
read through a path stays as it is if the file there does
(`SameTree.read?_eq`).
-/

namespace TableStruct

namespace FileSystem

/-- The same directories, with the same one to begin paths in. -/
structure SameTree (fs fs' : FileSystem) : Prop where
  directories : fs.directories = fs'.directories
  current : fs.current = fs'.current

variable {fs fs' : FileSystem}

theorem SameTree.symm (h : SameTree fs fs') : SameTree fs' fs :=
  ⟨h.directories.symm, h.current.symm⟩

theorem SameTree.trans {fs'' : FileSystem} (h : SameTree fs fs') (h' : SameTree fs' fs'') :
    SameTree fs fs'' :=
  ⟨h.directories.trans h'.directories, h.current.trans h'.current⟩

theorem SameTree.isDirectory (h : SameTree fs fs') (l : Location) :
    fs.isDirectory l = fs'.isDirectory l := by
  rw [FileSystem.isDirectory, FileSystem.isDirectory, h.directories]

theorem sameTree_put (fs : FileSystem) (l : Location) (content : ByteArray) :
    SameTree fs (fs.put l content) :=
  ⟨rfl, rfl⟩

theorem SameTree.enter {l l' : Location} {name : String} (h : SameTree fs fs')
    (hl : fs.enter l name = .ok l') : fs'.enter l name = .ok l' := by
  unfold FileSystem.enter at hl ⊢
  rw [← h.isDirectory]
  split_ifs at hl ⊢ with hhere hup hlong hdirectory
  · exact hl
  · exact hl
  · exact hl

theorem SameTree.foldlM_enter {names : List String} {l l' : Location} (h : SameTree fs fs')
    (hl : names.foldlM fs.enter l = .ok l') : names.foldlM fs'.enter l = .ok l' := by
  induction names generalizing l with
  | nil => exact hl
  | cons name names ih =>
    rw [List.foldlM_cons] at hl ⊢
    cases henter : fs.enter l name with
    | error fault =>
      rw [henter] at hl
      cases hl
    | ok next =>
      rw [henter] at hl
      rw [h.enter henter]
      exact ih hl

theorem SameTree.place (h : SameTree fs fs') (l : Location) (name : String) :
    fs.place l name = fs'.place l name := by
  rw [FileSystem.place, FileSystem.place, h.isDirectory]

/-- The names along a path. -/
def namesOf (path : String) : List String :=
  ((path.toList.splitOn '/').filter (· ≠ [])).map String.ofList

/-- Where a path begins. -/
def startOf (fs : FileSystem) (path : String) : Location :=
  if path.toList.head? = some '/' then [] else fs.current

/-- A path that can be one is walked along its names, the last of which is
not entered. -/
theorem locate_eq (fs : FileSystem) (path : String) : fs.locate path =
    if '\x00' ∈ path.toList then .error .nullInPath
    else if path.toList = [] then .error .notFound
    else if path.utf8ByteSize > pathLimit then .error .nameTooLong
    else (namesOf path).getLast?.elim (.error .isDirectory) fun name =>
      (namesOf path).dropLast.foldlM fs.enter (fs.startOf path) >>= fun dir =>
        if path.toList.getLast? = some '/' then .error .isDirectory else fs.place dir name := by
  unfold locate
  cases hlast : (namesOf path).getLast? with
  | none =>
    simp only [namesOf] at hlast
    simp only [hlast]
    rfl
  | some name =>
    simp only [namesOf] at hlast
    simp only [hlast]
    rfl

/-- **What it takes for a path to lead to a place**: it can be a path, the
names before the last lead to a directory, and the last one to a place for a
file in it. -/
theorem locate_eq_ok_iff {path : String} {l : Location} :
    fs.locate path = .ok l ↔
      '\x00' ∉ path.toList ∧ path.toList ≠ [] ∧ path.utf8ByteSize ≤ pathLimit ∧
      path.toList.getLast? ≠ some '/' ∧ ∃ name, (namesOf path).getLast? = some name ∧
      ∃ dir, (namesOf path).dropLast.foldlM fs.enter (fs.startOf path) = .ok dir ∧
        fs.place dir name = .ok l := by
  rw [locate_eq]
  split_ifs with hnull hempty hlong hslash
  · simp [hnull]
  · simp [hempty]
  · have hnot : ¬ path.utf8ByteSize ≤ pathLimit := by omega
    simp [hnot]
  · -- behind a slash at the end nothing is a place for a file
    have hnone : ∀ walked : Except Fault Location,
        (walked >>= fun _ => (.error .isDirectory : Except Fault Location)) ≠ .ok l := by
      intro walked
      cases walked <;> simp [bind, Except.bind]
    cases (namesOf path).getLast? <;> simp [hslash, hnone]
  · have hshort : path.utf8ByteSize ≤ pathLimit := by omega
    cases (namesOf path).getLast? with
    | none => simp
    | some name =>
      cases (namesOf path).dropLast.foldlM fs.enter (fs.startOf path) with
      | error fault => simp [bind, Except.bind]
      | ok dir => simp [bind, Except.bind, hnull, hempty, hshort, hslash]

theorem SameTree.locate {path : String} {l : Location} (h : SameTree fs fs')
    (hl : fs.locate path = .ok l) : fs'.locate path = .ok l := by
  rw [locate_eq_ok_iff] at hl ⊢
  obtain ⟨hnull, hempty, hshort, hslash, name, hname, dir, hdir, hplace⟩ := hl
  have hstart : fs.startOf path = fs'.startOf path := by
    rw [startOf, startOf, h.current]
  rw [hstart] at hdir
  exact ⟨hnull, hempty, hshort, hslash, name, hname, dir, h.foldlM_enter hdir,
    (h.place dir name).symm.trans hplace⟩

/-- **A path leads to the same place** wherever the directories are the
same. -/
theorem SameTree.locate_iff (h : SameTree fs fs') (path : String) (l : Location) :
    fs.locate path = .ok l ↔ fs'.locate path = .ok l :=
  ⟨h.locate, h.symm.locate⟩

/-- **What is read through a path stays as it is** if the file there
does. -/
theorem SameTree.read?_eq {path : String} (h : SameTree fs fs')
    (hcontent : ∀ l, fs.locate path = .ok l → fs'.content? l = fs.content? l) :
    fs'.read? path = fs.read? path := by
  unfold read?
  cases hl : fs.locate path with
  | ok l => rw [h.locate hl]; exact hcontent l hl
  | error fault =>
    cases hl' : fs'.locate path with
    | ok l => rw [h.symm.locate hl'] at hl; cases hl
    | error fault' => rfl

/-! ## Writing -/

/-- What a file holds when bytes have been written to it. -/
def written (mode : WriteMode) (old : Option ByteArray) (bytes : ByteArray) : ByteArray :=
  match mode with
  | .append => old.getD .empty ++ bytes
  | .overwrite => bytes

/-- What has been written is seen from what the file holds then. -/
theorem written_inj {mode : WriteMode} {old : Option ByteArray} {a b : ByteArray}
    (h : written mode old a = written mode old b) : a = b := by
  cases mode with
  | append => exact (ByteArray.append_right_inj _).1 h
  | overwrite => exact h

/-- Appending to what has been written is writing more at once. -/
theorem written_append (mode : WriteMode) (old : Option ByteArray) (a b : ByteArray) :
    written .append (some (written mode old a)) b = written mode old (a ++ b) := by
  cases mode with
  | append => exact ByteArray.append_assoc
  | overwrite => rfl

theorem write_of_locate {path : String} {l : Location} (h : fs.locate path = .ok l)
    (mode : WriteMode) (bytes : ByteArray) :
    fs.write path mode bytes = .ok (fs.put l (written mode (fs.content? l) bytes)) := by
  rw [write, h]
  cases mode <;> rfl

theorem write_of_fault {path : String} {fault : Fault} (h : fs.locate path = .error fault)
    (mode : WriteMode) (bytes : ByteArray) : fs.write path mode bytes = .error fault := by
  rw [write, h]
  rfl

end FileSystem

end TableStruct
