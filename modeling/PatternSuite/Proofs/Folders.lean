import Mathlib.Data.List.Basic
import PatternSuite.Command.Run

/-!
# Files that are opened and written

Opening a file to read it changes nothing. Opening one to write it empties that file and no other,
and so a report, whether it is written at once or piece by piece, is all that the file holds
afterwards. Names that take a way round through another folder lead to the same file.

* `go_go_up`, `resolve_upsFirst`: where the steps of a name lead.
* `content?_write_self`, `content?_write_of_ne`, `write_write`: what is in the files after a write.
* `Surroundings.held`: what a file or the standard input holds.
* `Surroundings.reported`: what is left when a report has been written.
* `held_reported_of_same`, `held_reported_of_other`: what an input holds then.
* `openInput_cases`, `openOutput_cases`: what can be opened.
-/

namespace PatternSuite

open Text

namespace Folder

variable {f f' : Folder} {path other : Path} {name : String}

/-- **A step down and up again leads back.** -/
theorem go_go_up (p : Path) {step : String} (hup : step ≠ "..") (hroot : step ≠ "/") :
    go (go p step) ".." = p := by
  simp [go, hup, hroot]

example : resolve "sub/../l" = resolve "./l" := by decide

/-- No step upwards stands behind one that leads down. -/
def UpsFirst (p : Path) : Prop := p.Pairwise fun a b => b = ".." → a = ".."

theorem UpsFirst.go {p : Path} (h : UpsFirst p) (step : String) : UpsFirst (Folder.go p step) := by
  unfold Folder.go
  split
  · split
    · exact List.pairwise_singleton ..
    · next last hlast =>
      obtain ⟨front, rfl⟩ := List.getLast?_eq_some_iff.1 hlast
      split
      · next hup =>
        -- a path that ends upwards only leads upwards
        refine List.pairwise_append.2 ⟨h, List.pairwise_singleton .., fun a ha b _ _ => ?_⟩
        rcases List.mem_append.1 ha with ha | ha
        · exact (List.pairwise_append.1 h).2.2 a ha last (List.mem_singleton_self _) hup
        · exact (List.mem_singleton.1 ha).trans hup
      · split
        · exact h
        · exact h.sublist (List.dropLast_sublist _)
  · next hdown =>
    refine List.pairwise_append.2 ⟨h, List.pairwise_singleton .., fun a _ b hb hup => ?_⟩
    exact absurd ((List.mem_singleton.1 hb).symm.trans hup) hdown

theorem UpsFirst.goAll {p : Path} (h : UpsFirst p) (steps : List String) :
    UpsFirst (steps.foldl Folder.go p) := by
  induction steps generalizing p with
  | nil => exact h
  | cons step steps ih => exact ih (h.go step)

/-- **A path leads upwards first, and then down.** -/
theorem resolve_upsFirst (name : String) : UpsFirst (resolve name) :=
  UpsFirst.goAll List.Pairwise.nil (steps name)

/-- A write changes entries of its path only, and leaves the paths of all entries. -/
theorem fst_overwritten (path : Path) (bytes : List UInt8) (e : Path × List UInt8) :
    (if e.1 == path then (path, bytes) else e).1 = e.1 := by
  split
  · next h => exact (beq_iff_eq.1 h).symm
  · rfl

/-- There is no file that has not been found. -/
theorem fst_ne_of_content?_none (h : f.content? path = none) {e : Path × List UInt8}
    (he : e ∈ f.files) : e.1 ≠ path := by
  rw [content?, Option.map_eq_none_iff, List.find?_eq_none] at h
  exact fun hpath => h e he (beq_iff_eq.2 hpath)

theorem content?_write_self (f : Folder) (path : Path) (bytes : List UInt8) :
    (f.write path bytes).content? path = some bytes := by
  unfold write
  split
  · next h =>
    obtain ⟨old, hold⟩ := Option.isSome_iff_exists.1 h
    obtain ⟨e, he, -⟩ := Option.map_eq_some_iff.1 hold
    have hpath : (e.1 == path) = true :=
      List.find?_some (p := fun e : Path × List UInt8 => e.1 == path) he
    simp only [content?, List.find?_map, Function.comp_def, fst_overwritten, he, Option.map_some,
      hpath, if_true]
  · next h =>
    have hnone : f.files.find? (fun e => e.1 == path) = none :=
      Option.map_eq_none_iff.1 (Option.not_isSome_iff_eq_none.1 h)
    simp [content?, List.find?_append, hnone]

theorem content?_write_of_ne (f : Folder) (h : other ≠ path) (bytes : List UInt8) :
    (f.write path bytes).content? other = f.content? other := by
  unfold write
  split
  · simp only [content?, List.find?_map, Function.comp_def, fst_overwritten, Option.map_map]
    cases hfind : f.files.find? (fun e => e.1 == other) with
    | none => rfl
    | some e =>
      have hother : e.1 = other := by simpa using List.find?_some hfind
      simp [hother, h]
  · have hpath : (path == other) = false := by simpa using h.symm
    simp [content?, List.find?_append, hpath]

/-- Only the last write to a file counts. -/
theorem write_write (f : Folder) (path : Path) (a b : List UInt8) :
    (f.write path a).write path b = f.write path b := by
  have hsome : ((f.write path a).content? path).isSome := by
    rw [content?_write_self]
    rfl
  rw [write, if_pos hsome]
  unfold write
  split
  · simp only [List.map_map, Function.comp_def, fst_overwritten]
    congr 1
    refine List.map_congr_left fun e _ => ?_
    split <;> rfl
  · next h =>
    have hsame : f.files.map (fun e => if e.1 == path then (path, b) else e) = f.files := by
      refine (List.map_congr_left fun e he => ?_).trans (List.map_id _)
      have hne := fst_ne_of_content?_none (Option.not_isSome_iff_eq_none.1 h) he
      simp [hne]
    rw [List.map_append, hsame]
    simp

theorem path_of_locate (h : f.locate name = .ok path) : path = resolve name := by
  unfold locate at h
  split_ifs at h
  cases hwalk : f.walk [] (steps name) with
  | error e =>
    rw [hwalk] at h
    cases h
  | ok u =>
    rw [hwalk] at h
    exact (Except.ok.inj h).symm

/-- A file that is opened to be read is there; a folder is one. -/
theorem openFile_cases {o : Opened} (h : f.openFile name = .ok o) :
    (o = .file (resolve name) ∧ (f.content? (resolve name)).isSome) ∨
      (o = .folder ∧ f.isFolder (resolve name)) := by
  unfold openFile at h
  cases hpath : f.locate name with
  | error fault =>
    rw [hpath] at h
    cases h
  | ok path =>
    obtain rfl := path_of_locate hpath
    rw [hpath] at h
    simp only [bind, Except.bind] at h
    split at h
    · next hfolder => exact .inr ⟨(Except.ok.inj h).symm, hfolder⟩
    split at h
    · next hfile =>
      split at h
      · cases h
      · exact .inl ⟨(Except.ok.inj h).symm, hfile⟩
    · cases h

/-- A file that is opened to be written is empty then, and is no folder. -/
theorem create_cases (h : f.create name = .ok (path, f')) :
    path = resolve name ∧ f' = f.write path [] ∧ f.isFolder path = false := by
  unfold create at h
  cases hpath : f.locate name with
  | error fault =>
    rw [hpath] at h
    cases h
  | ok path =>
    obtain rfl := path_of_locate hpath
    rw [hpath] at h
    simp only [bind, Except.bind] at h
    split at h
    · cases h
    · next hfolder =>
      obtain ⟨rfl, rfl⟩ := Prod.mk.inj (Except.ok.inj h)
      simp only [Bool.or_eq_true, not_or] at hfolder
      exact ⟨rfl, rfl, by simpa using hfolder.1⟩

end Folder

/-! ## Inputs and outputs -/

namespace Surroundings

variable {s s' : Surroundings} {name input output : Option String} {path : Path}

/-- The path of a file that is named as an input or output. A standard stream has none. -/
def filePath? (name : Option String) : Option Path := (fileName? name).map Folder.resolve

/-- What an input holds. -/
def held (s : Surroundings) (input : Option String) : Option (List UInt8) :=
  match filePath? input with
  | none => some s.input
  | some path => s.folder.content? path

/-- What there is when a report has been written: all that is in a file then, but not all that was
ever written to the standard output. -/
def reported (s : Surroundings) (output : Option String) (text : String) : Surroundings :=
  match filePath? output with
  | none => { s with output := s.output ++ text }
  | some path => { s with folder := s.folder.write path (textBytes text) }

theorem content?_reported_self (h : filePath? output = some path) (text : String) :
    (s.reported output text).folder.content? path = some (textBytes text) := by
  rw [reported, h]
  exact Folder.content?_write_self s.folder path _

/-- **A report changes no other file.** -/
theorem content?_reported_of_ne (h : filePath? output ≠ some path) (text : String) :
    (s.reported output text).folder.content? path = s.folder.content? path := by
  unfold reported
  split
  · rfl
  · next out hout =>
    refine Folder.content?_write_of_ne s.folder ?_ _
    rintro rfl
    exact h hout

/-- An input and an output that are one file. -/
def SameFile (input output : Option String) : Prop :=
  ∃ path, filePath? input = some path ∧ filePath? output = some path

/-- An input that is the file of the report holds the report. -/
theorem held_reported_of_same (h : SameFile input output) (text : String) :
    (s.reported output text).held input = some (textBytes text) := by
  obtain ⟨path, hin, hout⟩ := h
  rw [held, hin]
  exact content?_reported_self hout text

/-- **Any other input holds what it held.** -/
theorem held_reported_of_other (h : ¬ SameFile input output) (text : String) :
    (s.reported output text).held input = s.held input := by
  cases hin : filePath? input with
  | none =>
    simp only [held, hin, reported]
    cases filePath? output <;> rfl
  | some path =>
    simp only [held, hin]
    exact content?_reported_of_ne (fun hout => h ⟨path, hin, hout⟩) text

/-- **What can be opened to be read**: a folder, or an input that holds something. -/
theorem openInput_cases {source : InputStream} (h : s.openInput input = .ok source) :
    source = .opened .folder ∨
      (s.held input).isSome ∧
        ∀ (v : Surroundings) bytes, v.held input = some bytes → v.readAll source = .ok bytes := by
  unfold openInput at h
  unfold held filePath?
  cases hname : fileName? input with
  | none =>
    rw [hname] at h
    obtain rfl := Except.ok.inj h
    exact .inr ⟨rfl, fun v bytes hheld => congrArg Except.ok (Option.some.inj hheld)⟩
  | some name =>
    rw [hname] at h
    cases hopen : s.folder.openFile name with
    | error fault => simp [hopen] at h
    | ok o =>
      simp only [hopen, Except.ok.injEq] at h
      subst h
      rcases Folder.openFile_cases hopen with ⟨rfl, hsome⟩ | ⟨rfl, -⟩
      · refine .inr ⟨hsome, fun v bytes hheld => ?_⟩
        have hcontent : v.folder.content? (Folder.resolve name) = some bytes := hheld
        simp [readAll, Folder.read, hcontent, Except.mapError]
      · exact .inl rfl

/-- **What can be opened to be written** is empty then. -/
theorem openOutput_cases {out : OutputStream} (h : s.openOutput output = .ok (out, s')) :
    s' = s.reported output "" ∧ ∀ text, s'.write text out = s.reported output text := by
  unfold openOutput at h
  unfold reported filePath?
  cases hname : fileName? output with
  | none =>
    rw [hname] at h
    obtain ⟨rfl, rfl⟩ := Prod.mk.inj (Except.ok.inj h)
    exact ⟨by simp, fun text => rfl⟩
  | some name =>
    rw [hname] at h
    rcases hcreate : s.folder.create name with fault | ⟨path, f'⟩
    · simp [hcreate] at h
    · simp only [hcreate, Except.ok.injEq, Prod.mk.injEq] at h
      obtain ⟨rfl, rfl⟩ := h
      obtain ⟨rfl, rfl, -⟩ := Folder.create_cases hcreate
      refine ⟨rfl, fun text => ?_⟩
      simp only [write, Option.map_some, Folder.write_write]

end Surroundings

end PatternSuite
