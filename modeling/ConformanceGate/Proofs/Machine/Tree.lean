import ConformanceGate.Proofs.Machine.Files
import ConformanceGate.Proofs.System.FileTree

/-!
# The machine keeps its tree

Making directories adds them where nothing stood (`Machine.Files.AddsDirectories`), and writing puts
a file in the place of nothing or of a file. So a machine on which nothing else runs and which has
no devices keeps its tree (`Machine.keepsTree`).
-/

namespace ConformanceGate.Machine

namespace Files

variable {fs fs' fs'' : Files} {cwd : List String} {path : String}

/-- Directories were added where nothing stood. -/
structure AddsDirectories (fs fs' : Files) : Prop where
  reaches : Extends fs fs'
  content : ∀ place, fs'.content? place = fs.content? place
  stays : ∀ place, (fs.at? place).isSome → (fs'.at? place).isSome

theorem AddsDirectories.refl (fs : Files) : AddsDirectories fs fs :=
  ⟨⟨fun _ => id, fun _ => rfl⟩, fun _ => rfl, fun _ => id⟩

theorem AddsDirectories.trans (first : AddsDirectories fs fs')
    (second : AddsDirectories fs' fs'') : AddsDirectories fs fs'' where
  reaches := ⟨fun place h => second.reaches.directories place (first.reaches.directories place h),
    fun place => (first.reaches.links place).trans (second.reaches.links place)⟩
  content place := (second.content place).trans (first.content place)
  stays place h := second.stays place (first.stays place h)

theorem addsDirectories_put {place : List String} (missing : fs.at? place = none) :
    AddsDirectories fs (fs.put place .directory) := by
  have inside : place ≠ [] := by
    rintro rfl
    simp [at?] at missing
  have entry : fs.entries.lookup place = none := by simpa [at?, inside] using missing
  refine ⟨⟨fun other h => ?_, fun other => ?_⟩, fun other => ?_, fun other h => ?_⟩
  · rw [at?_put fs inside]
    split_ifs
    · rfl
    · exact h
  · rw [linkAt?, linkAt?, lookup_put]
    split_ifs with same
    · rw [same, entry]
    · rfl
  · rw [content?, content?, at?_put fs inside]
    split_ifs with same
    · rw [same, missing]
    · rfl
  · rw [at?_put fs inside]
    split_ifs
    · rfl
    · exact h

theorem addsDirectories_makeDir (made : fs.makeDir cwd path = .ok fs') :
    AddsDirectories fs fs' := by
  obtain ⟨place, -, made⟩ := Except.bind_eq_ok.mp made
  split at made
  · cases made
  · rename_i missing
    obtain ⟨⟨⟩, -, made⟩ := Except.bind_eq_ok.mp made
    cases made
    exact addsDirectories_put missing

/-- Making directories along a path only adds directories. -/
theorem addsDirectories_makeDirs {fuel : Nat} (made : fs.makeDirs cwd fuel path = .ok fs') :
    AddsDirectories fs fs' := by
  induction fuel generalizing path fs' with
  | zero => cases made
  | succ fuel ih =>
    rw [makeDirs] at made
    by_cases empty : path.isEmpty
    · rw [if_pos empty] at made
      cases made
      exact .refl fs
    rw [if_neg empty] at made
    cases direct : fs.makeDir cwd path with
    | ok found =>
      rw [direct] at made
      cases made
      exact addsDirectories_makeDir direct
    | error e =>
      rw [direct] at made
      by_cases missing : e = .notFound
      · simp only [missing, if_true] at made
        split at made
        · cases made
        · obtain ⟨above, first, made⟩ := Except.bind_eq_ok.mp made
          have below := ih first
          split at made
          · rename_i last
            cases made
            exact below.trans (addsDirectories_makeDir last)
          · split_ifs at made
            cases made
            exact below
      · simp only [missing, if_false] at made
        split_ifs at made
        cases made
        exact .refl fs

/-- A path is there if it leads to a place at which something stands; a slash at its end asks for a
directory. -/
theorem isSome_find?_iff : (fs.find? cwd path).isSome ↔ ∃ place, fs.Leads cwd path place ∧
    (fs.at? place).isSome ∧ ((fs.content? place).isSome → asksDirectory path = false) := by
  have located : (fs.find? cwd path).isSome ↔
      ∃ place, fs.locate cwd path = .ok place ∧ (fs.at? place).isSome := by
    unfold find?
    cases fs.locate cwd path <;> simp
  rw [located]
  refine exists_congr fun place => ?_
  rw [locate_eq_ok_iff, and_assoc, and_comm (a := (fs.at? place).isSome)]

theorem AddsDirectories.isSome_find? (h : AddsDirectories fs fs')
    (there : (fs.find? cwd path).isSome) : (fs'.find? cwd path).isSome := by
  obtain ⟨place, leads, here, asks⟩ := isSome_find?_iff.mp there
  refine isSome_find?_iff.mpr ⟨place, leads.extends h.reaches, h.stays place here, ?_⟩
  rwa [h.content]

/-- A way that leads to something through a link at its end also leads to something, if only to that
link, without going through it. -/
theorem follow_of_through {fuel links : Nat} {place pieces found : List String}
    (ok : fs.follow true fuel links place pieces = .ok found) (here : (fs.at? found).isSome) :
    ∃ named, fs.follow false fuel links place pieces = .ok named ∧ (fs.at? named).isSome := by
  induction fuel generalizing links place pieces with
  | zero => simp [follow] at ok
  | succ fuel ih =>
    cases pieces with
    | nil =>
      obtain rfl := Except.ok.inj ok
      exact ⟨place, rfl, here⟩
    | cons piece rest =>
      rw [follow_cons] at ok ⊢
      by_cases empty : piece.isEmpty
      · rw [if_pos empty] at ok ⊢
        split_ifs at ok ⊢
        · obtain rfl := Except.ok.inj ok
          exact ⟨place, rfl, here⟩
        · exact ih ok
      · rw [if_neg empty, Except.bind_eq_ok] at ok
        obtain ⟨⟨⟩, entered, ok⟩ := ok
        rw [if_neg empty, entered]
        simp only [Except.bind]
        by_cases long : 255 < piece.utf8ByteSize
        · rw [if_pos long] at ok
          cases ok
        by_cases dot : piece = "."
        · rw [if_neg long, if_pos dot] at ok ⊢
          exact ih ok
        by_cases up : piece = ".."
        · rw [if_neg long, if_neg dot, if_pos up] at ok ⊢
          exact ih ok
        rw [if_neg long, if_neg dot, if_neg up] at ok ⊢
        cases link : fs.linkAt? (place ++ [piece]) with
        | none => exact ih (by simpa [link] using ok)
        | some target =>
          by_cases last : rest.isEmpty
          · have stands : (fs.at? (place ++ [piece])).isSome := by
              unfold linkAt? at link
              cases entry : fs.entries.lookup (place ++ [piece]) <;> simp_all [at?]
            exact ⟨_, by simp [last], stands⟩
          · cases links with
            | zero => simp [link] at ok
            | succ links =>
              simp only [link, Bool.not_true, Bool.and_false] at ok
              simp only [last, Bool.false_and]
              exact ih ok

/-- Where something is, no directory is made, and it is not for want of the ones above. -/
theorem makeDir_of_there (there : (fs.find? cwd path).isSome) :
    ∃ e, fs.makeDir cwd path = .error e ∧ e ≠ .notFound := by
  obtain ⟨place, leads, here, -⟩ := isSome_find?_iff.mp there
  obtain ⟨named, followed, stands⟩ := follow_of_through leads.follow here
  have long : ¬4096 ≤ path.utf8ByteSize := Nat.not_le.mpr leads.short
  obtain ⟨entry, stands⟩ := Option.isSome_iff_exists.mp stands
  unfold makeDir locateName locateBy
  simp only [leads.nonempty, leads.zero, long, followed, stands, if_false, bind, Except.bind]
  cases entry <;> cases asksDirectory path <;>
    simp [stands, pure, Except.pure, throw, throwThe, MonadExceptOf.throw] <;> decide

/-- Nothing is created where the path leads to something already. -/
theorem createDirs_of_there (there : (fs.find? cwd path).isSome)
    (made : fs.createDirs cwd path = .ok fs') : fs' = fs := by
  obtain ⟨e, refused, present⟩ := makeDir_of_there there
  simp only [createDirs, makeDirs, refused, present, if_false] at made
  split_ifs at made <;> exact (Except.ok.inj made).symm

theorem isSome_find?_write (plain : fs.Plain cwd) {path' : String} {bytes : ByteArray}
    (written : fs.write cwd path' bytes = .ok fs') (there : (fs.find? cwd path).isSome) :
    (fs'.find? cwd path).isSome := by
  obtain ⟨target, executable, leads', -, noDirectory, rfl⟩ := write_eq_ok plain written
  have noLink := leads'.ne_link plain
  have inside : target ≠ [] := by
    rintro rfl
    simp [at?] at noDirectory
  obtain ⟨place, leads, here, asks⟩ := isSome_find?_iff.mp there
  refine isSome_find?_iff.mpr ⟨place, leads.extends (alike_put noDirectory noLink).extends, ?_, ?_⟩
  · rw [at?_put fs inside]
    split_ifs
    · rfl
    · exact here
  · by_cases same : place = target
    · -- What stood there is neither a directory nor a link, so it was a file before.
      subst same
      refine fun _ => asks ?_
      obtain ⟨entry, here⟩ := Option.isSome_iff_exists.mp here
      cases entry with
      | directory => exact absurd here noDirectory
      | link path => exact absurd here (noLink path)
      | device full => exact absurd here (plain.noDevice place full)
      | _ => simp [content?, here]
    · rwa [content?, at?_put fs inside, if_neg same, ← content?]

end Files

/-! ## The machine -/

variable {m m' : Machine} {path : String}

/-- On a quiet machine a path is there if it leads to anything. -/
theorem there_eq (quiet : m.Quiet) (path : String) :
    Program.Host.there host m path = (m.files.find? m.directory path).isSome := by
  obtain ⟨time, eq⟩ := host_of_quiet quiet (.isThere path)
  rw [Program.Host.there, eq]
  rfl

theorem onward_of_same (quiet : m.Quiet) (quiet' : m'.Quiet) (files : m'.files = m.files)
    (directory : m'.directory = m.directory) : Onward host Quiet fileSystem m m' := by
  have same : m'.fileSystem = m.fileSystem := by
    simp only [fileSystem, files, directory]
  refine ⟨quiet', fun path there => ?_, fun path place led => by rwa [same]⟩
  rwa [there_eq quiet', files, directory, ← there_eq quiet]

/-- Making directories adds them, or none of them. -/
theorem addsDirectories_createDirs (quiet : m.Quiet) (path : String) :
    (host m (.createDirs path)).2.directory = m.directory ∧
      m.files.AddsDirectories (host m (.createDirs path)).2.files := by
  obtain ⟨time, eq⟩ := host_of_quiet quiet (.createDirs path)
  rw [eq]
  cases made : m.files.createDirs m.directory path with
  | error e =>
    simp only [reply, made]
    exact ⟨rfl, .refl m.files⟩
  | ok files =>
    simp only [reply, made]
    exact ⟨rfl, Files.addsDirectories_makeDirs made⟩

theorem onward_createDirs (quiet : m.Quiet) (path : String) :
    Onward host Quiet fileSystem m (host m (.createDirs path)).2 := by
  have quiet' := quiet.createDirs path
  obtain ⟨directory, adds⟩ := addsDirectories_createDirs quiet path
  refine ⟨quiet', fun path there => ?_, fun path place led => ?_⟩
  · rw [there_eq quiet', directory]
    exact adds.isSome_find? ((there_eq quiet path).symm.trans there)
  · obtain ⟨leads, here, asks⟩ := place?_eq_some_iff.mp led
    refine place?_eq_some_iff.mpr ⟨?_, by rwa [adds.content], asks⟩
    rw [directory]
    exact leads.extends adds.reaches

/-- Directories that are there already are not created again. -/
theorem files_createDirs_of_there (quiet : m.Quiet) {path : String}
    (there : Program.Host.there host m path = true) :
    (host m (.createDirs path)).2.fileSystem = m.fileSystem := by
  rw [there_eq quiet] at there
  obtain ⟨time, eq⟩ := host_of_quiet quiet (.createDirs path)
  rw [eq]
  cases made : m.files.createDirs m.directory path with
  | error e =>
    simp only [reply, made]
    rfl
  | ok files =>
    obtain rfl := Files.createDirs_of_there there made
    simp only [reply, made]
    rfl

/-- Writing a file succeeds, or changes no file. -/
theorem writeFile_cases (quiet : m.Quiet) (path text : String) :
    (host m (.writeFile path text)).2.directory = m.directory ∧
      ((host m (.writeFile path text)).2.files = m.files ∨
        (host m (.writeFile path text)).1 = Except.ok () ∧
        m.files.write m.directory path text.toUTF8 =
          .ok (host m (.writeFile path text)).2.files) := by
  obtain ⟨time, eq⟩ := host_of_quiet quiet (.writeFile path text)
  rw [eq]
  cases written : m.files.write m.directory path text.toUTF8 with
  | error e =>
    simp only [reply, written]
    exact ⟨rfl, .inl rfl⟩
  | ok files =>
    simp only [reply, written]
    exact ⟨rfl, .inr ⟨rfl, rfl⟩⟩

/-- Writing a file takes nothing away on a quiet machine, whether or not it succeeds. -/
theorem onward_writeFile (quiet : m.Quiet) (path text : String) :
    Onward host Quiet fileSystem m (host m (.writeFile path text)).2 := by
  have quiet' : (host m (.writeFile path text)).2.Quiet := keepsFiles.valid_write quiet
  obtain ⟨directory, failed | ⟨accepted, written⟩⟩ := writeFile_cases quiet path text
  · exact onward_of_same quiet quiet' failed directory
  · obtain ⟨target, wrote⟩ := keepsFiles.write quiet accepted
    refine ⟨quiet', fun path there => ?_, fun path place led => wrote.kept led⟩
    rw [there_eq quiet', directory]
    exact Files.isSome_find?_write quiet.plain written ((there_eq quiet path).symm.trans there)

/-- A quiet machine keeps its tree. -/
theorem keepsTree : KeepsTree host Quiet fileSystem where
  toKeepsFiles := keepsFiles
  onward := by
    intro m r quiet adds
    have plainly : ∀ m', m'.processes = m.processes → m'.files = m.files →
        m'.directory = m.directory → Onward host Quiet fileSystem m m' := by
      intro m' alone files directory
      refine onward_of_same quiet ⟨alone.trans quiet.alone, ?_⟩ files directory
      rw [files, directory]
      exact quiet.plain
    cases r with
    | isThere path =>
      obtain ⟨time, eq⟩ := host_of_quiet quiet (.isThere path)
      rw [eq]
      exact plainly _ rfl rfl rfl
    | print text =>
      obtain ⟨time, eq⟩ := host_of_quiet quiet (.print text)
      rw [eq]
      exact plainly _ rfl rfl rfl
    | createDirs path => exact onward_createDirs quiet path
    | writeFile path text => exact onward_writeFile quiet path text
    | _ => exact adds.elim
  there := by
    intro m path place quiet led
    obtain ⟨leads, here, asks⟩ := place?_eq_some_iff.mp led
    rw [there_eq quiet, Files.isSome_find?_iff]
    refine ⟨place, leads, ?_, fun _ => asks⟩
    unfold Files.content? at here
    cases entry : m.files.at? place <;> simp_all
  files_isThere := by
    intro m path quiet
    obtain ⟨time, eq⟩ := host_of_quiet quiet (.isThere path)
    rw [eq]
    rfl
  files_print := by
    intro m text quiet
    obtain ⟨time, eq⟩ := host_of_quiet quiet (.print text)
    rw [eq]
    rfl
  bytes_createDirs := by
    intro m path quiet
    simp only [fileSystem, (addsDirectories_createDirs quiet path).2.content]
  bytes_writeFile := by
    intro m path text place quiet elsewhere
    obtain ⟨-, failed | ⟨accepted, -⟩⟩ := writeFile_cases quiet path text
    · simp only [fileSystem, failed]
    · obtain ⟨target, wrote⟩ := keepsFiles.write quiet accepted
      have other : place ≠ target := by
        rintro rfl
        exact elsewhere wrote.leads
      exact wrote.others place other
  files_createDirs quiet there := files_createDirs_of_there quiet there
  bytes_writeFile_new := by
    intro m path text path' place quiet missing led
    obtain ⟨-, failed | ⟨-, written⟩⟩ := writeFile_cases quiet path text
    · simp only [fileSystem, failed]
    · obtain ⟨found, executable, leads, asks, noDirectory, same⟩ :=
        Files.write_eq_ok quiet.plain written
      have inside : found ≠ [] := by
        rintro rfl
        simp [Files.at?] at noDirectory
      obtain ⟨-, here, -⟩ := place?_eq_some_iff.mp led
      have other : place ≠ found := by
        rintro rfl
        rw [place?_eq_some_iff.mpr ⟨leads, here, asks⟩] at missing
        cases missing
      simp only [fileSystem, same, Files.content?, Files.at?_put m.files inside, if_neg other]

end ConformanceGate.Machine
