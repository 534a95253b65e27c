import ConformanceGate.Machine.Host
import ConformanceGate.Proofs.Except
import ConformanceGate.Proofs.System.FileSystem

/-!
# The machine keeps its files

Paths lead where they led when directories are added to a tree (`Machine.Files.follow_extends`), and
writing a file changes neither directories nor links. A machine on which nothing else runs and which
has no devices keeps its files (`Machine.keepsFiles`), and stays such a machine when directories are
made.
-/

namespace ConformanceGate.Machine

namespace Files

/-! ## Entries -/

theorem lookup_replace (entries : List (List String × Entry)) (place other : List String)
    (entry : Entry) :
    (entries.map fun e => if e.1 = place then (place, entry) else e).lookup other =
      if other = place then (entries.lookup place).map fun _ => entry
      else entries.lookup other := by
  induction entries with
  | nil => simp
  | cons e rest ih =>
    obtain ⟨k, old⟩ := e
    by_cases hk : k = place
    · subst hk
      by_cases h : other = k <;> simp [List.lookup_cons, h, ih, beq_eq_false_iff_ne.mpr]
    · by_cases h : other = place
      · subst h
        simp [List.lookup_cons, hk, ih, beq_eq_false_iff_ne.mpr (Ne.symm hk)]
      · simp [List.lookup_cons, hk, h, ih]

theorem lookup_put (fs : Files) (place other : List String) (entry : Entry) :
    (fs.put place entry).entries.lookup other =
      if other = place then some entry else fs.entries.lookup other := by
  unfold put
  split
  · rename_i there
    obtain ⟨old, there⟩ := Option.isSome_iff_exists.mp there
    simp [lookup_replace, there]
  · rename_i missing
    rw [Option.not_isSome_iff_eq_none] at missing
    by_cases h : other = place
    · simp [List.lookup_append, h, missing]
    · simp [List.lookup_append, h, List.lookup_cons, beq_eq_false_iff_ne.mpr h]

/-- What was put stands at its place, and nothing else has moved. -/
theorem at?_put (fs : Files) {place : List String} (h : place ≠ []) (other : List String)
    (entry : Entry) :
    (fs.put place entry).at? other = if other = place then some entry else fs.at? other := by
  by_cases same : other = place <;> by_cases root : other = [] <;>
    simp_all [at?, lookup_put]

def linkAt? (fs : Files) (place : List String) : Option String :=
  match fs.entries.lookup place with
  | some (.link target) => some target
  | _ => none

/-! ## Following paths -/

/-- What is a directory in the first tree is one in the second, and the same links stand in both. -/
structure Extends (fs fs' : Files) : Prop where
  directories : ∀ place, fs.at? place = some .directory → fs'.at? place = some .directory
  links : ∀ place, fs.linkAt? place = fs'.linkAt? place

/-- The same places are directories, and the same links stand, in both trees. -/
structure Alike (fs fs' : Files) : Prop where
  directories : ∀ place, fs.at? place = some .directory ↔ fs'.at? place = some .directory
  links : ∀ place, fs.linkAt? place = fs'.linkAt? place

variable {fs fs' : Files}

theorem Alike.symm (h : Alike fs fs') : Alike fs' fs :=
  ⟨fun place => (h.directories place).symm, fun place => (h.links place).symm⟩

theorem Alike.extends (h : Alike fs fs') : Extends fs fs' :=
  ⟨fun place => (h.directories place).mp, h.links⟩

theorem enter_eq_ok_iff {place : List String} :
    fs.enter place = .ok () ↔ fs.at? place = some .directory := by
  unfold enter
  split <;> simp_all

theorem follow_cons (fs : Files) (throughLast : Bool) (fuel links : Nat) (place : List String)
    (piece : String) (rest : List String) :
    fs.follow throughLast (fuel + 1) links place (piece :: rest) =
      if piece.isEmpty then
        if rest.isEmpty then .ok place else fs.follow throughLast fuel links place rest
      else (fs.enter place).bind fun _ =>
        if 255 < piece.utf8ByteSize then .error .nameTooLong
        else if piece = "." then fs.follow throughLast fuel links place rest
        else if piece = ".." then fs.follow throughLast fuel links place.dropLast rest
        else match fs.linkAt? (place ++ [piece]) with
          | none => fs.follow throughLast fuel links (place ++ [piece]) rest
          | some target =>
            if rest.isEmpty && !throughLast then .ok (place ++ [piece])
            else match links with
              | 0 => .error .tooManyLinks
              | links + 1 => fs.follow throughLast fuel links
                (if Path.isAbsolute target then [] else place) (Path.pieces target ++ rest) := by
  rw [follow]
  by_cases empty : piece.isEmpty
  · rw [if_pos empty, if_pos empty]
  · rw [if_neg empty, if_neg empty]
    cases fs.enter place with
    | error e => rfl
    | ok _ =>
      simp only [bind, Except.bind]
      split_ifs
      any_goals rfl
      all_goals
        unfold linkAt?
        cases fs.entries.lookup (place ++ [piece]) with
        | none => rfl
        | some entry => cases entry <;> rfl

/-- A path leads to the same place when directories are added. -/
theorem follow_extends (h : Extends fs fs') {throughLast : Bool} {fuel links : Nat}
    {place pieces found : List String}
    (ok : fs.follow throughLast fuel links place pieces = .ok found) :
    fs'.follow throughLast fuel links place pieces = .ok found := by
  induction fuel generalizing links place pieces with
  | zero => simp [follow] at ok
  | succ fuel ih =>
    cases pieces with
    | nil => simpa [follow] using ok
    | cons piece rest =>
      rw [follow_cons] at ok ⊢
      rw [← h.links]
      by_cases empty : piece.isEmpty
      · rw [if_pos empty] at ok ⊢
        split_ifs at ok ⊢
        · exact ok
        · exact ih ok
      · rw [if_neg empty, Except.bind_eq_ok] at ok ⊢
        obtain ⟨⟨⟩, entered, ok⟩ := ok
        refine ⟨(), enter_eq_ok_iff.mpr (h.directories _ (enter_eq_ok_iff.mp entered)), ?_⟩
        split_ifs at ok ⊢
        · exact ih ok
        · exact ih ok
        · cases link : fs.linkAt? (place ++ [piece]) with
          | none => exact ih (by simpa [link] using ok)
          | some target => simpa [link] using ok
        · cases link : fs.linkAt? (place ++ [piece]) with
          | none => exact ih (by simpa [link] using ok)
          | some target =>
            cases links with
            | zero => simp [link] at ok
            | succ links => exact ih (by simpa [link] using ok)

/-- There are no devices, no directory stands below a link, and the current directory is no link. -/
structure Plain (fs : Files) (cwd : List String) : Prop where
  noDevice : ∀ place full, fs.at? place ≠ some (.device full)
  upwards : ∀ place target, fs.at? place = some .directory →
    fs.at? place.dropLast ≠ some (.link target)
  start : ∀ target, fs.at? cwd ≠ some (.link target)

/-- Following a path that starts at no link ends at none. -/
theorem follow_ne_link {cwd : List String} (plain : fs.Plain cwd) {fuel links : Nat}
    {place pieces found : List String} (start : ∀ target, fs.at? place ≠ some (.link target))
    (ok : fs.follow true fuel links place pieces = .ok found) (target : String) :
    fs.at? found ≠ some (.link target) := by
  induction fuel generalizing links place pieces with
  | zero => simp [follow] at ok
  | succ fuel ih =>
    cases pieces with
    | nil =>
      obtain rfl := Except.ok.inj ok
      exact start target
    | cons piece rest =>
      rw [follow_cons] at ok
      by_cases empty : piece.isEmpty
      · rw [if_pos empty] at ok
        split_ifs at ok
        · obtain rfl := Except.ok.inj ok
          exact start target
        · exact ih start ok
      · rw [if_neg empty, Except.bind_eq_ok] at ok
        obtain ⟨⟨⟩, entered, ok⟩ := ok
        split_ifs at ok
        · exact ih start ok
        · -- One level up: what was entered is a directory, so it stands below no link.
          exact ih (fun target => plain.upwards place target (enter_eq_ok_iff.mp entered)) ok
        · simp_all
        · cases link : fs.linkAt? (place ++ [piece]) with
          | none =>
            refine ih (fun target here => ?_) (by simpa [link] using ok)
            simp_all [at?, linkAt?]
          | some path =>
            cases links with
            | zero => simp [link] at ok
            | succ links =>
              -- The link is followed from the root or from the directory in which it stands.
              simp only [link] at ok
              refine ih (fun target => ?_) ok
              split_ifs
              · simp [at?]
              · exact start target

/-! ## Reading and writing -/

/-- The path leads to the place, whatever stands there. -/
structure Leads (fs : Files) (cwd : List String) (path : String) (place : List String) :
    Prop where
  nonempty : path.isEmpty = false
  zero : '\x00' ∉ path.toList
  short : path.utf8ByteSize < 4096
  follow : fs.follow true 1000000 linkLimit (if Path.isAbsolute path then [] else cwd)
    (Path.pieces path) = .ok place

def content? (fs : Files) (place : List String) : Option ByteArray :=
  match fs.at? place with
  | some (.file bytes _) => some bytes
  | some (.program _) | some (.device _) => some .empty
  | _ => none

/-- A path is located where it leads, unless it asks for a directory and leads to a file. -/
theorem locate_eq_ok_iff {cwd : List String} {path : String} {place : List String} :
    fs.locate cwd path = .ok place ↔
      fs.Leads cwd path place ∧ ((fs.content? place).isSome → asksDirectory path = false) := by
  unfold locate locateBy
  by_cases empty : path.isEmpty
  · simp only [empty, if_true]
    exact ⟨nofun, fun h => by simp [h.1.nonempty] at empty⟩
  by_cases zero : '\x00' ∈ path.toList
  · simp only [empty, zero, if_true]
    exact ⟨nofun, fun h => absurd zero h.1.zero⟩
  by_cases long : 4096 ≤ path.utf8ByteSize
  · simp only [empty, zero, long, if_true, if_false]
    exact ⟨nofun, fun h => absurd long (Nat.not_le.mpr h.1.short)⟩
  simp only [empty, zero, long, if_false]
  cases followed : fs.follow true 1000000 linkLimit (if Path.isAbsolute path then [] else cwd)
      (Path.pieces path) with
  | error e =>
    exact ⟨nofun, fun h => nomatch followed.symm.trans h.1.follow⟩
  | ok found =>
    have leads : fs.Leads cwd path place ↔ found = place :=
      ⟨fun h => Except.ok.inj (followed.symm.trans h.follow),
        fun h => ⟨by simpa using empty, zero, by omega, h ▸ followed⟩⟩
    have there : found = place ∧ ((fs.content? place).isSome → asksDirectory path = false) ↔
        found = place ∧ ((fs.content? found).isSome → asksDirectory path = false) :=
      and_congr_right (by rintro rfl; rfl)
    rw [leads, there]
    cases here : fs.at? found with
    | none => simp [bind, Except.bind, pure, Except.pure, content?, here]
    | some entry =>
      cases entry <;> cases asks : asksDirectory path <;>
        simp [bind, Except.bind, pure, Except.pure, throw, throwThe, MonadExceptOf.throw, content?,
          here]

theorem Leads.extends {cwd : List String} {path : String} {place : List String}
    (h : Extends fs fs') (leads : fs.Leads cwd path place) : fs'.Leads cwd path place :=
  ⟨leads.nonempty, leads.zero, leads.short, follow_extends h leads.follow⟩

/-- A text is read exactly if the path is located at a file that holds it in UTF-8. -/
theorem readText_eq_ok_iff {cwd : List String} {path text : String} :
    fs.readText cwd path = .ok text ↔ ∃ place bytes, fs.locate cwd path = .ok place ∧
      fs.content? place = some bytes ∧ String.fromUTF8? bytes = some text := by
  have bytes {place : List String} {bytes : ByteArray} (h : fs.locate cwd path = .ok place) :
      fs.readBytes cwd path = .ok bytes ↔ fs.content? place = some bytes := by
    simp only [readBytes, h, bind, Except.bind, content?]
    split <;> simp_all
  unfold readText
  cases located : fs.locate cwd path with
  | error e => simp [readBytes, located, bind, Except.bind]
  | ok place =>
    simp only [bind, Except.bind_eq_ok, bytes located, Except.ok.injEq, exists_and_left,
      exists_eq_left']
    refine exists_congr fun bytes => and_congr_right fun _ => ?_
    split <;> simp_all

theorem Leads.ne_link {cwd : List String} {path : String} {place : List String}
    (plain : fs.Plain cwd) (leads : fs.Leads cwd path place) (target : String) :
    fs.at? place ≠ some (.link target) := by
  refine follow_ne_link plain (fun target => ?_) leads.follow target
  split_ifs
  · simp [at?]
  · exact plain.start target

/-- A write puts one file, where its path leads and no directory stands. -/
theorem write_eq_ok {cwd : List String} (plain : fs.Plain cwd) {path : String}
    {bytes : ByteArray} (h : fs.write cwd path bytes = .ok fs') :
    ∃ place executable, fs.Leads cwd path place ∧ asksDirectory path = false ∧
      fs.at? place ≠ some .directory ∧ fs' = fs.put place (.file bytes executable) := by
  simp only [write, bind, Except.bind_eq_ok] at h
  obtain ⟨place, located, h⟩ := h
  obtain ⟨leads, asks⟩ := locate_eq_ok_iff.mp located
  have noLink := leads.ne_link plain
  refine ⟨place, ?_⟩
  cases here : fs.at? place with
  | none =>
    simp only [here, Except.bind_eq_ok] at h
    obtain ⟨-, -, h⟩ := h
    split_ifs at h with slash
    exact ⟨false, leads, by simpa using slash, by simp, (Except.ok.inj h).symm⟩
  | some entry =>
    cases entry with
    | directory => simp [here] at h
    | file old executable =>
      simp only [here, Except.ok.injEq] at h
      exact ⟨executable, leads, asks (by simp [content?, here]), by simp, h.symm⟩
    | program name =>
      simp only [here, Except.ok.injEq] at h
      exact ⟨false, leads, asks (by simp [content?, here]), by simp, h.symm⟩
    | link target => exact absurd here (noLink target)
    | device full => exact absurd here (plain.noDevice place full)

/-- Directories and links stay where they are when a file is put in the place of neither. -/
theorem alike_put {place : List String} {bytes : ByteArray} {executable : Bool}
    (noDirectory : fs.at? place ≠ some .directory)
    (noLink : ∀ target, fs.at? place ≠ some (.link target)) :
    Alike fs (fs.put place (.file bytes executable)) := by
  have inside : place ≠ [] := by
    rintro rfl
    simp [at?] at noDirectory
  constructor
  · intro other
    rw [at?_put fs inside]
    split_ifs with same
    · simp [same, noDirectory]
    · rfl
  · intro other
    unfold linkAt?
    rw [lookup_put]
    split_ifs with same
    · subst same
      cases here : fs.entries.lookup other with
      | none => rfl
      | some entry =>
        cases entry with
        | link target => exact absurd (by simp [at?, inside, here]) (noLink target)
        | _ => rfl
    · rfl

theorem Plain.put {cwd place : List String} (plain : fs.Plain cwd) {bytes : ByteArray}
    {executable : Bool} (noDirectory : fs.at? place ≠ some .directory) :
    (fs.put place (.file bytes executable)).Plain cwd := by
  have inside : place ≠ [] := by
    rintro rfl
    simp [at?] at noDirectory
  constructor
  · intro other full
    rw [at?_put fs inside]
    split_ifs
    · simp
    · exact plain.noDevice other full
  · intro other target
    rw [at?_put fs inside, at?_put fs inside]
    split_ifs
    · simp
    · simp
    · simp
    · exact plain.upwards other target
  · intro target
    rw [at?_put fs inside]
    split_ifs
    · simp
    · exact plain.start target

/-! ## Making directories -/

/-- A directory that is put into another one leaves the files plain. -/
theorem Plain.put_directory {cwd place : List String} (plain : fs.Plain cwd)
    (missing : fs.at? place = none) (above : fs.at? place.dropLast = some .directory) :
    (fs.put place .directory).Plain cwd := by
  have inside : place ≠ [] := by
    rintro rfl
    simp [at?] at missing
  constructor
  · intro other full
    rw [at?_put fs inside]
    split_ifs
    · simp
    · exact plain.noDevice other full
  · intro other target there
    rw [at?_put fs inside] at there ⊢
    split_ifs with below
    · simp
    · split_ifs at there with same
      · simp [same, above]
      · exact plain.upwards other target there
  · intro target
    rw [at?_put fs inside]
    split_ifs
    · simp
    · exact plain.start target

theorem Plain.makeDir {cwd : List String} {path : String} (plain : fs.Plain cwd)
    (made : fs.makeDir cwd path = .ok fs') : fs'.Plain cwd := by
  obtain ⟨place, -, made⟩ := Except.bind_eq_ok.mp made
  split at made
  · cases made
  · rename_i missing
    obtain ⟨⟨⟩, entered, made⟩ := Except.bind_eq_ok.mp made
    cases made
    exact plain.put_directory missing (enter_eq_ok_iff.mp entered)

/-- However many directories are made, the files stay plain. -/
theorem Plain.makeDirs {fuel : Nat} {cwd : List String} {path : String} (plain : fs.Plain cwd)
    (made : fs.makeDirs cwd fuel path = .ok fs') : fs'.Plain cwd := by
  induction fuel generalizing path fs' with
  | zero => cases made
  | succ fuel ih =>
    rw [Files.makeDirs] at made
    by_cases empty : path.isEmpty
    · rw [if_pos empty] at made
      cases made
      exact plain
    rw [if_neg empty] at made
    cases direct : fs.makeDir cwd path with
    | ok found =>
      rw [direct] at made
      cases made
      exact plain.makeDir direct
    | error e =>
      rw [direct] at made
      by_cases missing : e = .notFound
      · simp only [missing, if_true] at made
        split at made
        · cases made
        · obtain ⟨above, first, made⟩ := Except.bind_eq_ok.mp made
          have plain' := ih first
          split at made
          · rename_i last
            cases made
            exact plain'.makeDir last
          · split_ifs at made
            cases made
            exact plain'
      · simp only [missing, if_false] at made
        split_ifs at made
        cases made
        exact plain

end Files

/-! ## The machine -/

/-- The files of a machine, as its own program sees them. -/
def fileSystem (m : Machine) : FileSystem (List String) where
  place? path :=
    match m.files.locate m.directory path with
    | .ok place => if (m.files.content? place).isSome then some place else none
    | .error _ => none
  bytes place := (m.files.content? place).getD .empty

/-- Nothing else runs on the machine, and its files are plain. -/
structure Quiet (m : Machine) : Prop where
  alone : m.processes = []
  plain : m.files.Plain m.directory

/-- A path has a place exactly if it leads there and a file is there. -/
theorem place?_eq_some_iff {m : Machine} {path : String} {place : List String} :
    m.fileSystem.place? path = some place ↔ m.files.Leads m.directory path place ∧
      (m.files.content? place).isSome ∧ Files.asksDirectory path = false := by
  simp only [fileSystem]
  constructor
  · intro h
    split at h
    · rename_i found located
      obtain ⟨leads, asks⟩ := Files.locate_eq_ok_iff.mp located
      split_ifs at h with there
      obtain rfl := Option.some.inj h
      exact ⟨leads, there, asks there⟩
    · cases h
  · rintro ⟨leads, there, asks⟩
    rw [Files.locate_eq_ok_iff.mpr ⟨leads, fun _ => asks⟩]
    exact if_pos there

theorem readText_eq_ok_iff {m : Machine} {path text : String} :
    m.files.readText m.directory path = .ok text ↔ m.fileSystem.text? path = some text := by
  rw [Files.readText_eq_ok_iff]
  simp only [FileSystem.text?, Option.bind_eq_some_iff, fileSystem]
  constructor
  · rintro ⟨place, bytes, located, content, decoded⟩
    exact ⟨place, by simp [located, content], by simpa [content] using decoded⟩
  · rintro ⟨place, found, decoded⟩
    split at found
    · rename_i place' located
      split_ifs at found with there
      obtain rfl := Option.some.inj found
      obtain ⟨bytes, content⟩ := Option.isSome_iff_exists.mp there
      exact ⟨place', bytes, located, content, by simpa [content] using decoded⟩
    · cases found

theorem elapse_of_alone {m : Machine} (alone : m.processes = []) (duration : Nat) :
    ∃ time, m.elapse duration = { m with clock := time } := by
  have none : m.nextProcess? = none := by simp [nextProcess?, alone]
  exact ⟨max m.clock (m.clock + duration), by
    rw [elapse, stepsIn, Nat.add_comm, runUntil, none]⟩

/-- Putting a file where a path leads writes it in the sense of the file system. -/
theorem wrote_put {m : Machine} (quiet : m.Quiet) {path text : String} {place : List String}
    (leads : m.files.Leads m.directory path place) (asks : Files.asksDirectory path = false)
    (noDirectory : m.files.at? place ≠ some .directory) (executable : Bool) :
    FileSystem.Wrote path text place m.fileSystem
      { m with files := m.files.put place (.file text.toUTF8 executable) }.fileSystem := by
  have inside : place ≠ [] := by
    rintro rfl
    simp [Files.at?] at noDirectory
  have alike : m.files.Alike (m.files.put place (.file text.toUTF8 executable)) :=
    Files.alike_put noDirectory (leads.ne_link quiet.plain)
  have content (other : List String) :
      (m.files.put place (.file text.toUTF8 executable)).content? other =
        if other = place then some text.toUTF8 else m.files.content? other := by
    simp only [Files.content?, Files.at?_put m.files inside]
    split_ifs <;> rfl
  constructor
  · refine place?_eq_some_iff.mpr ⟨leads.extends alike.extends, ?_, asks⟩
    rw [content, if_pos rfl]
    rfl
  · simp only [fileSystem, content, if_true, Option.getD_some]
  · intro other different
    simp only [fileSystem, content, different, if_false]
  · intro p old found
    obtain ⟨leads', there, asks'⟩ := place?_eq_some_iff.mp found
    refine place?_eq_some_iff.mpr ⟨leads'.extends alike.extends, ?_, asks'⟩
    rw [content]
    split_ifs
    · rfl
    · exact there
  · intro p new found
    obtain ⟨leads', there, asks'⟩ := place?_eq_some_iff.mp found
    by_cases same : new = place
    · exact .inl same
    · refine .inr (place?_eq_some_iff.mpr ⟨leads'.extends alike.symm.extends, ?_, asks'⟩)
      rwa [content, if_neg same] at there

/-- On a quiet machine a request takes time, and nothing else happens. -/
theorem host_of_quiet {m : Machine} (quiet : m.Quiet) (r : Request) :
    ∃ time, host m r = { m with clock := time }.reply r := by
  obtain ⟨time, elapsed⟩ := elapse_of_alone quiet.alone requestTime
  exact ⟨time, by rw [host, elapsed]⟩

/-- A quiet machine keeps its files. -/
theorem keepsFiles : KeepsFiles host Quiet fileSystem := by
  constructor
  · intro m path quiet
    obtain ⟨time, eq⟩ := host_of_quiet quiet (.readFile path)
    rw [eq]
    exact ⟨quiet.alone, quiet.plain⟩
  · intro m path quiet
    obtain ⟨time, eq⟩ := host_of_quiet quiet (.readFile path)
    rw [eq]
    rfl
  · intro m path text quiet
    obtain ⟨time, eq⟩ := host_of_quiet quiet (.readFile path)
    rw [eq]
    exact readText_eq_ok_iff
  · intro m path text quiet
    obtain ⟨time, eq⟩ := host_of_quiet quiet (.writeFile path text)
    rw [eq]
    change Quiet (change _ (m.files.write m.directory path text.toUTF8)).2
    cases written : m.files.write m.directory path text.toUTF8 with
    | error e => exact ⟨quiet.alone, quiet.plain⟩
    | ok files =>
      obtain ⟨place, executable, -, -, noDirectory, rfl⟩ := Files.write_eq_ok quiet.plain written
      exact ⟨quiet.alone, quiet.plain.put noDirectory⟩
  · intro m path text quiet
    obtain ⟨time, eq⟩ := host_of_quiet quiet (.writeFile path text)
    rw [eq]
    change (change _ (m.files.write m.directory path text.toUTF8)).1 = .ok () →
      ∃ place, FileSystem.Wrote path text place _
        (change _ (m.files.write m.directory path text.toUTF8)).2.fileSystem
    cases written : m.files.write m.directory path text.toUTF8 with
    | error e => exact nofun
    | ok files =>
      obtain ⟨place, executable, leads, asks, noDirectory, rfl⟩ :=
        Files.write_eq_ok quiet.plain written
      exact fun _ => ⟨place, wrote_put quiet leads asks noDirectory executable⟩

/-- A quiet machine stays quiet when directories are made. -/
theorem Quiet.createDirs {m : Machine} (quiet : m.Quiet) (path : String) :
    (host m (.createDirs path)).2.Quiet := by
  obtain ⟨time, eq⟩ := host_of_quiet quiet (.createDirs path)
  rw [eq]
  change Quiet (change _ (m.files.createDirs m.directory path)).2
  cases made : m.files.createDirs m.directory path with
  | error e => exact ⟨quiet.alone, quiet.plain⟩
  | ok files => exact ⟨quiet.alone, quiet.plain.makeDirs made⟩

end ConformanceGate.Machine
