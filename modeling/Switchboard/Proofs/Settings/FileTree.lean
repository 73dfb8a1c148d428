/-
  Switchboard.Proofs.Settings.FileTree
  ────────────────────────────────────
  **WHAT A CHANGE LEAVES STANDING.**

  No operation on a tree takes anything away or moves the working directory.
  Making directories only adds them where nothing stands (`Extends`); writing
  changes what one file holds or adds a file (`Keeps`).  So a path starts
  where it did, and directories stay directories, which is all that finding a
  place looks at (`walk_mono`): a path that led to a place leads there ever
  after.

      makeDirectories ──► Extends ──┐
                                    ├──► Keeps ──► what is found again
      write ────────────────────────┘
-/
import Switchboard.Proofs.Settings.Path
import Switchboard.Settings.FileTree

namespace Switchboard.FileTree

variable {t t' : FileTree} {place : Place} {node : Node} {content : Content}

/-! ## §1. What stands at a place. -/

/-- Where no directory stands, the working directory is not found below. -/
theorem isPrefixOf_eq_false (h : t.isDirectory place = false) :
    place.isPrefixOf t.workingDirectory = false := by
  refine eq_false_of_ne_true fun habove => ?_
  unfold isDirectory node? at h
  rw [if_pos habove] at h
  cases h

theorem isDirectory_iff : t.isDirectory place = true ↔ t.node? place = some .directory :=
  beq_iff_eq

theorem lookup_filter_ne {nodes : List (Place × Node)} {other : Place} (h : place ≠ other) :
    (nodes.filter (·.1 != other)).lookup place = nodes.lookup place := by
  induction nodes with
  | nil => rfl
  | cons entry rest ih =>
    obtain ⟨stored, node⟩ := entry
    by_cases hat : stored = other
    · have hne : (place == stored) = false := beq_eq_false_iff_ne.mpr (hat ▸ h)
      rw [List.filter_cons_of_neg (by simpa using hat), ih, List.lookup_cons, hne]
    · rw [List.filter_cons_of_pos (by simpa using hat), List.lookup_cons, List.lookup_cons, ih]

theorem node?_put_self (h : t.isDirectory place = false) (node : Node) :
    (t.put place node).node? place = some node := by
  show (if place.isPrefixOf t.workingDirectory then _ else List.lookup place _) = _
  rw [isPrefixOf_eq_false h, if_neg Bool.false_ne_true]
  exact List.lookup_cons_self

theorem node?_put_other {other : Place} (h : place ≠ other) (node : Node) (t : FileTree) :
    (t.put other node).node? place = t.node? place := by
  have hne : (place == other) = false := beq_eq_false_iff_ne.mpr h
  have hlookup : (t.put other node).nodes.lookup place = t.nodes.lookup place := by
    show List.lookup place ((other, node) :: _) = _
    rw [List.lookup_cons, hne]
    exact lookup_filter_ne h
  unfold node?
  rw [hlookup]
  rfl

/-! ## §2. Making directories. -/

/-- Everything that stands in one tree stands in the other, seen from the same place. -/
structure Extends (t t' : FileTree) : Prop where
  workingDirectory : t'.workingDirectory = t.workingDirectory
  nodes : ∀ place node, t.node? place = some node → t'.node? place = some node

theorem Extends.refl (t : FileTree) : t.Extends t := ⟨rfl, fun _ _ h => h⟩

theorem Extends.trans {u : FileTree} (h : t.Extends u) (h' : u.Extends t') : t.Extends t' :=
  ⟨h'.workingDirectory.trans h.workingDirectory,
    fun place node hnode => h'.nodes place node (h.nodes place node hnode)⟩

theorem Extends.isDirectory (h : t.Extends t') (hdir : t.isDirectory place = true) :
    t'.isDirectory place = true :=
  isDirectory_iff.mpr (h.nodes place _ (isDirectory_iff.mp hdir))

/-- A path starts where it did. -/
theorem start_eq (h : t'.workingDirectory = t.workingDirectory) (path : String) :
    t'.start path = t.start path := by
  unfold start
  rw [h]

/-- Putting something where nothing stands. -/
theorem extends_put (h : t.node? place = none) (node : Node) : t.Extends (t.put place node) := by
  refine ⟨rfl, fun other found hfound => ?_⟩
  have hne : other ≠ place := by
    rintro rfl
    rw [h] at hfound
    cases hfound
  rw [node?_put_other hne]
  exact hfound

theorem makeDirectories_dotdot (t : FileTree) (place : Place) (rest : List String) :
    t.makeDirectories place (".." :: rest) = t.makeDirectories place.dropLast rest := by
  rw [makeDirectories]

/-- A name on the way: it is a directory, or becomes one if nothing stands there. -/
theorem makeDirectories_name {name : String} (hname : name ≠ "..") (t : FileTree) (place : Place)
    (rest : List String) :
    t.makeDirectories place (name :: rest)
      = if isName name then
          match t.node? (place ++ [name]) with
          | some .directory => t.makeDirectories (place ++ [name]) rest
          | some (.file _) => (.error (blockedByFile rest), t)
          | none => (t.put (place ++ [name]) .directory).makeDirectories (place ++ [name]) rest
        else (.error "File name too long", t) := by
  rw [makeDirectories]
  · cases isName name <;> rfl
  · exact hname

theorem walk_dotdot (t : FileTree) (place : Place) (rest : List String) :
    t.walk place (".." :: rest) = t.walk place.dropLast rest := by
  rw [walk]

theorem walk_name {name : String} (hname : name ≠ "..") (t : FileTree) (place : Place)
    (rest : List String) :
    t.walk place (name :: rest)
      = if isName name && t.isDirectory (place ++ [name]) then t.walk (place ++ [name]) rest
        else none := by
  rw [walk]
  exact hname

/-- **A way leads on where directories stay directories.** -/
theorem walk_mono (h : ∀ p, t.isDirectory p = true → t'.isDirectory p = true) {names : List String}
    {found : Place} (hwalk : t.walk place names = some found) :
    t'.walk place names = some found := by
  induction names generalizing place with
  | nil => exact hwalk
  | cons name rest ih =>
    by_cases hup : name = ".."
    · subst hup
      -- going up asks nothing of the tree
      rw [walk_dotdot] at hwalk ⊢
      exact ih hwalk
    · rw [walk_name hup] at hwalk ⊢
      split at hwalk
      · next hopen =>
        obtain ⟨hname, hdir⟩ := Bool.and_eq_true_iff.mp hopen
        rw [if_pos (Bool.and_eq_true_iff.mpr ⟨hname, h _ hdir⟩)]
        exact ih hwalk
      · cases hwalk

/-- **Directories are made where they can be**: what stood stands, and if none failed, the names
lead through directories now. -/
theorem makeDirectories_spec (names : List String) (t : FileTree) (place : Place) :
    t.Extends (t.makeDirectories place names).2
      ∧ ((t.makeDirectories place names).1 = .ok () →
          ∃ found, (t.makeDirectories place names).2.walk place names = some found) := by
  induction names generalizing t place with
  | nil => exact ⟨Extends.refl t, fun _ => ⟨place, rfl⟩⟩
  | cons name rest ih =>
    by_cases hup : name = ".."
    · subst hup
      rw [makeDirectories_dotdot, walk_dotdot]
      exact ih t place.dropLast
    · rw [makeDirectories_name hup]
      cases hname : isName name with
      | false => exact ⟨Extends.refl t, fun hok => by cases hok⟩
      | true =>
        -- from a tree with a directory of this name, the way goes on through it
        have through : ∀ u : FileTree, t.Extends u → u.isDirectory (place ++ [name]) = true →
            t.Extends (u.makeDirectories (place ++ [name]) rest).2
              ∧ ((u.makeDirectories (place ++ [name]) rest).1 = .ok () →
                  ∃ found, (u.makeDirectories (place ++ [name]) rest).2.walk place (name :: rest)
                    = some found) := by
          intro u hextends hdir
          obtain ⟨hmade, hwalk⟩ := ih u (place ++ [name])
          refine ⟨hextends.trans hmade, fun hok => ?_⟩
          rw [walk_name hup, hname, hmade.isDirectory hdir]
          exact hwalk hok
        rw [if_pos rfl]
        cases hnode : t.node? (place ++ [name]) with
        | none =>
          have hfree : t.isDirectory (place ++ [name]) = false := by
            unfold isDirectory
            rw [hnode]
            rfl
          exact through _ (extends_put hnode _) (isDirectory_iff.mpr (node?_put_self hfree _))
        | some node =>
          cases node with
          | directory => exact through t (Extends.refl t) (isDirectory_iff.mpr hnode)
          | file content => exact ⟨Extends.refl t, fun hok => by cases hok⟩

theorem createDirectories_extends (path : String) (t : FileTree) :
    t.Extends (t.createDirectories path).2 := by
  unfold createDirectories
  split
  · exact Extends.refl t
  · exact (makeDirectories_spec _ t _).1

/-- **A directory that could be made is there.** -/
theorem walk_of_createDirectories {path : String} (h : (t.createDirectories path).1 = .ok ()) :
    ∃ found,
      (t.createDirectories path).2.walk (t.start path) (Path.names path) = some found := by
  unfold createDirectories at h ⊢
  split at h
  · cases h
  · exact (makeDirectories_spec _ t _).2 h

/-! ## §3. Files. -/

/-- A file and its directory are found from the same place. -/
theorem start_directoryOf (path : String) (t : FileTree) :
    t.start (Path.directoryOf path) = t.start path := by
  unfold start
  rw [Path.isAbsolute_directoryOf]

/-- **The place of a file** is its name in the place of its directory. -/
theorem locate_of_file {path : String} (h : Path.namesDirectory path = false) (t : FileTree)
    (place : Place) :
    t.locate path = some place ↔
      pathDefect? path = none ∧ isName (Path.lastPart path) = true
        ∧ ∃ directory,
            t.walk (t.start path) (Path.names (Path.directoryOf path)) = some directory
              ∧ directory ++ [Path.lastPart path] = place := by
  obtain ⟨-, -, hup⟩ := Path.lastPart_of_file h
  have hempty : path ≠ "" := by
    rintro rfl
    cases h
  unfold locate
  rw [Path.names_of_file h, List.getLast?_concat, List.dropLast_concat]
  cases hdefect : pathDefect? path with
  | some reason => simp
  | none =>
    cases hname : isName (Path.lastPart path) with
    | false => simp [hempty, hname]
    | true => simp [hempty, hname]

theorem lookup_eq_file_iff {path : String} :
    t.lookup path = some (.file content) ↔
      Path.namesDirectory path = false
        ∧ ∃ place, t.locate path = some place ∧ t.node? place = some (.file content) := by
  unfold lookup
  cases hplace : t.locate path with
  | none => simp
  | some place =>
    cases hnode : t.node? place with
    | none => simp [hnode]
    | some node =>
      cases node with
      | directory => simp [hnode]
      | file found => cases hfile : Path.namesDirectory path <;> simp [hnode]

theorem lookup_eq_directory_iff {path : String} :
    t.lookup path = some .directory ↔
      ∃ place, t.locate path = some place ∧ t.isDirectory place = true := by
  unfold lookup
  cases hplace : t.locate path with
  | none => simp
  | some place =>
    cases hnode : t.node? place with
    | none => simp [hnode, isDirectory_iff]
    | some node =>
      cases node with
      | directory => simp [hnode, isDirectory_iff]
      | file found =>
        cases hfile : Path.namesDirectory path <;> simp [hnode, isDirectory_iff]

theorem write_eq_ok_iff {path : String} :
    t.write path content = .ok t' ↔
      Path.namesDirectory path = false
        ∧ ∃ place, t.locate path = some place ∧ t.isDirectory place = false
            ∧ t.put place (.file content) = t' := by
  unfold write
  cases hplace : t.locate path with
  | none => simp
  | some place =>
    cases hdirectory : t.isDirectory place <;> cases hfile : Path.namesDirectory path <;>
      simp [hdirectory]

/-! ## §4. What is found again. -/

/-- Directories stay directories, and a file holds what it held or what was written since. -/
structure Keeps (content : Content) (t t' : FileTree) : Prop where
  workingDirectory : t'.workingDirectory = t.workingDirectory
  directories : ∀ place, t.isDirectory place = true → t'.isDirectory place = true
  files : ∀ place old, t.node? place = some (.file old) →
    t'.node? place = some (.file old) ∨ t'.node? place = some (.file content)

theorem Extends.keeps (h : t.Extends t') (content : Content) : Keeps content t t' :=
  ⟨h.workingDirectory, fun _ => h.isDirectory, fun place _ hold => Or.inl (h.nodes place _ hold)⟩

theorem Keeps.trans {u : FileTree} (h : Keeps content t u) (h' : Keeps content u t') :
    Keeps content t t' := by
  refine ⟨h'.workingDirectory.trans h.workingDirectory,
    fun place hdir => h'.directories place (h.directories place hdir), ?_⟩
  intro place old hold
  rcases h.files place old hold with hsame | hnew
  · exact h'.files place old hsame
  · exact Or.inr ((h'.files place content hnew).elim id id)

/-- A path that led to the place of a file leads there still. -/
theorem Keeps.locate (hkeeps : Keeps content t t') {path : String}
    (hfile : Path.namesDirectory path = false) (hplace : t.locate path = some place) :
    t'.locate path = some place := by
  rw [locate_of_file hfile] at hplace ⊢
  obtain ⟨hdefect, hname, directory, hwalk, hlast⟩ := hplace
  rw [start_eq hkeeps.workingDirectory]
  exact ⟨hdefect, hname, directory, walk_mono hkeeps.directories hwalk, hlast⟩

/-- A file put where no directory stands. -/
theorem keeps_put (h : t.isDirectory place = false) (content : Content) :
    Keeps content t (t.put place (.file content)) := by
  refine ⟨rfl, fun other hdir => ?_, fun other old hold => ?_⟩
  · have hne : other ≠ place := by
      rintro rfl
      rw [h] at hdir
      cases hdir
    rw [isDirectory_iff, node?_put_other hne]
    exact isDirectory_iff.mp hdir
  · by_cases hat : other = place
    · subst hat
      exact Or.inr (node?_put_self h _)
    · rw [node?_put_other hat]
      exact Or.inl hold

theorem write_keeps {path : String} (h : t.write path content = .ok t') : Keeps content t t' := by
  obtain ⟨-, place, -, hdirectory, rfl⟩ := write_eq_ok_iff.mp h
  exact keeps_put hdirectory content

/-- **What was written is found.** -/
theorem lookup_of_write {path : String} (h : t.write path content = .ok t') :
    t'.lookup path = some (.file content) := by
  obtain ⟨hfile, place, hplace, hdirectory, rfl⟩ := write_eq_ok_iff.mp h
  exact lookup_eq_file_iff.mpr
    ⟨hfile, place, (keeps_put hdirectory content).locate hfile hplace,
      node?_put_self hdirectory _⟩

/-- **It stays found** while nothing else is written. -/
theorem Keeps.lookup (hkeeps : Keeps content t t') {path : String}
    (h : t.lookup path = some (.file content)) : t'.lookup path = some (.file content) := by
  obtain ⟨hfile, place, hplace, hnode⟩ := lookup_eq_file_iff.mp h
  exact lookup_eq_file_iff.mpr
    ⟨hfile, place, hkeeps.locate hfile hplace, (hkeeps.files place content hnode).elim id id⟩

end Switchboard.FileTree
