/-
  Switchboard.Proofs.Settings.Store
  ─────────────────────────────────
  **SAVED SETTINGS LOAD BACK.**

  Saving makes the directory of a file, then writes the file; loading finds
  the file and reads it.  Between the two stands the tree, which keeps what
  it holds (`Keeps`), and the text, which is read as it was written
  (`read?_render`):

      settings ──render──► text ──write──► tree ──lookup──► text ──read?──► settings

  Whether saving succeeds depends on the path and the tree alone
  (`Writable`), not on the settings; it does not ask whether they are valid.
  Loading does, and writes only where it finds nothing.
-/
import Switchboard.Proofs.Settings.FileTree
import Switchboard.Proofs.Settings.Format
import Switchboard.Settings.Location
import Switchboard.Settings.Store

namespace Switchboard.Settings

open FileTree

variable {path : String} {t : FileTree}

/-! ## §1. Saving. -/

theorem prepare_eq (path : String) (t : FileTree) :
    prepare path t
      = match Path.parent? path with
        | none => (.ok (), t)
        | some parent =>
          ((t.createDirectories parent).1.mapError (.directoryCreationFailed parent),
            (t.createDirectories parent).2) := by
  unfold prepare
  cases Path.parent? path with
  | none => rfl
  | some parent =>
    dsimp only
    obtain ⟨outcome, made⟩ := t.createDirectories parent
    cases outcome <;> rfl

theorem prepare_extends (path : String) (t : FileTree) : t.Extends (prepare path t).2 := by
  rw [prepare_eq]
  cases Path.parent? path with
  | none => exact Extends.refl t
  | some parent => exact createDirectories_extends parent t

theorem prepare_of_file (hfile : Path.namesDirectory path = false) (t : FileTree) :
    prepare path t
      = ((t.createDirectories (Path.directoryOf path)).1.mapError
          (.directoryCreationFailed (Path.directoryOf path)),
        (t.createDirectories (Path.directoryOf path)).2) := by
  rw [prepare_eq, Path.parent?_of_file hfile]

/-- The directory of a file is there after it was made. -/
theorem walk_of_prepare (hfile : Path.namesDirectory path = false)
    (h : (prepare path t).1 = .ok ()) :
    ∃ found, (prepare path t).2.walk ((prepare path t).2.start path)
      (Path.names (Path.directoryOf path)) = some found := by
  rw [start_eq (prepare_extends path t).workingDirectory, ← start_directoryOf]
  rw [prepare_of_file hfile] at h ⊢
  dsimp only at h ⊢
  have hmade : (t.createDirectories (Path.directoryOf path)).1 = .ok () := by
    cases houtcome : (t.createDirectories (Path.directoryOf path)).1 with
    | ok => rfl
    | error cause =>
      rw [houtcome] at h
      cases h
  exact walk_of_createDirectories hmade

/-- What saving can do: fail and leave what was made of the directory, or write the file. -/
theorem save_cases (path : String) (s : Settings) (t : FileTree) :
    (∃ e, save path s t = (.error e, (prepare path t).2)
        ∧ ((prepare path t).1 = .ok () → ∀ t',
            (prepare path t).2.write path (.text s.render) ≠ .ok t'))
      ∨ ∃ t', (prepare path t).1 = .ok ()
          ∧ (prepare path t).2.write path (.text s.render) = .ok t'
          ∧ save path s t = (.ok (), t') := by
  unfold save
  obtain ⟨outcome, made⟩ := prepare path t
  cases outcome with
  | error e => exact Or.inl ⟨e, rfl, fun h => by cases h⟩
  | ok =>
    dsimp only
    cases hwrite : made.write path (.text s.render) with
    | error cause => exact Or.inl ⟨_, rfl, fun _ t' h => by cases h⟩
    | ok t' => exact Or.inr ⟨t', rfl, rfl, rfl⟩

theorem save_keeps (path : String) (s : Settings) (t : FileTree) :
    Keeps (.text s.render) t (save path s t).2 := by
  have hprepare := (prepare_extends path t).keeps (.text s.render)
  rcases save_cases path s t with ⟨e, hsave, -⟩ | ⟨t', -, hwrite, hsave⟩
  · rw [hsave]
    exact hprepare
  · rw [hsave]
    exact hprepare.trans (write_keeps hwrite)

/-- **A saved file is found**, and it holds what the settings are written as. -/
theorem lookup_of_save {s : Settings} (h : (save path s t).1 = .ok ()) :
    (save path s t).2.lookup path = some (.file (.text s.render)) := by
  rcases save_cases path s t with ⟨e, hsave, -⟩ | ⟨t', -, hwrite, hsave⟩
  · rw [hsave] at h
    cases h
  · rw [hsave]
    exact lookup_of_write hwrite

/-! ## §2. Where settings can be saved. -/

/-- A path is writable if it can be used and ends in the name of a file, if the directory it lies
in is there or can be made, and if no directory stands at the path itself. -/
structure Writable (path : String) (t : FileTree) : Prop where
  usable : pathDefect? path = none
  file : Path.namesDirectory path = false
  name : isName (Path.lastPart path) = true
  directory : (prepare path t).1 = .ok ()
  free : (prepare path t).2.lookup path ≠ some .directory

/-- **Saving succeeds exactly at the writable paths**, whatever the settings are. -/
theorem fst_save_iff (path : String) (s : Settings) (t : FileTree) :
    (save path s t).1 = .ok () ↔ Writable path t := by
  constructor
  · intro h
    rcases save_cases path s t with ⟨e, hsave, -⟩ | ⟨t', hprepare, hwrite, -⟩
    · rw [hsave] at h
      cases h
    · obtain ⟨hfile, place, hplace, hfree, -⟩ := write_eq_ok_iff.mp hwrite
      obtain ⟨husable, hname, -⟩ := (locate_of_file hfile _ _).mp hplace
      refine ⟨husable, hfile, hname, hprepare, fun hthere => ?_⟩
      -- the path has one place only, and no directory stood there
      obtain ⟨other, hother, hdirectory⟩ := lookup_eq_directory_iff.mp hthere
      obtain rfl : place = other := Option.some.inj (hplace.symm.trans hother)
      rw [hfree] at hdirectory
      cases hdirectory
  · intro h
    obtain ⟨directory, hwalk⟩ := walk_of_prepare h.file h.directory
    have hplace := (locate_of_file h.file (prepare path t).2 _).mpr
      ⟨h.usable, h.name, directory, hwalk, rfl⟩
    have hfree : (prepare path t).2.isDirectory (directory ++ [Path.lastPart path]) = false :=
      eq_false_of_ne_true fun hdirectory =>
        h.free (lookup_eq_directory_iff.mpr ⟨_, hplace, hdirectory⟩)
    rcases save_cases path s t with ⟨e, -, hrefused⟩ | ⟨t', -, -, hsave⟩
    · exact absurd (write_eq_ok_iff.mpr ⟨h.file, _, hplace, hfree, rfl⟩) (hrefused h.directory _)
    · rw [hsave]

/-! ## §3. Loading. -/

theorem load_of_isThere (h : t.isThere path = true) : load path t = (readFile path t, t) := if_pos h

theorem load_of_missing (h : t.isThere path = false) :
    load path t = ((save path {} t).1.map fun _ => {}, (save path {} t).2) := by
  unfold load
  rw [h, if_neg Bool.false_ne_true]
  obtain ⟨outcome, made⟩ := save path {} t
  cases outcome <;> rfl

/-- **A file with the text of settings loads as the settings**, if they are valid, and otherwise
as their defect. -/
theorem load_of_lookup {s : Settings} (h : t.lookup path = some (.file (.text s.render))) :
    load path t = (s.validate, t) := by
  have hthere : t.isThere path = true := by
    unfold isThere
    rw [h]
    rfl
  have htext : t.readText path = .ok s.render := by
    unfold readText
    rw [h]
  rw [load_of_isThere hthere]
  unfold readFile
  rw [htext]
  show (ofText path s.render, t) = _
  unfold ofText
  rw [read?_render]

/-- Whatever is loaded, a file holds what it held, or the default settings. -/
theorem load_keeps (path : String) (t : FileTree) :
    Keeps (.text ({} : Settings).render) t (load path t).2 := by
  cases hthere : t.isThere path with
  | true =>
    rw [load_of_isThere hthere]
    exact (Extends.refl t).keeps _
  | false =>
    rw [load_of_missing hthere]
    exact save_keeps path {} t

/-- The tree after loads of some paths, one after the other. -/
def loads (paths : List String) (t : FileTree) : FileTree :=
  paths.foldl (fun t path => (load path t).2) t

theorem loads_keeps (paths : List String) (t : FileTree) :
    Keeps (.text ({} : Settings).render) t (loads paths t) := by
  induction paths generalizing t with
  | nil => exact (Extends.refl t).keeps _
  | cons path rest ih => exact (load_keeps path t).trans (ih (load path t).2)

theorem validate_default : ({} : Settings).validate = .ok {} := by
  decide

/-- **Saved settings load back.**  Loading leaves the tree as it is if anything stands at the path.
At a writable path every save succeeds, whatever stood there; loading it then gives the settings
if they are valid, and otherwise the failure that says what is wrong with them.  If nothing stands
at a writable path, loading it gives the default settings, and so does every later load of it, with
any loads of any paths in between. -/
theorem saved_settings_load_back (path : String) (t : FileTree) :
    (t.isThere path = true → (load path t).2 = t)
      ∧ (Writable path t → ∀ s : Settings,
          (save path s t).1 = .ok ()
            ∧ load path (save path s t).2 = (s.validate, (save path s t).2))
      ∧ (Writable path t → t.isThere path = false →
          (load path t).1 = .ok {}
            ∧ ∀ others, load path (loads others (load path t).2)
                = (.ok {}, loads others (load path t).2)) := by
  refine ⟨fun hthere => ?_, fun hwritable s => ?_, fun hwritable hmissing => ?_⟩
  · rw [load_of_isThere hthere]
  · have hsave := (fst_save_iff path s t).mpr hwritable
    exact ⟨hsave, load_of_lookup (lookup_of_save hsave)⟩
  · have hsave := (fst_save_iff path {} t).mpr hwritable
    rw [load_of_missing hmissing, hsave]
    refine ⟨rfl, fun others => ?_⟩
    -- the file holds the defaults, so even a load that writes leaves it as it is
    have hfound := (loads_keeps others _).lookup (lookup_of_save hsave)
    rw [load_of_lookup hfound, validate_default]

/-- The default path of a user without a configuration directory.  The working directory holds a
file without settings, and the default path is loaded under another spelling in between. -/
theorem saved_settings_load_back_nested :
    let path := "/home/user/.config/devbus/core.json"
    let s : Settings := { bus := .session, maxRecord := 18446744073709551615, logDir := some "\"" }
    let t : FileTree :=
      { workingDirectory := ["home", "user"],
        nodes := [(["home", "user", "core.json"], .file (.text "\x7b"))] }
    defaultPath { home := "/home/user" } "core" = .ok path
      ∧ t.isThere "core.json" = true ∧ (load "core.json" t).2 = t
      ∧ Writable path t ∧ t.isThere path = false
      ∧ load path (save path s t).2 = (.ok s, (save path s t).2)
      ∧ (load path t).1 = .ok {}
      ∧ (load path (loads ["core.json", "../user/.config/./devbus/core.json", ".config"]
          (load path t).2)).1 = .ok {} := by
  intro path s t
  have hthere : t.isThere "core.json" = true := by decide
  have hwritable : Writable path t :=
    ⟨by decide, by decide, by decide, by decide, by decide⟩
  have hmissing : t.isThere path = false := by decide
  have hvalid : s.validate = .ok s := by decide
  obtain ⟨-, hsaved, hdefault⟩ := saved_settings_load_back path t
  obtain ⟨hfirst, hlater⟩ := hdefault hwritable hmissing
  refine ⟨by decide, hthere, (saved_settings_load_back "core.json" t).1 hthere, hwritable,
    hmissing, ?_, hfirst, ?_⟩
  · rw [(hsaved hwritable s).2, hvalid]
  · rw [hlater]

end Switchboard.Settings
