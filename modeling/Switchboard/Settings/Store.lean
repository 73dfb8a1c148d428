/-
  Switchboard.Settings.Store
  ──────────────────────────
  **LOADING AND SAVING SETTINGS.**

  Loading reads a file that is there and refuses settings with a defect; it
  leaves the tree as it is.  If nothing stands at the path, the default
  settings are saved there and are the answer.  Saving makes the directory of
  the file first, and asks nobody whether the settings are valid.
-/
import Switchboard.Settings.Format
import Switchboard.Settings.FileTree

namespace Switchboard.Settings

/-- Makes the directory that a path lies in. -/
def prepare (path : String) (t : FileTree) : Except SettingsError Unit × FileTree :=
  match Path.parent? path with
  | none => (.ok (), t)
  | some parent =>
    match t.createDirectories parent with
    | (.ok (), t') => (.ok (), t')
    | (.error cause, t') => (.error (.directoryCreationFailed parent cause), t')

/-- Saves settings at a path. -/
def save (path : String) (s : Settings) (t : FileTree) : Except SettingsError Unit × FileTree :=
  match prepare path t with
  | (.error e, t') => (.error e, t')
  | (.ok (), t') =>
    match t'.write path (.text s.render) with
    | .ok t'' => (.ok (), t'')
    | .error cause => (.error (.saveFailed path cause), t')

/-- The settings that the text of a file holds, if they have no defect. -/
def ofText (path text : String) : Except SettingsError Settings :=
  match read? text with
  | none => .error (.loadFailed path "no settings")
  | some s => s.validate

/-- The settings that a file holds, if they have no defect. -/
def readFile (path : String) (t : FileTree) : Except SettingsError Settings :=
  match t.readText path with
  | .error cause => .error (.loadFailed path cause)
  | .ok text => ofText path text

/-- Loads the settings of a path, and saves the default settings if nothing is there. -/
def load (path : String) (t : FileTree) : Except SettingsError Settings × FileTree :=
  if t.isThere path then (readFile path t, t)
  else
    match save path {} t with
    | (.ok (), t') => (.ok {}, t')
    | (.error e, t') => (.error e, t')

end Switchboard.Settings
