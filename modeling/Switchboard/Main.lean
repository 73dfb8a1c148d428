/-
  Switchboard.Main
  ────────────────
  **THE SETTINGS OF THE CORE, FROM THE COMMAND LINE.**

  `--config FILE` names the file of the settings; without it the file stands
  in the user's configuration directory.  A file that is not there is made
  with the standard settings.  The settings in force are printed; a failure
  goes to the error output with everything that is behind it.
-/
import Switchboard.Settings.Location
import Switchboard.Settings.Store

namespace Switchboard.CommandLine

/-- The name of the process whose settings are looked for. -/
def processName : String := "devbus-core"

/-- A failure and what is behind it, in words. -/
def describe (e : SettingsError) : String :=
  match e.cause? with
  | none => e.message
  | some cause => e.message ++ ": " ++ cause

/-- What the environment says about the user's directories. -/
def environment : BaseIO Environment := do
  let configHome ← IO.getEnv "XDG_CONFIG_HOME"
  let home ← IO.getEnv "HOME"
  return { configHome, home := home.getD "" }

/-- Saves settings in a file, whose directory is made first. -/
def saveFile (path : String) (s : Settings) : EIO SettingsError Unit := do
  if let some parent := Path.parent? path then
    if parent != "" then
      (IO.FS.createDirAll parent).toEIO fun e => .directoryCreationFailed parent (toString e)
  (IO.FS.writeFile path s.render).toEIO fun e => .saveFailed path (toString e)

/-- Loads settings from a file; the standard settings are saved where there is none. -/
def loadFile (path : String) : EIO SettingsError Settings := do
  match ← (IO.FS.readFile path).toBaseIO with
  | .ok text =>
    match Settings.ofText path text with
    | .ok s => return s
    | .error e => throw e
  | .error (.noFileOrDirectory ..) =>
    saveFile path {}
    return {}
  | .error e => throw (.loadFailed path (toString e))

/-- The settings in force for a command line, or the failure in words. -/
def settings (args : List String) : BaseIO (Except String Settings) := do
  match Settings.path (← environment) processName args with
  | .error e => return .error (describe e)
  | .ok path =>
    match ← (loadFile path).toBaseIO with
    | .ok s => return .ok s
    | .error e => return .error ("Failed to load " ++ path ++ ": " ++ describe e)

end Switchboard.CommandLine

/-- Prints the settings in force, or the failure. -/
def main (args : List String) : IO UInt32 := do
  match ← Switchboard.CommandLine.settings args with
  | .ok s =>
    IO.println s.render
    return 0
  | .error text =>
    IO.eprintln ("✗ " ++ text)
    return 1
