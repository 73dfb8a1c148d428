/-
  Switchboard.Settings.Location
  ─────────────────────────────
  **WHERE SETTINGS AND LOGS ARE FOUND.**

  The settings of a process stand in the user's configuration directory
  unless the command line names a file.
-/
import Switchboard.Settings.Basic
import Switchboard.Settings.Path

namespace Switchboard

/-- What the environment says about the user's directories. -/
structure Environment where
  /-- The configuration directory that was asked for; it counts if it is absolute. -/
  configHome : Option String := none
  /-- The home directory, empty if it is not known. -/
  home : String := ""
  /-- The directory for files that do not last. -/
  temporary : String := "/tmp"
  deriving DecidableEq, Repr

/-- The user's configuration directory. -/
def Environment.configDir? (env : Environment) : Option String :=
  match env.configHome.filter Path.isAbsolute with
  | some dir => some dir
  | none => if env.home = "" then none else some (Path.join env.home ".config")

namespace Settings

/-- The file of a process's settings. -/
def defaultPath (env : Environment) (process : String) : Except SettingsError String :=
  match env.configDir? with
  | some dir => .ok (Path.join (Path.join dir "devbus") (process ++ ".json"))
  | none =>
    .error (.invalid (.other "Could not determine the platform config directory"))

/-- The directory of log files. -/
def logDirectory (env : Environment) (s : Settings) : String :=
  s.logDir.getD (Path.join (Path.join (env.configDir?.getD env.temporary) "devbus") "logs")

/-- The file that a command line names: the argument after `--config`, or the rest of one that
starts with `--config=`, whichever comes first. -/
def pathOfArguments : List String → Option String
  | [] => none
  | arg :: rest =>
    if arg = "--config" then rest.head?
    else if "--config=".toList.isPrefixOf arg.toList then
      some (String.ofList (arg.toList.drop "--config=".length))
    else pathOfArguments rest

/-- The file of a process's settings: the one that the command line names, or else the one in the
user's configuration directory. -/
def path (env : Environment) (process : String) (args : List String) :
    Except SettingsError String :=
  match pathOfArguments args with
  | some path => .ok path
  | none => defaultPath env process

end Settings

end Switchboard
