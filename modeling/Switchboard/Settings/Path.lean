/-
  Switchboard.Settings.Path
  ─────────────────────────
  **PATHS AS TEXTS.**

  A path is a text whose names are separated by slashes; it is absolute if it
  starts with one.  Empty names and the name `.` do not lead anywhere, except
  that a path may start with `.`.
-/
namespace Switchboard.Path

/-- Whether a path starts at the root. -/
def isAbsolute (p : String) : Bool := p.toList.head? == some '/'

/-- A path seen from another one; an absolute path is the same from everywhere. -/
def join (base p : String) : String :=
  if isAbsolute p then p
  else
    match base.toList.getLast? with
    | none => p
    | some '/' => base ++ p
    | some _ => base ++ "/" ++ p

/-- The characters of a path, the last first, without the slashes and dots at its end that lead
nowhere. -/
def trimEnd : List Char → List Char
  | '/' :: c :: rest => trimEnd (c :: rest)
  | '.' :: '/' :: c :: rest => trimEnd (c :: rest)
  | '.' :: '/' :: [] => ['/']
  | cs => cs

/-- The path without its last name; an empty path and the root have none. -/
def parent? (p : String) : Option String :=
  match trimEnd p.toList.reverse with
  | [] => none
  | ['/'] => none
  | cs => some (String.ofList (trimEnd (cs.dropWhile (· != '/'))).reverse)

/-- The parts between the slashes of a text; `part` is the current one, the last first. -/
def splitSlashes (part : List Char) : List Char → List String
  | [] => [String.ofList part.reverse]
  | '/' :: rest => String.ofList part.reverse :: splitSlashes [] rest
  | c :: rest => splitSlashes (c :: part) rest

/-- The names that lead somewhere, in order. -/
def names (p : String) : List String :=
  (splitSlashes [] p.toList).filter fun name => name != "" && name != "."

/-- Whether a path can only name a directory, because of how it ends. -/
def namesDirectory (p : String) : Bool :=
  match (splitSlashes [] p.toList).getLast? with
  | some name => name == "" || name == "." || name == ".."
  | none => true

end Switchboard.Path
