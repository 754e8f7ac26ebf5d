import FormulaCube.Value.Fault

/-!
# Files

The files that a command reads, by their paths.

* `plainPath` — a path in its plainest form.
* `stem` — the name of a file without its ending.
* `Files.follow` — where a path leads.
* `Files.read` — the text of a file, its lines ended by newlines.
-/

namespace FormulaCube

/-! ## Paths -/

/-- The parts of a path that lead somewhere. -/
def pathParts (path : Text) : List Text :=
  (Text.splitOn '/' path).filter fun part => !(part.isEmpty || part = ['.'])

/-- What an absolute path begins with: one slash, or two if there are exactly two. -/
def pathRoot (path : Text) : Text :=
  match path.takeWhile (· = '/') with
  | [] => []
  | ['/', '/'] => ['/', '/']
  | _ => ['/']

/-- A path without the parts that lead nowhere. -/
def plainPath (path : Text) : Text :=
  match pathRoot path ++ Text.join ['/'] (pathParts path) with
  | [] => ['.']
  | plain => plain

/-- The name that a path ends with, up to its last dot. A dot at either end of the name does not count. -/
def stem (path : Text) : Text :=
  let name := (pathParts path).getLast?.getD []
  let ending := name.reverse.takeWhile (· != '.')
  let lead := name.take (name.length - ending.length - 1)
  if ending.isEmpty || lead.isEmpty then name else lead

/-! ## Files -/

/-- Paths with the texts of the files there. -/
abbrev Files := List (Text × Text)

namespace Files

/-- The file that stands where these parts lead to. -/
def at? (files : Files) (root : Text) (parts : List Text) : Option Text :=
  (files.find? fun file => pathRoot file.1 = root && pathParts file.1 = parts).map (·.2)

/-- Whether there are files below the place where these parts lead to. -/
def isDirectory (files : Files) (root : Text) (parts : List Text) : Bool :=
  files.any fun file =>
    pathRoot file.1 = root && parts.isPrefixOf (pathParts file.1) && parts != pathParts file.1

end Files

/-- Why a path leads to no file. -/
inductive Astray where
  /-- There is nothing. -/
  | missing
  /-- It goes on behind a file. -/
  | behindFile
  /-- It ends at a directory. -/
  | atDirectory
  /-- A name in it has too many bytes. -/
  | longName

/-- The most bytes of a name in a path. -/
def nameLimit : Nat := 255

/-- The most bytes of a path. -/
def pathLimit : Nat := 4095

/-- How many bytes a text has. -/
def byteCount (t : Text) : Nat := (String.ofList t).utf8ByteSize

namespace Files

/-- Follows the parts of a path, one after the other, from a directory that lies `above` levels above the
first one or else has the place `here` in it. -/
def follow (files : Files) (root : Text) :
    (above : Nat) → (here : List Text) → (parts : List Text) → Except Astray Text
  | _, _, [] => .error .atDirectory
  | above, here, part :: parts =>
    if part.isEmpty || part = ['.'] then follow files root above here parts
    else if part = "..".toList then
      if here.isEmpty then follow files root (above + 1) here parts
      else follow files root above here.dropLast parts
    else if nameLimit < byteCount part then .error .longName
    else if 0 < above then .error .missing
    else
      match files.at? root (here ++ [part]) with
      | some t => if parts.isEmpty then .ok t else .error .behindFile
      | none =>
        if files.isDirectory root (here ++ [part]) then follow files root above (here ++ [part]) parts
        else .error .missing

/-- The text of the file at a path. -/
def read (files : Files) (path : Text) : Except Fault Text :=
  if path.contains '\x00' then .error (.improper "embedded null byte".toList)
  else if path.isEmpty then .error (.missingFile path)
  else if pathLimit < byteCount path then .error (.longPath path)
  else
    match files.follow (pathRoot path) 0 [] (Text.splitOn '/' path) with
    | .ok t => .ok t.unifyNewlines
    | .error .missing => .error (.missingFile path)
    | .error .behindFile => .error (.notDirectory path)
    | .error .atDirectory => .error (.directoryFile path)
    | .error .longName => .error (.longPath path)

end Files

end FormulaCube
