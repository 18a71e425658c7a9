import NodeWarden.Launch.Basic

/-!
# A directory in memory

The files in the working directory of a launch, and what a launch finds at a path. Of what
lies outside of the directory only little is known: a few directories and a file that is
always empty.
-/

namespace NodeWarden

/-- A directory that holds files. -/
structure MemoryDirectory where
  /-- The names of the files and what they hold. -/
  files : List (String × String)

/-- A place that a path leads to. -/
inductive Place where
  /-- The directory with this name under the root, or the root itself, or one above the working
  directory. -/
  | outside (names : List String)
  | working
  | file (content : String)
  | nowhere
deriving Repr, DecidableEq

namespace MemoryDirectory

/-- The place with a name in a directory outside of the working directory. -/
def stepOutside (names : List String) (name : String) : Place :=
  match names ++ [name] with
  | ["dev", "null"] => .file ""
  | ["dev"] => .outside ["dev"]
  | ["etc"] => .outside ["etc"]
  | ["tmp"] => .outside ["tmp"]
  | _ => .nowhere

/-- The place that the next part of a path leads to. From a file nothing leads on. -/
def step (d : MemoryDirectory) (place : Place) (name : String) : Place :=
  match place with
  | .file _ | .nowhere => .nowhere
  | .working =>
    if name = "" ∨ name = "." then .working
    else if name = ".." then .outside [".."]
    else ((d.files.lookup name).map .file).getD .nowhere
  | .outside names =>
    if name = "" ∨ name = "." then .outside names
    else if name = ".." then .outside names.dropLast
    else stepOutside names name

/-- The place that a path leads to. -/
def locate (d : MemoryDirectory) (path : String) : Place :=
  match (path.toList.splitOn '/').map String.ofList with
  | "" :: names => names.foldl d.step (.outside [])
  | names => names.foldl d.step .working

/-- What a launch finds at a path. -/
def read (d : MemoryDirectory) (path : String) : SettingsFile :=
  match d.locate path with
  | .nowhere => .absent
  | .file content => .text content
  | .working | .outside _ => .unreadable "Is a directory (os error 21)"

end MemoryDirectory

end NodeWarden
