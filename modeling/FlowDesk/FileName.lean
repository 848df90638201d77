/-
# File names

The names of files as paths of folders. A name has one plain form, without
empty steps or steps in place. A name, or a part of it that is looked up, may
be too long for there to be any such file.
-/

import FlowDesk.Text.Split

namespace FlowDesk.FileName

/-- The slashes before the first part of a path: exactly two have a meaning of
their own, more count as one. -/
def root (name : String) : String :=
  match (name.toList.takeWhile (· = '/')).length with
  | 0 => ""
  | 2 => "//"
  | _ => "/"

/-- The steps of a path that lead anywhere. -/
def steps (name : String) : List String :=
  (Text.slashParts name).filter fun step => step ≠ "" && step ≠ "."

/-- The plain form of a path. -/
def plain (name : String) : String :=
  let text := root name ++ "/".intercalate (steps name)
  if text = "" then "." else text

/-- The greatest number of bytes of a path. -/
def mostBytes : Nat := 4095

/-- The greatest number of bytes of a step. -/
def mostStepBytes : Nat := 255

/-- The folders that are at the root of any file system. -/
def rootFolders : List String :=
  ["bin", "dev", "etc", "home", "lib", "mnt", "opt", "proc", "root", "run", "sbin", "srv", "sys",
    "tmp", "usr", "var"]

/-- The first step that is looked up where there is a folder to look in: the
steps back lead to folders, and so do the folders at the root. -/
def firstStep? (name : String) : Option String :=
  let forward := (steps name).dropWhile (· = "..")
  match forward with
  | first :: rest =>
    if root name ≠ "" && rootFolders.contains first then rest.dropWhile (· = "..") |>.head?
    else some first
  | [] => none

/-- Whether a path is too long to be looked up. -/
def isTooLong (name : String) : Bool :=
  let holdsNul := name.toList.contains (Char.ofNat 0)
  !holdsNul && (mostBytes < (plain name).utf8ByteSize ||
    (firstStep? name).any fun step => mostStepBytes < step.utf8ByteSize)

/-- The sentence that refuses a path. -/
def tooLongMessage (name : String) : String := s!"file name too long: {name}"

end FlowDesk.FileName
