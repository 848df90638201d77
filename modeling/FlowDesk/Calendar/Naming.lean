/-
# Names of regions

Regions are filed under their names in folders, as in `Europe/Rome`. Which
regions there are is told by an atlas. A name that is no plain path, or that is
not the name of a region but of a folder or of another file, is refused in its
own way.
-/

import FlowDesk.Calendar.Moment
import FlowDesk.Text.Split

namespace FlowDesk.Calendar

/-- Why a name is refused. -/
inductive Region.NameError where
  /-- There is nothing under this name. -/
  | unknown
  /-- The name is no plain path below the folder of all regions, or what is
  filed under it is no region. -/
  | unusable
  /-- The name is that of a folder. -/
  | folder
  /-- The last part of the name is too long. -/
  | tooLong
  deriving DecidableEq

/-- The sentence that refuses a name. -/
def Region.NameError.message (name : String) : Region.NameError → String
  | .unknown => s!"unknown time zone: {name}"
  | .unusable => s!"not the name of a time zone: {name}"
  | .folder => s!"a folder of time zones: {name}"
  | .tooLong => s!"too long for the name of a time zone: {name}"

/-- The regions that are known, the folders in which they are filed, and the
files next to them that hold none. -/
structure Atlas where
  regions : List Region
  folders : List String
  otherFiles : List String

namespace Atlas

/-- Whether a part of a name is one of a plain path. -/
def isPlainPart (part : String) : Bool :=
  part ≠ "" && part ≠ "." && part ≠ ".."

/-- The greatest number of bytes of a part of a name. -/
def mostBytes : Nat := 255

/-- Why a name is refused that no region bears. -/
def nameError (atlas : Atlas) (name : String) : Region.NameError :=
  let parts := Text.slashParts name
  let folder := "/".intercalate parts.dropLast
  let last := parts.getLast?.getD ""
  let isFiled := folder = "" || atlas.folders.contains folder
  if !parts.all isPlainPart then .unusable
  else if atlas.folders.contains name then .folder
  else if !isFiled then .unknown
  else if last.toList.contains (Char.ofNat 0) then .unusable
  else if mostBytes < last.utf8ByteSize then .tooLong
  else if atlas.otherFiles.contains name then .unusable
  else .unknown

/-- The region with a name. -/
def named (atlas : Atlas) (name : String) : Except Region.NameError Region :=
  match atlas.regions.find? fun region => region.name == name with
  | some region => .ok region
  | none => .error (atlas.nameError name)

end Atlas

end FlowDesk.Calendar
