import Rendezvous.Store.Archive

/-!
# Rendezvous.Machine.Files

The files of the machine. What a program may touch is looked up before it runs, and what it
has changed is written afterwards.

* `Machine.survey`, `Machine.save`.
-/

namespace Rendezvous.Machine

/-- The text of a path. -/
def pathText : Path → String
  | [] => "."
  | name :: names =>
    if name = Volume.root then name ++ "/".intercalate names else "/".intercalate (name :: names)

/-- Adds to a volume what lies at a path. -/
def look (v : Volume) (p : Path) : IO Volume := do
  match ← (IO.FS.readBinFile (pathText p)).toBaseIO with
  | .ok content => return v.write p (.ofBytes content.toList)
  | .error (.inappropriateType _ _ _) =>
    return { v with directories := v.directories ++ [p] }
  | .error _ => return v

/-- Adds to a volume what lies on the way to a path, and at it. -/
def lookAlong (v : Volume) (p : Path) : IO Volume := (Volume.parents p).foldlM look v

/-- The files and directories at some locations, with the databases that are named by their
directories. -/
def survey (locations : List String) : IO Volume := do
  let v ← (locations.map Volume.path).foldlM lookAlong Volume.empty
  (locations.map v.fileOf).foldlM lookAlong v

/-- Writes what differs between two volumes. -/
def save (old new : Volume) : IO Unit := do
  for p in new.directories do
    unless old.isDirectory p do IO.FS.createDirAll (pathText p)
  for (p, file) in new.files do
    unless (old.files.get? p).map StoredFile.toBytes = some file.toBytes do
      IO.FS.writeBinFile (pathText p) (ByteArray.mk file.toBytes.toArray)

end Rendezvous.Machine
