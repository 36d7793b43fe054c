import Rendezvous.Store.Disk
import Rendezvous.Bytes.Utf8

/-!
# Rendezvous.Store.Volume

Where databases lie: directories and files, each of which holds a database or other data.

* `Volume.makeDirs`, `Volume.write`, `Volume.contains`, `Volume.database?`;
* `Volume.openStore`, `Volume.closeStore`: a store and its file.
-/

namespace Rendezvous

/-- A file. -/
inductive StoredFile where
  | database (rows : Rows)
  | data (bytes : Bytes)
deriving Inhabited

/-- The names on the way to a file or directory. -/
abbrev Path : Type := List String

/-- Directories and files. The directory in which everything lies need not be listed. -/
structure Volume where
  directories : List Path
  files : Table Path StoredFile
deriving Inhabited

/-- Why a store cannot be opened. -/
inductive OpenError where
  /-- There cannot be a file at the location. -/
  | badPath
  /-- The file is no database. -/
  | notDatabase
  /-- A row is no record. -/
  | corrupt (row : CorruptRow)
deriving Repr, DecidableEq

/-- The wording of an error, without the words of the operating system or the database. -/
def OpenError.reason : OpenError → String
  | .badPath => "cannot create the file"
  | .notDatabase => "not a database"
  | .corrupt row => "corrupt record " ++ row.key ++ ": " ++ row.cause.message

namespace Volume

/-- No files. -/
def empty : Volume := ⟨[], []⟩

/-- What stands between slashes. -/
def splitPath : List Char → List (List Char)
  | [] => [[]]
  | '/' :: rest => [] :: splitPath rest
  | c :: rest =>
    match splitPath rest with
    | p :: ps => (c :: p) :: ps
    | [] => [[c]]

/-- The name of the directory above all others, where paths begin that begin with a slash. -/
def root : String := "/"

/-- The name that leads one directory up. -/
def up : String := ".."

/-- Leads one directory up. Above the one from which paths are followed the way is kept. -/
def goUp : (names : List String) → List String
  | [] => [up]
  | name :: names =>
    if name = root then [root] else if name = up then up :: name :: names else names

/-- Follows names from a directory, given with its last name first. -/
def follow : (names : List String) → List String → List String
  | names, [] => names
  | names, name :: rest =>
    if name = "" ∨ name = "." then follow names rest
    else if name = up then follow (goUp names) rest
    else follow (name :: names) rest

/-- The path that a text names. -/
def path (s : String) : Path :=
  let start := if s.startsWith "/" then [root] else []
  (follow start ((splitPath s.toList).map String.ofList)).reverse

/-- Whether a path is a directory. -/
def isDirectory (v : Volume) (p : Path) : Bool :=
  p.all (· == up) || p == [root] || v.directories.contains p

/-- Whether there is a file or directory at a path. -/
def contains (v : Volume) (p : Path) : Bool := v.isDirectory p || (v.files.get? p).isSome

/-- The paths above a path, and itself, from the top. -/
def parents (p : Path) : List Path := (List.range p.length).map fun i => p.take (i + 1)

/-- Makes a directory and those above it, unless a file is in the way. -/
def makeDirs (v : Volume) (p : Path) : Option Volume :=
  if (parents p).any fun q => (v.files.get? q).isSome then none
  else
    some { v with directories :=
      (parents p).foldl (fun ds q => if ds.contains q then ds else ds ++ [q]) v.directories }

/-- Writes a file. -/
def write (v : Volume) (p : Path) (f : StoredFile) : Volume :=
  { v with files := v.files.insert p f }

/-- Puts data at a location, in directories that are made for it. -/
def put (v : Volume) (location : String) (bytes : Bytes) : Volume :=
  let p := path location
  ((v.makeDirs p.dropLast).getD v).write p (.data bytes)

/-- Why a file cannot be opened or read as a text. -/
inductive FileFault where
  | missing
  /-- There is a file where a directory is named. -/
  | notDirectory
  | isDirectory
  /-- The bytes are not UTF-8. -/
  | notText
deriving Repr, DecidableEq, Inhabited

/-- The wording of a fault. -/
def FileFault.message : FileFault → String
  | .missing => "No such file or directory (os error 2)"
  | .notDirectory => "Not a directory (os error 20)"
  | .isDirectory => "Is a directory (os error 21)"
  | .notText => "stream did not contain valid UTF-8"

/-- Why nothing can be found at a path. -/
def faultAt (v : Volume) (p : Path) : FileFault :=
  if (parents p.dropLast).any fun q => (v.files.get? q).isSome then .notDirectory else .missing

/-- Reads a text file. -/
def readText (v : Volume) (location : String) : Except FileFault String :=
  let p := path location
  if v.isDirectory p then .error .isDirectory
  else
    match v.files.get? p with
    | none => .error (v.faultAt p)
    | some file =>
      if location.toList.getLast? = some '/' then .error .notDirectory
      else
        match file with
        | .database _ => .error .notText
        | .data bytes =>
          match Bytes.toString? bytes with
          | some s => .ok s
          | none => .error .notText

/-- Opens a file to write at its end, and makes it if there is none. -/
def openAppend (v : Volume) (location : String) : Except FileFault Volume :=
  let p := path location
  if v.isDirectory p then .error .isDirectory
  else if !v.isDirectory p.dropLast then .error (v.faultAt p)
  else
    match v.files.get? p, location.toList.getLast? with
    | some _, some '/' => .error .notDirectory
    | none, some '/' => .error .isDirectory
    | some _, _ => .ok v
    | none, _ => .ok (v.write p (.data []))

/-- The database at a path, if there is one. -/
def database? (v : Volume) (p : Path) : Option Rows :=
  match v.files.get? p with
  | some (.database rows) => some rows
  | some (.data []) => some []
  | _ => none

/-- The name of the database in a directory that is given as a location. -/
def usualName : String := "rdvp.redb"

/-- The file for a location. -/
def fileOf (v : Volume) (location : String) : Path :=
  let p := path location
  if v.isDirectory p ∧ location ≠ "" then p ++ [usualName] else p

/-- Opens or makes a database: the volume with it, and its rows. -/
def openDatabase (v : Volume) (location : String) : Except OpenError (Volume × Rows) :=
  let p := v.fileOf location
  if location.isEmpty ∨ v.isDirectory p
      ∨ (location.toList.getLast? = some '/' ∧ !v.isDirectory (path location)) then
    .error .badPath
  else
    match v.makeDirs p.dropLast with
    | none => .error .badPath
    | some v =>
      match v.files.get? p with
      | none | some (.data []) => .ok (v.write p (.database []), [])
      | some (.database rows) => .ok (v, rows)
      | some (.data _) => .error .notDatabase

/-- Opens a store. -/
def openStore (v : Volume) (location : String) (maxTtl : Duration) (now : Instant) :
    Volume × Except OpenError Store :=
  if location = Store.inMemory then (v, .ok (Store.empty maxTtl))
  else
    match v.openDatabase location with
    | .error e => (v, .error e)
    | .ok (v, rows) =>
      match Store.ofRows maxTtl location now rows with
      | .error row => (v, .error (.corrupt row))
      | .ok (s, rows) => (v.write (v.fileOf location) (.database rows), .ok s)

/-- Closes a store: its file holds all that its writer was given. -/
def closeStore (v : Volume) (s : Store) : Volume × Store :=
  if s.closed then (v, s)
  else
    match s.queue with
    | none => (v, s.close)
    | some _ =>
      let p := v.fileOf s.location
      let rows := (v.database? p).getD []
      (v.write p (.database (s.flush rows)), s.close)

end Volume

end Rendezvous
