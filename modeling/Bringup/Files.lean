import Bringup.Text.Bytes

namespace Bringup

/-! The files that a process can read, below its working directory. -/

inductive FileEntry where
  | contents (bytes : List UInt8)
  | directory
deriving DecidableEq, Repr

inductive FileFault where
  | notFound
  | notDirectory
  | isDirectory
  | nameTooLong
  | nulInName
  | notText
deriving DecidableEq, Repr

namespace FileFault

def message : FileFault → String
  | notFound => "No such file or directory (os error 2)"
  | notDirectory => "Not a directory (os error 20)"
  | isDirectory => "Is a directory (os error 21)"
  | nameTooLong => "File name too long (os error 36)"
  | nulInName => "file name contained an unexpected NUL byte"
  | notText => "stream did not contain valid UTF-8"

end FileFault

/-- A place is named by the components that lead to it, from the working directory
or, if the first one is a slash, from the root. Entries stand at the places at
which they were made. -/
abbrev Files := List (List String × FileEntry)

namespace Files

/-! ## Paths -/

def components (path : String) : List String :=
  ((path.toList.splitOn '/').map String.ofList).filter fun part => part ≠ "" && part ≠ "."

def asksForDirectory (path : String) : Bool :=
  match (path.toList.splitOn '/').getLast? with
  | some last => last.isEmpty || last = ['.']
  | none => false

def root : String := "/"

def start (path : String) : List String := if path.toList.head? = some '/' then [root] else []

def advance (place : List String) (part : String) : List String :=
  if part ≠ ".." then place ++ [part]
  else if place = [root] then place
  else if place.all (· = "..") then place ++ [".."]
  else place.dropLast

def places (place : List String) : List String → List (List String)
  | [] => []
  | part :: rest => advance place part :: places (advance place part) rest

/-! ## Entries -/

/-- What stands at a place. The directories around the working directory exist, and
those on the way to an entry. -/
def find? (files : Files) (place : List String) : Option FileEntry :=
  match List.lookup place files with
  | some entry => some entry
  | none =>
      if place = [root] || place.all (· = "..") ||
          files.any fun entry => place.isPrefixOf entry.1 then
        some .directory
      else none

def walk (files : Files) (place : List String) : List String → Except FileFault FileEntry
  | [] => .ok .directory
  | part :: rest =>
      if 255 < part.utf8ByteSize then .error .nameTooLong
      else
        match files.find? (advance place part) with
        | none => .error .notFound
        | some .directory => walk files (advance place part) rest
        | some (.contents bytes) =>
            if rest.isEmpty then .ok (.contents bytes) else .error .notDirectory

def longestPath : Nat := 4095

def entryAt (files : Files) (path : String) : Except FileFault FileEntry :=
  if path.toList.contains '\x00' then .error .nulInName
  else if path.isEmpty then .error .notFound
  else if longestPath < path.utf8ByteSize then .error .nameTooLong
  else
    match walk files (start path) (components path) with
    | .ok (.contents bytes) =>
        if asksForDirectory path then .error .notDirectory else .ok (.contents bytes)
    | result => result

def readText (files : Files) (path : String) : Except FileFault String :=
  match files.entryAt path with
  | .error fault => .error fault
  | .ok .directory => .error .isDirectory
  | .ok (.contents bytes) =>
      match Bytes.decode? bytes with
      | none => .error .notText
      | some text => .ok text

/-- The files with one more, in place of what stood there, and the directories that
its path leads through. -/
def write (files : Files) (path : String) (entry : FileEntry) : Files :=
  let passed := places (start path) (components path)
  match passed.getLast? with
  | none => files
  | some place =>
      (place, entry) :: passed.dropLast.map (fun directory => (directory, .directory)) ++
        files.filter fun other => other.1 ≠ place

example : (readText (write [] "a/b" (.contents [])) "a/./b").toOption = some "" := by
  decide +kernel

example : (readText (write [] "../c/../b" (.contents [])) "../b").toOption = some "" ∧
    (readText (write [] "/b" (.contents [])) "b").toOption = none := by decide +kernel

end Files

end Bringup
