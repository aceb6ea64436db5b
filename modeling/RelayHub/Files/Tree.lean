/-
Files and directories, and the errors of using them.

A tree holds what lies below a private working directory. Directories outside
it exist as far as two dots lead; nothing else outside it does. Every operation
answers as a file system does, with the errors in the order in which a path is
walked: a step into something that is missing, or that is no directory.
-/
import RelayHub.Files.Path

set_option autoImplicit false

namespace RelayHub

/-! ## Errors -/

/-- Why an operation on a file fails. -/
inductive FileError where
  | notFound
  | alreadyExists
  | notDirectory
  | isDirectory
  | nameTooLong
  | denied
  | nulInName
  | notText
  | other (message : String)
deriving DecidableEq, Repr

/-- The sentence for an error. -/
def FileError.message : FileError → String
  | .notFound => "No such file or directory (os error 2)"
  | .alreadyExists => "File exists (os error 17)"
  | .notDirectory => "Not a directory (os error 20)"
  | .isDirectory => "Is a directory (os error 21)"
  | .nameTooLong => "File name too long (os error 36)"
  | .denied => "Permission denied (os error 13)"
  | .nulInName => "file name contained an unexpected NUL byte"
  | .notText => "stream did not contain valid UTF-8"
  | .other message => message

/-- Reads the file at a path as text. -/
abbrev TextFiles : Type := Path → Except FileError String

/-! ## Trees -/

/-- A file with its content, or a directory. -/
inductive FileNode where
  | file (content : Bytes)
  | directory
deriving DecidableEq, Repr

/-- What lies below the working directory, by the steps that lead to it. -/
structure FileTree where
  entries : List (List String × FileNode)
deriving DecidableEq, Repr

/-- Where a path leads: to a place below the working directory, to a directory
outside it, or to nothing outside it. -/
inductive Spot where
  | inside (steps : List String)
  | outside
  | nowhere
deriving DecidableEq, Repr

namespace FileTree

/-- The empty working directory. -/
def empty : FileTree := ⟨[]⟩

/-- What is at a place; the working directory itself is always there. -/
def node? (t : FileTree) (steps : List String) : Option FileNode :=
  if steps.isEmpty then some .directory else t.entries.lookup steps

/-- Puts something at a place. -/
def set (t : FileTree) (steps : List String) (n : FileNode) : FileTree :=
  if (t.entries.lookup steps).isSome then
    ⟨t.entries.map fun e => if e.1 = steps then (steps, n) else e⟩
  else ⟨t.entries ++ [(steps, n)]⟩

/-- Takes away what is at a place, and everything below it. -/
def erase (t : FileTree) (steps : List String) : FileTree :=
  ⟨t.entries.filter fun e => !(steps.isPrefixOf e.1)⟩

/-- Walks from a place; all but the last step must lead into a directory that
is there. `above` counts the directories outside that two dots have led to. -/
def walk (t : FileTree) (above : Option Nat) (place : List String) :
    List String → Except FileError Spot
  | [] => .ok (if above.isSome then .outside else .inside place)
  | step :: rest =>
    let tooLong : Bool := decide (255 < (Utf8.encode step).length)
    match above with
    | some n =>
      if tooLong then .error .nameTooLong
      else if step = ".." then walk t (some (n + 1)) [] rest
      else if rest.isEmpty then .ok .nowhere
      else .error .notFound
    | none =>
      match t.node? place with
      | none => .error .notFound
      | some (.file _) => .error .notDirectory
      | some .directory =>
        if tooLong then .error .nameTooLong
        else if step = ".." then
          if place.isEmpty then walk t (some 1) [] rest else walk t none place.dropLast rest
        else walk t none (place ++ [step]) rest

/-- Where a path leads. -/
def locate (t : FileTree) (p : Path) : Except FileError Spot :=
  if p.text.toList.any (· = Char.ofNat 0) then .error .nulInName
  else if p.text.isEmpty then .error .notFound
  else if 4096 ≤ (Utf8.encode p.text).length then .error .nameTooLong
  else walk t (if p.absolute then some 0 else none) [] p.steps

/-! ## Operations -/

/-- The content of the file at a path. -/
def read (t : FileTree) (p : Path) : Except FileError Bytes := do
  match ← t.locate p with
  | .outside => throw .isDirectory
  | .nowhere => throw .notFound
  | .inside place =>
    match t.node? place with
    | none => throw .notFound
    | some .directory => throw .isDirectory
    | some (.file content) => if p.ending = .step then return content else throw .notDirectory

/-- The content of the file at a path, as text. -/
def readText (t : FileTree) : TextFiles := fun p => do
  let bytes ← t.read p
  match Utf8.decode? bytes with
  | some s => return s
  | none => throw .notText

/-- Whether there is a directory at a path. -/
def isDirectory (t : FileTree) (p : Path) : Bool :=
  match t.locate p with
  | .ok .outside => true
  | .ok (.inside place) => t.node? place == some .directory
  | _ => false

/-- Makes a directory. -/
def makeDirectory (t : FileTree) (p : Path) : Except FileError FileTree := do
  match ← t.locate p with
  | .outside => throw .alreadyExists
  | .nowhere => throw .denied
  | .inside place =>
    match t.node? place with
    | some (.file _) => throw (if p.ending = .dot then .notDirectory else .alreadyExists)
    | some .directory => throw .alreadyExists
    | none => if p.ending = .dot then throw .notFound else return t.set place .directory

/-- Makes a directory and those above it that are missing; `depth` bounds how
many. What was made stays even if a later one cannot be. -/
def makeDirectories (depth : Nat) (p : Path) (t : FileTree) : Except FileError Unit × FileTree :=
  if p.text.isEmpty then (.ok (), t)
  else
    match t.makeDirectory p with
    | .ok t => (.ok (), t)
    | .error .notFound =>
      match depth, p.parent? with
      | depth + 1, some parent =>
        match makeDirectories depth parent t with
        | (.error e, t) => (.error e, t)
        | (.ok (), t) =>
          match t.makeDirectory p with
          | .ok t => (.ok (), t)
          | .error e => (if t.isDirectory p then .ok () else .error e, t)
      | _, _ => (.error .notFound, t)
    | .error e => (if t.isDirectory p then .ok () else .error e, t)

/-- Makes an empty file, or empties the one that is there. -/
def createFile (t : FileTree) (p : Path) : Except FileError FileTree := do
  match ← t.locate p with
  | .outside => throw .isDirectory
  | .nowhere => throw .denied
  | .inside place =>
    match t.node? place with
    | some .directory => throw .isDirectory
    | some (.file _) =>
      if p.ending = .step then return t.set place (.file []) else throw .notDirectory
    | none =>
      match p.ending with
      | .step => return t.set place (.file [])
      | .slash => throw .isDirectory
      | .dot => throw .notFound

/-- Adds to the end of a file. -/
def appendFile (t : FileTree) (p : Path) (bytes : Bytes) : Except FileError FileTree := do
  let content ← t.read p
  match ← t.locate p with
  | .inside place => return t.set place (.file (content ++ bytes))
  | _ => throw .notFound

/-- Moves a file, over another one if need be. -/
def rename (t : FileTree) (source target : Path) : Except FileError FileTree := do
  let content ← t.read source
  match ← t.locate source, ← t.locate target with
  | .inside old, .inside new =>
    match t.node? new with
    | some .directory => throw .isDirectory
    | _ =>
      if target.ending ≠ .step then throw .notDirectory
      else if old = new then return t
      else return (t.erase old).set new (.file content)
  | _, .outside => throw .isDirectory
  | _, _ => throw .denied

/-- Takes away the file or directory at a path. -/
def remove (t : FileTree) (p : Path) : FileTree :=
  match t.locate p with
  | .ok (.inside place) => t.erase place
  | _ => t

end FileTree

/-! ## Operations one by one -/

/-- One operation on files. -/
inductive FileStep where
  | makeDirectories (path : Path)
  | create (path : Path)
  | append (path : Path) (bytes : Bytes)
  | sync (path : Path)
  | rename (source target : Path)
deriving DecidableEq, Repr

/-- What a file system does, with any state: it reads files and carries out
operations. -/
structure FileSystem (σ : Type) where
  read : Path → StateM σ (Except FileError Bytes)
  perform : FileStep → StateM σ (Except FileError Unit)

namespace FileTree

/-- Carries out an operation; one that fails changes nothing, except that
directories already made stay. -/
def perform (step : FileStep) (t : FileTree) : Except FileError Unit × FileTree :=
  let keep (r : Except FileError FileTree) : Except FileError Unit × FileTree :=
    match r with
    | .ok t => (.ok (), t)
    | .error e => (.error e, t)
  match step with
  | .makeDirectories p => makeDirectories p.steps.length p t
  | .create p => keep (t.createFile p)
  | .append p bytes => keep (t.appendFile p bytes)
  | .sync _ => (.ok (), t)
  | .rename source target => keep (t.rename source target)

/-- The file system that is a tree. -/
def system : FileSystem FileTree where
  read p t := (t.read p, t)
  perform := perform

end FileTree

end RelayHub
