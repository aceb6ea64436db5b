/-
The backend that keeps its entries in a file.

The entries are held in memory too, and every write saves all of them: into a
temporary file beside the real one, which is then moved over it. Since only the
last of these operations touches the real file, whoever stops between two of
them leaves the old entries there, whole. If one of them fails, the write is
undone in memory: a single entry by its key, several by going back to what was
there before.
-/
import RelayHub.Files.Tree
import RelayHub.Store.Backend
import RelayHub.Store.ByteMap
import RelayHub.Store.Layout

set_option autoImplicit false

namespace RelayHub

/-! ## Maps as bytes -/

namespace ByteMap

/-- The entries in order, after their number. -/
def encode (m : ByteMap) : Bytes :=
  Layout.length m.entries ++ m.entries.flatMap fun e => Layout.block e.1 ++ Layout.block e.2

/-- Reads a number of entries into a map; of two with one key the later one
counts. -/
def takeEntries (count : Nat) (m : ByteMap) (bytes : Bytes) : Except Layout.Error ByteMap :=
  match count with
  | 0 => .ok m
  | count + 1 => do
    let (key, rest) ← Layout.takeBlock bytes
    let (value, rest) ← Layout.takeBlock rest
    takeEntries count (m.insert key value) rest

/-- Reads a map from the front of a byte string. -/
def decode (bytes : Bytes) : Except Layout.Error ByteMap := do
  let (count, rest) ← Layout.takeWord bytes
  takeEntries count.toNat empty rest

end ByteMap

/-! ## Stores in files -/

/-- A store in a file: the path of the file, and the entries. -/
structure FileStore where
  path : Path
  entries : ByteMap
deriving DecidableEq

namespace FileStore

/-- Opens the store at a path. If there is no file, it is empty. -/
def openAt {φ : Type} (files : FileSystem φ) (path : Path) : Action φ BackendError FileStore :=
  Action.of fun s =>
    let failure (cause : String) : String := path.text ++ ": " ++ cause
    let (content, s) := files.read path s
    match content with
    | .error .notFound => (.ok ⟨path, .empty⟩, s)
    | .error e => (.error (.io (failure e.message)), s)
    | .ok bytes =>
      match ByteMap.decode bytes with
      | .ok entries => (.ok ⟨path, entries⟩, s)
      | .error e => (.error (.corruption (failure e.message)), s)

/-- The operations that save entries to the file at a path. -/
def saveSteps (path : Path) (entries : ByteMap) : List FileStep :=
  let temporary := path.withExtension "tmp"
  let parent :=
    match path.parent? with
    | some directory => [FileStep.makeDirectories directory]
    | none => []
  parent ++
    [.create temporary, .append temporary entries.encode, .sync temporary, .rename temporary path]

/-- Carries out file operations one after the other, up to the first that
fails. -/
def performAll {φ : Type} (files : FileSystem φ) : List FileStep → Action φ FileError Unit
  | [] => Action.ofExcept (.ok ())
  | step :: steps =>
    Action.of fun s =>
      match files.perform step s with
      | (.ok (), s) => (performAll files steps).perform s
      | (.error e, s) => (.error e, s)

/-- Saves entries to the file at a path. -/
def save {φ : Type} (files : FileSystem φ) (path : Path) (entries : ByteMap) :
    Action φ BackendError Unit :=
  (performAll files (saveSteps path entries)).mapError fun e => .io e.message

/-- Changes the entries, and changes them once more if they cannot be saved. -/
def replace {φ : Type} (files : FileSystem φ) (entries undone : ByteMap) :
    Action (φ × FileStore) BackendError Unit :=
  Action.of fun (s, store) =>
    match (save files store.path entries).perform s with
    | (.ok (), s) => (.ok (), s, { store with entries })
    | (.error e, s) => (.error e, s, { store with entries := undone })

/-- A store in a file, as a backend. -/
def backend {φ : Type} (files : FileSystem φ) : Backend (φ × FileStore) where
  get key := Action.look fun (_, store) => .ok (store.entries.get? key)
  has key := Action.look fun (_, store) => .ok (store.entries.contains key)
  put key value := Action.of fun (s, store) =>
    let changed := store.entries.insert key value
    (replace files changed (changed.restore key (store.entries.get? key))).perform (s, store)
  putAll entries := Action.of fun (s, store) =>
    (replace files (store.entries.insertAll entries) store.entries).perform (s, store)

end FileStore

end RelayHub
