/-
TOML documents.

A document is a list of lines that give keys their values, in sections with
headers. A key with dots goes through tables, which it makes if need be; so
does a header. No key gets a value twice, no table two headers, and a table
that a header has made takes no dotted keys from outside.
-/
import RelayHub.Toml.Scalar

set_option autoImplicit false

namespace RelayHub.Toml

open Reader

/-! ## Putting values into tables -/

/-- Replaces the value of a key, or adds it. -/
def put (key : String) (v : Toml) (entries : Entries) : Entries :=
  if (entries.lookup key).isSome then
    entries.map fun e => if e.1 = key then (key, v) else e
  else entries ++ [(key, v)]

/-- Changes the table that a path leads to, making tables of the given kind on
the way where there are none. -/
def descend (made : TableOrigin) (change : Entries → Option Entries) :
    (path : List String) → Entries → Option Entries
  | [], entries => change entries
  | key :: path, entries =>
    match entries.lookup key with
    | none => do
      let t ← descend made change path []
      return put key (.table made t) entries
    | some (.table origin t) =>
      if origin = .inline then none
      else if made = .dotted ∧ origin = .header then none
      else do
        let t ← descend made change path t
        return put key (.table origin t) entries
    | some (.tables closed last) => do
      let t ← descend made change path last
      return put key (.tables closed t) entries
    | some _ => none

/-- What kind of table a path leads to, if there is a table already. -/
def originAt : (path : List String) → Entries → Option TableOrigin
  | [], _ => none
  | [key], entries =>
    match entries.lookup key with
    | some (.table origin _) => some origin
    | some (.tables _ _) => some .header
    | _ => none
  | key :: path, entries =>
    match entries.lookup key with
    | some (.table _ t) => originAt path t
    | some (.tables _ last) => originAt path last
    | _ => none

/-- Gives a key its value. A table that takes it through a dotted key must have
been made by such keys only. -/
def assignKey (path : List String) (v : Toml) (entries : Entries) : Option Entries :=
  match path.getLast? with
  | none => none
  | some key =>
    let through := path.dropLast
    if through.isEmpty || (originAt through entries).all (· == .dotted) then
      descend .dotted
        (fun t => if (t.lookup key).isSome then none else some (put key v t)) through entries
    else none

/-! ## Values -/

/-- Items in brackets, with commas between them and perhaps one at the end. -/
def listOf (item : Reader Toml) : Reader Toml := do
  char '['
  gap
  let first ← Reader.optional item
  match first with
  | none =>
    char ']'
    return .list []
  | some v =>
    gap
    let others ← manyOf do
      char ','
      gap
      let v ← item
      gap
      return v
    let _ ← Reader.optional do
      char ','
      gap
    char ']'
    return .list (v :: others)

/-- A key with its value. -/
def keyValue (value : Reader Toml) : Reader (List String × Toml) := do
  let path ← dottedKey
  char '='
  blanks
  let v ← value
  return (path, v)

/-- Keys with their values in braces, with commas between them. -/
def inlineTable (value : Reader Toml) : Reader Toml := do
  let pair : Reader (List String × Toml) := do
    let p ← keyValue value
    blanks
    return p
  char '\x7b'
  blanks
  let pairs ← Reader.optional do
    let first ← pair
    let others ← manyOf do
      char ','
      pair
    return first :: others
  char '\x7d'
  match (pairs.getD []).foldlM (fun t (path, v) => assignKey path v t) [] with
  | some entries => return .table .inline entries
  | none => failure

/-- A value that goes no deeper than given. -/
def valueWithin : (depth : Nat) → Reader Toml
  | 0 => scalar
  | depth + 1 => orElse scalar (orElse (listOf (valueWithin depth)) (inlineTable (valueWithin depth)))

/-- A value. -/
def value : Reader Toml :=
  valueWithin (depthLimit - 1)

/-! ## Lines -/

/-- A line of a document that says something. -/
inductive Line where
  | blank
  | assignment (path : List String) (v : Toml)
  | tableHeader (path : List String)
  | listHeader (path : List String)

/-- A header in single or double brackets. -/
def header : Reader Line :=
  orElse
    (do
      chars ['[', '[']
      let path ← dottedKey
      chars [']', ']']
      return .listHeader path)
    (do
      char '['
      let path ← dottedKey
      char ']'
      return .tableHeader path)

/-- One line. -/
def line : Reader Line := do
  blanks
  let found ← Reader.optional (orElse header do
    let (path, v) ← keyValue value
    return .assignment path v)
  lineEnd
  return found.getD .blank

/-- All lines of a text; `rounds` bounds how many. -/
def lines (rounds : Nat) : Reader (List Line) :=
  match rounds with
  | 0 => failure
  | rounds + 1 => fun cs =>
    if cs.isEmpty then some ([], [])
    else
      match line cs with
      | some (l, rest) => (lines rounds rest).map fun (ls, rest) => (l :: ls, rest)
      | none => none

/-! ## Sections -/

/-- The assignments of a section, up to the next header. -/
def section? (entries : Entries) : List Line → Option (Entries × List Line)
  | [] => some (entries, [])
  | .blank :: rest => section? entries rest
  | .assignment path v :: rest =>
    match assignKey path v entries with
    | some entries => section? entries rest
    | none => none
  | rest => some (entries, rest)

/-- Adds a table under its own header. It may have been made by longer headers
before. -/
def addTable (key : String) (change : Entries → Option Entries) (parent : Entries) :
    Option Entries :=
  match parent.lookup key with
  | none => (change []).map fun t => put key (.table .header t) parent
  | some (.table .implied t) => (change t).map fun t => put key (.table .header t) parent
  | some _ => none

/-- Adds a table to an array of tables. -/
def addItem (key : String) (change : Entries → Option Entries) (parent : Entries) :
    Option Entries :=
  match parent.lookup key with
  | none => (change []).map fun t => put key (.tables [] t) parent
  | some (.tables closed last) =>
    (change []).map fun t => put key (.tables (closed ++ [.table .header last]) t) parent
  | some _ => none

/-- The assignments after a header, as a change to the table they belong to. -/
def body (rest : List Line) (entries : Entries) : Option Entries :=
  (section? entries rest).map Prod.fst

/-- The lines from the next header on. -/
def nextHeader : List Line → List Line
  | [] => []
  | .blank :: rest => nextHeader rest
  | .assignment _ _ :: rest => nextHeader rest
  | rest => rest

/-- Adds the sections of a document to its root table. -/
def addSections (root : Entries) : List Line → Option Entries
  | [] => some root
  | .tableHeader path :: rest => do
    let key ← path.getLast?
    let root ← descend .implied (addTable key (body rest)) path.dropLast root
    addSections root rest
  | .listHeader path :: rest => do
    let key ← path.getLast?
    let root ← descend .implied (addItem key (body rest)) path.dropLast root
    addSections root rest
  | _ :: rest => addSections root rest

/-- The root table that lines describe. -/
def ofLines (ls : List Line) : Option Entries := do
  let root ← body ls []
  addSections root (nextHeader ls)

/-- Reads a document. A mark of the byte order before it does not count. -/
def ofString (text : String) : Option Toml := do
  let cs := text.toList
  let cs := if cs.head? = some '\ufeff' then cs.drop 1 else cs
  let (ls, _) ← lines (cs.length + 1) cs
  return .table .header (← ofLines ls)

end RelayHub.Toml
