/-
The values of a TOML document.

A table remembers how it came to be: by a header of its own, by a longer header
or key that goes through it, or written inline. That decides whether later
lines may still add to it. Of numbers with a fraction and of moments in time
only the kind is kept, because nothing here reads them.
-/

set_option autoImplicit false

namespace RelayHub

/-- How a table came to be. -/
inductive TableOrigin where
  | header
  | implied
  | dotted
  | inline
deriving DecidableEq, Repr

/-- A value. An array of tables is written with headers, and its last table is
the one that is still open. -/
inductive Toml where
  | text (s : String)
  | whole (n : Int)
  | fraction
  | boolean (b : Bool)
  | moment
  | list (items : List Toml)
  | table (origin : TableOrigin) (entries : List (String × Toml))
  | tables (closed : List Toml) (last : List (String × Toml))

namespace Toml

/-- The entries of a table. -/
abbrev Entries := List (String × Toml)

/-- The items of a list or of an array of tables. -/
def items? : Toml → Option (List Toml)
  | list items => some items
  | tables closed last => some (closed ++ [table .header last])
  | _ => none

/-- Finds the fields of a record, each by its place and its name. -/
abbrev Fields := (place : Nat) → (name : String) → Option Toml

/-- The fields of a record: by name in a table, by place in a list. A moment is a
record too, of parts that no record here has. -/
def fields? (v : Toml) : Option Fields :=
  match v with
  | table _ entries => some fun _ name => entries.lookup name
  | moment => some fun _ _ => none
  | v => v.items?.map fun items place _ => items[place]?

/-- A field that must be there. -/
def Fields.required {α : Type} (f : Fields) (place : Nat) (name : String)
    (read : Toml → Option α) : Option α := do
  read (← f place name)

/-- A field that may be missing, with what it is then. -/
def Fields.optional {α : Type} (f : Fields) (place : Nat) (name : String) (missing : α)
    (read : Toml → Option α) : Option α :=
  match f place name with
  | some v => read v
  | none => some missing

/-- A list whose items are all of one kind. -/
def listOf? {α : Type} (read : Toml → Option α) (v : Toml) : Option (List α) := do
  (← v.items?).mapM read

/-- A text. -/
def text? : Toml → Option String
  | text s => some s
  | _ => none

/-- A whole number that is not negative. -/
def natural? : Toml → Option Nat
  | whole n => if 0 ≤ n then some n.toNat else none
  | _ => none

/-- Whether a value holds nothing. -/
def isHollow : Toml → Bool
  | list items => items.isEmpty
  | table _ entries => entries.isEmpty
  | _ => false

/-- A name: a text, or a table with the name as its only key and nothing under
it. -/
def name? : Toml → Option String
  | text s => some s
  | table _ [(name, v)] => if v.isHollow then some name else none
  | _ => none

end Toml

end RelayHub
