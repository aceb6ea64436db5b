/-
Paths, as a file system reads them.

A path is a list of steps from the working directory or from the root. Empty
steps and single dots lead nowhere and are left out; a step of two dots leads
to the directory above, and is kept, because what it leads to depends on what
is there.
-/
import RelayHub.Text.Utf8

set_option autoImplicit false

namespace RelayHub

/-- How a path ends: in a step, or after its last step in slashes or in a single
dot, which both ask for a directory. A dot asks for one that is there. -/
inductive PathEnd where
  | step
  | slash
  | dot
deriving DecidableEq, Repr

/-- A path: its text, whether it starts at the root, its steps, and its end. -/
structure Path where
  text : String
  absolute : Bool
  steps : List String
  ending : PathEnd
deriving DecidableEq, Repr

namespace Path

/-- Cuts a list of characters at every slash. -/
def segments : List Char → List (List Char)
  | [] => [[]]
  | c :: cs =>
    if c = '/' then [] :: segments cs
    else
      match segments cs with
      | [] => [[c]]
      | s :: rest => (c :: s) :: rest

/-- Whether a segment leads nowhere. -/
def isIdle (segment : List Char) : Bool :=
  segment == [] || segment == ['.']

/-- How a path with these segments ends. -/
def endOf (segments : List (List Char)) : PathEnd :=
  if segments.all isIdle then .step
  else
    match segments.reverse with
    | [] :: back => if (back.dropWhile List.isEmpty).head? = some ['.'] then .dot else .slash
    | ['.'] :: _ => .dot
    | _ => .step

/-- The path with this text. -/
def ofString (text : String) : Path :=
  let all := segments text.toList
  { text
    absolute := text.toList.head? == some '/'
    steps := (all.filter fun s => !isIdle s).map String.ofList
    ending := endOf all }

/-- The path of a list of steps. -/
def ofSteps (absolute : Bool) (steps : List String) : Path :=
  { text := (if absolute then "/" else "") ++ String.intercalate "/" steps
    absolute, steps
    ending := .step }

/-- The text of a path below another; an absolute one stands for itself. -/
def join (base below : String) : String :=
  if below.toList.head? = some '/' then below
  else if base.isEmpty then below
  else if base.toList.getLast? = some '/' then base ++ below
  else base ++ "/" ++ below

/-- The directory that a path lies in, as far as its text says. -/
def parent? (p : Path) : Option Path :=
  if p.steps.isEmpty then none else some (ofSteps p.absolute p.steps.dropLast)

/-- A name up to its last dot, unless the dot comes first. -/
def stem (name : String) : String :=
  let reversed := name.toList.reverse
  let before := (reversed.dropWhile (· ≠ '.')).drop 1
  if before.isEmpty then name else String.ofList before.reverse

/-- The path beside this one whose name has another extension. A path whose
last step is no name is left as it is. A name of two dots and an extension is
none without it, and then leads to the directory above. -/
def withExtension (p : Path) (extension : String) : Path :=
  match p.steps.getLast? with
  | none => p
  | some name =>
    if name = ".." then p
    else if stem name = "." ∧ p.ending = .step then
      ofSteps p.absolute (p.steps.dropLast ++ [".."])
    else ofSteps p.absolute (p.steps.dropLast ++ [stem name ++ "." ++ extension])

end Path

end RelayHub
