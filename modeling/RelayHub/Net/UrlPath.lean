/-
The path of an address.

A path is cut into steps at slashes. A step of one dot leads nowhere, a step of
two dots leads back, and a dot may be written with a percent sign. Steps do not
lead back from the letter of a drive.
-/
import RelayHub.Net.Percent
import RelayHub.Text.Cut

set_option autoImplicit false

namespace RelayHub

/-- A path: steps with a slash before each of them, or only a text. -/
inductive UrlPath where
  | steps (steps : List String)
  | plain (text : String)
deriving DecidableEq, Repr

namespace UrlPath

/-- Whether a character separates the steps of a path on the web. -/
def isSlash (c : Char) : Bool :=
  c = '/' || c = '\\'

/-- A step with its encoded dots written as dots. -/
def plainDots : List Char → List Char
  | '%' :: '2' :: 'e' :: rest => '.' :: plainDots rest
  | '%' :: '2' :: 'E' :: rest => '.' :: plainDots rest
  | c :: rest => c :: plainDots rest
  | [] => []

/-! ## Drives -/

/-- Whether a text is the letter of a drive. -/
def isDrive : List Char → Bool
  | [letter, sign] => letter.isAlpha && (sign = ':' || sign = '|')
  | _ => false

/-- Whether a step begins with the letter of a drive. -/
def onDrive : List Char → Bool
  | letter :: sign :: rest =>
    isDrive [letter, sign] && (rest.isEmpty || rest.head? = some '\\')
  | _ => false

/-- The letter of a drive with a colon. -/
def withColon (step : List Char) : List Char :=
  if isDrive step then step.take 1 ++ [':'] else step

/-! ## Resolving -/

/-- A step back, from steps in reverse. -/
def stepBack : List (List Char) → List (List Char)
  | [] => []
  | s :: back => if onDrive s then s :: back else back

/-- Resolves the steps of a path after those already resolved, which are given
in reverse. A path that ends in a step of dots ends in a slash. The first step
is changed by `first`. -/
def resolve (first : List Char → List Char) (back : List (List Char)) :
    List (List Char) → List (List Char)
  | [] => back.reverse
  | s :: rest =>
    let dots := plainDots s
    if dots = ['.', '.'] then
      if rest.isEmpty then ([] :: stepBack back).reverse else resolve first (stepBack back) rest
    else if dots = ['.'] then
      if rest.isEmpty then ([] :: back).reverse else resolve first back rest
    else resolve first ((if back.isEmpty then first s else s) :: back) rest

/-- The steps of a text that is cut at some slashes, given after the first of
these. -/
def stepsOf (first : List Char → List Char) (slash : Char → Bool) (cs : List Char) :
    List (List Char) :=
  resolve first [] ((pieces slash cs).map (Percent.encode Percent.notInPath))

/-- A path of given steps. -/
def ofSteps (steps : List (List Char)) : UrlPath :=
  .steps (steps.map String.ofList)

/-- A path on the web, after its first slash. -/
def onWeb (cs : List Char) : UrlPath :=
  ofSteps (stepsOf id isSlash cs)

/-- A path elsewhere, after its first slash. -/
def elsewhere (cs : List Char) : UrlPath :=
  ofSteps (stepsOf id (· = '/') cs)

/-- The steps of a path to a file, after its first slash. -/
def fileSteps (cs : List Char) : List (List Char) :=
  stepsOf withColon isSlash cs

/-- A path to a file. Empty steps at the front are left out. -/
def toFile (steps : List (List Char)) : UrlPath :=
  match steps.dropWhile (·.isEmpty) with
  | [] => .steps [""]
  | s :: rest => ofSteps (s :: rest)

/-! ## Writing -/

/-- The text of a path. -/
def text : UrlPath → String
  | .steps ss => String.join (ss.map ("/" ++ ·))
  | .plain s => s

/-- Whether the text of a path begins with two slashes. -/
def startsTwice : UrlPath → Bool
  | .steps ("" :: _ :: _) => true
  | _ => false

end UrlPath

end RelayHub
