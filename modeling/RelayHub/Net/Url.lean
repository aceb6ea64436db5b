/-
Addresses, as a client resolves them before it sends a request.

The text of an address is cleaned of blanks and control characters around it
and of line breaks and tabs inside it. It begins with a scheme and is cut at the
first hash sign and then at the first question mark. The schemes of the web need
a host and take slashes of either kind, as many as there are; the scheme of
files may name a host; and any other scheme has a host after two slashes, and
may have a path that is only a text without them.
-/
import RelayHub.Net.Host
import RelayHub.Net.UrlPath

set_option autoImplicit false

namespace RelayHub

/-- How an address with a scheme is read. -/
inductive SchemeKind where
  | web
  | file
  | other
deriving DecidableEq, Repr

/-- Who is asked, and by whom: the user and the password, which may be empty,
the host, and the port if it is not the one that the scheme implies. -/
structure Authority where
  user : String
  password : String
  host : Option Host
  port : Option Nat
deriving DecidableEq, Repr

/-- An address. -/
structure Url where
  scheme : String
  authority : Option Authority
  path : UrlPath
  query : Option String
  fragment : Option String
deriving DecidableEq, Repr

namespace Url

open UrlPath (isSlash)

/-! ## Schemes -/

/-- How an address with a scheme is read. -/
def kindOf (scheme : String) : SchemeKind :=
  if ["http", "https", "ws", "wss", "ftp"].contains scheme then .web
  else if scheme = "file" then .file
  else .other

/-- The port that a scheme implies. -/
def impliedPort (scheme : String) : Option Nat :=
  if scheme = "http" || scheme = "ws" then some 80
  else if scheme = "https" || scheme = "wss" then some 443
  else if scheme = "ftp" then some 21
  else none

/-- Whether a character may follow the first letter of a scheme. -/
def isInScheme (c : Char) : Bool :=
  c.isAlphanum || c = '+' || c = '-' || c = '.'

/-- The scheme of an address, and what follows its colon. -/
def schemeOf? (cs : List Char) : Option (String × List Char) :=
  match cs.dropWhile isInScheme with
  | ':' :: rest =>
    if (cs.head?.any Char.isAlpha) then
      some (String.ofList ((cs.takeWhile isInScheme).map Char.toLower), rest)
    else none
  | _ => none

/-! ## Cutting -/

/-- A text without blanks and controls at its ends, and without line breaks and
tabs. -/
def clean (cs : List Char) : List Char :=
  let edge (c : Char) : Bool := decide (c.toNat ≤ 0x20)
  let trimmed := ((cs.dropWhile edge).reverse.dropWhile edge).reverse
  trimmed.filter fun c => c.toNat ≠ 9 && c.toNat ≠ 10 && c.toNat ≠ 13

/-- A text before the last character of a kind, if there is one, and after it. -/
def cutLast (cuts : Char → Bool) (cs : List Char) : Option (List Char) × List Char :=
  match cut cuts cs.reverse with
  | (after, before) => (before.map List.reverse, after.reverse)

/-- The host at the front of a text, which ends before a colon out of brackets,
and the rest. -/
def splitHost (bracketed : Bool) : List Char → List Char × List Char
  | [] => ([], [])
  | c :: cs =>
    if c = ':' && !bracketed then ([], c :: cs)
    else
      let (host, rest) := splitHost ((bracketed || c = '[') && c ≠ ']') cs
      (c :: host, rest)

/-! ## Authorities -/

/-- The user and the password of a text. -/
def userOf (cs : List Char) : String × String :=
  let (user, password) := cut (· = ':') cs
  let shown (cs : List Char) : String := String.ofList (Percent.encode Percent.notInUser cs)
  (shown user, shown (password.getD []))

/-- The port at the front of a text, which ends at a backslash if it ends
before the text, and the rest. No digits are no port. -/
def portOf? : List Char → Option (Option Nat × List Char)
  | ':' :: cs => do
    let digits := cs.takeWhile (isDigitIn 10)
    let rest := cs.dropWhile (isDigitIn 10)
    if rest.isEmpty || rest.head? = some '\\' then
      if digits.isEmpty then some (none, rest)
      else if numberOf 10 digits < twoTo 16 then some (some (numberOf 10 digits), rest)
      else none
    else none
  | rest => if rest.isEmpty then some (none, []) else none

/-- The authority of a text, and what follows it. -/
def authorityOf? (scheme : String) (cs : List Char) : Option (Authority × List Char) := do
  let (before, after) := cutLast (· = '@') cs
  let (user, password) := userOf (before.getD [])
  let (host, rest) := splitHost false after
  if host.isEmpty && (before = some [] || user ≠ "" || password ≠ "" || !rest.isEmpty) then none
  let known ←
    match kindOf scheme with
    | .web => (Host.onWeb? host).map some
    | _ => if host.isEmpty then some none else (Host.elsewhere? host).map some
  let (port, rest) ← portOf? rest
  return (⟨user, password, known, if port = impliedPort scheme then none else port⟩, rest)

/-- The authority of a file on this host or another one. -/
def fileAuthority (host : Option Host) : Authority :=
  ⟨"", "", host, none⟩

/-! ## Reading -/

/-- The authority and the path of an address on the web, after its scheme. -/
def webPlace? (scheme : String) (cs : List Char) : Option (Option Authority × UrlPath) := do
  let cs := cs.dropWhile isSlash
  let (authority, _) ← authorityOf? scheme (cs.takeWhile fun c => !isSlash c)
  return (some authority, .onWeb ((cs.dropWhile fun c => !isSlash c).drop 1))

/-- The host of a file, which is none for the host that all call their own. -/
def fileHost? (cs : List Char) : Option (Option Host) :=
  if cs.isEmpty then some none
  else (Host.onWeb? cs).map fun host => if host = .name "localhost" then none else some host

/-- The authority and the path of a file, after the scheme. A path that begins
with the letter of a drive has no host. -/
def filePlace? (cs : List Char) : Option (Option Authority × UrlPath) :=
  let here (cs : List Char) : Option Authority × UrlPath :=
    (some (fileAuthority none), .toFile (UrlPath.fileSteps cs))
  match cs with
  | a :: b :: rest =>
    if isSlash a && isSlash b then do
      let host := rest.takeWhile fun c => !isSlash c
      if UrlPath.isDrive host then return here rest
      let known ← fileHost? host
      let steps := UrlPath.fileSteps ((rest.dropWhile fun c => !isSlash c).drop 1)
      let known := if steps.head?.any UrlPath.isDrive then none else known
      return (some (fileAuthority known), .toFile steps)
    else some (here (if isSlash a then b :: rest else a :: b :: rest))
  | [a] => some (here (if isSlash a then [] else [a]))
  | [] => some (here [])

/-- The path of an address elsewhere, after its authority. There may be none, and
one that begins with a backslash keeps it. -/
def pathAfter : List Char → UrlPath
  | [] => .steps []
  | '/' :: cs => .elsewhere cs
  | cs => .elsewhere cs

/-- The authority and the path of an address elsewhere, after its scheme. -/
def otherPlace? (scheme : String) : List Char → Option (Option Authority × UrlPath)
  | '/' :: '/' :: cs => do
    let (authority, rest) ← authorityOf? scheme (cs.takeWhile (· ≠ '/'))
    return (some authority, pathAfter (rest ++ cs.dropWhile (· ≠ '/')))
  | '/' :: cs => some (none, .elsewhere cs)
  | cs => some (none, .plain (String.ofList (Percent.encode Percent.isOutside cs)))

/-- Reads an address. -/
def ofString (text : String) : Option Url := do
  let (scheme, rest) ← schemeOf? (clean text.toList)
  let (rest, fragment) := cut (· = '#') rest
  let (rest, query) := cut (· = '?') rest
  let (authority, path) ←
    match kindOf scheme with
    | .web => webPlace? scheme rest
    | .file => filePlace? rest
    | .other => otherPlace? scheme rest
  let excluded := if kindOf scheme = .other then Percent.notInQuery else Percent.notInWebQuery
  return {
    scheme, authority, path
    query := query.map fun q => String.ofList (Percent.encode excluded q)
    fragment := fragment.map fun f => String.ofList (Percent.encode Percent.notInFragment f) }

/-! ## Writing -/

/-- The text of an authority. -/
def authorityText (a : Authority) : String :=
  (if a.user = "" && a.password = "" then ""
   else a.user ++ (if a.password = "" then "" else ":" ++ a.password) ++ "@") ++
    (match a.host with
     | some host => host.text
     | none => "") ++
    (match a.port with
     | some port => ":" ++ toString port
     | none => "")

/-- The text of an address. Without an authority two slashes at the front of
the path would be read as the beginning of one, so a step of a dot goes before
them. -/
def text (u : Url) : String :=
  u.scheme ++ ":" ++
    (match u.authority with
     | some a => "//" ++ authorityText a
     | none => if u.path.startsTwice then "/." else "") ++
    u.path.text ++
    (match u.query with
     | some q => "?" ++ q
     | none => "") ++
    (match u.fragment with
     | some f => "#" ++ f
     | none => "")

/-! ## Sending -/

/-- The host of an address. -/
def host? (u : Url) : Option Host := do
  (← u.authority).host

/-- Whether the user and the password of an authority can be sent in a header:
the user must be a text, and if the user is empty the password must be one. -/
def hasCredentials (a : Authority) : Bool :=
  let readable (s : String) : Bool := (Utf8.decode? (Percent.decode s.toList)).isSome
  readable a.user && (a.user ≠ "" || (a.password ≠ "" && readable a.password))

/-- An address without the user and the password, if those are sent in a
header. -/
def withoutCredentials (u : Url) : Url :=
  { u with
    authority := u.authority.map fun a =>
      if hasCredentials a then { a with user := "", password := "" } else a }

/-- The most characters of an address that a request is sent to. -/
def longestSent : Nat := 65534

/-- Whether a request can be sent to an address: one on the web, of bounded
length, and without some characters that may stand in the name of a host. -/
def canSend (u : Url) : Bool :=
  (u.scheme = "http" || u.scheme = "https") &&
    (u.host?.any fun host =>
      !host.text.toList.any ['\x22', '\x60', '\x7b', '\x7d'].contains) &&
      decide (u.text.length ≤ longestSent)

end Url

/-- A text without the slashes at its end. -/
def withoutSlashes (text : String) : String :=
  String.ofList (text.toList.reverse.dropWhile (· = '/')).reverse

end RelayHub
