/-
The two characters that cannot be seen and yet stand in names.

They join letters or keep them apart, and may stand only where that shows:
after a sign that takes the vowel from a consonant, and the one that keeps
letters apart also between two letters that would be joined without it.
-/
import RelayHub.DomainName.JoiningTable
import RelayHub.Text.Composition

set_option autoImplicit false

namespace RelayHub.DomainName

/-- The character that keeps letters apart. -/
def nonJoiner : Char := '\u200C'

/-- The character that joins letters. -/
def joiner : Char := '\u200D'

/-- The class of the signs that take the vowel from a consonant. -/
def vowelKiller : Nat := 9

/-- Whether a character is joined to the one after it. -/
def joinsNext (c : Char) : Bool :=
  CodeTable.holds joinedAfter c || CodeTable.holds joinedBoth c

/-- Whether a character is joined to the one before it. -/
def joinsPrevious (c : Char) : Bool :=
  CodeTable.holds joinedBefore c || CodeTable.holds joinedBoth c

/-- Whether characters, from some place on in either direction, begin with one
of a kind, apart from those that joins go through. -/
def reaches (kind : Char → Bool) (cs : List Char) : Bool :=
  (cs.dropWhile (CodeTable.holds joinedThrough)).head?.any kind

/-- Whether a joiner or non-joiner may stand between the characters before it,
given in reverse, and those after it. -/
def mayStand (c : Char) (back rest : List Char) : Bool :=
  (back.head?.any fun p => Composition.classOf p = vowelKiller) ||
    (c = nonJoiner && reaches joinsNext back && reaches joinsPrevious rest)

/-- Whether each joiner and non-joiner of a label may stand where it does, after
characters given in reverse. -/
def joinsWell (back : List Char) : List Char → Bool
  | [] => true
  | c :: rest =>
    ((c ≠ joiner && c ≠ nonJoiner) || mayStand c back rest) && joinsWell (c :: back) rest

end RelayHub.DomainName
