import Rendezvous.Text.Composed
import Rendezvous.Url.Direction
import Rendezvous.Url.Fold
import Rendezvous.Url.Joining
import Rendezvous.Url.Punycode

/-!
# Rendezvous.Url.Name

The names of hosts in ASCII. A name is labels with dots between them. Its letters are taken
in their one form, and each label that then has characters beyond ASCII is written as `xn--`
and their Punycode.

* `Url.Name.toAscii?`: a whole name;
* `Url.Name.meaning?`: what one label stands for.
-/

namespace Rendezvous.Url.Name

/-- What stands between dots. -/
def labels : List Char → List (List Char)
  | [] => [[]]
  | '.' :: rest => [] :: labels rest
  | c :: rest =>
    match labels rest with
    | l :: ls => (c :: l) :: ls
    | [] => [[c]]

/-- What a label in ASCII begins with that stands for others. -/
def marker : List Char := ['x', 'n', '-', '-']

/-- The longest label beyond ASCII, in characters. -/
def maxLength : Nat := 1000

/-- The longest Punycode that is read. -/
def maxCode : Nat := 2000

/-- Whether characters are in their one form. -/
def isSettled (cs : List Char) : Bool :=
  cs.all (fun c => Fold.fold c == some [c]) && Text.compose cs == cs

/-- Whether characters beyond ASCII make a label. -/
def isLabel (cs : List Char) : Bool :=
  !cs.head?.any Text.isMark && Joining.allInPlace cs && cs.length ≤ maxLength

/-- The characters that a label stands for. One in Punycode already has to be what these would
be written as. -/
def meaning? (l : List Char) : Option (List Char) :=
  if marker.isPrefixOf l then do
    let code := l.drop marker.length
    if code.any (128 ≤ ·.toNat) ∨ maxCode < code.length then none
    let cs ← Punycode.decode? code
    if cs.any (128 ≤ ·.toNat) ∧ isSettled cs ∧ isLabel cs ∧ Punycode.encode cs = code then some cs
    else none
  else if l.all (·.toNat < 128) ∨ isLabel l then some l
  else none

/-- A label in ASCII. -/
def write (cs : List Char) : List Char :=
  if cs.all (·.toNat < 128) then cs else marker ++ Punycode.encode cs

/-- A name in ASCII. -/
def toAscii? (cs : List Char) : Option (List Char) := do
  let forms ← cs.mapM Fold.fold
  let ls ← (labels (Text.compose forms.flatten)).mapM meaning?
  if Direction.allAgree ls then return (['.'] : List Char).intercalate (ls.map write) else none

end Rendezvous.Url.Name
