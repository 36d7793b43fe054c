/-!
# Rendezvous.Text.Cut

Cutting texts at places that count bytes. A place within a character is none at which a text
can be cut.

* `Text.splitAt?`: the parts before and behind a place;
* `Text.between?`: the part between two places.
-/

namespace Rendezvous.Text

/-- The characters before the place behind `n` bytes, and those behind it. -/
def splitAt? (n : Nat) : List Char → Option (List Char × List Char)
  | [] => if n = 0 then some ([], []) else none
  | c :: rest =>
    if n = 0 then some ([], c :: rest)
    else if n < c.utf8Size then none
    else (splitAt? (n - c.utf8Size) rest).map fun r => (c :: r.1, r.2)

/-- The characters between two places that count bytes. -/
def between? (first last : Nat) (cs : List Char) : Option (List Char) := do
  let (front, _) ← splitAt? last cs
  let (_, part) ← splitAt? first front
  return part

end Rendezvous.Text
