import Rendezvous.Pattern.Escape

/-!
# Rendezvous.Pattern.Brackets

Sets of characters between brackets, which may stand within each other.

* `Charset.read?`: takes such a set off the front.
-/

namespace Rendezvous.Charset

open Pattern (Literal skipBlanks escape? length_skipBlanks_le)

/-! ### Parts -/

/-- Takes one character or escape off the front. -/
def item? (spaced : Bool) : List Char → Option (Pattern × List Char)
  | [] => none
  | '\\' :: rest => escape? spaced rest
  | c :: rest => some (.literal ⟨c, false⟩, rest)

/-- The set that one item stands for; a place is none. -/
def ofItem? : Pattern → Option Charset
  | .literal l => some (.char l)
  | .kind negated => some (.kind negated)
  | _ => none

/-- The range between two items, which are characters in order. -/
def ofEnds? : Pattern → Pattern → Option Charset
  | .literal low, .literal high => if low.char ≤ high.char then some (.range low high) else none
  | _, _ => none

/-- What stands behind a hyphen, past blanks and the sign of one comment. -/
def peek? (spaced : Bool) (cs : List Char) : Option Char :=
  if spaced then
    match cs.dropWhile Text.isBlank with
    | '#' :: rest => (rest.dropWhile Text.isBlank).head?
    | rest => rest.head?
  else cs.head?

/-- Takes an item or a range off the front. A hyphen before a bracket or another hyphen makes
no range. -/
def range? (spaced : Bool) (cs : List Char) : Option (Charset × List Char) := do
  let (low, rest) ← item? spaced cs
  match skipBlanks spaced rest with
  | [] => none
  | '-' :: after =>
    if peek? spaced after = some ']' ∨ peek? spaced after = some '-' then
      (ofItem? low).map (·, '-' :: after)
    else
      let (high, rest) ← item? spaced (skipBlanks spaced after)
      (ofEnds? low high).map (·, rest)
  | rest => (ofItem? low).map (·, rest)

/-- The names of sets of characters, which stand between colons. -/
def setNames : List String :=
  ["alnum", "alpha", "ascii", "blank", "cntrl", "digit", "graph", "lower", "print", "punct",
    "space", "upper", "word", "xdigit"]

/-- Takes a named set off the front, whose opening bracket is past. -/
def named? : List Char → Option (Charset × List Char)
  | ':' :: cs =>
    let negated := cs.head? = some '^'
    let cs := if negated then cs.drop 1 else cs
    let name := cs.takeWhile (· != ':')
    match cs.drop name.length with
    | ':' :: ']' :: rest =>
      if setNames.contains (String.ofList name) then some (.named negated, rest) else none
    | _ => none
  | _ => none

/-! ### Brackets -/

/-- What was read between two brackets so far. -/
structure Level where
  negated : Bool
  /-- What stands before the last operation. -/
  left : Option Charset
  /-- The parts behind it, the last one first. -/
  parts : List Charset

namespace Level

/-- With one more part. -/
def push (l : Level) (s : Charset) : Level := { l with parts := s :: l.parts }

/-- All that was read. -/
def whole (l : Level) : Charset :=
  match l.left with
  | none => ofParts l.parts
  | some left => .operation left (ofParts l.parts)

/-- Behind an operation. -/
def operate (l : Level) : Level := ⟨l.negated, some l.whole, []⟩

/-- The set, when its bracket closes. -/
def close (l : Level) : Charset := .brackets l.negated l.whole

end Level

/-- Takes hyphens off the front. -/
def hyphens (spaced : Bool) (cs : List Char) : List Charset × List Char :=
  match _h : cs with
  | '-' :: rest =>
    let (more, rest) := hyphens spaced (skipBlanks spaced rest)
    (.char ⟨'-', false⟩ :: more, rest)
  | _ => ([], cs)
termination_by cs.length
decreasing_by
  subst _h
  exact Nat.lt_succ_of_le (length_skipBlanks_le _ _)

/-- Reads what may follow an opening bracket: a sign of negation, then hyphens, or a closing
bracket that stands for itself. -/
def openLevel (spaced : Bool) (cs : List Char) : Level × List Char :=
  let cs := skipBlanks spaced cs
  let negated := cs.head? = some '^'
  let cs := if negated then skipBlanks spaced (cs.drop 1) else cs
  match hyphens spaced cs with
  | ([], ']' :: rest) => (⟨negated, none, [.char ⟨']', false⟩]⟩, skipBlanks spaced rest)
  | (parts, rest) => (⟨negated, none, parts⟩, rest)

/-- Reads on at a level within others, up to the bracket that closes the last of them. Each
turn takes at least a character. -/
def levels? (spaced : Bool) : (fuel : Nat) → Level → List Level → List Char →
    Option (Charset × List Char)
  | 0, _, _, _ => none
  | fuel + 1, l, outer, cs =>
    match skipBlanks spaced cs with
    | [] => none
    | '[' :: rest =>
      match named? rest with
      | some (s, rest) => levels? spaced fuel (l.push s) outer rest
      | none =>
        let (inner, rest) := openLevel spaced rest
        levels? spaced fuel inner (l :: outer) rest
    | ']' :: rest =>
      match outer with
      | [] => some (l.close, rest)
      | o :: outer => levels? spaced fuel (o.push l.close) outer rest
    | '&' :: '&' :: rest | '-' :: '-' :: rest | '~' :: '~' :: rest =>
      levels? spaced fuel l.operate outer rest
    | cs => (range? spaced cs).bind fun r => levels? spaced fuel (l.push r.1) outer r.2

/-- Takes a set off the front whose opening bracket is past. -/
def read? (spaced : Bool) (cs : List Char) : Option (Charset × List Char) :=
  let (l, rest) := openLevel spaced cs
  levels? spaced (rest.length + 1) l [] rest

end Rendezvous.Charset
