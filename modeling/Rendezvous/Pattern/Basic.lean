/-!
# Rendezvous.Pattern.Basic

Regular expressions as trees.

* `Pattern`, `Charset`: a pattern, and a set of characters within one;
* `Pattern.Change`: what a pattern switches on and off;
* `Pattern.depth`: how deep the parts of a pattern are nested.
-/

namespace Rendezvous

namespace Pattern

/-- What a pattern can switch. -/
inductive Flag where
  | anyCase
  | manyLines
  | dotTakesAll
  | swapGreed
  | unicode
  | returnEndsLine
  /-- Blanks and comments are skipped. -/
  | spaced
deriving Repr, DecidableEq

/-- The flag with a letter. -/
def Flag.ofChar? : Char → Option Flag
  | 'i' => some .anyCase
  | 'm' => some .manyLines
  | 's' => some .dotTakesAll
  | 'U' => some .swapGreed
  | 'u' => some .unicode
  | 'R' => some .returnEndsLine
  | 'x' => some .spaced
  | _ => none

/-- Flags to switch on and off. -/
structure Change where
  on : List Flag
  off : List Flag
deriving Repr, DecidableEq

/-- Nothing is switched. -/
def Change.nothing : Change := ⟨[], []⟩

/-- What becomes of a flag that has some value before. -/
def Change.apply (c : Change) (f : Flag) (before : Bool) : Bool :=
  c.on.contains f || (before && !c.off.contains f)

/-- A character, and whether it was spelled as a byte. -/
structure Literal where
  char : Char
  asByte : Bool
deriving Repr, DecidableEq

end Pattern

/-- A set of characters. -/
inductive Charset where
  | empty
  | char (l : Pattern.Literal)
  | range (low high : Pattern.Literal)
  /-- A set with a name between colons, or what is not in it. -/
  | named (negated : Bool)
  /-- Digits, blanks or characters of words, or what is none. -/
  | kind (negated : Bool)
  /-- What stands between brackets, or what does not. -/
  | brackets (negated : Bool) (inner : Charset)
  | union (parts : List Charset)
  /-- What two sets share, or what only the first or just one of them has. -/
  | operation (left right : Charset)
deriving Repr

/-- A pattern. -/
inductive Pattern where
  | empty
  | flags (c : Pattern.Change)
  | literal (l : Pattern.Literal)
  /-- Whatever character. -/
  | dot
  /-- The begin or end of a line or of the whole. -/
  | edge
  /-- The begin or end of a word, or a place that is neither. -/
  | wordEdge
  /-- A digit, a blank or a character of a word, or what is none. -/
  | kind (negated : Bool)
  | set (s : Charset)
  | repetition (p : Pattern)
  | group (c : Pattern.Change) (p : Pattern)
  | alternation (ps : List Pattern)
  | series (ps : List Pattern)
deriving Repr

namespace Charset

/-- The set of all that is in some sets. -/
def ofParts : List Charset → Charset
  | [] => .empty
  | [s] => s
  | parts => .union parts

mutual

/-- How deep the parts of a set are nested. -/
def depth : Charset → Nat
  | .empty | .char _ | .range _ _ | .named _ | .kind _ => 0
  | .brackets _ s => s.depth + 1
  | .union parts => depths parts + 1
  | .operation l r => max l.depth r.depth + 1

/-- How deep the parts of some sets are nested. -/
def depths : List Charset → Nat
  | [] => 0
  | s :: rest => max s.depth (depths rest)

end

end Charset

namespace Pattern

/-- Some patterns behind each other. -/
def ofSeries : List Pattern → Pattern
  | [] => .empty
  | [p] => p
  | ps => .series ps

mutual

/-- How deep the parts of a pattern are nested. -/
def depth : Pattern → Nat
  | .empty | .flags _ | .literal _ | .dot | .edge | .wordEdge | .kind _ => 0
  | .set s => s.depth
  | .repetition p | .group _ p => p.depth + 1
  | .alternation ps | .series ps => depths ps + 1

/-- How deep the parts of some patterns are nested. -/
def depths : List Pattern → Nat
  | [] => 0
  | p :: rest => max p.depth (depths rest)

end

end Pattern

end Rendezvous
