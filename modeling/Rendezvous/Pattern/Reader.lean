import Rendezvous.Pattern.Brackets
import Rendezvous.Text.Letter

/-!
# Rendezvous.Pattern.Reader

The text of patterns. Closing braces do not occur in such a text, so neither do counted
repetitions, and an opening brace outside brackets is a mistake.

* `Pattern.read?`: the pattern that a text spells.
-/

namespace Rendezvous.Pattern

/-! ### Groups -/

/-- How a parenthesis goes on. -/
inductive Opening where
  /-- A group, with its name if it has one. -/
  | group (name : Option (List Char)) (c : Change)
  /-- Flags alone, with their parenthesis closed. -/
  | flags (c : Change)
deriving Repr, DecidableEq

/-- Reads flags: each once, and some of them behind one minus. -/
def Change.read? (cs : List Char) : Option Change := do
  let front := cs.takeWhile (· != '-')
  let on ← front.mapM Flag.ofChar?
  let off ← match cs.drop front.length with
    | [] => some []
    | [_] => none
    | _ :: back => back.mapM Flag.ofChar?
  if (on ++ off).Nodup then some ⟨on, off⟩ else none

/-- Whether a name is one for a group. -/
def isGroupName : List Char → Bool
  | [] => false
  | c :: more =>
    (c == '_' || Text.isLetter c)
      && more.all fun c =>
        c == '_' || c == '.' || c == '[' || c == ']' || Text.isLetterOrDigit c

/-- Reads the name of a group up to its angle bracket. -/
def groupName? (cs : List Char) : Option (Opening × List Char) :=
  let name := cs.takeWhile (· != '>')
  match cs.drop name.length with
  | '>' :: rest => if isGroupName name then some (.group (some name) .nothing, rest) else none
  | _ => none

/-- Reads what follows a parenthesis that opens. -/
def opening? (spaced : Bool) (cs : List Char) : Option (Opening × List Char) :=
  match skipBlanks spaced cs with
  | '?' :: 'P' :: '<' :: rest | '?' :: '<' :: rest => groupName? rest
  | '?' :: rest => do
    let flags := rest.takeWhile fun c => c != ':' && c != ')'
    let change ← Change.read? flags
    match rest.drop flags.length with
    | ':' :: rest => some (.group none change, rest)
    | ')' :: rest => if flags.isEmpty then none else some (.flags change, rest)
    | _ => none
  | rest => some (.group none .nothing, rest)

/-! ### Patterns -/

/-- What stands around a group that is open. -/
structure Around where
  /-- What the group switches. -/
  change : Change
  /-- Whether the pattern is spaced out around it. -/
  spaced : Bool
  branches : List Pattern
  items : List Pattern

/-- What was read of a pattern. -/
structure Progress where
  spaced : Bool
  /-- The names of groups so far. -/
  names : List (List Char)
  /-- The open groups, the innermost first. -/
  around : List Around
  /-- The alternatives that are complete, the last one first. -/
  branches : List Pattern
  /-- The parts of the alternative that is not, the last one first. -/
  items : List Pattern

namespace Progress

/-- Nothing. -/
def begin : Progress := ⟨false, [], [], [], []⟩

/-- The pattern within the innermost group. -/
def whole (r : Progress) : Pattern :=
  match r.branches with
  | [] => ofSeries r.items.reverse
  | bs => .alternation (ofSeries r.items.reverse :: bs).reverse

/-- With one more part. -/
def push (r : Progress) (p : Pattern) : Progress := { r with items := p :: r.items }

/-- Behind an opening parenthesis. -/
def enter? (r : Progress) : Opening → Option Progress
  | .flags c => some { r.push (.flags c) with spaced := c.apply .spaced r.spaced }
  | .group name c =>
    if name.any r.names.contains then none
    else some { r with
      spaced := c.apply .spaced r.spaced
      names := name.toList ++ r.names
      around := ⟨c, r.spaced, r.branches, r.items⟩ :: r.around
      branches := []
      items := [] }

/-- Behind a closing parenthesis. -/
def leave? (r : Progress) : Option Progress :=
  match r.around with
  | [] => none
  | a :: rest => some { r with
      spaced := a.spaced
      around := rest
      branches := a.branches
      items := .group a.change r.whole :: a.items }

/-- With the last part repeated, if there is one that can be. -/
def repeat? (r : Progress) : Option Progress :=
  match r.items with
  | [] | .empty :: _ | .flags _ :: _ => none
  | p :: items => some { r with items := .repetition p :: items }

/-- Reads one part. -/
def step? (r : Progress) : List Char → Option (Progress × List Char)
  | [] | '\x7b' :: _ => none
  | '(' :: rest => do
    let (o, rest) ← opening? r.spaced rest
    return (← r.enter? o, rest)
  | ')' :: rest => r.leave?.map (·, rest)
  | '|' :: rest =>
    some ({ r with branches := ofSeries r.items.reverse :: r.branches, items := [] }, rest)
  | '*' :: '?' :: rest | '+' :: '?' :: rest | '?' :: '?' :: rest => r.repeat?.map (·, rest)
  | '*' :: rest | '+' :: rest | '?' :: rest => r.repeat?.map (·, rest)
  | '[' :: rest => (Charset.read? r.spaced rest).map fun s => (r.push (.set s.1), s.2)
  | '\\' :: rest => (escape? r.spaced rest).map fun p => (r.push p.1, p.2)
  | '.' :: rest => some (r.push .dot, rest)
  | '^' :: rest | '$' :: rest => some (r.push .edge, rest)
  | c :: rest => some (r.push (.literal ⟨c, false⟩), rest)

/-- Reads on to the end, where all groups are closed. Each turn takes at least a character. -/
def steps? : (fuel : Nat) → Progress → List Char → Option Pattern
  | 0, _, _ => none
  | fuel + 1, r, cs =>
    match skipBlanks r.spaced cs with
    | [] => if r.around.isEmpty then some r.whole else none
    | cs => (r.step? cs).bind fun next => steps? fuel next.1 next.2

end Progress

/-- How deep parts may be nested. -/
def mostDepth : Nat := 250

/-- The pattern that a text spells. -/
def read? (cs : List Char) : Option Pattern :=
  (Progress.steps? (cs.length + 1) .begin cs).filter fun p => p.depth ≤ mostDepth

end Rendezvous.Pattern
