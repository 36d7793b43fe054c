import Rendezvous.Pattern.Reader

/-!
# Rendezvous.Pattern.Usable

Which patterns can be used. A pattern must match whole characters, and there are no tables to
tell letters and digits beyond ASCII or the other case of a letter. So what needs such a table
must be used on ASCII alone, and there nothing may match a part of a character.

* `Pattern.check`: whether a text is a pattern that can be used.
-/

namespace Rendezvous

/-- The flags that matter to what a pattern matches. -/
structure Pattern.Mode where
  anyCase : Bool
  unicode : Bool
deriving Repr, DecidableEq

/-- The flags at the begin of a pattern. -/
def Pattern.Mode.usual : Pattern.Mode := ⟨false, true⟩

/-- The flags behind a change. -/
def Pattern.Mode.change (m : Pattern.Mode) (c : Pattern.Change) : Pattern.Mode :=
  ⟨c.apply .anyCase m.anyCase, c.apply .unicode m.unicode⟩

namespace Charset

/-- Whether a character can be in a set. -/
def allows (m : Pattern.Mode) (l : Pattern.Literal) : Bool :=
  if m.unicode then !m.anyCase else l.char.toNat < 128

mutual

/-- Whether a set can be used. -/
def isUsable (m : Pattern.Mode) : Charset → Bool
  | .empty => true
  | .char l => allows m l
  | .range low high => allows m low && allows m high
  | .named negated => if m.unicode then !m.anyCase else !negated
  | .kind negated => !m.unicode && !negated
  | .brackets negated s => isUsable m s && (m.unicode || !negated)
  | .union parts => areUsable m parts
  | .operation l r => isUsable m l && isUsable m r

/-- Whether some sets can be used. -/
def areUsable (m : Pattern.Mode) : List Charset → Bool
  | [] => true
  | s :: rest => isUsable m s && areUsable m rest

end

end Charset

namespace Pattern

/-- Whether a character can be matched. -/
def Literal.isUsable (m : Mode) (l : Literal) : Bool :=
  if m.unicode then !m.anyCase else !(l.asByte && 128 ≤ l.char.toNat)

mutual

/-- The flags behind a pattern, and whether it looks for the edges of words of all scripts;
nothing if it cannot be used. A group keeps its flags to itself. -/
def use? (m : Mode) : Pattern → Option (Mode × Bool)
  | .empty | .edge => some (m, false)
  | .flags c => some (m.change c, false)
  | .literal l => if l.isUsable m then some (m, false) else none
  | .dot => if m.unicode then some (m, false) else none
  | .wordEdge => some (m, m.unicode)
  | .kind negated => if m.unicode || negated then none else some (m, false)
  | .set s => if s.isUsable m then some (m, false) else none
  | .repetition p => use? m p
  | .group c p => (use? (m.change c) p).map fun r => (m, r.2)
  | .alternation ps | .series ps => useAll? m ps

/-- The same for some patterns behind each other. -/
def useAll? (m : Mode) : List Pattern → Option (Mode × Bool)
  | [] => some (m, false)
  | p :: rest => do
    let (m, edges) ← use? m p
    let (m, more) ← useAll? m rest
    return (m, edges || more)

end

/-- Why a text is no pattern that can be used. -/
inductive Flaw where
  | unreadable
  /-- The edges of words of all scripts. -/
  | wordEdges
deriving Repr, DecidableEq

/-- The wording of a flaw. -/
def Flaw.message : Flaw → String
  | .unreadable => "error building NFA"
  | .wordEdges =>
    "unsupported regex feature for DFAs: cannot build DFAs for regexes with Unicode word "
      ++ "boundaries; switch to ASCII word boundaries, or heuristically enable Unicode word "
      ++ "boundaries or use a different regex engine"

/-- Checks that a text is a pattern that can be used. -/
def check (cs : List Char) : Except Flaw Unit :=
  match (read? cs).bind (use? .usual) with
  | none => .error .unreadable
  | some (_, true) => .error .wordEdges
  | some (_, false) => .ok ()

end Pattern

end Rendezvous
