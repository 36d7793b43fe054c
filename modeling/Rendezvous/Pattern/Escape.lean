import Rendezvous.Bytes.Basic
import Rendezvous.Pattern.Basic
import Rendezvous.Text.Blank

/-!
# Rendezvous.Pattern.Escape

What a pattern spells behind a backslash, and the blanks that it may hold.

* `Pattern.skipBlanks`: drops blanks and comments where a pattern is spaced out;
* `Pattern.escape?`: takes an escape off the front.
-/

namespace Rendezvous.Pattern

/-! ### Blanks -/

/-- Drops blanks and comments, which end with their line. -/
def dropBlanks : (inComment : Bool) → List Char → List Char
  | _, [] => []
  | true, c :: rest => dropBlanks (c != '\n') rest
  | false, c :: rest =>
    if Text.isBlank c then dropBlanks false rest
    else if c == '#' then dropBlanks true rest
    else c :: rest

/-- Drops blanks and comments if the pattern is spaced out. -/
def skipBlanks (spaced : Bool) (cs : List Char) : List Char :=
  if spaced then dropBlanks false cs else cs

theorem length_dropBlanks_le (inComment : Bool) (cs : List Char) :
    (dropBlanks inComment cs).length ≤ cs.length := by
  induction cs generalizing inComment with
  | nil => simp [dropBlanks]
  | cons c rest ih =>
    cases inComment with
    | true => exact Nat.le_succ_of_le (ih _)
    | false =>
      simp only [dropBlanks]
      split
      · exact Nat.le_succ_of_le (ih _)
      · split
        · exact Nat.le_succ_of_le (ih _)
        · exact Nat.le_refl _

/-- Skipping makes no text longer. -/
theorem length_skipBlanks_le (spaced : Bool) (cs : List Char) :
    (skipBlanks spaced cs).length ≤ cs.length := by
  unfold skipBlanks
  split
  · exact length_dropBlanks_le _ _
  · exact Nat.le_refl _

/-! ### Escapes -/

/-- Reads hexadecimal digits, and drops the blanks around them. -/
def hexDigits? (spaced : Bool) : (count acc : Nat) → List Char → Option (Nat × List Char)
  | 0, acc, cs => some (acc, skipBlanks spaced cs)
  | count + 1, acc, cs =>
    match skipBlanks spaced cs with
    | [] => none
    | c :: rest => (Bytes.hexValue? c).bind fun d => hexDigits? spaced count (acc * 16 + d) rest

/-- Reads a character that is spelled in hexadecimal digits. -/
def spelled? (spaced : Bool) (count : Nat) (cs : List Char) : Option (Char × List Char) := do
  let (n, rest) ← hexDigits? spaced count 0 cs
  if n.isValidChar then some (Char.ofNat n, rest) else none

/-- The character for which a letter stands behind a backslash. -/
def control? : Char → Option Char
  | 'a' => some '\x07'
  | 'f' => some '\x0c'
  | 't' => some '\t'
  | 'n' => some '\n'
  | 'r' => some '\r'
  | 'v' => some '\x0b'
  | _ => none

/-- Takes off the front what follows a backslash. Punctuation stands for itself, but nothing
stands for a set with a property, nor for what a group matched. -/
def escape? (spaced : Bool) : List Char → Option (Pattern × List Char)
  | [] => none
  | c :: rest =>
    match c with
    | 'x' => (spelled? spaced 2 rest).map fun r => (.literal ⟨r.1, true⟩, r.2)
    | 'u' => (spelled? spaced 4 rest).map fun r => (.literal ⟨r.1, false⟩, r.2)
    | 'U' => (spelled? spaced 8 rest).map fun r => (.literal ⟨r.1, false⟩, r.2)
    | 'd' | 's' | 'w' => some (.kind false, rest)
    | 'D' | 'S' | 'W' => some (.kind true, rest)
    | 'A' | 'z' => some (.edge, rest)
    | 'b' | 'B' | '<' | '>' => some (.wordEdge, rest)
    | _ =>
      match control? c with
      | some d => some (.literal ⟨d, false⟩, rest)
      | none =>
        if c.toNat < 128 && !c.isAlphanum then some (.literal ⟨c, false⟩, rest) else none

end Rendezvous.Pattern
