/-!
# Rendezvous.Url.Punycode

Text beyond ASCII, written in ASCII: its ASCII characters, a hyphen, and the places and
numbers of the others as generalised integers to the base of 36, whose digits' weights adapt
as the text goes on.

* `Punycode.encode`, `Punycode.decode?`: the two directions.
-/

namespace Rendezvous.Punycode

/-- The character for a digit below 36. -/
def digitChar (d : Nat) : Char :=
  if d < 26 then Char.ofNat (97 + d) else Char.ofNat (22 + d)

/-- The digit for a character. -/
def charDigit? (c : Char) : Option Nat :=
  if 'a' ≤ c ∧ c ≤ 'z' then some (c.toNat - 97)
  else if 'A' ≤ c ∧ c ≤ 'Z' then some (c.toNat - 65)
  else if '0' ≤ c ∧ c ≤ '9' then some (c.toNat - 22)
  else none

/-- Divides by 35 until below 456, counting the base for each time. -/
def scale : (fuel : Nat) → (delta k : Nat) → Nat × Nat
  | 0, delta, k => (delta, k)
  | fuel + 1, delta, k => if 455 < delta then scale fuel (delta / 35) (k + 36) else (delta, k)

/-- The bias after an integer `delta`, when the text has `points` characters. -/
def adapt (delta points : Nat) (isFirst : Bool) : Nat :=
  let delta := if isFirst then delta / 700 else delta / 2
  let (delta, k) := scale 64 (delta + delta / points) 0
  k + 36 * delta / (delta + 38)

/-- The threshold of a place under a bias. -/
def threshold (k bias : Nat) : Nat :=
  if k ≤ bias then 1 else if bias + 26 ≤ k then 26 else k - bias

/-- The digits of a generalised integer. -/
def integerDigits : (fuel : Nat) → (q k bias : Nat) → List Char
  | 0, _, _, _ => []
  | fuel + 1, q, k, bias =>
    let t := threshold k bias
    if q < t then [digitChar q]
    else digitChar (t + (q - t) % (36 - t)) :: integerDigits fuel ((q - t) / (36 - t)) (k + 36) bias

/-- A state of writing: how many places were passed since the last integer, the bias, how many
characters are written, and the text. -/
structure Writing where
  delta : Nat
  bias : Nat
  written : Nat
  text : List Char

/-- Writes the places at which the character with number `n` stands. -/
def writePoint (basics n : Nat) (w : Writing) : List Char → Writing
  | [] => w
  | c :: rest =>
    if c.toNat < n then writePoint basics n { w with delta := w.delta + 1 } rest
    else if c.toNat = n then
      writePoint basics n
        { delta := 0, bias := adapt w.delta (w.written + 1) (w.written == basics),
          written := w.written + 1,
          text := w.text ++ integerDigits 64 w.delta 36 w.bias } rest
    else writePoint basics n w rest

/-- The least number above a bound among characters. -/
def nextPoint? (bound : Nat) (cs : List Char) : Option Nat :=
  cs.foldl
    (fun best c =>
      if c.toNat < bound then best
      else match best with
        | none => some c.toNat
        | some b => some (min b c.toNat))
    none

/-- Writes all characters from number `n` on. -/
def writeFrom (basics : Nat) (cs : List Char) : (fuel n : Nat) → Writing → List Char
  | 0, _, w => w.text
  | fuel + 1, n, w =>
    match nextPoint? n cs with
    | none => w.text
    | some m =>
      let w := writePoint basics m { w with delta := w.delta + (m - n) * (w.written + 1) } cs
      writeFrom basics cs fuel (m + 1) { w with delta := w.delta + 1 }

/-- A text in ASCII. -/
def encode (cs : List Char) : List Char :=
  let basics := cs.filter (·.toNat < 128)
  let start := if basics.isEmpty then [] else basics ++ ['-']
  writeFrom basics.length cs (cs.length + 1) 128 ⟨0, 72, basics.length, start⟩

/-- Places and weights are below this. -/
def limit : Nat := 4294967296

/-- Reads a generalised integer on top of `i`. -/
def readInteger (bias : Nat) : (k weight i : Nat) → List Char → Option (Nat × List Char)
  | _, _, _, [] => none
  | k, weight, i, c :: rest =>
    match charDigit? c with
    | none => none
    | some d =>
      let i := i + d * weight
      let t := threshold k bias
      if limit ≤ i then none
      else if d < t then some (i, rest)
      else if limit ≤ weight * (36 - t) then none
      else readInteger bias (k + 36) (weight * (36 - t)) i rest

/-- Reads integers and puts their characters in place. -/
def readAll : (fuel n i bias : Nat) → (out : List Char) → List Char → Option (List Char)
  | 0, _, _, _, _, _ => none
  | fuel + 1, n, i, bias, out, cs =>
    match cs with
    | [] => some out
    | cs =>
      match readInteger bias 36 1 i cs with
      | none => none
      | some (next, rest) =>
        let points := out.length + 1
        let n := n + next / points
        let place := next % points
        if 128 ≤ n ∧ n.isValidChar then
          readAll fuel n (place + 1) (adapt (next - i) points (i == 0))
            (out.take place ++ Char.ofNat n :: out.drop place) rest
        else none

/-- The characters that are written so. -/
def decode? (cs : List Char) : Option (List Char) :=
  let tail := (cs.reverse.takeWhile (· != '-')).reverse
  let head := (cs.take (cs.length - tail.length)).dropLast
  if head.all (·.toNat < 128) then readAll (tail.length + 1) 128 0 72 head tail else none

end Rendezvous.Punycode
