import Rendezvous.Bytes.Basic
import Rendezvous.Json.Decode

/-!
# Rendezvous.Relay.CircuitId

Names of circuits: 128 bits, written as five groups of hexadecimal digits. A name may also
be read without hyphens, in braces, or behind `urn:uuid:`.
-/

namespace Rendezvous

/-- The name of a circuit. -/
structure CircuitId where
  value : Nat
deriving Repr, DecidableEq, Inhabited

namespace CircuitId

/-- Why a text is no name of a circuit. -/
inductive ParseError where
  /-- A character that is neither a hexadecimal digit nor a hyphen. -/
  | badChar (c : Char) (place : Nat)
  /-- No hyphens, and not 32 digits. -/
  | badLength (found : Nat)
  /-- Not five groups. -/
  | badGroupCount (found : Nat)
  /-- A group that is too short or too long. -/
  | badGroupLength (group found : Nat)
deriving Repr, DecidableEq

/-- The lengths of the groups. -/
def groupLengths : List Nat := [8, 4, 4, 4, 12]

/-- The wording of a failure. -/
def ParseError.message : ParseError → String
  | .badChar c place =>
    "invalid character: found `" ++ String.singleton c ++ "` at " ++ toString place
  | .badLength found => "invalid length: found " ++ toString found
  | .badGroupCount found => "invalid group count: expected 5, found " ++ toString found
  | .badGroupLength group found =>
    "invalid group length in group " ++ toString group ++ ": expected "
      ++ toString (groupLengths.getD group 0) ++ ", found " ++ toString found

/-- The digits between the hyphens. -/
def groups (cs : List Char) : List (List Char) :=
  cs.foldr
    (fun c gs => if c = '-' then [] :: gs else
      match gs with
      | [] => [[c]]
      | g :: rest => (c :: g) :: rest)
    [[]]

/-- A text without what may stand around the digits, and the length of what stood before
them. -/
def unwrap (cs : List Char) : List Char × Nat :=
  match cs with
  | '\x7b' :: rest =>
    if rest.getLast? = some '\x7d' then (rest.dropLast, 1) else (cs, 0)
  | 'u' :: 'r' :: 'n' :: ':' :: 'u' :: 'u' :: 'i' :: 'd' :: ':' :: rest => (rest, 9)
  | _ => (cs, 0)

/-- The number that digits write. -/
def hexValue (cs : List Char) : Nat :=
  cs.foldl (fun n c => n * 16 + (Bytes.hexValue? c).getD 0) 0

/-- The first character that may not stand in a name, and its place. -/
def foreign? (place : Nat) : List Char → Option (Char × Nat)
  | [] => none
  | c :: rest =>
    if c = '-' ∨ (Bytes.hexValue? c).isSome then foreign? (place + c.utf8Size) rest
    else some (c, place)

/-- The first group of the wrong length. -/
def badGroup? (index : Nat) : List Nat → List (List Char) → Option (Nat × Nat)
  | want :: wants, g :: gs =>
    if g.length = want then badGroup? (index + 1) wants gs else some (index, g.length)
  | _, _ => none

/-- Reads the name of a circuit. -/
def parse (s : String) : Except ParseError CircuitId :=
  let (inner, before) := unwrap s.toList
  match foreign? 0 inner with
  | some (c, place) => .error (.badChar c (place + before + 1))
  | none =>
    let gs := groups inner
    if gs.length = 1 ∧ before = 0 then
      if inner.length = 32 then .ok ⟨hexValue inner⟩ else .error (.badLength inner.length)
    else if gs.length ≠ 5 then .error (.badGroupCount gs.length)
    else
      match badGroup? 0 groupLengths gs with
      | none => .ok ⟨hexValue gs.flatten⟩
      | some (index, found) =>
        -- what stands around the digits counts as part of the last group
        .error (.badGroupLength index
          (if index = 4 then found + (s.length - inner.length) else found))

/-- The digits of a number, `width` of them. -/
def hexText (width n : Nat) : List Char :=
  let digits := Nat.toDigits 16 n
  List.replicate (width - digits.length) '0' ++ digits

/-- The text of a name: lower-case digits in groups. -/
def toText (c : CircuitId) : String :=
  let digits := hexText 32 c.value
  let part (start len : Nat) : String := String.ofList ((digits.drop start).take len)
  String.intercalate "-" [part 0 8, part 8 4, part 12 4, part 16 4, part 20 12]

/-- A new name from sixteen random bytes: version 4 in the usual variant. -/
def ofRandom (bs : Bytes) : CircuitId :=
  ⟨Bytes.toNat (((bs.take 16).modify 6 fun b => 0x40 + b % 0x10).modify 8
    fun b => 0x80 + b % 0x40)⟩

/-- The JSON form of a name. -/
def toJson (c : CircuitId) : Json.Value := .text c.toText

/-- Reads the JSON form of a name. -/
def decoder : Json.Decoder CircuitId :=
  Json.parsedText "a formatted UUID string" fun s =>
    (parse s).mapError fun e => "UUID parsing failed: " ++ e.message

end CircuitId

end Rendezvous
