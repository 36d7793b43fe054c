import Rendezvous.Number.Binary64
import Rendezvous.Bytes.Basic

/-!
# Rendezvous.Json.Value

JSON values and their compact text. Whole numbers are kept apart from fractions, and the
members of an object keep the order in which they were put there.

* `Json.Value`, `Json.Number`;
* `Json.Value.render`: the compact text;
* `Json.Value.canonical`: the value with the members of every object in the order of their
  keys, each key once.
-/

namespace Rendezvous.Json

/-- A number: whole and not negative, whole and negative, or a fraction. -/
inductive Number where
  /-- A whole number below 2^64. -/
  | nat (n : Nat)
  /-- The whole number `-(n + 1)`, not below -2^63. -/
  | negSucc (n : Nat)
  /-- Any other number, rounded. -/
  | fraction (x : Binary64)
deriving Repr, DecidableEq, Inhabited

/-- A JSON value. -/
inductive Value where
  | null
  | bool (b : Bool)
  | number (n : Number)
  | text (s : String)
  | array (items : List Value)
  | object (members : List (String × Value))
deriving Repr, Inhabited

namespace Number

/-- A decimal with its shortest digits: positional if its first digit stands for 10^-5 to
10^15, always with a point, and otherwise with an exponent that shows its sign. -/
def renderFraction : Binary64 → String
  | .finite s m e =>
    let sign := if s then "-" else ""
    let (digits, k) := Binary64.shortest m e
    let text := toString digits
    let top : Int := k + text.length
    if 0 ≤ k ∧ top ≤ 16 then
      sign ++ text ++ (if m = 0 then "" else Binary64.zeros k.toNat) ++ ".0"
    else if 0 < top ∧ top ≤ 16 then
      sign ++ String.ofList (text.toList.take top.toNat) ++ "."
        ++ String.ofList (text.toList.drop top.toNat)
    else if -5 < top ∧ top ≤ 0 then
      sign ++ "0." ++ Binary64.zeros (-top).toNat ++ text
    else
      let exponent := top - 1
      let shown := if exponent < 0 then toString exponent else "+" ++ toString exponent
      let mantissa := match text.toList with
        | [] => ""
        | [c] => String.ofList [c]
        | c :: rest => String.ofList ([c, '.'] ++ rest)
      sign ++ mantissa ++ "e" ++ shown
  | _ => "null"

/-- The text of a number. -/
def render : Number → String
  | .nat n => toString n
  | .negSucc n => "-" ++ toString (n + 1)
  | .fraction x => renderFraction x

end Number

/-! ### Printing -/

/-- A character inside a quoted text. -/
def escape (c : Char) : List Char :=
  if c = '"' then ['\\', '"']
  else if c = '\\' then ['\\', '\\']
  else if c = '\x08' then ['\\', 'b']
  else if c = '\x0c' then ['\\', 'f']
  else if c = '\n' then ['\\', 'n']
  else if c = '\r' then ['\\', 'r']
  else if c = '\t' then ['\\', 't']
  else if c.toNat < 32 then
    ['\\', 'u', '0', '0', Bytes.hexDigit (c.toNat / 16), Bytes.hexDigit (c.toNat % 16)]
  else [c]

/-- A quoted text. -/
def quote (s : String) : String :=
  String.ofList (['"'] ++ s.toList.flatMap escape ++ ['"'])

/-- Texts with a comma between neighbours. -/
def commaSeparated (parts : List String) : String := String.intercalate "," parts

mutual

/-- The compact text of a value. -/
def Value.render : Value → String
  | .null => "null"
  | .bool b => if b then "true" else "false"
  | .number n => n.render
  | .text s => quote s
  | .array items => "[" ++ commaSeparated (renderItems items) ++ "]"
  | .object members => "\x7b" ++ commaSeparated (renderMembers members) ++ "\x7d"

/-- The texts of values. -/
def renderItems : List Value → List String
  | [] => []
  | v :: rest => v.render :: renderItems rest

/-- The texts of members, each a key, a colon and a value. -/
def renderMembers : List (String × Value) → List String
  | [] => []
  | (k, v) :: rest => (quote k ++ ":" ++ v.render) :: renderMembers rest

end

/-! ### Members -/

/-- Puts a member in its place by key; it takes the place of one with the same key. -/
def insertMember (k : String) (v : Value) : List (String × Value) → List (String × Value)
  | [] => [(k, v)]
  | (k', v') :: rest =>
    if k = k' then (k, v) :: rest
    else if k < k' then (k, v) :: (k', v') :: rest
    else (k', v') :: insertMember k v rest

/-- Members in the order of their keys; of members with one key the last stays. -/
def sortMembers (members : List (String × Value)) : List (String × Value) :=
  members.foldl (fun sorted m => insertMember m.1 m.2 sorted) []

mutual

/-- The value with the members of all objects in the order of their keys. -/
def Value.canonical : Value → Value
  | .array items => .array (canonicalItems items)
  | .object members => .object (sortMembers (canonicalMembers members))
  | .null => .null
  | .bool b => .bool b
  | .number n => .number n
  | .text s => .text s

/-- `Value.canonical` on each of some values. -/
def canonicalItems : List Value → List Value
  | [] => []
  | v :: rest => v.canonical :: canonicalItems rest

/-- `Value.canonical` on the value of each member. -/
def canonicalMembers : List (String × Value) → List (String × Value)
  | [] => []
  | (k, v) :: rest => (k, v.canonical) :: canonicalMembers rest

end

namespace Value

/-- A whole number. -/
def nat (n : Nat) : Value := .number (.nat n)

/-- A text, or null. -/
def optionText : Option String → Value
  | none => .null
  | some s => .text s

/-- A whole number, or null. -/
def optionNat : Option Nat → Value
  | none => .null
  | some n => .nat n

/-- The value of a member, if the value is an object that has it. -/
def member? (v : Value) (key : String) : Option Value :=
  match v with
  | .object members => (members.find? fun m => m.1 == key).map (·.2)
  | _ => none

end Value

end Rendezvous.Json
