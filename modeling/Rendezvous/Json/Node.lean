import Rendezvous.Json.Value

/-!
# Rendezvous.Json.Node

JSON as it stands in a text: every part with its place, and, where the text breaks off or
goes wrong, a part that says so in place of what should have been there. A reader of a
node meets its parts in the order of the text, so it sees a mistake in the text only if it
gets that far.

Some mistakes are seen only by a reader that wants the value: half a surrogate pair inside
a quoted text, or a number beyond all bounds. A reader that passes over the value does not
mind them.

* `Json.Place`, `Json.Fault`: where a text goes wrong, and how;
* `Json.Node`, `Json.Items`, `Json.Entries`: the parts of a text;
* `Json.Node.value`, `Json.Node.pass`: reading a whole node, and passing over it.
-/

namespace Rendezvous.Json

/-- A place in a text: the line, from 1, and how many bytes of the line lie before. -/
structure Place where
  line : Nat
  column : Nat
deriving Repr, DecidableEq, Inhabited

/-- How a text fails to be JSON. -/
inductive Reason where
  | endInArray
  | endInObject
  | endInText
  | endInValue
  | expectedColon
  | expectedCommaOrBracket
  | expectedCommaOrBrace
  | expectedIdent
  | expectedValue
  | invalidEscape
  | invalidNumber
  | numberOutOfRange
  | invalidCodePoint
  | controlCharacter
  | keyNotText
  | loneSurrogate
  | trailingComma
  | trailingCharacters
  | endOfEscape
  | tooDeep
deriving Repr, DecidableEq

/-- Whether the text ended too early, as against going on wrongly. -/
def Reason.isEnd : Reason → Bool
  | .endInArray | .endInObject | .endInText | .endInValue => true
  | _ => false

/-- The wording of a reason. -/
def Reason.message : Reason → String
  | .endInArray => "EOF while parsing a list"
  | .endInObject => "EOF while parsing an object"
  | .endInText => "EOF while parsing a string"
  | .endInValue => "EOF while parsing a value"
  | .expectedColon => "expected `:`"
  | .expectedCommaOrBracket => "expected `,` or `]`"
  | .expectedCommaOrBrace => "expected `,` or `\x7d`"
  | .expectedIdent => "expected ident"
  | .expectedValue => "expected value"
  | .invalidEscape => "invalid escape"
  | .invalidNumber => "invalid number"
  | .numberOutOfRange => "number out of range"
  | .invalidCodePoint => "invalid unicode code point"
  | .controlCharacter =>
    "control character (\\u0000-\\u001F) found while parsing a string"
  | .keyNotText => "key must be a string"
  | .loneSurrogate => "lone leading surrogate in hex escape"
  | .trailingComma => "trailing comma"
  | .trailingCharacters => "trailing characters"
  | .endOfEscape => "unexpected end of hex escape"
  | .tooDeep => "recursion limit exceeded"

/-- A reason and its place. -/
structure Fault where
  reason : Reason
  place : Place
deriving Repr, DecidableEq

/-- What a mistake in the text is to a reader that wants the value, and to one that passes
over it. -/
structure Break where
  reading : Fault
  passing : Fault
deriving Repr, DecidableEq

/-- A mistake that all readers see alike. -/
def Break.both (f : Fault) : Break := ⟨f, f⟩

mutual

/-- A value in a text. `start` is the place of its first byte, `stop` the place behind its
last. -/
inductive Node where
  | null (start stop : Place)
  | bool (b : Bool) (start stop : Place)
  | number (n : Except Fault Number) (start stop : Place)
  | text (s : Except Fault String) (start stop : Place)
  | array (start : Place) (items : Items)
  | object (start : Place) (entries : Entries)
  /-- A word or a number that breaks off or goes wrong. -/
  | stump (start : Place) (cause : Break)
  | broken (cause : Break)

/-- What stands inside an array, up to the place behind its bracket. `next` is the place
behind a value and the blanks that follow it. -/
inductive Items where
  | close (stop : Place)
  | item (value : Node) (next : Place) (rest : Items)
  | broken (cause : Break)

/-- What stands inside an object, up to the place behind its brace. `keyStop` is the place
behind the closing quote of a key and `keyNext` the one behind the blanks that follow it;
`next` is the place behind a value and the blanks that follow it. -/
inductive Entries where
  | close (stop : Place)
  | entry (key : Except Fault String) (keyStop keyNext : Place) (value : Node) (next : Place)
      (rest : Entries)
  /-- Something else stands where a key should be. -/
  | keyless (found : Node) (cause : Break)
  | broken (cause : Break)

end

instance : Inhabited Node := ⟨.null default default⟩

/-- Arrays and objects may stand inside one another one level less deep than this. -/
def maxDepth : Nat := 128

mutual

/-- The value of a node, or the first mistake in it. `depth` is one more than the number
of containers that may still open. -/
def Node.value (depth : Nat) : Node → Except Fault Value
  | .null _ _ => .ok .null
  | .bool b _ _ => .ok (.bool b)
  | .number n _ _ => n.map .number
  | .text s _ _ => s.map .text
  | .array start items =>
    if depth ≤ 1 then .error ⟨.tooDeep, start⟩
    else (Items.values (depth - 1) items).map .array
  | .object start entries =>
    if depth ≤ 1 then .error ⟨.tooDeep, start⟩
    else (Entries.values (depth - 1) entries).map .object
  | .stump _ cause | .broken cause => .error cause.reading

/-- The values of items. -/
def Items.values (depth : Nat) : Items → Except Fault (List Value)
  | .close _ => .ok []
  | .item v _ rest => do
    let v ← v.value depth
    let rest ← rest.values depth
    return v :: rest
  | .broken cause => .error cause.reading

/-- The members of an object. -/
def Entries.values (depth : Nat) : Entries → Except Fault (List (String × Value))
  | .close _ => .ok []
  | .entry k _ _ v _ rest => do
    let k ← k
    let v ← v.value depth
    let rest ← rest.values depth
    return (k, v) :: rest
  | .keyless _ cause | .broken cause => .error cause.reading

end

mutual

/-- Passes over a node, minding only the mistakes that leave no value to pass over. -/
def Node.pass : Node → Except Fault Unit
  | .array _ items => items.pass
  | .object _ entries => entries.pass
  | .stump _ cause | .broken cause => .error cause.passing
  | .null _ _ => .ok ()
  | .bool _ _ _ => .ok ()
  | .number _ _ _ => .ok ()
  | .text _ _ _ => .ok ()

/-- `Node.pass` on items. -/
def Items.pass : Items → Except Fault Unit
  | .close _ => .ok ()
  | .item v _ rest => do
    v.pass
    rest.pass
  | .broken cause => .error cause.passing

/-- `Node.pass` on entries. -/
def Entries.pass : Entries → Except Fault Unit
  | .close _ => .ok ()
  | .entry _ _ _ v _ rest => do
    v.pass
    rest.pass
  | .keyless _ cause | .broken cause => .error cause.passing

end

end Rendezvous.Json
