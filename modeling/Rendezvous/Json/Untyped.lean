import Rendezvous.Json.Decode

/-!
# Rendezvous.Json.Untyped

Reading a value of whatever shape. An object whose first key is `Json.keptKey` stands for a
value whose JSON was kept as a text: that text is read in turn, and what it says takes the
place of the object.

* `Json.Node.untyped`: the value of a node, given a reader of kept texts;
* `Json.kept`: that reader, which may meet kept texts inside the one that it reads;
* `Json.anything`: the decoder.
-/

namespace Rendezvous.Json

/-! ### Kept texts -/

/-- The key that marks a text as the JSON of a value. -/
def keptKey : String := "$serde_json::private::RawValue"

/-- A mistake in a kept text, to those who read what is around it. The text around is JSON,
so it is a mistake in the data, but it stays at its place in the kept text. -/
def DecodeError.outer : DecodeError → DecodeError
  | .badText f => .badData f.reason.message (some f.place)
  | .badData message place => .badData message place

/-- The value of the first member, if its key is `keptKey`, with the place behind it and the
members that follow. -/
def Entries.kept? : Entries → Option (Node × Place × Entries)
  | .entry (.ok key) _ _ v next rest => if key = keptKey then some (v, next, rest) else none
  | _ => none

/-- How many members there are, before any mistake. -/
def Entries.count : Entries → Nat
  | .entry _ _ _ _ _ rest => rest.count + 1
  | _ => 0

/-- What is wrong with a text that does not close an object at `next`. A comma is a mistake,
whatever follows it. -/
def Entries.surplus (next : Place) : Entries → Fault
  | .broken ⟨⟨.endInObject, place⟩, _⟩ => ⟨.endInObject, place⟩
  | .broken ⟨⟨.expectedCommaOrBrace, place⟩, _⟩ => ⟨.trailingCharacters, place⟩
  | _ => ⟨.trailingComma, Cursor.step next 44⟩

/-- Checks that no members follow the first one of an object, which ends at `next`. -/
def Entries.checkClosed (m : Mode) (next : Place) : Entries → Except DecodeError Unit
  | .close _ => .ok ()
  | rest =>
    if m.placed then .error (.badText (rest.surplus next))
    else
      m.bad ("invalid length " ++ toString (rest.count + 1) ++ ", expected 1 element in map")
        next

/-- The value for which a kept text stands, if it is the whole object. -/
def keptValue (inner : String → Except DecodeError Value) (m : Mode) (v : Node) (next : Place)
    (rest : Entries) : Except DecodeError Value := do
  let s ← parsedText "raw value" .ok m v
  let value ← (inner s).mapError .outer
  rest.checkClosed m next
  return value

/-! ### Values -/

mutual

/-- The value of a node, or the first mistake in it. `inner` reads kept texts. -/
def Node.untyped (inner : String → Except DecodeError Value) (m : Mode) :
    Node → Except DecodeError Value
  | .null _ _ => .ok .null
  | .bool b _ _ => .ok (.bool b)
  | .number n _ _ => ofFault (n.map .number)
  | .text s _ _ => ofFault (s.map .text)
  | .array start items => do
    let m ← m.enter start
    (items.untyped inner m).map .array
  | .object start entries => do
    let m ← m.enter start
    match entries.kept? with
    | some (v, next, rest) => keptValue inner m v next rest
    | none => (entries.untyped inner m).map .object
  | .stump _ cause | .broken cause => .error (.badText cause.reading)

/-- `Node.untyped` on items. -/
def Items.untyped (inner : String → Except DecodeError Value) (m : Mode) :
    Items → Except DecodeError (List Value)
  | .close _ => .ok []
  | .item v _ rest => do
    let v ← v.untyped inner m
    let rest ← rest.untyped inner m
    return v :: rest
  | .broken cause => .error (.badText cause.reading)

/-- `Node.untyped` on the values of members. -/
def Entries.untyped (inner : String → Except DecodeError Value) (m : Mode) :
    Entries → Except DecodeError (List (String × Value))
  | .close _ => .ok []
  | .entry key _ _ v _ rest => do
    let key ← ofFault key
    let v ← v.untyped inner m
    let rest ← rest.untyped inner m
    return (key, v) :: rest
  | .keyless _ cause | .broken cause => .error (.badText cause.reading)

end

/-- A value of whatever shape, its members in order, given a reader of kept texts. -/
def untyped (inner : String → Except DecodeError Value) : Decoder Value := fun m node =>
  (node.untyped inner m).map Value.canonical

/-- Reads a kept text in which fewer than `fuel` others stand one inside the other. -/
def keptWithin : (fuel : Nat) → String → Except DecodeError Value
  | 0, _ => .error (.badData "too many texts inside one another" none)
  | fuel + 1, s => decode (untyped (keptWithin fuel)) (Bytes.ofString s)

/-- Reads a kept text. Those that stand inside it are shorter, so it has no more of them inside
one another than bytes. -/
def kept (s : String) : Except DecodeError Value :=
  keptWithin ((Bytes.ofString s).length + 1) s

/-- Any value, its members in order. -/
def anything : Decoder Value := untyped kept

end Rendezvous.Json
