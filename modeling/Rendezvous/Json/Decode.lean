import Rendezvous.Json.Reader
import Rendezvous.Text.Quoted

/-!
# Rendezvous.Json.Decode

From JSON to typed values, with an exact account of what is wrong with a text that does
not fit. A decoder meets the parts of a node in the order of the text and stops at the
first mistake, be it in the text or in what the text says.

* `Json.Decoder`: a reader of nodes; `text`, `word64`, `option`, `list`, `choice` and so on;
* `Json.Fields`: the fields of a record, put together applicatively; a record may also be
  written as the array of its fields;
* `Json.tagged`: a record whose kind is told by one of its members. Its other members are
  set aside until the kind is known, so mistakes in them have lost their places.
-/

namespace Rendezvous.Json

/-! ### Errors -/

/-- Why a text does not give a value of the type wanted. -/
inductive DecodeError where
  /-- The text is not JSON. -/
  | badText (fault : Fault)
  /-- The text is JSON, but says something else. The place is known only while the text
  itself is being read. -/
  | badData (message : String) (place : Option Place)
deriving Repr, DecidableEq

/-- The wording of an error. -/
def DecodeError.message : DecodeError → String
  | .badText f => withPlace f.reason.message f.place
  | .badData m none => m
  | .badData m (some p) => withPlace m p
where
  /-- A message and its place. -/
  withPlace (m : String) (p : Place) : String :=
    m ++ " at line " ++ toString p.line ++ " column " ++ toString p.column

/-- What kind of trouble an error is. -/
inductive Category where
  | data
  | wrongText
  | earlyEnd
deriving Repr, DecidableEq

/-- The category of an error. -/
def DecodeError.category : DecodeError → Category
  | .badText f => if f.reason.isEnd then .earlyEnd else .wrongText
  | .badData _ _ => .data

/-- Gives an error in the data a place, if it has none. -/
def DecodeError.at (p : Place) : DecodeError → DecodeError
  | .badData m none => .badData m (some p)
  | e => e

/-! ### Decoders -/

/-- How a node is read: from the text itself, with `depth` as in `Node.value`, or, once it
has been set aside, without places. -/
structure Mode where
  placed : Bool
  depth : Nat
deriving Repr

/-- The mode in which a whole text is read. -/
def Mode.text : Mode := ⟨true, maxDepth⟩

/-- The mode for what has been set aside. -/
def Mode.aside : Mode := ⟨false, maxDepth⟩

/-- A reader of nodes. -/
abbrev Decoder (α : Type) : Type := Mode → Node → Except DecodeError α

/-- An error in the data, at a place that counts only while the text is read. -/
def Mode.bad {α : Type} (m : Mode) (message : String) (p : Place) : Except DecodeError α :=
  .error (.badData message (if m.placed then some p else none))

/-- Gives errors of a part of a container the place that the reader has come to. -/
def Mode.within {α : Type} (m : Mode) (p : Place) (r : Except DecodeError α) :
    Except DecodeError α :=
  if m.placed then r.mapError (DecodeError.at p) else r

/-- Opens a container. -/
def Mode.enter (m : Mode) (start : Place) : Except DecodeError Mode :=
  if !m.placed then .ok m
  else if m.depth ≤ 1 then .error (.badText ⟨.tooDeep, start⟩)
  else .ok { m with depth := m.depth - 1 }

/-- A fault of the text as an error. -/
def ofFault {α : Type} (r : Except Fault α) : Except DecodeError α := r.mapError .badText

/-- What a number is called. -/
def Number.describe : Number → String
  | .nat n => "integer `" ++ toString n ++ "`"
  | .negSucc n => "integer `-" ++ toString (n + 1) ++ "`"
  | .fraction x => "floating point `" ++ Number.renderFraction x ++ "`"

/-- A node where something else was expected. -/
def wrongType {α : Type} (expected : String) (m : Mode) (node : Node) :
    Except DecodeError α :=
  let bad (found : String) (p : Place) : Except DecodeError α :=
    m.bad ("invalid type: " ++ found ++ ", expected " ++ expected) p
  match node with
  | .null _ stop => bad "null" stop
  | .bool b _ stop => bad ("boolean `" ++ toString b ++ "`") stop
  | .number n _ stop => do bad (← ofFault n).describe stop
  | .text s _ stop => do bad ("string " ++ Text.quoted (← ofFault s)) stop
  | .array start _ => bad "sequence" start
  | .object start _ => bad "map" start
  | .stump _ cause | .broken cause => .error (.badText cause.reading)

/-- A text that a partial function accepts; its refusals are worded by the function. -/
def parsedText {α : Type} (expected : String) (parse : String → Except String α) : Decoder α :=
  fun m node =>
    match node with
    | .text s _ stop => do
      match parse (← ofFault s) with
      | .ok a => .ok a
      | .error message => m.bad message stop
    | _ => wrongType expected m node

/-- A text. -/
def text : Decoder String := parsedText "a string" .ok

/-- A text that is read first and then parsed, so that a refusal does not know its place. -/
def textThen {α : Type} (parse : String → Except String α) : Decoder α := fun m node => do
  match parse (← text m node) with
  | .ok a => .ok a
  | .error message => .error (.badData message none)

/-- A whole number below a bound, which goes by a name. -/
def natBelow (bound : Nat) (name : String) : Decoder Nat := fun m node =>
  match node with
  | .number n _ stop => do
    match ← ofFault n with
    | .nat k =>
      if k < bound then .ok k
      else m.bad ("invalid value: integer `" ++ toString k ++ "`, expected " ++ name) stop
    | .negSucc k =>
      m.bad ("invalid value: integer `-" ++ toString (k + 1) ++ "`, expected " ++ name) stop
    | .fraction x =>
      m.bad ("invalid type: " ++ (Number.fraction x).describe ++ ", expected " ++ name) stop
  | _ => wrongType name m node

/-- A count of 64 bits. -/
def word64 : Decoder Nat := natBelow (Nat.pow 2 64) "u64"

/-- A size of 64 bits. -/
def size64 : Decoder Nat := natBelow (Nat.pow 2 64) "usize"

/-- A count of 32 bits. -/
def word32 : Decoder Nat := natBelow (Nat.pow 2 32) "u32"

/-- True or false. -/
def flag : Decoder Bool := fun m node =>
  match node with
  | .bool b _ _ => .ok b
  | _ => wrongType "a boolean" m node

/-- Null, or what a decoder reads. -/
def option {α : Type} (d : Decoder α) : Decoder (Option α) := fun m node =>
  match node with
  | .null _ _ => .ok none
  | _ => (d m node).map some

/-! ### Arrays -/

/-- The place to which a reader has come behind an item: behind the bracket, if the bracket
follows. -/
def Items.reached (next : Place) : Items → Place
  | .close stop => stop
  | _ => next

/-- Reads all items. -/
def listItems {α : Type} (d : Decoder α) (m : Mode) : Items → Except DecodeError (List α)
  | .close _ => .ok []
  | .item v next rest => do
    let a ← m.within (rest.reached next) (d m v)
    let as ← listItems d m rest
    return a :: as
  | .broken cause => .error (.badText cause.reading)

/-- An array of what a decoder reads. -/
def list {α : Type} (d : Decoder α) : Decoder (List α) := fun m node =>
  match node with
  | .array start items => do listItems d (← m.enter start) items
  | _ => wrongType "a sequence" m node

/-! ### Choices -/

/-- The alternatives, in words. -/
def oneOf : List String → String
  | [] => "there are no variants"
  | [a] => "expected `" ++ a ++ "`"
  | [a, b] => "expected `" ++ a ++ "` or `" ++ b ++ "`"
  | names => "expected one of " ++ String.intercalate ", " (names.map fun n => "`" ++ n ++ "`")

/-- The wording for a name that is no alternative. -/
def unknownVariant (name : String) (names : List String) : String :=
  "unknown variant `" ++ name ++ "`, " ++ oneOf names

/-- Whether a node stands for nothing: null, or, once set aside, an empty object too. -/
def Mode.isNothing (m : Mode) : Node → Bool
  | .null _ _ => true
  | .object _ (.close _) => !m.placed
  | _ => false

/-- One of some names, each standing for a value. A name may also be the only key of an
object, with null as its value; once set aside, also with an empty object. -/
def choice {α : Type} (alternatives : List (String × α)) : Decoder α := fun m node =>
  let names := alternatives.map (·.1)
  let pick (name : String) (p : Place) : Except DecodeError α :=
    match alternatives.find? (·.1 == name) with
    | some (_, a) => .ok a
    | none => m.bad (unknownVariant name names) p
  let severalKeys (p : Place) : Except DecodeError α :=
    if m.placed then .error (.badText ⟨.expectedValue, p⟩)
    else m.bad "invalid value: map, expected map with a single key" p
  match node with
  | .text s _ stop => do pick (← ofFault s) stop
  | .object start (.close _) => severalKeys start
  | .object start (.entry key keyStop _ v next rest) => do
    match m.placed, rest with
    | false, .entry .. => severalKeys next
    | _, _ =>
      let inner ← m.enter start
      let a ← pick (← ofFault key) keyStop
      if m.isNothing v then
        match rest with
        | .close _ => .ok a
        | .keyless _ cause | .broken cause => .error (.badText cause.reading)
        | .entry .. => severalKeys next
      else wrongType "unit" inner v
  | .object start (.keyless found _) => do wrongType "variant identifier" (← m.enter start) found
  | .object _ (.broken cause) => .error (.badText cause.reading)
  | .stump start _ => .error (.badText ⟨.expectedValue, start⟩)
  | .broken cause => .error (.badText cause.reading)
  | .null start _ | .bool _ start _ | .number _ start _ | .array start _ =>
    if m.placed then .error (.badText ⟨.expectedValue, start⟩)
    else wrongType "string or map" m node

/-! ### Records -/

/-- The fields of a record: their names in order, what has been seen of them, and the record
once all have been seen. `finish` fails with the name of a field that is missing. -/
structure Fields (α : Type) where
  names : List String
  State : Type
  start : State
  has : State → String → Bool
  put : State → String → Decoder State
  finish : State → Except String α

namespace Fields

/-- No field. -/
def pure {α : Type} (a : α) : Fields α where
  names := []
  State := Unit
  start := ()
  has _ _ := false
  put s _ _ _ := .ok s
  finish _ := .ok a

/-- One field, which may be missing if it has a default. -/
def field {α : Type} (name : String) (d : Decoder α) (default? : Option α) : Fields α where
  names := [name]
  State := Option α
  start := none
  has s _ := s.isSome
  put _ _ m node := (d m node).map some
  finish s :=
    match s with
    | some a => .ok a
    | none =>
      match default? with
      | some a => .ok a
      | none => .error name

/-- A field that must be there. -/
def required {α : Type} (name : String) (d : Decoder α) : Fields α := field name d none

/-- A field that may be missing. -/
def optional {α : Type} (name : String) (d : Decoder α) (default : α) : Fields α :=
  field name d (some default)

/-- The fields of two parts, one after the other, and what to make of the parts. -/
def both {α β γ : Type} (combine : α → β → γ) (f : Fields α) (g : Fields β) : Fields γ where
  names := f.names ++ g.names
  State := f.State × g.State
  start := (f.start, g.start)
  has s name := if f.names.contains name then f.has s.1 name else g.has s.2 name
  put s name m node :=
    if f.names.contains name then (f.put s.1 name m node).map fun a => (a, s.2)
    else (g.put s.2 name m node).map fun b => (s.1, b)
  finish s := do
    let a ← f.finish s.1
    let b ← g.finish s.2
    return combine a b

/-- The same fields, with something else made of them. -/
def map {α β : Type} (h : α → β) (f : Fields α) : Fields β :=
  { f with finish := fun s => (f.finish s).map h }

/-- One more part. -/
def seq {α β : Type} (f : Fields (α → β)) (g : Fields α) : Fields β := both (fun h a => h a) f g

instance : Functor Fields where
  map := Fields.map

instance : Seq Fields where
  seq f g := Fields.seq f (g ())

end Fields

/-- The place to which a reader has come behind a member: behind the brace, if the brace
follows. -/
def Entries.reached (next : Place) : Entries → Place
  | .close stop => stop
  | _ => next

/-- A field that is not there. -/
def missingField (name : String) : String := "missing field `" ++ name ++ "`"

/-- Reads members into the fields; members of other names are passed over. -/
def recordEntries {α : Type} (f : Fields α) (m : Mode) (s : f.State) :
    Entries → Except DecodeError α
  | .close stop =>
    match f.finish s with
    | .ok a => .ok a
    | .error name => m.bad (missingField name) stop
  | .entry key _ keyNext v next rest => do
    let key ← ofFault key
    if f.names.contains key then
      if f.has s key then m.bad ("duplicate field `" ++ key ++ "`") keyNext
      else
        let s ← m.within (rest.reached next) (f.put s key m v)
        recordEntries f m s rest
    else
      ofFault v.pass
      recordEntries f m s rest
  | .keyless _ cause | .broken cause => .error (.badText cause.reading)

/-- How many items there are, before any mistake. -/
def Items.count : Items → Nat
  | .item _ _ rest => rest.count + 1
  | _ => 0

/-- A number of elements, in words. -/
def elements (n : Nat) : String := toString n ++ if n = 1 then " element" else " elements"

/-- Reads items into the fields `names`, of which `seen` came before. `expected` describes
the record. -/
def recordItems {α : Type} (f : Fields α) (expected : String) (m : Mode) (s : f.State)
    (seen : Nat) : List String → Items → Except DecodeError α
  | _, .broken cause => .error (.badText cause.reading)
  | _, .close stop =>
    match f.finish s with
    | .ok a => .ok a
    | .error name =>
      m.bad ("invalid length " ++ toString (f.names.idxOf name) ++ ", expected " ++ expected
        ++ " with " ++ elements f.names.length) stop
  | [], .item v next rest =>
    if m.placed then .error (.badText ⟨.trailingCharacters, next⟩)
    else
      m.bad ("invalid length " ++ toString (seen + (Items.item v next rest).count)
        ++ ", expected " ++ elements seen ++ " in sequence") next
  | name :: names, .item v next rest => do
    let s ← m.within (rest.reached next) (f.put s name m v)
    recordItems f expected m s (seen + 1) names rest

/-- A record, which goes by the name `expected` in errors. -/
def record {α : Type} (expected : String) (f : Fields α) : Decoder α := fun m node =>
  match node with
  | .object start entries => do recordEntries f (← m.enter start) f.start entries
  | .array start items => do recordItems f expected (← m.enter start) f.start 0 f.names items
  | _ => wrongType expected m node

/-! ### Tagged records -/

/-- One kind of a tagged record: the value of the tag, and the readers of what else there
is, set aside. -/
structure Variant (α : Type) where
  tag : String
  ofEntries : Entries → Except DecodeError α
  ofItems : Items → Except DecodeError α

/-- The kind with the given tag and fields, which goes by the name `expected` in errors. -/
def variant {α : Type} (tag expected : String) (f : Fields α) : Variant α where
  tag := tag
  ofEntries := recordEntries f .aside f.start
  ofItems := recordItems f expected .aside f.start 0 f.names

/-- Reads the tag. -/
def tagValue {α : Type} (variants : List (Variant α)) : Decoder (Variant α) := fun m node =>
  match node with
  | .text s _ stop => do
    let name ← ofFault s
    match variants.find? (·.tag == name) with
    | some v => .ok v
    | none => m.bad (unknownVariant name (variants.map (·.tag))) stop
  | _ => wrongType "variant identifier" m node

/-- Checks a value that is set aside. -/
def setAside (m : Mode) (node : Node) : Except DecodeError Unit :=
  if m.placed then (ofFault (node.value m.depth)).map fun _ => () else .ok ()

/-- Sets all items aside. -/
def setAsideItems (m : Mode) : Items → Except DecodeError Unit
  | .close _ => .ok ()
  | .item v _ rest => do
    setAside m v
    setAsideItems m rest
  | .broken cause => .error (.badText cause.reading)

/-- Looks for the tag among members and sets the others aside, in order. -/
def splitTag {α : Type} (tagName : String) (variants : List (Variant α)) (m : Mode)
    (found : Option (Variant α)) : Entries → Except DecodeError (Variant α × Entries)
  | .close stop =>
    match found with
    | some v => .ok (v, .close stop)
    | none => m.bad (missingField tagName) stop
  | .entry key keyStop keyNext v next rest => do
    let name ← ofFault key
    if name = tagName then
      if found.isSome then m.bad ("duplicate field `" ++ tagName ++ "`") keyNext
      else
        let variant ← m.within (rest.reached next) (tagValue variants m v)
        splitTag tagName variants m (some variant) rest
    else
      setAside m v
      let (variant, others) ← splitTag tagName variants m found rest
      return (variant, .entry (.ok name) keyStop keyNext v next others)
  | .keyless _ cause | .broken cause => .error (.badText cause.reading)

/-- A record whose kind is told by the member `tagName`, or by the first item if it is
written as an array. -/
def tagged {α : Type} (name tagName : String) (variants : List (Variant α)) : Decoder α :=
  fun m node =>
    match node with
    | .object start entries => do
      let (v, others) ← splitTag tagName variants (← m.enter start) none entries
      v.ofEntries others
    | .array start items => do
      let inner ← m.enter start
      match items with
      | .close stop => m.bad (missingField tagName) stop
      | .broken cause => .error (.badText cause.reading)
      | .item first next rest =>
        let v ← inner.within (rest.reached next) (tagValue variants inner first)
        setAsideItems inner rest
        v.ofItems rest
    | _ => wrongType ("internally tagged enum " ++ name) m node

/-! ### Whole texts -/

/-- Reads a whole text. -/
def decode {α : Type} (d : Decoder α) (bs : Bytes) : Except DecodeError α := do
  let doc := read bs
  let a ← d .text doc.node
  match doc.trailing with
  | some f => .error (.badText f)
  | none => return a

mutual

/-- A value as a node without places. -/
def Node.ofValue : Value → Node
  | .null => .null default default
  | .bool b => .bool b default default
  | .number n => .number (.ok n) default default
  | .text s => .text (.ok s) default default
  | .array items => .array default (Items.ofValues items)
  | .object members => .object default (Entries.ofMembers members)

/-- Values as items without places. -/
def Items.ofValues : List Value → Items
  | [] => .close default
  | v :: rest => .item (Node.ofValue v) default (Items.ofValues rest)

/-- Members as entries without places. -/
def Entries.ofMembers : List (String × Value) → Entries
  | [] => .close default
  | (k, v) :: rest =>
    .entry (.ok k) default default (Node.ofValue v) default (Entries.ofMembers rest)

end

/-- Reads a value that is already apart. -/
def decodeValue {α : Type} (d : Decoder α) (v : Value) : Except DecodeError α :=
  d .aside (Node.ofValue v)

end Rendezvous.Json
