import Rendezvous.Json.Node

/-!
# Rendezvous.Json.Reader

From the bytes of a text to the node that stands in it.

* `Json.read`: the node of a text, and what is wrong behind it, if anything;
* `Json.parse`: the value of a whole text.
-/

namespace Rendezvous.Json

/-- What is left of a text, and the place where it begins. -/
structure Cursor where
  rest : Bytes
  place : Place

namespace Cursor

/-- The start of a text. -/
def ofBytes (bs : Bytes) : Cursor := ⟨bs, ⟨1, 0⟩⟩

/-- The place behind one more byte. -/
def step (p : Place) (b : UInt8) : Place :=
  if b = 10 then ⟨p.line + 1, 0⟩ else ⟨p.line, p.column + 1⟩

/-- The place behind the next byte, where mistakes in that byte are reported. -/
def peekPlace (c : Cursor) : Place :=
  match c.rest with
  | [] => c.place
  | b :: _ => step c.place b

/-- A mistake at the next byte. -/
def fault (c : Cursor) (r : Reason) : Fault := ⟨r, c.peekPlace⟩

end Cursor

/-- The blanks of the format. -/
def isBlankByte (b : UInt8) : Bool := b = 32 || b = 10 || b = 9 || b = 13

/-- Drops the blanks in front. -/
def skipBlanks : Bytes → Place → Cursor
  | [], p => ⟨[], p⟩
  | b :: rest, p => if isBlankByte b then skipBlanks rest (Cursor.step p b) else ⟨b :: rest, p⟩

/-- `skipBlanks` on a cursor. -/
def Cursor.skip (c : Cursor) : Cursor := skipBlanks c.rest c.place

/-- Whether a byte is a decimal digit. -/
def isDigitByte (b : UInt8) : Bool := 48 ≤ b.toNat && b.toNat ≤ 57

/-! ### Words -/

/-- Reads the rest of a word whose first letter is past. -/
def word : (expected : Bytes) → Cursor → Except Fault Cursor
  | [], c => .ok c
  | e :: expected, c =>
    match c.rest with
    | [] => .error ⟨.endInValue, c.place⟩
    | b :: rest =>
      let c' : Cursor := ⟨rest, Cursor.step c.place b⟩
      if b = e then word expected c' else .error ⟨.expectedIdent, c'.place⟩

/-! ### Numbers -/

/-- The largest whole number that is kept exactly. -/
def maxNat : Nat := Nat.pow 2 64 - 1

/-- A decimal `significand · 10 ^ exponent`, as a product or quotient of two rounded
numbers; powers of ten beyond the greatest that is a number take effect in steps. Nothing if
it is beyond all numbers. -/
def decimalFrom : (fuel : Nat) → Binary64 → (exponent : Int) → Option Binary64
  | 0, f, _ => some f
  | fuel + 1, f, exponent =>
    if exponent.natAbs ≤ 308 then
      if 0 ≤ exponent then
        match f.mul (Binary64.powerOfTen exponent.natAbs) with
        | .infinite _ => none
        | x => some x
      else some (f.div (Binary64.powerOfTen exponent.natAbs))
    else if f.isZero then some f
    else if 0 ≤ exponent then none
    else decimalFrom fuel (f.div (Binary64.powerOfTen 308)) (exponent + 308)

/-- The parts of a number as they are read: digits that fit are taken into the significand;
once one does not, later digits before the point only raise the exponent, and later ones
behind it are dropped. -/
structure Decimal where
  significand : Nat
  exponent : Int
  full : Bool

/-- Takes a digit before the point. -/
def Decimal.addWhole (d : Decimal) (digit : Nat) : Decimal :=
  if d.full then { d with exponent := d.exponent + 1 }
  else if maxNat < d.significand * 10 + digit then
    { d with exponent := d.exponent + 1, full := true }
  else { d with significand := d.significand * 10 + digit }

/-- Takes a digit behind the point. -/
def Decimal.addPlace (d : Decimal) (digit : Nat) : Decimal :=
  if d.full then d
  else if maxNat < d.significand * 10 + digit then { d with full := true }
  else { d with significand := d.significand * 10 + digit, exponent := d.exponent - 1 }

/-- The value of a run of digits. -/
def digitsValue (ds : Bytes) : Nat := ds.foldl (fun n b => n * 10 + (b.toNat - 48)) 0

/-- The value of a number from its parts: sign, digits before and behind the point, and
exponent, the latter two if given. -/
def numberValue (negative : Bool) (whole : Bytes) (places : Option Bytes)
    (exponent : Option (Bool × Bytes)) : Option Number :=
  let d : Decimal := whole.foldl (fun d b => d.addWhole (b.toNat - 48)) ⟨0, 0, false⟩
  if !d.full && places.isNone && exponent.isNone
      && (!negative || (d.significand != 0 && d.significand ≤ Nat.pow 2 63)) then
    some (if negative then .negSucc (d.significand - 1) else .nat d.significand)
  else
    let d : Decimal := (places.getD []).foldl (fun d b => d.addPlace (b.toNat - 48))
      { d with full := false }
    let shift : Option Int := match exponent with
      | none => some 0
      | some (down, ds) =>
        let n := digitsValue ds
        if Nat.pow 2 31 ≤ n then none else some (if down then -(n : Int) else n)
    let upwards : Bool := match exponent with
      | some (down, _) => !down
      | none => false
    let magnitude : Option Binary64 := match shift with
      | some s => decimalFrom 8 (Binary64.ofNat d.significand) (d.exponent + s)
      | none =>
        if d.significand != 0 && upwards then none
        else some (.finite false 0 Binary64.minExponent)
    magnitude.map fun x => .fraction (if negative then x.neg else x)

/-- Takes a run of digits off the front. -/
def takeDigits : Bytes → Place → Bytes × Cursor
  | [], p => ([], ⟨[], p⟩)
  | b :: rest, p =>
    if isDigitByte b then
      let (ds, c) := takeDigits rest (Cursor.step p b)
      (b :: ds, c)
    else ([], ⟨b :: rest, p⟩)

/-- What is wrong with a number that lacks a digit at the next byte. To a reader that
passes over the number, a text that ends there is no different from one that goes on. -/
def missingDigit (c : Cursor) : Break :=
  match c.rest with
  | [] => ⟨⟨.endInValue, c.place⟩, ⟨.invalidNumber, c.place⟩⟩
  | _ :: _ => .both (c.fault .invalidNumber)

/-- Reads the exponent of a number, if one follows. -/
def readExponent (c : Cursor) : Except Break (Option (Bool × Bytes) × Cursor) :=
  match c.rest with
  | b :: rest =>
    if b = 101 ∨ b = 69 then
      let c : Cursor := ⟨rest, Cursor.step c.place b⟩
      let (down, c) : Bool × Cursor := match c.rest with
        | s :: rest' =>
          if s = 45 then (true, ⟨rest', Cursor.step c.place s⟩)
          else if s = 43 then (false, ⟨rest', Cursor.step c.place s⟩)
          else (false, c)
        | [] => (false, c)
      match takeDigits c.rest c.place with
      | ([], c) => .error (missingDigit c)
      | (ds, c) => .ok (some (down, ds), c)
    else .ok (none, c)
  | [] => .ok (none, c)

/-- Reads the digits behind the point of a number, if there is one. -/
def readPlaces (c : Cursor) : Except Break (Option Bytes × Cursor) :=
  match c.rest with
  | b :: rest =>
    if b = 46 then
      match takeDigits rest (Cursor.step c.place b) with
      | ([], c) => .error (missingDigit c)
      | (ds, c) => .ok (some ds, c)
    else .ok (none, c)
  | [] => .ok (none, c)

/-- Reads the digits before the point of a number: a zero stands alone. -/
def readWhole (c : Cursor) : Except Break (Bytes × Cursor) :=
  match takeDigits c.rest c.place with
  | ([], c) => .error (missingDigit c)
  | (48 :: _ :: _, _) => .error (.both (c.fault .invalidNumber))
  | (ds, c) => .ok (ds, c)

/-- Reads a number. -/
def readNumber (c : Cursor) : Except Break (Node × Cursor) := do
  let start := c.place
  let (negative, c) : Bool × Cursor := match c.rest with
    | b :: rest => if b = 45 then (true, ⟨rest, Cursor.step c.place b⟩) else (false, c)
    | [] => (false, c)
  let (whole, c) ← readWhole c
  let (places, c) ← readPlaces c
  let (exponent, c) ← readExponent c
  let n := match numberValue negative whole places exponent with
    | some n => .ok n
    | none => .error ⟨.numberOutOfRange, c.place⟩
  return (.number n start c.place, c)

/-! ### Texts -/

/-- The value of a hexadecimal digit. -/
def hexByte? (b : UInt8) : Option Nat := Bytes.hexValue? (Char.ofNat b.toNat)

/-- The UTF-8 bytes of a code point, which is no surrogate. -/
def codePointBytes (n : Nat) : Bytes := Bytes.ofString (String.singleton (Char.ofNat n))

/-- The byte that an escape of one letter stands for. -/
def simpleEscape? (b : UInt8) : Option UInt8 :=
  if b = 34 then some 34
  else if b = 92 then some 92
  else if b = 47 then some 47
  else if b = 98 then some 8
  else if b = 102 then some 12
  else if b = 110 then some 10
  else if b = 114 then some 13
  else if b = 116 then some 9
  else none

/-- What has been read of a text: the bytes, last first, the first half of a surrogate
pair if that was the last thing read, and the first mistake in it. -/
structure TextState where
  reversed : Bytes
  high : Option Nat
  mistake : Option Fault

/-- Notes a mistake, unless there was one before. -/
def TextState.note (s : TextState) (f : Fault) : TextState :=
  { s with mistake := s.mistake.orElse fun _ => some f }

/-- Whatever is no second half ends a wait for one, with a mistake. -/
def TextState.settle (s : TextState) (f : Fault) : TextState :=
  match s.high with
  | none => s
  | some _ => { s.note f with high := none }

/-- Takes bytes that stand for themselves. -/
def TextState.push (s : TextState) (bs : Bytes) (place : Place) : TextState :=
  let s := s.settle ⟨.endOfEscape, place⟩
  { s with reversed := bs.reverse ++ s.reversed }

/-- Takes a 16-bit unit. -/
def TextState.pushUnit (s : TextState) (n : Nat) (place : Place) : TextState :=
  if 0xDC00 ≤ n ∧ n ≤ 0xDFFF then
    match s.high with
    | some h =>
      let point := (h - 0xD800) * 1024 + (n - 0xDC00) + 0x10000
      { s with reversed := (codePointBytes point).reverse ++ s.reversed, high := none }
    | none => s.note ⟨.loneSurrogate, place⟩
  else
    let s := s.settle ⟨.loneSurrogate, place⟩
    if 0xD800 ≤ n ∧ n ≤ 0xDBFF then { s with high := some n }
    else { s with reversed := (codePointBytes n).reverse ++ s.reversed }

/-- What a mistake at this point of a text is to its readers. -/
def TextState.breakWith (s : TextState) (f : Fault) : Break := ⟨s.mistake.getD f, f⟩

/-- The text read, once its closing quote is there. -/
def TextState.finish (s : TextState) (place : Place) : Except Fault String :=
  let s := s.settle ⟨.endOfEscape, place⟩
  match s.mistake with
  | some f => .error f
  | none =>
    match Bytes.toString? s.reversed.reverse with
    | some t => .ok t
    | none => .error ⟨.invalidCodePoint, place⟩

/-- Reads a text whose opening quote is past. -/
def readText (s : TextState) : Bytes → Place → Except Break (Except Fault String × Cursor)
  | [], p => .error (s.breakWith ⟨.endInText, p⟩)
  | b :: rest, p =>
    let p' := Cursor.step p b
    if b = 34 then .ok (s.finish p', ⟨rest, p'⟩)
    else if b = 92 then
      match rest with
      | [] => .error (s.breakWith ⟨.endInText, p'⟩)
      | e :: rest =>
        let p' := Cursor.step p' e
        if e = 117 then
          match rest with
          | h1 :: h2 :: h3 :: h4 :: rest =>
            let p' := Cursor.step (Cursor.step (Cursor.step (Cursor.step p' h1) h2) h3) h4
            match hexByte? h1, hexByte? h2, hexByte? h3, hexByte? h4 with
            | some a, some b, some c, some d =>
              readText (s.pushUnit (((a * 16 + b) * 16 + c) * 16 + d) p') rest p'
            | _, _, _, _ => .error (s.breakWith ⟨.invalidEscape, p'⟩)
          | _ => .error (s.breakWith ⟨.endInText, p'⟩)
        else
          match simpleEscape? e with
          | some byte => readText (s.push [byte] p') rest p'
          | none =>
            let s := s.settle ⟨.endOfEscape, p'⟩
            .error (s.breakWith ⟨.invalidEscape, p'⟩)
    else if b.toNat < 32 then
      .error ((s.settle ⟨.endOfEscape, p'⟩).breakWith ⟨.controlCharacter, p'⟩)
    else readText (s.push [b] p') rest p'

/-! ### Values -/

/-- What a value followed by this much text is, given a cursor behind it if it is whole. -/
abbrev Read (α : Type) : Type := α × Option Cursor

mutual

/-- Reads a value, after blanks. -/
def readValue : (fuel : Nat) → Cursor → Read Node
  | 0, c => (.broken (.both (c.fault .tooDeep)), none)
  | fuel + 1, c =>
    let c := c.skip
    match c.rest with
    | [] => (.broken (.both ⟨.endInValue, c.place⟩), none)
    | b :: rest =>
      let inner : Cursor := ⟨rest, Cursor.step c.place b⟩
      if b = 91 then
        let (items, after) := readItems fuel true inner
        (.array c.place items, after)
      else if b = 123 then
        let (entries, after) := readEntries fuel true inner
        (.object c.place entries, after)
      else if b = 34 then
        match readText ⟨[], none, none⟩ rest inner.place with
        | .ok (s, after) => (.text s c.place after.place, some after)
        | .error e => (.broken e, none)
      else if b = 110 then
        match word [117, 108, 108] inner with
        | .ok after => (.null c.place after.place, some after)
        | .error f => (.stump c.place (.both f), none)
      else if b = 116 then
        match word [114, 117, 101] inner with
        | .ok after => (.bool true c.place after.place, some after)
        | .error f => (.stump c.place (.both f), none)
      else if b = 102 then
        match word [97, 108, 115, 101] inner with
        | .ok after => (.bool false c.place after.place, some after)
        | .error f => (.stump c.place (.both f), none)
      else if b = 45 || isDigitByte b then
        match readNumber c with
        | .ok (n, after) => (n, some after)
        | .error e => (.stump c.place e, none)
      else (.broken (.both (c.fault .expectedValue)), none)

/-- Reads what stands inside an array. `first` tells that nothing has been read yet. -/
def readItems : (fuel : Nat) → (first : Bool) → Cursor → Read Items
  | 0, _, c => (.broken (.both (c.fault .tooDeep)), none)
  | fuel + 1, first, c =>
    let c := c.skip
    match c.rest with
    | [] => (.broken (.both ⟨.endInArray, c.place⟩), none)
    | b :: rest =>
      let inner : Cursor := ⟨rest, Cursor.step c.place b⟩
      if b = 93 then (.close inner.place, some inner)
      else if first || b = 44 then
        let c := (if first then c else inner).skip
        if c.rest.head? = some 93 then (.broken (.both (c.fault .trailingComma)), none)
        else
          match readValue fuel c with
          | (v, none) => (.item v c.place (.broken (.both (c.fault .expectedValue))), none)
          | (v, some after) =>
            let after := after.skip
            let (rest, after') := readItems fuel false after
            (.item v after.place rest, after')
      else (.broken (.both (c.fault .expectedCommaOrBracket)), none)

/-- Reads what stands inside an object. `first` tells that nothing has been read yet. -/
def readEntries : (fuel : Nat) → (first : Bool) → Cursor → Read Entries
  | 0, _, c => (.broken (.both (c.fault .tooDeep)), none)
  | fuel + 1, first, c =>
    let c := c.skip
    match c.rest with
    | [] => (.broken (.both ⟨.endInObject, c.place⟩), none)
    | b :: rest =>
      let inner : Cursor := ⟨rest, Cursor.step c.place b⟩
      if b = 125 then (.close inner.place, some inner)
      else if first || b = 44 then
        let c := (if first then c else inner).skip
        match c.rest with
        | [] => (.broken (.both ⟨.endInValue, c.place⟩), none)
        | 125 :: _ => (.broken (.both (c.fault .trailingComma)), none)
        | 34 :: rest =>
          match readText ⟨[], none, none⟩ rest (Cursor.step c.place 34) with
          | .error e => (.broken e, none)
          | .ok (key, behind) =>
            let after := behind.skip
            match after.rest with
            | [] =>
              let f : Fault := ⟨.endInObject, after.place⟩
              (.entry key behind.place after.place (.broken (.both f)) after.place
                (.broken (.both f)), none)
            | colon :: rest =>
              if colon = 58 then
                match readValue fuel ⟨rest, Cursor.step after.place colon⟩ with
                | (v, none) =>
                  (.entry key behind.place after.place v after.place
                    (.broken (.both (after.fault .expectedValue))), none)
                | (v, some done) =>
                  let done := done.skip
                  let (rest, done') := readEntries fuel false done
                  (.entry key behind.place after.place v done.place rest, done')
              else
                let f := after.fault .expectedColon
                (.entry key behind.place after.place (.broken (.both f)) after.place
                  (.broken (.both f)), none)
        | _ => (.keyless (readValue fuel c).1 (.both (c.fault .keyNotText)), none)
      else (.broken (.both (c.fault .expectedCommaOrBrace)), none)

end

/-- A text: the node in it, and the mistake behind the node, if there is one. -/
structure Document where
  node : Node
  trailing : Option Fault

/-- Reads a text. -/
def read (bs : Bytes) : Document :=
  match readValue (2 * bs.length + 3) (Cursor.ofBytes bs) with
  | (v, none) => ⟨v, none⟩
  | (v, some after) =>
    let after := after.skip
    ⟨v, if after.rest.isEmpty then none else some (after.fault .trailingCharacters)⟩

/-- The value of a whole text. -/
def parse (bs : Bytes) : Except Fault Value := do
  let doc := read bs
  let v ← doc.node.value maxDepth
  match doc.trailing with
  | some f => .error f
  | none => return v

end Rendezvous.Json
