import Rendezvous.Toml.Value
import Rendezvous.Bytes.Basic

/-!
# Rendezvous.Toml.Reader

Reads a document of TOML 1.0. Arrays and inline tables may stand inside one another up to a
fixed depth. Readers take what they want off the front of the characters that are left.

* `Toml.parse?`: the entries of a document.
-/

namespace Rendezvous.Toml

/-- A reader: what it read and what is left. -/
abbrev Reader (α : Type) : Type := List Char → Option (α × List Char)

/-- How deep arrays and inline tables may stand inside one another. -/
def maxDepth : Nat := 79

/-! ### Characters -/

/-- Blanks within a line. -/
def isSpace (c : Char) : Bool := c == ' ' || c == '\t'

/-- Characters that may stand in a comment. -/
def inComment (c : Char) : Bool := c == '\t' || (32 ≤ c.toNat && c.toNat ≠ 127)

/-- Characters of a key without quotes. -/
def inBareKey (c : Char) : Bool := c.isAlphanum || c == '-' || c == '_'

/-- Characters that stand for themselves between double quotes. -/
def inBasicText (c : Char) : Bool := inComment c && c != '"' && c != '\\'

/-- Characters that may stand between single quotes. -/
def inLiteralText (c : Char) : Bool := inComment c && c != '\''

/-- Drops the blanks in front. -/
def skipSpace (cs : List Char) : List Char := cs.dropWhile isSpace

/-- Drops a comment in front, if there is one. -/
def skipComment : List Char → List Char
  | '#' :: rest => rest.dropWhile inComment
  | cs => cs

/-- Takes a line end off the front. -/
def newline? : List Char → Option (List Char)
  | '\n' :: rest => some rest
  | '\r' :: '\n' :: rest => some rest
  | _ => none

/-- Drops blanks, comments and line ends, `fuel` of them. -/
def skipLines : (fuel : Nat) → List Char → List Char
  | 0, cs => cs
  | fuel + 1, cs =>
    let cs := skipComment (skipSpace cs)
    match newline? cs with
    | some rest => skipLines fuel rest
    | none => cs

/-- Drops blanks, comments and line ends. -/
def skipBlank (cs : List Char) : List Char := skipLines (cs.length + 1) cs

/-! ### Texts -/

/-- Reads `count` hexadecimal digits of the number of a character. -/
def codePoint? (count : Nat) (cs : List Char) : Option (Char × List Char) := do
  let digits := cs.take count
  if digits.length < count then none
  else
    let values ← digits.mapM Bytes.hexValue?
    let n := values.foldl (fun n d => n * 16 + d) 0
    if h : n.isValidChar then some (⟨UInt32.ofNat n, by
      have hlt : n < UInt32.size := by
        have : n < 0x110000 := by rcases h with h | ⟨_, h⟩ <;> omega
        exact Nat.lt_trans this (by decide)
      show (UInt32.ofNat n).toNat.isValidChar
      rw [UInt32.toNat_ofNat_of_lt' hlt]; exact h⟩, cs.drop count)
    else none

/-- Reads what follows a backslash. -/
def escaped? : List Char → Option (Char × List Char)
  | 'b' :: rest => some ('\x08', rest)
  | 'f' :: rest => some ('\x0c', rest)
  | 'n' :: rest => some ('\n', rest)
  | 'r' :: rest => some ('\r', rest)
  | 't' :: rest => some ('\t', rest)
  | '"' :: rest => some ('"', rest)
  | '\\' :: rest => some ('\\', rest)
  | 'u' :: rest => codePoint? 4 rest
  | 'U' :: rest => codePoint? 8 rest
  | _ => none

/-- The rest of a text between double quotes. -/
def basicRest : (fuel : Nat) → Reader (List Char)
  | 0, _ => none
  | fuel + 1, cs =>
    match cs with
    | '"' :: rest => some ([], rest)
    | '\\' :: rest => do
      let (c, rest) ← escaped? rest
      let (more, rest) ← basicRest fuel rest
      return (c :: more, rest)
    | c :: rest =>
      if inBasicText c then do
        let (more, rest) ← basicRest fuel rest
        return (c :: more, rest)
      else none
    | [] => none

/-- The rest of a text between single quotes. -/
def literalRest : Reader (List Char)
  | [] => none
  | '\'' :: rest => some ([], rest)
  | c :: rest =>
    if inLiteralText c then (literalRest rest).map fun (more, left) => (c :: more, left)
    else none

/-- The end of a text between triple quotes: up to two more quotes belong to the text. -/
def tripleEnd? (quote : Char) (cs : List Char) : Option (List Char × List Char) :=
  let quotes := (cs.takeWhile (· == quote)).length
  if 3 ≤ quotes then
    let extra := min (quotes - 3) 2
    some (List.replicate extra quote, cs.drop (extra + 3))
  else none

/-- The rest of a text between triple double quotes. -/
def tripleBasicRest : (fuel : Nat) → Reader (List Char)
  | 0, _ => none
  | fuel + 1, cs =>
    match tripleEnd? '"' cs with
    | some found => some found
    | none =>
      match newline? cs with
      | some rest => do
        let (more, rest) ← tripleBasicRest fuel rest
        return ('\n' :: more, rest)
      | none =>
        match cs with
        | '\\' :: rest =>
          match newline? (skipSpace rest) with
          | some rest =>
            -- a backslash at the end of a line joins it to the next text
            tripleBasicRest fuel (skipGaps (rest.length + 1) rest)
          | none => do
            let (c, rest) ← escaped? rest
            let (more, rest) ← tripleBasicRest fuel rest
            return (c :: more, rest)
        | c :: rest =>
          if inBasicText c || c == '"' then do
            let (more, rest) ← tripleBasicRest fuel rest
            return (c :: more, rest)
          else none
        | [] => none
where
  /-- Drops blanks and line ends. -/
  skipGaps : (fuel : Nat) → List Char → List Char
    | 0, cs => cs
    | fuel + 1, cs =>
      let cs := skipSpace cs
      match newline? cs with
      | some rest => skipGaps fuel rest
      | none => cs

/-- The rest of a text between triple single quotes. -/
def tripleLiteralRest : (fuel : Nat) → Reader (List Char)
  | 0, _ => none
  | fuel + 1, cs =>
    match tripleEnd? '\'' cs with
    | some found => some found
    | none =>
      match newline? cs with
      | some rest => do
        let (more, rest) ← tripleLiteralRest fuel rest
        return ('\n' :: more, rest)
      | none =>
        match cs with
        | c :: rest =>
          if inLiteralText c || c == '\'' then do
            let (more, rest) ← tripleLiteralRest fuel rest
            return (c :: more, rest)
          else none
        | [] => none

/-- Drops the line end right behind triple quotes. -/
def skipFirstNewline (cs : List Char) : List Char := (newline? cs).getD cs

/-- Reads a text in quotes of any kind. -/
def text? (cs : List Char) : Option (String × List Char) :=
  let fuel := cs.length + 1
  let found := match cs with
    | '"' :: '"' :: '"' :: rest => tripleBasicRest fuel (skipFirstNewline rest)
    | '"' :: rest => basicRest fuel rest
    | '\'' :: '\'' :: '\'' :: rest => tripleLiteralRest fuel (skipFirstNewline rest)
    | '\'' :: rest => literalRest rest
    | _ => none
  found.map fun (text, rest) => (String.ofList text, rest)

/-! ### Keys -/

/-- Reads one part of a key. -/
def keyPart? (cs : List Char) : Option (String × List Char) :=
  match cs with
  | '"' :: rest =>
    (basicRest (cs.length + 1) rest).map fun (text, left) => (String.ofList text, left)
  | '\'' :: rest => (literalRest rest).map fun (text, left) => (String.ofList text, left)
  | _ =>
    match cs.takeWhile inBareKey with
    | [] => none
    | name => some (String.ofList name, cs.dropWhile inBareKey)

/-- Reads the parts of a key, with dots between them. -/
def keyParts : (fuel : Nat) → Reader (List String)
  | 0, _ => none
  | fuel + 1, cs => do
    let (part, rest) ← keyPart? (skipSpace cs)
    match skipSpace rest with
    | '.' :: rest => do
      let (parts, rest) ← keyParts fuel rest
      return (part :: parts, rest)
    | rest => some ([part], rest)

/-- Reads a key: the path to a table, and a name in it. -/
def key? (cs : List Char) : Option ((List String × String) × List Char) := do
  let (parts, rest) ← keyParts (cs.length + 1) cs
  match parts.getLast? with
  | some name => if parts.length ≤ maxDepth then some ((parts.dropLast, name), rest) else none
  | none => none

/-! ### Numbers and dates -/

/-- Takes digits off the front, single underscores between them left out. After an underscore
a digit has to follow. -/
def digits? (isDigit : Char → Bool) : Reader (List Char)
  | c :: '_' :: rest =>
    if isDigit c then (digits? isDigit rest).map fun (more, left) => (c :: more, left)
    else none
  | c :: d :: rest =>
    if isDigit c then
      if isDigit d then
        (digits? isDigit (d :: rest)).map fun (more, left) => (c :: more, left)
      else some ([c], d :: rest)
    else none
  | [c] => if isDigit c then some ([c], []) else none
  | [] => none

/-- Takes a sign off the front: whether it is a minus. -/
def sign : List Char → Bool × List Char
  | '+' :: rest => (false, rest)
  | '-' :: rest => (true, rest)
  | cs => (false, cs)

/-- Takes decimal digits off the front, which do not begin with a zero unless they are just
that. -/
def decimal? (cs : List Char) : Option (List Char × List Char) :=
  match cs with
  | '0' :: rest => some (['0'], rest)
  | _ => digits? Char.isDigit cs

/-- The number that digits write. -/
def digitsValue (base : Nat) (ds : List Char) : Nat :=
  ds.foldl (fun n c => n * base + (Bytes.hexValue? c).getD 0) 0

/-- An integer within 64 bits. -/
def bounded (negative : Bool) (n : Nat) : Option Value :=
  if negative then (if n ≤ Nat.pow 2 63 then some (.integer (-(n : Int))) else none)
  else if n < Nat.pow 2 63 then some (.integer n) else none

/-- Reads an integer. -/
def integer? (cs : List Char) : Option (Value × List Char) :=
  let based (base : Nat) (isDigit : Char → Bool) (rest : List Char) :
      Option (Value × List Char) := do
    let (ds, rest) ← digits? isDigit rest
    let v ← bounded false (digitsValue base ds)
    return (v, rest)
  match cs with
  | '0' :: 'x' :: rest => based 16 (fun c => (Bytes.hexValue? c).isSome) rest
  | '0' :: 'o' :: rest => based 8 (fun c => '0' ≤ c && c ≤ '7') rest
  | '0' :: 'b' :: rest => based 2 (fun c => c == '0' || c == '1') rest
  | _ => do
    let (negative, rest) := sign cs
    let (ds, rest) ← decimal? rest
    let v ← bounded negative (digitsValue 10 ds)
    return (v, rest)

/-- Takes an exponent off the front. -/
def exponent? : List Char → Option (Int × List Char)
  | c :: rest =>
    if c == 'e' || c == 'E' then do
      let (negative, rest) := sign rest
      let (ds, rest) ← digits? Char.isDigit rest
      let n : Int := digitsValue 10 ds
      return (if negative then -n else n, rest)
    else none
  | [] => none

/-- A decimal number, rounded. Exponents beyond all bounds are cut down to some that are
still beyond them. -/
def ofDecimal (negative : Bool) (ds : List Char) (e : Int) : Binary64 :=
  let n := digitsValue 10 ds
  let e := max (-(400 + ds.length : Int)) (min 400 e)
  if n = 0 then Binary64.ofRatio negative 0 1
  else Binary64.ofRatio negative (n * Nat.pow 10 e.toNat) (Nat.pow 10 (-e).toNat)

/-- A float, if it is not beyond all positive bounds. -/
def finite? : Binary64 → Option Value
  | .infinite false => none
  | x => some (.float x)

/-- Reads a float with a fraction, an exponent, or both. -/
def fraction? (cs : List Char) : Option (Value × List Char) := do
  let (negative, rest) := sign cs
  let (whole, rest) ← decimal? rest
  match rest with
  | '.' :: rest => do
    let (part, rest) ← digits? Char.isDigit rest
    let (e, rest) ← match rest with
      | c :: _ => if c == 'e' || c == 'E' then exponent? rest else some (0, rest)
      | [] => some (0, rest)
    let x ← finite? (ofDecimal negative (whole ++ part) (e - part.length))
    return (x, rest)
  | _ => do
    let (e, rest) ← exponent? rest
    let x ← finite? (ofDecimal negative whole e)
    return (x, rest)

/-- Reads a float that has no digits. -/
def specialFloat? (cs : List Char) : Option (Value × List Char) :=
  let (negative, rest) := sign cs
  match rest with
  | 'i' :: 'n' :: 'f' :: rest => some (.float (.infinite negative), rest)
  | 'n' :: 'a' :: 'n' :: rest => some (.float .nan, rest)
  | _ => none

/-- Takes exactly `count` digits off the front, which write a number within bounds. -/
def fixed? (count low high : Nat) (cs : List Char) : Option (Nat × List Char) :=
  let ds := cs.take count
  if ds.length = count ∧ ds.all Char.isDigit then
    let n := digitsValue 10 ds
    if low ≤ n ∧ n ≤ high then some (n, cs.drop count) else none
  else none

/-- Takes a character off the front. -/
def char? (c : Char) : List Char → Option (List Char)
  | d :: rest => if c == d then some rest else none
  | [] => none

/-- The number of days of a month. -/
def daysIn (year month : Nat) : Nat :=
  if month = 2 then
    if (year % 4 = 0 ∧ year % 100 ≠ 0) ∨ year % 400 = 0 then 29 else 28
  else if month ∈ [4, 6, 9, 11] then 30 else 31

/-- Takes a date off the front. -/
def day? (cs : List Char) : Option (List Char) := do
  let (year, rest) ← fixed? 4 0 9999 cs
  let rest ← char? '-' rest
  let (month, rest) ← fixed? 2 1 12 rest
  let rest ← char? '-' rest
  let (_, rest) ← fixed? 2 1 (daysIn year month) rest
  return rest

/-- Takes a time of day off the front, with hours up to a last one. -/
def clock? (lastHour : Nat) (cs : List Char) : Option (List Char) := do
  let (_, rest) ← fixed? 2 0 lastHour cs
  let rest ← char? ':' rest
  let (_, rest) ← fixed? 2 0 59 rest
  let rest ← char? ':' rest
  let (_, rest) ← fixed? 2 0 60 rest
  match rest with
  | '.' :: more =>
    match more.takeWhile Char.isDigit with
    | [] => none
    | _ => some (more.dropWhile Char.isDigit)
  | _ => some rest

/-- Takes the offset of a time zone off the front, if there is one. -/
def offset? (cs : List Char) : Option (List Char) :=
  match cs with
  | 'Z' :: rest | 'z' :: rest => some rest
  | '+' :: rest | '-' :: rest => do
    let (_, rest) ← fixed? 2 0 23 rest
    let rest ← char? ':' rest
    let (_, rest) ← fixed? 2 0 59 rest
    return rest
  | _ => some cs

/-- Reads a date, a time, or both. -/
def date? (cs : List Char) : Option (Value × List Char) :=
  match day? cs with
  | some rest =>
    match rest with
    | 'T' :: more | 't' :: more => do
      let rest ← clock? 23 more
      let rest ← offset? rest
      return (.date, rest)
    | ' ' :: d :: more =>
      if d.isDigit then do
        let rest ← clock? 23 (d :: more)
        let rest ← offset? rest
        return (.date, rest)
      else some (.date, rest)
    | _ => some (.date, rest)
  | none => (clock? 23 cs).map fun rest => (.date, rest)

/-! ### Values -/

/-- Reads the items of an array up to its bracket. -/
def arrayItems (value : Reader Value) : (fuel : Nat) → Reader (List Value)
  | 0, _ => none
  | fuel + 1, cs =>
    match skipBlank cs with
    | ']' :: rest => some ([], rest)
    | cs => do
      let (v, rest) ← value cs
      match skipBlank rest with
      | ',' :: rest => do
        let (vs, rest) ← arrayItems value fuel rest
        return (v :: vs, rest)
      | ']' :: rest => some ([v], rest)
      | _ => none

/-- Reads a key, an equals sign and a value. -/
def pair? (value : Reader Value) (cs : List Char) :
    Option ((List String × String × Value) × List Char) := do
  let ((path, name), rest) ← key? cs
  let rest ← char? '=' rest
  let (v, rest) ← value (skipSpace rest)
  return ((path, name, v), rest)

/-- Reads the pairs of an inline table up to its brace, into the entries so far. -/
def inlinePairs (value : Reader Value) : (fuel : Nat) → Entries → Reader Entries
  | 0, _, _ => none
  | fuel + 1, entries, cs => do
    let ((path, name, v), rest) ← pair? value cs
    let entries ← entries.put? path name v
    match skipSpace rest with
    | ',' :: rest => inlinePairs value fuel entries rest
    | '\x7d' :: rest => some (entries, rest)
    | _ => none

/-- Reads a value. `room` is how many arrays and inline tables may still open. -/
def value : (room : Nat) → Reader Value
  | room, cs =>
    match cs with
    | '"' :: _ | '\'' :: _ => (text? cs).map fun (s, rest) => (.text s, rest)
    | '[' :: rest =>
      match room with
      | 0 => none
      | room + 1 =>
        (arrayItems (value room) (rest.length + 1) rest).map fun (vs, rest) => (.array vs, rest)
    | '\x7b' :: rest =>
      match room with
      | 0 => none
      | room + 1 =>
        match skipSpace rest with
        | '\x7d' :: rest => some (.table [], rest)
        | rest =>
          (inlinePairs (value room) (rest.length + 1) [] rest).map fun (entries, rest) =>
            (.table (closeEntries entries), rest)
    | 't' :: 'r' :: 'u' :: 'e' :: rest => some (.bool true, rest)
    | 'f' :: 'a' :: 'l' :: 's' :: 'e' :: rest => some (.bool false, rest)
    | _ => date? cs <|> fraction? cs <|> specialFloat? cs <|> integer? cs

/-! ### Documents -/

/-- A document so far: its entries, and the header under which pairs are put. -/
structure Document where
  entries : Entries
  header : List String

/-- Reads what may follow on a line behind a header or a pair. -/
def lineEnd? (cs : List Char) : Option (List Char) :=
  let cs := skipComment (skipSpace cs)
  match cs with
  | [] => some []
  | _ => newline? cs

/-- Reads a header. -/
def header? (doc : Document) (cs : List Char) : Option (Document × List Char) :=
  match cs with
  | '[' :: '[' :: rest => do
    let ((path, name), rest) ← key? rest
    let rest ← char? ']' rest
    let rest ← char? ']' rest
    let rest ← lineEnd? rest
    let entries ← doc.entries.openElement? path name
    return (⟨entries, path ++ [name]⟩, rest)
  | '[' :: rest => do
    let ((path, name), rest) ← key? rest
    let rest ← char? ']' rest
    let rest ← lineEnd? rest
    let entries ← doc.entries.openTable? path name
    return (⟨entries, path ++ [name]⟩, rest)
  | _ => none

/-- Reads the lines of a document into what has been read so far. -/
def lines : (fuel : Nat) → Document → List Char → Option Document
  | 0, _, _ => none
  | fuel + 1, doc, cs =>
    match skipBlank cs with
    | [] => some doc
    | '[' :: rest => do
      let (doc, rest) ← header? doc ('[' :: rest)
      lines fuel doc rest
    | cs => do
      let ((path, name, v), rest) ← pair? (value maxDepth) cs
      let rest ← lineEnd? rest
      let entries ← doc.entries.putUnder? doc.header path name v
      lines fuel ⟨entries, doc.header⟩ rest

/-! ### Dates as tables -/

/-- The key under which a table holds the text of a date, if it is the first one. -/
def dateKey : String := "$__toml_private_datetime"

/-- Whether a text is the offset of a time zone of at most a day, or nothing. -/
def isOffsetText : List Char → Bool
  | [] | ['Z'] | ['z'] => true
  | c :: cs =>
    (c == '+' || c == '-') && match fixed? 2 0 99 cs with
      | some (hours, ':' :: rest) =>
        match fixed? 2 0 99 rest with
        | some (minutes, []) => hours * 60 + minutes ≤ 24 * 60
        | _ => false
      | _ => false

/-- Whether a text is a date, a time, or both. -/
def isDateText (cs : List Char) : Bool :=
  if cs[2]? = some ':' then clock? 24 cs == some []
  else match day? cs with
    | none => false
    | some [] => true
    | some (c :: rest) =>
      (c == 'T' || c == 't' || c == ' ') && ((clock? 24 rest).any isOffsetText)

/-- The date that the entries of a table stand for; nothing if the table is to hold a date
and does not. -/
def dateOf? : List (String × Value) → Option (Option Value)
  | [] => some none
  | (key, v) :: _ =>
    if key != dateKey then some none
    else match v with
      | .text s => if isDateText s.toList then some (some .date) else none
      | _ => none

mutual

/-- A value with dates in the place of tables that stand for them. -/
def dated? : Value → Option Value
  | .array items => (datedItems? items).map .array
  | .table entries =>
    match dateOf? entries with
    | none => none
    | some (some d) => some d
    | some none => (datedEntries? entries).map .table
  | v => some v

/-- The same for some values. -/
def datedItems? : List Value → Option (List Value)
  | [] => some []
  | v :: rest => do return (← dated? v) :: (← datedItems? rest)

/-- The same for the values of entries. -/
def datedEntries? : List (String × Value) → Option (List (String × Value))
  | [] => some []
  | (key, v) :: rest => do return (key, ← dated? v) :: (← datedEntries? rest)

end

/-- Reads a document. -/
def parse? (s : String) : Option (List (String × Value)) := do
  let cs := match s.toList with
    | '\ufeff' :: rest => rest
    | cs => cs
  let doc ← lines (cs.length + 1) ⟨[], []⟩ cs
  datedEntries? (closeEntries doc.entries)

end Rendezvous.Toml
