import Rendezvous.Toml.Reader
import Rendezvous.Text.Blank

/-!
# Rendezvous.Config.FlagFile

Files that give flags their values. A file that is a TOML table with at least one entry is
read as one; in any other file each line names a flag and, behind the first equals sign or
blank, its value.

* `FlagFile.parse`: the flags and values of a file's content;
* `FlagFile.check`: that all flags are known.
-/

namespace Rendezvous.FlagFile

/-- Why a file does not give values to flags. -/
inductive ParseError where
  /-- An entry of a table that is neither a text, a number, a truth value nor a list. -/
  | badValue (key : String)
  /-- A line that names no flag. -/
  | missingName (line : Nat)
  /-- A name that ends at a blank of more than one byte, which cannot be cut after its
  first byte. -/
  | cutCharacter (line : Nat)
deriving Repr, DecidableEq

/-- The line to which an error belongs, 0 for the whole file. -/
def ParseError.line : ParseError → Nat
  | .badValue _ => 0
  | .missingName line | .cutCharacter line => line

/-- What an error says of its line. -/
def ParseError.reason : ParseError → String
  | .badValue key => "'" ++ key ++ "' must be a string, number, boolean or list"
  | .missingName _ => "missing flag name"
  | .cutCharacter _ => "a flag name must end at an ASCII character"

/-- The name of a flag without the blanks around it and the dashes in front of it. -/
def flagName (key : List Char) : String :=
  String.ofList ((Text.trimChars key).dropWhile (· == '-'))

/-- A text without the double quotes around it, if it has both. -/
def unquote (cs : List Char) : List Char :=
  match cs with
  | '"' :: rest => if rest.getLast? = some '"' then rest.dropLast else cs
  | _ => cs

/-! ### Tables -/

mutual

/-- The text that a value gives to a flag. -/
def valueText : Toml.Value → Option String
  | .text s => some s
  | .integer n => some (toString n)
  | .float x => some x.positional
  | .bool b => some (if b then "true" else "false")
  | .array items => (valueTexts items).map (String.intercalate ",")
  | .date => none
  | .table _ => none

/-- The texts of values. -/
def valueTexts : List Toml.Value → Option (List String)
  | [] => some []
  | v :: rest => do
    let s ← valueText v
    let ss ← valueTexts rest
    return s :: ss

end

/-- The flags of a table, in the order of its keys. -/
def ofTable (entries : List (String × Toml.Value)) :
    Except ParseError (List (String × String)) :=
  (entries.mergeSort fun a b => a.1 ≤ b.1).mapM fun (key, v) =>
    match valueText v with
    | some s => .ok (flagName key.toList, s)
    | none => .error (.badValue key)

/-! ### Plain lines -/

/-- Whether a name ends at a character. -/
def isSeparator (c : Char) : Bool := c == '=' || Text.isBlank c

/-- A line without a carriage return at its end. -/
def withoutReturn (line : List Char) : List Char :=
  if line.getLast? = some '\r' then line.dropLast else line

/-- The lines of a text: what stands between line feeds, where a carriage return in front of
one belongs to it. Behind the last line feed there may be one more line. -/
def splitLines (cs : List Char) : List (List Char) :=
  let parts := split cs
  parts.dropLast.map withoutReturn ++ parts.getLast?.toList.filter (!·.isEmpty)
where
  /-- What stands between line feeds. -/
  split : List Char → List (List Char)
    | [] => [[]]
    | '\n' :: rest => [] :: split rest
    | c :: rest =>
      match split rest with
      | line :: lines => (c :: line) :: lines
      | [] => [[c]]

/-- The flag and value of a line, if it is neither blank nor a comment. `number` counts the
lines from 1. -/
def ofLine (number : Nat) (raw : List Char) : Except ParseError (Option (String × String)) :=
  let line := Text.trimChars raw
  match line with
  | [] => .ok none
  | '#' :: _ => .ok none
  | _ =>
    let key := line.takeWhile fun c => !isSeparator c
    match line.dropWhile fun c => !isSeparator c with
    | [] =>
      let name := flagName key
      if name.isEmpty then .error (.missingName number) else .ok (some (name, ""))
    | separator :: rest =>
      if separator.utf8Size ≠ 1 then .error (.cutCharacter number)
      else
        let name := flagName key
        if name.isEmpty then .error (.missingName number)
        else .ok (some (name, String.ofList (unquote (Text.trimChars rest))))

/-- The flags and values of lines, the first of which has the given number. -/
def ofLines : (number : Nat) → List (List Char) → Except ParseError (List (String × String))
  | _, [] => .ok []
  | number, raw :: rest => do
    let found ← ofLine number raw
    let more ← ofLines (number + 1) rest
    return found.toList ++ more

/-! ### Files -/

/-- The flags and values of a file. -/
def parse (content : String) : Except ParseError (List (String × String)) :=
  match Toml.parse? content with
  | some (entry :: entries) => ofTable (entry :: entries)
  | _ => ofLines 1 (splitLines content.toList)

/-- The first flag that is not known. -/
def unknown? (known : List String) (pairs : List (String × String)) : Option String :=
  (pairs.find? fun p => !known.contains p.1).map (·.1)

end Rendezvous.FlagFile
