/-!
# Rendezvous.Text.Plain

Text for a terminal and the same text without what a terminal obeys: escape sequences, which
set colours, titles and the like, and control characters other than blanks.

* `Text.emphasis`: a text that a terminal shows bold;
* `Text.plain`: what is left of a text where there is no terminal.
-/

namespace Rendezvous.Text

/-- A text that a terminal shows bold. -/
def emphasis (s : String) : String := "\x1b[1m" ++ s ++ "\x1b[0m"

/-- Where in an escape sequence a terminal is. -/
inductive Escape where
  /-- In none. -/
  | outside
  /-- Behind the escape character. -/
  | begun
  /-- Behind signs that tell which kind of sequence follows. -/
  | marked
  /-- In a control sequence, which a letter ends. -/
  | control
  /-- In the name of an operating system command, which a bell ends. -/
  | command
  /-- At the begin of a device control string, in its numbers, or behind its signs. -/
  | device
  | deviceNumbers
  | deviceMarks
  /-- In a string to the device, which only a string terminator ends. -/
  | string
deriving Repr, DecidableEq

/-- Whether a control character is a blank, which is kept even within a sequence. -/
def isKeptControl (c : Char) : Bool := c == '\t' || c == '\n' || c == '\x0c' || c == '\r'

/-- Whether a character is shown outside a sequence. -/
def isShown (c : Char) : Bool := (32 ≤ c.toNat && c.toNat ≠ 127) || isKeptControl c

/-- Whether the bytes that spell a character have among them the one that terminates
strings. -/
def holdsTerminator (c : Char) : Bool :=
  128 ≤ c.toNat && (String.utf8EncodeChar c).contains 0x9C

namespace Escape

/-- Where a terminal is behind a character. One character begins a sequence and two cancel it,
whatever is before them. -/
def next (e : Escape) (c : Char) : Escape :=
  let n := c.toNat
  let isMark : Bool := 0x20 ≤ n && n ≤ 0x2F
  let isNumber : Bool := 0x30 ≤ n && n ≤ 0x3B
  let isSign : Bool := 0x3C ≤ n && n ≤ 0x3F
  let isFinal : Bool := 0x40 ≤ n && n ≤ 0x7E
  if n = 0x1B then .begun
  else if n = 0x18 ∨ n = 0x1A then .outside
  else match e with
  | .outside => .outside
  | .begun =>
    if isMark then .marked
    else if c = '[' then .control
    else if c = ']' then .command
    else if c = 'P' then .device
    else if c = 'X' ∨ c = '^' ∨ c = '_' then .string
    else if isNumber || isSign || isFinal then .outside
    else .begun
  | .marked => if isNumber || isSign || isFinal then .outside else .marked
  | .control => if isFinal then .outside else .control
  | .command => if n = 7 then .outside else .command
  | .device =>
    if isMark then .deviceMarks
    else if isNumber || isSign then .deviceNumbers
    else if isFinal then .string
    else .device
  | .deviceNumbers =>
    if isMark then .deviceMarks
    else if isSign || isFinal then .string
    else .deviceNumbers
  | .deviceMarks => if isNumber || isSign || isFinal then .string else .deviceMarks
  | .string => if holdsTerminator c then .outside else .string

/-- Whether a character is shown in spite of the sequence in which it stands. -/
def shows (e : Escape) (c : Char) : Bool :=
  match e with
  | .outside => isShown c
  | .begun | .marked | .control => isKeptControl c
  | .command | .device | .deviceNumbers | .deviceMarks | .string => false

end Escape

/-- The characters that are left. After one that is shown, `showing`, all that can be shown
outside sequences are; if `resumes` holds, a sequence that was interrupted in this way then goes
on behind the next control character. -/
def plainChars (resumes : Bool) : (showing : Bool) → Escape → List Char → List Char
  | _, _, [] => []
  | true, e, c :: rest =>
    if isShown c then
      c :: plainChars resumes true (if c.toNat < 128 then e else .outside) rest
    else if c.toNat = 0x1B ∨ c.toNat = 0x18 ∨ c.toNat = 0x1A then
      plainChars resumes false (e.next c) rest
    else plainChars resumes false e rest
  | false, e, c :: rest =>
    if e.shows c then
      c :: plainChars resumes true (if resumes then e.next c else .outside) rest
    else plainChars resumes false (e.next c) rest

/-- What is left of a text where there is no terminal. -/
def plain (resumes : Bool) (s : String) : String :=
  String.ofList (plainChars resumes false .outside s.toList)

end Rendezvous.Text
