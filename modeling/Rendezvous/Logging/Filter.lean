import Rendezvous.Lifecycle.Crash
import Rendezvous.Number.Decimal
import Rendezvous.Pattern.Usable
import Rendezvous.Text.Cut

/-!
# Rendezvous.Logging.Filter

The syntax of log filters: directives with commas between them. A directive is a level, or
names a target, a span in brackets with a field in braces, or both, and perhaps a level behind
an equals sign.

* `LogFilter.check`: whether a text is a filter.
-/

namespace Rendezvous.LogFilter

/-- What is wrong with a filter. -/
inductive FilterError where
  /-- A directive of no known form. -/
  | badDirective
  /-- A level that is none. -/
  | badLevel
  /-- A pattern for a field that cannot be used. -/
  | badField (cause : Pattern.Flaw)
deriving Repr, DecidableEq

/-- The wording of an error. -/
def FilterError.message : FilterError → String
  | .badDirective => "invalid filter directive"
  | .badLevel =>
    "error parsing level filter: expected one of \"off\", \"error\", \"warn\", \"info\", "
      ++ "\"debug\", \"trace\", or a number 0-5"
  | .badField cause => "invalid field filter: " ++ cause.message

/-- The words for levels. -/
def levelNames : List String := ["error", "warn", "info", "debug", "trace", "off"]

/-- Whether a text is a level: a word in letters of any size, or a number up to 5. -/
def isLevel (s : String) : Bool :=
  match Decimal.parseBelow (Nat.pow 2 64) s with
  | .ok n => n ≤ 5
  | .error _ => s.isEmpty || levelNames.contains s.toLower

/-! ### Fields -/

/-- Whether a text is a number with a plus sign. Any other number is a pattern as well. -/
def isSignedNumber : List Char → Bool
  | '+' :: cs =>
    let digits := cs.takeWhile fun c => c.isDigit || c == '.'
    let isMantissa := digits.any Char.isDigit && digits.count '.' ≤ 1
    let isExponent : List Char → Bool
      | [] => true
      | c :: rest =>
        let ds := match rest with
          | '+' :: ds | '-' :: ds => ds
          | ds => ds
        (c == 'e' || c == 'E') && !ds.isEmpty && ds.all Char.isDigit
    (isMantissa && isExponent (cs.drop digits.length))
      || ["inf", "infinity", "nan"].contains (String.ofList (cs.map Char.toLower))
  | _ => false

/-- Checks the name of a field, perhaps with an equals sign and its value or a pattern for it. -/
def checkField (cs : List Char) : Except FilterError Unit :=
  if cs.isEmpty then .error .badDirective
  else match cs.dropWhile (· != '=') with
    | [] => .ok ()
    | _ :: rest =>
      let value := rest.takeWhile (· != '=')
      if isSignedNumber value then .ok () else (Pattern.check value).mapError .badField

/-! ### Directives -/

/-- How far the reading of a directive has come. A place counts the bytes before it. -/
inductive State where
  | start
  | levelOrTarget
  | target
  | span (place : Nat)
  | field (place : Nat)
  | fields
  | level (place : Nat)
deriving Repr, DecidableEq

/-- Characters with which a target begins. -/
def beginsTarget (c : Char) : Bool :=
  c == '-' || c == ':' || c == '_' || Text.isLetterOrDigit c

/-- The part of a directive between two places, which must not be within characters. -/
def part (cs : List Char) (first last : Nat) : Except (Stop FilterError) (List Char) :=
  match Text.between? first last cs with
  | some part => .ok part
  | none => .error (.crash .cutCharacter)

/-- Reads the character at a place of a directive, from which parts are cut. -/
def step (cs : List Char) (place : Nat) (s : State) (c : Char) :
    Except (Stop FilterError) State :=
  match s with
  | .start =>
    if c == '[' then .ok (.span (place + 1))
    else if beginsTarget c then .ok .levelOrTarget
    else .error (.error .badDirective)
  | .levelOrTarget =>
    if c == '=' then (part cs 0 place).map fun _ => .level (place + 1)
    else if c == '[' then (part cs 0 place).map fun _ => .span (place + 1)
    else .ok .levelOrTarget
  | .target => if c == '=' then .ok (.level (place + 1)) else .error (.error .badDirective)
  | .span first =>
    if c == ']' then (part cs first place).map fun _ => .target
    else if c == '\x7b' then (part cs first place).map fun _ => .field (place + 1)
    else .ok (.span first)
  | .field first =>
    if c == '\x7d' then do
      orStop (checkField (← part cs first place))
      return .fields
    else .ok (.field first)
  | .fields => if c == ']' then .ok .target else .error (.error .badDirective)
  | .level first => .ok (.level first)

/-- Reads the characters of a directive from a place on. -/
def steps (cs : List Char) : (place : Nat) → State → List Char →
    Except (Stop FilterError) State
  | _, s, [] => .ok s
  | place, s, c :: rest => do steps cs (place + c.utf8Size) (← step cs place s c) rest

/-- Checks a directive. Places are counted from its first character that is no blank, but parts
are cut from the directive with its blanks. So if there are blanks before it, a part may be
another one than was meant, or end within a character. -/
def checkDirective (cs : List Char) : Except (Stop FilterError) Unit := do
  match ← steps cs 0 .start (Text.trimChars cs) with
  | .level first =>
    let level ← part cs first (String.ofList cs).utf8ByteSize
    if isLevel (String.ofList level) then return () else .error (.error .badLevel)
  | .levelOrTarget | .target => return ()
  | _ => .error (.error .badDirective)

/-- What stands between commas. -/
def directives : List Char → List (List Char)
  | [] => [[]]
  | ',' :: rest => [] :: directives rest
  | c :: rest =>
    match directives rest with
    | d :: ds => (c :: d) :: ds
    | [] => [[c]]

/-- Checks a filter. A blank one is as good as the usual one. -/
def check (s : String) : Except (Stop FilterError) Unit :=
  if Text.allBlank s then .ok ()
  else
    (directives s.toList).forM fun d => if d.isEmpty then .ok () else checkDirective d

end Rendezvous.LogFilter
