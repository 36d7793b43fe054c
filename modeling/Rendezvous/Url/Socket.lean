import Rendezvous.Url.Host
import Rendezvous.Text.Blank

/-!
# Rendezvous.Url.Socket

URLs of web sockets, read as browsers read them: blanks around a text and line breaks inside
it do not count, a backslash is as good as a slash, and any number of slashes may stand
before the host. A URL is written in one way: the scheme and host in small letters, the
port only if it is not the usual one, the path without dots that lead up or nowhere.

* `SocketUrl.parse?`: reads a URL with scheme `ws`;
* `SocketUrl.ofServer`: reads the address of a server, which may leave the scheme out;
* `SocketUrl.toText`: the text of a URL.
-/

namespace Rendezvous

/-- The URL of a web socket. The user's name and password, the path, the query and the
fragment are in the form in which they are written. -/
structure SocketUrl where
  user : String
  password : String
  host : Url.Host
  /-- The port, if it is not the usual one. -/
  port : Option Nat
  path : String
  query : Option String
  fragment : Option String
deriving Repr, DecidableEq, Inhabited

namespace SocketUrl

/-- The usual port. -/
def usualPort : Nat := 80

/-! ### Characters that are spelled -/

/-- Bytes spelled in a fragment. -/
def inFragment (b : UInt8) : Bool :=
  Percent.isControl b || " \"<>`".toList.contains (Char.ofNat b.toNat)

/-- Bytes spelled in a path. -/
def inPath (b : UInt8) : Bool :=
  inFragment b || "#?\x7b\x7d".toList.contains (Char.ofNat b.toNat)

/-- Bytes spelled in a user's name or password. -/
def inUser (b : UInt8) : Bool := inPath b || "/:;=@[\\]^|".toList.contains (Char.ofNat b.toNat)

/-- Bytes spelled in a query. -/
def inQuery (b : UInt8) : Bool :=
  Percent.isControl b || " \"#<>'".toList.contains (Char.ofNat b.toNat)

/-- Characters with the bytes of a class spelled. -/
def spellChars (special : UInt8 → Bool) (cs : List Char) : List Char :=
  Percent.encode special (Bytes.ofString (String.ofList cs))

/-! ### Paths -/

/-- Whether a character ends a segment. -/
def isSlash (c : Char) : Bool := c == '/' || c == '\\'

/-- Whether a segment leads nowhere. -/
def isDot (seg : List Char) : Bool :=
  String.ofList seg ∈ [".", "%2e", "%2E"]

/-- Whether a segment leads up. -/
def isDoubleDot (seg : List Char) : Bool :=
  String.ofList seg ∈
    ["..", "%2e%2e", "%2e%2E", "%2E%2e", "%2E%2E", "%2e.", "%2E.", ".%2e", ".%2E"]

/-- The segments of a path, and what is left from a question mark or number sign on. -/
def segments : List Char → List (List Char) × List Char
  | [] => ([[]], [])
  | c :: rest =>
    if c == '?' || c == '#' then ([[]], c :: rest)
    else
      let (segs, left) := segments rest
      if isSlash c then ([] :: segs, left)
      else
        match segs with
        | s :: ss => ((c :: s) :: ss, left)
        | [] => ([[c]], left)

/-- Whether a segment is a letter and a colon or bar, which stays when a path leads up from
below it. -/
def isDriveLetter : List Char → Bool
  | [c, d] => c.isAlpha && (d == ':' || d == '|')
  | _ => false

/-- Follows segments from the directory with the given names, the last one first, and tells
the names in the end. The last segment names a file; a dot there leaves the directory. -/
def follow : (names : List (List Char)) → List (List Char) → List (List Char)
  | names, [] => names
  | names, [seg] =>
    if isDoubleDot seg then [] :: up names
    else if isDot seg then [] :: names
    else spellChars inPath seg :: names
  | names, seg :: rest =>
    if isDoubleDot seg then follow (up names) rest
    else if isDot seg then follow names rest
    else follow (spellChars inPath seg :: names) rest
where
  /-- The directory above. -/
  up : List (List Char) → List (List Char)
    | [] => []
    | name :: names => if isDriveLetter name then name :: names else names

/-- Reads a path: its text, and what is left. -/
def readPath (cs : List Char) : String × List Char :=
  let cs := match cs with
    | c :: rest => if isSlash c then rest else cs
    | [] => []
  let (segs, left) := segments cs
  let names := (follow [] segs).reverse
  (String.ofList (names.flatMap fun name => '/' :: name), left)

/-! ### Users, hosts and ports -/

/-- Whether a character ends the part of a URL that names the host. -/
def endsAuthority (c : Char) : Bool := c == '/' || c == '\\' || c == '?' || c == '#'

/-- What stands before and behind the last `@`, if there is one. -/
def cutAtLastAt (cs : List Char) : Option (List Char × List Char) :=
  let behind := (cs.reverse.takeWhile (· != '@')).reverse
  if behind.length = cs.length then none
  else some (cs.take (cs.length - behind.length - 1), behind)

/-- The user's name and password. -/
def readUser (cs : List Char) : String × String :=
  let name := cs.takeWhile (· != ':')
  let password := (cs.dropWhile (· != ':')).drop 1
  (String.ofList (spellChars inUser name), String.ofList (spellChars inUser password))

/-- Takes the host off the front: up to a colon that is not between brackets. -/
def hostChars : (inBrackets : Bool) → List Char → List Char × List Char
  | _, [] => ([], [])
  | inBrackets, c :: rest =>
    if c == ':' && !inBrackets then ([], c :: rest)
    else
      let inBrackets := if c == '[' then true else if c == ']' then false else inBrackets
      let (host, left) := hostChars inBrackets rest
      (c :: host, left)

/-- The port behind a colon; none if there are no digits. -/
def port? (cs : List Char) : Option (Option Nat) :=
  match cs with
  | [] => some none
  | _ =>
    if cs.all Char.isDigit then
      let n := cs.foldl (fun n c => n * 10 + (c.toNat - 48)) 0
      if n < 65536 then some (some n) else none
    else none

/-! ### URLs -/

/-- A text without the control characters and blanks around it and without line breaks and
tabs. -/
def clean (cs : List Char) : List Char :=
  let isEdge (c : Char) : Bool := c.toNat ≤ 32
  let cs := ((cs.dropWhile isEdge).reverse.dropWhile isEdge).reverse
  cs.filter fun c => c != '\t' && c != '\n' && c != '\r'

/-- The scheme in small letters, and what stands behind its colon. -/
def scheme? (cs : List Char) : Option (String × List Char) :=
  let isPart (c : Char) : Bool := c.isAlphanum || c == '+' || c == '-' || c == '.'
  let name := cs.takeWhile isPart
  match name, cs.dropWhile isPart with
  | c :: _, ':' :: rest =>
    if c.isAlpha then some (String.ofList (name.map Char.toLower), rest) else none
  | _, _ => none

/-- Reads a query and a fragment. -/
def queryAndFragment (cs : List Char) : Option String × Option String :=
  let fragment (cs : List Char) : Option String :=
    match cs with
    | '#' :: rest => some (String.ofList (spellChars inFragment rest))
    | _ => none
  match cs with
  | '?' :: rest =>
    (some (String.ofList (spellChars inQuery (rest.takeWhile (· != '#')))),
      fragment (rest.dropWhile (· != '#')))
  | _ => (none, fragment cs)

/-- Reads a URL with scheme `ws`. -/
def parse? (s : String) : Option SocketUrl := do
  let (scheme, rest) ← scheme? (clean s.toList)
  if scheme ≠ "ws" then none
  else
    let rest := rest.dropWhile isSlash
    let authority := rest.takeWhile fun c => !endsAuthority c
    let rest := rest.dropWhile fun c => !endsAuthority c
    let (credentials, place) := (cutAtLastAt authority).getD ([], authority)
    let (name, behind) := hostChars false place
    if name.isEmpty then none
    else
      let host ← Url.Host.parse? name
      let port ← match behind with
        | ':' :: digits => port? digits
        | _ => some none
      let (userName, password) := readUser credentials
      let (pathText, rest) := readPath rest
      let (query, fragment) := queryAndFragment rest
      return { user := userName, password, host,
               port := if port = some usualPort then none else port,
               path := pathText, query, fragment }

/-- The text of a URL. -/
def toText (u : SocketUrl) : String :=
  let credentials :=
    if u.user.isEmpty && u.password.isEmpty then ""
    else u.user ++ (if u.password.isEmpty then "" else ":" ++ u.password) ++ "@"
  let port := match u.port with
    | none => ""
    | some n => ":" ++ toString n
  let query := match u.query with
    | none => ""
    | some q => "?" ++ q
  let fragment := match u.fragment with
    | none => ""
    | some f => "#" ++ f
  "ws://" ++ credentials ++ u.host.toText ++ port ++ u.path ++ query ++ fragment

/-! ### Servers -/

/-- A text that is no address of a server. -/
structure ServerError where
  text : String
deriving Repr, DecidableEq

/-- The wording of the error. -/
def ServerError.message (e : ServerError) : String := "invalid endpoint '" ++ e.text ++ "'"

/-- Whether a text holds a colon and two slashes. -/
def namesScheme : List Char → Bool
  | ':' :: '/' :: '/' :: _ => true
  | _ :: rest => namesScheme rest
  | [] => false

/-- Reads the address of a server, for which scheme `tcp` or none stands for a web socket. -/
def ofServer (server : String) : Except ServerError SocketUrl :=
  let server := Text.trimChars server.toList
  let candidate := match server with
    | 't' :: 'c' :: 'p' :: ':' :: '/' :: '/' :: rest => "ws://".toList ++ rest
    | _ => if namesScheme server then server else "ws://".toList ++ server
  match parse? (String.ofList candidate) with
  | some url => .ok url
  | none => .error ⟨String.ofList server⟩

end SocketUrl

end Rendezvous
