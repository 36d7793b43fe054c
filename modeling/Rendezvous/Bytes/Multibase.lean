import Rendezvous.Bytes.Base58

/-!
# Rendezvous.Bytes.Multibase

Self-describing spellings of bytes: the first character names a base, the rest are digits
of it. Bases of a power of two read bits in groups, base 45 reads three digits for two bytes,
and the others read a number.

* `Multibase.decode`: of any base in the table;
* `Multibase.groupDecode?`, `Multibase.groupEncode`: digits of a power of two, without padding;
* `Multibase.paddedDecode?`: the same in blocks, each with padding of its own.
-/

namespace Rendezvous.Multibase

/-! ### Bits in groups -/

/-- The bits of a number, highest first. -/
def bits : (width n : Nat) → List Bool
  | 0, _ => []
  | width + 1, n => bits width (n / 2) ++ [n % 2 == 1]

/-- The number that bits spell, highest first. -/
def ofBits (bs : List Bool) : Nat := bs.foldl (fun n b => 2 * n + b.toNat) 0

/-- Cuts a list into whole groups of `n`, and gives what is left. -/
def groups {α : Type} (n : Nat) (xs : List α) : List (List α) × List α :=
  if _h : n = 0 ∨ xs.length < n then ([], xs)
  else
    let (gs, rest) := groups n (xs.drop n)
    (xs.take n :: gs, rest)
termination_by xs.length
decreasing_by
  have : n ≠ 0 := fun e => _h (.inl e)
  have : ¬ xs.length < n := fun e => _h (.inr e)
  simp only [List.length_drop]; omega

/-- The bytes that digits of `width` bits spell: fewer bits than one digit has may be left
over, and those must be zero. -/
def groupDecode? (alphabet : List Char) (width : Nat) (cs : List Char) : Option Bytes := do
  let digits ← cs.mapM fun c => alphabet.idxOf? c
  let (bytes, rest) := groups 8 (digits.flatMap (bits width))
  if rest.length < width ∧ rest.all (! ·) then some (bytes.map fun b => UInt8.ofNat (ofBits b))
  else none

/-- The digits of `width` bits that spell bytes; the last is filled up with zeros. -/
def groupEncode (alphabet : List Char) (width : Nat) (bs : Bytes) : List Char :=
  let (whole, rest) := groups width (bs.flatMap fun b => bits 8 b.toNat)
  let last := if rest.isEmpty then [] else [rest ++ List.replicate (width - rest.length) false]
  (whole ++ last).map fun g => alphabet.getD (ofBits g) '0'

/-- The bytes that one block spells: digits of `width` bits, at least one and none of them
needless, and padding. -/
def blockDecode? (alphabet : List Char) (width : Nat) (block : List Char) : Option Bytes :=
  let body := (block.reverse.dropWhile (· = '=')).reverse
  if body ≠ [] ∧ body.length * width % 8 < width then groupDecode? alphabet width body else none

/-- The bytes that whole blocks of `block` characters spell, each by itself. -/
def paddedDecode? (alphabet : List Char) (block width : Nat) (cs : List Char) : Option Bytes :=
  let (blocks, rest) := groups block cs
  if rest.isEmpty then List.flatten <$> blocks.mapM (blockDecode? alphabet width) else none

/-! ### Numbers -/

/-- The bytes of a number in a base, with a zero byte for each leading zero digit. -/
def numberDecode? (alphabet : List Char) (cs : List Char) : Option Bytes := do
  let digits ← cs.mapM fun c => alphabet.idxOf? c
  let n := digits.foldl (fun n d => n * alphabet.length + d) 0
  let zeros := digits.takeWhile (· == 0)
  return zeros.map (fun _ => 0) ++ Bytes.ofNat (Bytes.width n) n

/-- The bytes of digits of base 45: three spell two bytes, and two at the end spell one. -/
def tripleDecode? (alphabet : List Char) (cs : List Char) : Option Bytes := do
  let digits ← cs.mapM fun c => alphabet.idxOf? c
  let (triples, rest) := groups 3 digits
  let read (count : Nat) (ds : List Nat) : Option Bytes :=
    let n := ds.foldr (fun d n => n * 45 + d) 0
    if n < Nat.pow 256 count then some (Bytes.ofNat count n) else none
  let bytes ← triples.mapM (read 2)
  let last ← match rest.length with
    | 0 => some []
    | 2 => read 1 rest
    | _ => none
  return bytes.flatten ++ last

/-! ### Bases -/

/-- How the digits of a base spell bytes. -/
inductive Spelling where
  | identity
  | number
  | triples
  | bits (width : Nat)
  | padded (block width : Nat)
deriving Repr, DecidableEq

/-- A base. A text is spelled in one of the alphabets, and not in a mixture of them, after
each of its characters went through `fold`. -/
structure Base where
  spelling : Spelling
  alphabets : List String
  fold : Char → Char

/-- The letters and digits of base 32. -/
def lower32 : String := "abcdefghijklmnopqrstuvwxyz234567"

/-- The same in capitals. -/
def upper32 : String := "ABCDEFGHIJKLMNOPQRSTUVWXYZ234567"

/-- The digits of base 64. -/
def plain64 : String := "ABCDEFGHIJKLMNOPQRSTUVWXYZabcdefghijklmnopqrstuvwxyz0123456789+/"

/-- The digits of base 64 that need no escape in an address. -/
def url64 : String := "ABCDEFGHIJKLMNOPQRSTUVWXYZabcdefghijklmnopqrstuvwxyz0123456789-_"

/-- The digits of base 16, in either size of letter. -/
def both16 : List String := ["0123456789abcdef", "0123456789ABCDEF"]

/-- The letters and digits of base 32, in either size of letter. -/
def both32 : List String := [lower32, upper32]

/-- The digits of base 32 that keep the order of the bytes, in either size of letter. -/
def ordered32 : List String :=
  ["0123456789abcdefghijklmnopqrstuv", "0123456789ABCDEFGHIJKLMNOPQRSTUV"]

/-- The pictures that stand for one byte each. -/
def pictures : String :=
  "🚀🪐☄🛰🌌🌑🌒🌓🌔🌕🌖🌗🌘🌍🌏🌎🐉☀💻🖥💾💿😂❤😍🤣😊🙏💕😭😘👍"
    ++ "😅👏😁🔥🥰💔💖💙😢🤔😆🙄💪😉☺👌🤗💜😔😎😇🌹🤦🎉💞✌✨🤷😱😌🌸🙌"
    ++ "😋💗💚😏💛🙂💓🤩😄😀🖤😃💯🙈👇🎶😒🤭❣😜💋👀😪😑💥🙋😞😩😡🤪👊🥳"
    ++ "😥🤤👉💃😳✋😚😝😴🌟😬🙃🍀🌷😻😓⭐✅🥺🌈😈🤘💦✔😣🏃💐☹🎊💘😠☝"
    ++ "😕🌺🎂🌻😐🖕💝🙊😹🗣💫💀👑🎵🤞😛🔴😤🌼😫⚽🤙☕🏆🤫👈😮🙆🍻🍃🐶💁"
    ++ "😲🌿🧡🎁⚡🌞🎈❌✊👋😰🤨😶🤝🚶💰🍓💢🤟🙁🚨💨🤬✈🎀🍺🤓😙💟🌱😖👶"
    ++ "🥴▶➡❓💎💸⬇😨🌚🦋😷🕺⚠🙅😟😵👎🤲🤠🤧📌🔵💅🧐🐾🍒😗🤑🌊🤯🐷☎"
    ++ "💧😯💆👆🎤🙇🍑❄🌴💣🐸💌📍🥀🤢👅💡💩👐📸👻🤐🤮🎼🥵🚩🍎🍊👼💍📣🥂"

/-- The base that a character names. Where two characters name a base in small and in capital
letters, both read either size. -/
def ofCode? : Char → Option Base
  | '\x00' => some ⟨.identity, [""], id⟩
  | '0' => some ⟨.bits 1, ["01"], id⟩
  | '7' => some ⟨.bits 3, ["01234567"], id⟩
  | '9' => some ⟨.number, ["0123456789"], id⟩
  | 'f' | 'F' => some ⟨.bits 4, both16, id⟩
  | 'b' | 'B' => some ⟨.bits 5, both32, id⟩
  | 'c' | 'C' => some ⟨.padded 8 5, both32, id⟩
  | 'v' | 'V' => some ⟨.bits 5, ordered32, id⟩
  | 't' | 'T' => some ⟨.padded 8 5, ordered32, id⟩
  | 'h' => some ⟨.bits 5, ["ybndrfg8ejkmcpqxot1uwisza345h769"], id⟩
  | 'k' | 'K' => some ⟨.number, ["0123456789abcdefghijklmnopqrstuvwxyz"], Char.toLower⟩
  | 'R' => some ⟨.triples, ["0123456789ABCDEFGHIJKLMNOPQRSTUVWXYZ $%*+-./:"], Char.toUpper⟩
  | 'z' => some ⟨.number, ["123456789ABCDEFGHJKLMNPQRSTUVWXYZabcdefghijkmnopqrstuvwxyz"], id⟩
  | 'Z' => some ⟨.number, ["123456789abcdefghijkmnopqrstuvwxyzABCDEFGHJKLMNPQRSTUVWXYZ"], id⟩
  | 'm' => some ⟨.bits 6, [plain64], id⟩
  | 'M' => some ⟨.padded 4 6, [plain64], id⟩
  | 'u' => some ⟨.bits 6, [url64], id⟩
  | 'U' => some ⟨.padded 4 6, [url64], id⟩
  | '🚀' => some ⟨.bits 8, [pictures], id⟩
  | _ => none

/-- Why a text spells no bytes. -/
inductive DecodeError where
  | unknownBase (code : Char)
  | invalidText
deriving Repr, DecidableEq

/-- The wording of an error. -/
def DecodeError.message : DecodeError → String
  | .unknownBase c => "Unknown base code: " ++ String.singleton c
  | .invalidText => "Invalid base string"

/-- The bytes that digits over an alphabet spell. -/
def Spelling.decode? (p : Spelling) (alphabet : List Char) (cs : List Char) : Option Bytes :=
  match p with
  | .identity => some (Bytes.ofString (String.ofList cs))
  | .number => numberDecode? alphabet cs
  | .triples => tripleDecode? alphabet cs
  | .bits width => groupDecode? alphabet width cs
  | .padded block width => paddedDecode? alphabet block width cs

/-- The bytes that digits of a base spell. -/
def Base.decode? (b : Base) (cs : List Char) : Option Bytes :=
  b.alphabets.findSome? fun alphabet => b.spelling.decode? alphabet.toList (cs.map b.fold)

/-- The bytes that a self-describing text spells. -/
def decode (s : String) : Except DecodeError Bytes :=
  match s.toList with
  | [] => .error .invalidText
  | code :: cs =>
    match ofCode? code with
    | none => .error (.unknownBase code)
    | some base =>
      match base.decode? cs with
      | some bs => .ok bs
      | none => .error .invalidText

end Rendezvous.Multibase
