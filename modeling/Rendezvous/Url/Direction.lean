import Rendezvous.Text.Mark

/-!
# Rendezvous.Url.Direction

Names with text that runs from right to left. Such a name is shown with its labels in their
places only if each label runs in one way: if it begins and ends with letters or numbers of
its own direction and has nothing inside that would turn the other way.

* `Direction.agrees`: whether a label does;
* `Direction.turns`: whether a name has such text at all;
* `Direction.allAgree`: whether the labels of a name do, if they need to.
-/

namespace Rendezvous.Direction

open Text (inRanges isNonspacing)

/-- How characters run: letters to the left or right, two kinds of numbers, signs that go with
numbers, marks, joiners, and signs that run as what is around them. -/
inductive Class where
  | l | r | al | an | en | es | cs | et | on | bn | nsm
deriving Repr, DecidableEq

/-- The classes of characters beyond ASCII that are no marks; letters that run to the right
are not listed. What has no place in names may lie in the ranges too. -/
def classes : List (Class × List (Nat × Nat)) :=
  [
    (.r, [(0x5BE, 0x5BE), (0x5C0, 0x5C0), (0x5C3, 0x5C3), (0x5C6, 0x5C6), (0x5D0, 0x5F4),
     (0x7C0, 0x7EA), (0x7F4, 0x7F5), (0x7FA, 0x7FA), (0x7FE, 0x815), (0x81A, 0x81A), (0x824, 0x824),
     (0x828, 0x828), (0x830, 0x858), (0x85E, 0x85E), (0x10800, 0x1091B), (0x10920, 0x10A00),
     (0x10A10, 0x10A35), (0x10A40, 0x10AE4), (0x10AEB, 0x10B35), (0x10B40, 0x10CFF),
     (0x10D4A, 0x10D4F), (0x10D6F, 0x10D8F), (0x10E80, 0x10EA9), (0x10EAD, 0x10EB1),
     (0x10F00, 0x10F27), (0x10F70, 0x10F81), (0x10F86, 0x10FF6), (0x1E800, 0x1E8CF),
     (0x1E922, 0x1E943), (0x1E94B, 0x1E95F)]),
    (.al, [(0x608, 0x608), (0x60B, 0x60B), (0x60D, 0x60D), (0x61B, 0x64A), (0x66D, 0x66F),
     (0x671, 0x6D5), (0x6E5, 0x6E6), (0x6EE, 0x6EF), (0x6FA, 0x710), (0x712, 0x72F), (0x74D, 0x7A5),
     (0x7B1, 0x7B1), (0x860, 0x88F), (0x8A0, 0x8C9), (0xFBB2, 0xFBC2), (0xFE73, 0xFE73),
     (0x10D00, 0x10D23), (0x10EC2, 0x10EC7), (0x10F30, 0x10F45), (0x10F51, 0x10F59),
     (0x1EC71, 0x1ED3D)]),
    (.an, [(0x660, 0x669), (0x66B, 0x66C), (0x10D30, 0x10D49), (0x10E60, 0x10E7E)]),
    (.en, [(0x6F0, 0x6F9), (0x102E1, 0x102FB)]),
    (.es, [(0x2212, 0x2212)]),
    (.cs, [(0x60C, 0x60C), (0x2044, 0x2044)]),
    (.et, [(0xA2, 0xA5), (0xB0, 0xB1), (0x58F, 0x58F), (0x609, 0x60A), (0x66A, 0x66A),
     (0x9F2, 0x9F3), (0x9FB, 0x9FB), (0xAF1, 0xAF1), (0xBF9, 0xBF9), (0xE3F, 0xE3F),
     (0x17DB, 0x17DB), (0x2030, 0x2032), (0x20A0, 0x20C1), (0x212E, 0x212E), (0x2213, 0x2213),
     (0xA838, 0xA839), (0x11FDD, 0x11FE0), (0x1E2FF, 0x1E2FF)]),
    (.on, [(0xA1, 0xA1), (0xA6, 0xAE), (0xB6, 0xD7), (0xF7, 0xF7), (0x2B9, 0x2BA), (0x2C2, 0x2CF),
     (0x2D2, 0x2ED), (0x2EF, 0x2FF), (0x375, 0x375), (0x3F6, 0x3F6), (0x58A, 0x58E), (0x606, 0x607),
     (0x60E, 0x60F), (0x6DE, 0x6DE), (0x6E9, 0x6E9), (0x7F6, 0x7F9), (0xBF3, 0xBF8), (0xBFA, 0xBFA),
     (0xC78, 0xC7E), (0xF3A, 0xF3D), (0x1390, 0x1399), (0x1400, 0x1400), (0x169B, 0x169C),
     (0x17F0, 0x180A), (0x1940, 0x1945), (0x19DE, 0x19FF), (0x2010, 0x2027), (0x2035, 0x2043),
     (0x2045, 0x205E), (0x2104, 0x2129), (0x213A, 0x214D), (0x218A, 0x2211), (0x2214, 0x2335),
     (0x237B, 0x2394), (0x2396, 0x26AB), (0x26AD, 0x27FF), (0x2900, 0x2BFF), (0x2CE5, 0x2CEA),
     (0x2CF9, 0x2CFF), (0x2E00, 0x3004), (0x3008, 0x3020), (0x3030, 0x3030), (0x3037, 0x3037),
     (0x303D, 0x303F), (0x30A0, 0x30A0), (0x30FB, 0x30FB), (0x31C0, 0x31E5), (0x4DC0, 0x4DFF),
     (0xA490, 0xA4C6), (0xA60D, 0xA60F), (0xA673, 0xA673), (0xA67E, 0xA67F), (0xA700, 0xA721),
     (0xA788, 0xA788), (0xA828, 0xA82B), (0xA874, 0xA877), (0xAB6A, 0xAB6B), (0xFBC3, 0xFDFF),
     (0xFE45, 0xFE46), (0x10101, 0x10101), (0x10140, 0x1018C), (0x10190, 0x101A0),
     (0x1091F, 0x1091F), (0x10B39, 0x10B3F), (0x10D6E, 0x10D6E), (0x10ED0, 0x10ED8),
     (0x11052, 0x11065), (0x11660, 0x1166C), (0x11FD5, 0x11FDC), (0x11FE1, 0x11FF1),
     (0x16FE2, 0x16FE2), (0x1CC00, 0x1CEF0), (0x1D1E9, 0x1D241), (0x1D245, 0x1D245),
     (0x1D300, 0x1D356), (0x1EEF0, 0x1F12F), (0x1F16D, 0x1F16F), (0x1F1AD, 0x1F1AD),
     (0x1F260, 0x1FBFA)])
  ]

/-- Marks without room that run to the right, as letters do. -/
def strongMarks : List (Nat × Nat) :=
  [(0xCBF, 0xCBF), (0xCC6, 0xCC6), (0x11A07, 0x11A08), (0x11C3F, 0x11C3F)]

/-- The class of a character that may stand in a name. -/
def classOf (c : Char) : Class :=
  let n := c.toNat
  if n < 128 then
    if c.isAlpha then .l
    else if c.isDigit then .en
    else if c = '+' ∨ c = '-' then .es
    else if ",./:".toList.contains c then .cs
    else if "#$%".toList.contains c then .et
    else .on
  else if n = 0x200C ∨ n = 0x200D then .bn
  else if isNonspacing c && !inRanges strongMarks n then .nsm
  else ((classes.find? fun row => inRanges row.2 n).map (·.1)).getD .l

/-- Whether a class makes the text around it run from right to left. -/
def Class.isLeftward (k : Class) : Bool := k == .r || k == .al || k == .an

/-- Whether a name has text from right to left. -/
def turns (labels : List (List Char)) : Bool := labels.any (·.any fun c => (classOf c).isLeftward)

/-- Whether a label that begins with a letter runs in one way, where `classes` are those of the
characters behind that letter and `isRightward` tells whether the letter runs to the right. The
marks at the end do not count. -/
def runsOn (isRightward : Bool) (classes : List Class) : Bool :=
  match classes.reverse.dropWhile (· == .nsm) with
  | [] => true
  | last :: middle =>
    if isRightward then
      (last == .l || last == .en) && middle.all fun k => !k.isLeftward
    else
      (last == .r || last == .al || last == .en || last == .an)
        && middle.all (· != .l)
        && !((last :: middle).contains .en && (last :: middle).contains .an)

/-- Whether a label runs in one way. -/
def agrees (label : List Char) : Bool :=
  match label.map classOf with
  | [] => true
  | first :: rest =>
    (first == .l || first == .r || first == .al) && runsOn (first == .l) rest

/-- Whether the labels of a name run in one way each, as they have to if there is text from
right to left. -/
def allAgree (labels : List (List Char)) : Bool := !turns labels || labels.all agrees

end Rendezvous.Direction
