/-!
# Rendezvous.Text.Capital

Capital letters. Most small letters have one capital; some ligatures and letters with marks
have only capitals of several characters.

* `Text.capitals`: the capitals of a character, or the character itself;
* `Text.inCapitals`: a text in capitals.
-/

namespace Rendezvous.Text

/-- Small letters from `first` to `last`, each `distance` from the next, whose capitals stand
`shift` further on. -/
structure SmallRun where
  first : Nat
  last : Nat
  distance : Nat
  shift : Int

/-- Whether the character with number `n` is of the run. -/
def SmallRun.contains (r : SmallRun) (n : Nat) : Bool :=
  r.first ≤ n && n ≤ r.last && (n - r.first) % r.distance == 0

/-- The runs. -/
def smallRuns : List SmallRun :=
  [⟨0xE0, 0xF6, 1, -0x20⟩, ⟨0xF8, 0xFE, 1, -0x20⟩, ⟨0x101, 0x12F, 2, -0x1⟩, ⟨0x13A, 0x148, 2, -0x1⟩,
   ⟨0x14B, 0x177, 2, -0x1⟩, ⟨0x1CE, 0x1DC, 2, -0x1⟩, ⟨0x1DF, 0x1EF, 2, -0x1⟩,
   ⟨0x1F9, 0x21F, 2, -0x1⟩, ⟨0x223, 0x233, 2, -0x1⟩, ⟨0x247, 0x24F, 2, -0x1⟩,
   ⟨0x3B1, 0x3C1, 1, -0x20⟩, ⟨0x3C3, 0x3CB, 1, -0x20⟩, ⟨0x3D9, 0x3EF, 2, -0x1⟩,
   ⟨0x430, 0x44F, 1, -0x20⟩, ⟨0x450, 0x45F, 1, -0x50⟩, ⟨0x461, 0x481, 2, -0x1⟩,
   ⟨0x48B, 0x4BF, 2, -0x1⟩, ⟨0x4C2, 0x4CE, 2, -0x1⟩, ⟨0x4D1, 0x52F, 2, -0x1⟩,
   ⟨0x561, 0x586, 1, -0x30⟩, ⟨0x10D0, 0x10FA, 1, 0xBC0⟩, ⟨0x13F8, 0x13FD, 1, -0x8⟩,
   ⟨0x1E01, 0x1E95, 2, -0x1⟩, ⟨0x1EA1, 0x1EFF, 2, -0x1⟩, ⟨0x1F00, 0x1F07, 1, 0x8⟩,
   ⟨0x1F10, 0x1F15, 1, 0x8⟩, ⟨0x1F20, 0x1F27, 1, 0x8⟩, ⟨0x1F30, 0x1F37, 1, 0x8⟩,
   ⟨0x1F40, 0x1F45, 1, 0x8⟩, ⟨0x1F51, 0x1F57, 2, 0x8⟩, ⟨0x1F60, 0x1F67, 1, 0x8⟩,
   ⟨0x1F72, 0x1F75, 1, 0x56⟩, ⟨0x2170, 0x217F, 1, -0x10⟩, ⟨0x24D0, 0x24E9, 1, -0x1A⟩,
   ⟨0x2C30, 0x2C5F, 1, -0x30⟩, ⟨0x2C81, 0x2CE3, 2, -0x1⟩, ⟨0x2D00, 0x2D25, 1, -0x1C60⟩,
   ⟨0xA641, 0xA66D, 2, -0x1⟩, ⟨0xA681, 0xA69B, 2, -0x1⟩, ⟨0xA723, 0xA72F, 2, -0x1⟩,
   ⟨0xA733, 0xA76F, 2, -0x1⟩, ⟨0xA77F, 0xA787, 2, -0x1⟩, ⟨0xA797, 0xA7A9, 2, -0x1⟩,
   ⟨0xA7B5, 0xA7C3, 2, -0x1⟩, ⟨0xA7CD, 0xA7DB, 2, -0x1⟩, ⟨0xAB70, 0xABBF, 1, -0x97D0⟩,
   ⟨0xFF41, 0xFF5A, 1, -0x20⟩, ⟨0x10428, 0x1044F, 1, -0x28⟩, ⟨0x104D8, 0x104FB, 1, -0x28⟩,
   ⟨0x10597, 0x105A1, 1, -0x27⟩, ⟨0x105A3, 0x105B1, 1, -0x27⟩, ⟨0x105B3, 0x105B9, 1, -0x27⟩,
   ⟨0x10CC0, 0x10CF2, 1, -0x40⟩, ⟨0x10D70, 0x10D85, 1, -0x20⟩, ⟨0x118C0, 0x118DF, 1, -0x20⟩,
   ⟨0x16E60, 0x16E7F, 1, -0x20⟩, ⟨0x16EBB, 0x16ED3, 1, -0x1B⟩, ⟨0x1E922, 0x1E943, 1, -0x22⟩]

/-- Small letters of no run, each before its capital. -/
def smallPairs : String :=
  "µΜÿŸıIĳĲĵĴķĶźŹżŻžŽſSƀɃƃƂƅƄƈƇƌƋƒƑƕǶƙƘƚȽƛꟜƞȠơƠƣƢƥƤƨƧƭƬưƯƴƳƶƵƹƸƽƼƿǷǅǄǆǄǈǇǉǇǋǊǌǊǝƎǲǱǳǱǵǴȼȻȿⱾɀⱿɂɁ" ++
  "ɐⱯɑⱭɒⱰɓƁɔƆɖƉɗƊəƏɛƐɜꞫɠƓɡꞬɣƔɤꟋɥꞍɦꞪɨƗɩƖɪꞮɫⱢɬꞭɯƜɱⱮɲƝɵƟɽⱤʀƦʂꟅʃƩʇꞱʈƮʉɄʊƱʋƲʌɅʒƷʝꞲʞꞰͅΙͱͰͳͲͷͶͻϽͼϾͽϿάΆ" ++
  "έΈήΉίΊςΣόΌύΎώΏϐΒϑΘϕΦϖΠϗϏϰΚϱΡϲϹϳͿϵΕϸϷϻϺӏӀჽᲽჾᲾჿᲿᲀВᲁДᲂОᲃСᲄТᲅТᲆЪᲇѢᲈꙊᲊᲉᵹꝽᵽⱣᶎꟆẛṠὰᾺάΆὶῚίΊὸῸόΌὺῪύΎὼῺ" ++
  "ώΏᾰᾸᾱᾹιΙῐῘῑῙῠῨῡῩῥῬⅎℲↄↃⱡⱠⱥȺⱦȾⱨⱧⱪⱩⱬⱫⱳⱲⱶⱵⳬⳫⳮⳭⳳⳲⴧჇⴭჍꝺꝹꝼꝻꞌꞋꞑꞐꞓꞒꞔꟄꟈꟇꟊꟉꟶꟵꭓꞳ𐖻𐖔𐖼𐖕"

/-- Characters with several capitals. -/
def ligatures : List (Nat × String) :=
  [(0xDF, "SS"), (0x149, "ʼN"), (0x1F0, "J̌"), (0x390, "Ϊ́"), (0x3B0, "Ϋ́"), (0x587, "ԵՒ"),
   (0x1E96, "H̱"), (0x1E97, "T̈"), (0x1E98, "W̊"), (0x1E99, "Y̊"), (0x1E9A, "Aʾ"), (0x1F50, "Υ̓"),
   (0x1F52, "Υ̓̀"), (0x1F54, "Υ̓́"), (0x1F56, "Υ̓͂"), (0x1F80, "ἈΙ"), (0x1F81, "ἉΙ"),
   (0x1F82, "ἊΙ"), (0x1F83, "ἋΙ"), (0x1F84, "ἌΙ"), (0x1F85, "ἍΙ"), (0x1F86, "ἎΙ"), (0x1F87, "ἏΙ"),
   (0x1F88, "ἈΙ"), (0x1F89, "ἉΙ"), (0x1F8A, "ἊΙ"), (0x1F8B, "ἋΙ"), (0x1F8C, "ἌΙ"), (0x1F8D, "ἍΙ"),
   (0x1F8E, "ἎΙ"), (0x1F8F, "ἏΙ"), (0x1F90, "ἨΙ"), (0x1F91, "ἩΙ"), (0x1F92, "ἪΙ"), (0x1F93, "ἫΙ"),
   (0x1F94, "ἬΙ"), (0x1F95, "ἭΙ"), (0x1F96, "ἮΙ"), (0x1F97, "ἯΙ"), (0x1F98, "ἨΙ"), (0x1F99, "ἩΙ"),
   (0x1F9A, "ἪΙ"), (0x1F9B, "ἫΙ"), (0x1F9C, "ἬΙ"), (0x1F9D, "ἭΙ"), (0x1F9E, "ἮΙ"), (0x1F9F, "ἯΙ"),
   (0x1FA0, "ὨΙ"), (0x1FA1, "ὩΙ"), (0x1FA2, "ὪΙ"), (0x1FA3, "ὫΙ"), (0x1FA4, "ὬΙ"), (0x1FA5, "ὭΙ"),
   (0x1FA6, "ὮΙ"), (0x1FA7, "ὯΙ"), (0x1FA8, "ὨΙ"), (0x1FA9, "ὩΙ"), (0x1FAA, "ὪΙ"), (0x1FAB, "ὫΙ"),
   (0x1FAC, "ὬΙ"), (0x1FAD, "ὭΙ"), (0x1FAE, "ὮΙ"), (0x1FAF, "ὯΙ"), (0x1FB2, "ᾺΙ"), (0x1FB3, "ΑΙ"),
   (0x1FB4, "ΆΙ"), (0x1FB6, "Α͂"), (0x1FB7, "Α͂Ι"), (0x1FBC, "ΑΙ"), (0x1FC2, "ῊΙ"), (0x1FC3, "ΗΙ"),
   (0x1FC4, "ΉΙ"), (0x1FC6, "Η͂"), (0x1FC7, "Η͂Ι"), (0x1FCC, "ΗΙ"), (0x1FD2, "Ϊ̀"),
   (0x1FD3, "Ϊ́"), (0x1FD6, "Ι͂"), (0x1FD7, "Ϊ͂"), (0x1FE2, "Ϋ̀"), (0x1FE3, "Ϋ́"),
   (0x1FE4, "Ρ̓"), (0x1FE6, "Υ͂"), (0x1FE7, "Ϋ͂"), (0x1FF2, "ῺΙ"), (0x1FF3, "ΩΙ"), (0x1FF4, "ΏΙ"),
   (0x1FF6, "Ω͂"), (0x1FF7, "Ω͂Ι"), (0x1FFC, "ΩΙ"), (0xFB00, "FF"), (0xFB01, "FI"), (0xFB02, "FL"),
   (0xFB03, "FFI"), (0xFB04, "FFL"), (0xFB05, "ST"), (0xFB06, "ST"), (0xFB13, "ՄՆ"), (0xFB14, "ՄԵ"),
   (0xFB15, "ՄԻ"), (0xFB16, "ՎՆ"), (0xFB17, "ՄԽ")]

/-- The capital behind a small letter among such pairs. -/
def capitalBehind? (c : Char) : List Char → Option Char
  | a :: b :: rest => if a = c then some b else capitalBehind? c rest
  | _ => none

/-- The capitals of a character, or the character itself if it has none. -/
def capitals (c : Char) : List Char :=
  let n := c.toNat
  if n < 128 then [c.toUpper]
  else match smallRuns.find? (·.contains n) with
    | some r => [Char.ofNat ((n : Int) + r.shift).toNat]
    | none =>
      match capitalBehind? c smallPairs.toList, ligatures.lookup n with
      | some d, _ => [d]
      | none, some s => s.toList
      | none, none => [c]

/-- A text in capitals. -/
def inCapitals (s : String) : String := String.ofList (s.toList.flatMap capitals)

end Rendezvous.Text
