/-!
# Rendezvous.Number.Binary64

Floating-point numbers of 64 bits, held exactly as whole multiples of powers of two, so
that rounding, arithmetic and printing are computations on whole numbers.

* `Binary64.ofRatio`: the number nearest to a quotient, ties to the even neighbour;
* `Binary64.add`, `Binary64.mul`, `Binary64.div`: the rounded sum, product and quotient;
* `Binary64.shortest`: the fewest decimal digits that still round to the number.
-/

namespace Rendezvous

/-- A number of the format, `mantissa · 2 ^ exponent` if finite. Numbers made by the
functions below have a mantissa of 53 bits, or the least exponent. -/
inductive Binary64 where
  | finite (negative : Bool) (mantissa : Nat) (exponent : Int)
  | infinite (negative : Bool)
  | nan
deriving Repr, DecidableEq, Inhabited

namespace Binary64

/-- The least exponent. -/
def minExponent : Int := -1074

/-- The greatest exponent. -/
def maxExponent : Int := 971

/-- The quotient rounded to the nearest whole number, ties to the even neighbour. -/
def roundDiv (num den : Nat) : Nat :=
  let q := num / den
  let twice := 2 * (num % den)
  if twice < den then q
  else if twice = den then q + q % 2
  else q + 1

/-- Two to the power of the positive part of an exponent. -/
def pow2 (e : Int) : Nat := Nat.pow 2 e.toNat

/-- The multiple of `2 ^ e` nearest to a quotient. -/
def scaled (num den : Nat) (e : Int) : Nat := roundDiv (num * pow2 (-e)) (den * pow2 e)

/-- The number nearest to a quotient of whole numbers, under a sign. -/
def ofRatio (negative : Bool) (num den : Nat) : Binary64 :=
  if num = 0 then .finite negative 0 minExponent
  else
    let guess : Int := (num.log2 : Int) - (den.log2 : Int) - 52
    let low := if num * pow2 (-guess) < Nat.pow 2 52 * (den * pow2 guess) then guess - 1 else guess
    let e := max low minExponent
    let m := scaled num den e
    let (m, e) := if m = Nat.pow 2 53 then (Nat.pow 2 52, e + 1) else (m, e)
    if maxExponent < e then .infinite negative else .finite negative m e

/-- The number nearest to a whole number. -/
def ofNat (n : Nat) : Binary64 := ofRatio false n 1

/-- The number nearest to a power of ten. -/
def powerOfTen (k : Nat) : Binary64 := ofNat (Nat.pow 10 k)

/-- Whether a number is zero of either sign. -/
def isZero : Binary64 → Bool
  | .finite _ m _ => m == 0
  | _ => false

/-- The number with the other sign. -/
def neg : Binary64 → Binary64
  | .finite s m e => .finite (!s) m e
  | .infinite s => .infinite (!s)
  | .nan => .nan

/-- The rounded product. -/
def mul : Binary64 → Binary64 → Binary64
  | .finite s m e, .finite s' m' e' =>
    ofRatio (s != s') (m * m' * pow2 (e + e')) (pow2 (-(e + e')))
  | .finite s m _, .infinite s' => if m = 0 then .nan else .infinite (s != s')
  | .infinite s, .finite s' m _ => if m = 0 then .nan else .infinite (s != s')
  | .infinite s, .infinite s' => .infinite (s != s')
  | _, _ => .nan

/-- The rounded quotient. -/
def div : Binary64 → Binary64 → Binary64
  | .finite s m e, .finite s' m' e' =>
    if m' = 0 then (if m = 0 then .nan else .infinite (s != s'))
    else ofRatio (s != s') (m * pow2 (e - e')) (m' * pow2 (e' - e))
  | .finite s _ _, .infinite s' => .finite (s != s') 0 minExponent
  | .infinite s, .finite s' _ _ => .infinite (s != s')
  | _, _ => .nan

/-- A whole number under a sign. -/
def signed (negative : Bool) (n : Nat) : Int := if negative then -(n : Int) else n

/-- The rounded sum. -/
def add : Binary64 → Binary64 → Binary64
  | .finite s m e, .finite s' m' e' =>
    let low := min e e'
    let sum := signed s (m * pow2 (e - low)) + signed s' (m' * pow2 (e' - low))
    ofRatio (if sum = 0 then s && s' else sum < 0) (sum.natAbs * pow2 low) (pow2 (-low))
  | .infinite s, .infinite s' => if s = s' then .infinite s else .nan
  | .infinite s, .finite _ _ _ | .finite _ _ _, .infinite s => .infinite s
  | _, _ => .nan

/-! ### Decimal digits -/

/-- The whole numbers whose ratio is `10 ^ k`. -/
def tenRatio (k : Int) : Nat × Nat := (Nat.pow 10 k.toNat, Nat.pow 10 (-k).toNat)

/-- Whether `a / b ≤ c / d`. -/
def ratioLe (a b c d : Nat) : Bool := a * d ≤ c * b

/-- The greatest `k` with `10 ^ k ≤ num / den`, corrected from an estimate. -/
def log10Floor (num den : Nat) : Int :=
  let bits : Int := (num.log2 : Int) - (den.log2 : Int)
  let guess := Int.fdiv (bits * 1233) 4096
  let fits (k : Int) : Bool := ratioLe (tenRatio k).1 (tenRatio k).2 num den
  if fits (guess + 2) then guess + 2
  else if fits (guess + 1) then guess + 1
  else if fits guess then guess
  else if fits (guess - 1) then guess - 1
  else guess - 2

/-- The whole numbers whose ratio is the magnitude of a finite number. -/
def magnitude (m : Nat) (e : Int) : Nat × Nat := (m * pow2 e, pow2 (-e))

/-- Whether `digits · 10 ^ k` rounds to `m · 2 ^ e`: it lies between the midpoints to the
two neighbours, and may be one of them if `m` is even. -/
def roundsTo (m : Nat) (e : Int) (digits : Nat) (k : Int) : Bool :=
  let (tn, td) := tenRatio k
  let (an, ad) := (digits * tn, td)
  let quarter := e - 2
  let lowGap := if m = Nat.pow 2 52 ∧ minExponent < e then 1 else 2
  let (ln, ld) := magnitude (4 * m - lowGap) quarter
  let (hn, hd) := magnitude (4 * m + 2) quarter
  if m % 2 = 0 then ratioLe ln ld an ad && ratioLe an ad hn hd
  else !ratioLe an ad ln ld && !ratioLe hn hd an ad

/-- Of the two neighbours of `m · 2 ^ e` among the multiples of `10 ^ k`, the nearer one that
rounds to it, if any does. -/
def atScale (m : Nat) (e k : Int) : Option Nat :=
  let (n, d) := magnitude m e
  let (tn, td) := tenRatio k
  let below := n * td / (d * tn)
  let rest := n * td % (d * tn)
  let nearer := if 2 * rest ≤ d * tn then below else below + 1
  let other := if 2 * rest ≤ d * tn then below + 1 else below
  if nearer != 0 && roundsTo m e nearer k then some nearer
  else if other != 0 && roundsTo m e other k then some other
  else none

/-- Drops the zeros at the end of a decimal number, each raising the exponent by one. -/
def stripZeros (digits : Nat) (k : Int) : Nat × Int :=
  if h : digits ≠ 0 ∧ digits % 10 = 0 then stripZeros (digits / 10) (k + 1) else (digits, k)
termination_by digits
decreasing_by omega

/-- The shortest decimal `digits · 10 ^ k` that rounds to `m · 2 ^ e`, and of the shortest
the nearest. Seventeen digits always suffice. -/
def shortest (m : Nat) (e : Int) : Nat × Int :=
  if m = 0 then (0, 0)
  else
    let (n, d) := magnitude m e
    let top := log10Floor n d
    let found := (List.range 17).findSome? fun (i : Nat) =>
      let k := top - (i : Int)
      (atScale m e k).map fun digits => (digits, k)
    match found with
    | some (digits, k) => stripZeros digits k
    | none => (n / d, 0)

/-- `n` copies of the digit zero. -/
def zeros (n : Nat) : String := String.ofList (List.replicate n '0')

/-- A number without exponent: the shortest digits, filled up with zeros. -/
def positional : Binary64 → String
  | .nan => "NaN"
  | .infinite s => (if s then "-" else "") ++ "inf"
  | .finite s m e =>
    let sign := if s then "-" else ""
    let (digits, k) := shortest m e
    let text := toString digits
    if 0 ≤ k then sign ++ text ++ (if m = 0 then "" else zeros k.toNat)
    else
      let places := (-k).toNat
      if places < text.length then
        sign ++ String.ofList (text.toList.take (text.length - places)) ++ "."
          ++ String.ofList (text.toList.drop (text.length - places))
      else sign ++ "0." ++ zeros (places - text.length) ++ text

end Binary64

end Rendezvous
