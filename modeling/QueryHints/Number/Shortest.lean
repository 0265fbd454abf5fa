import QueryHints.Number.Binary64

/-!
The decimal text of a binary64 number: the fewest digits that read back as the same number, and of
those the nearest to it. Positional from 10⁻⁴ up to below 10¹⁶, with a point and at least one digit
after it; otherwise with a signed exponent of at least two digits.
-/

namespace QueryHints.Binary64

structure Decimal where
  digits : Nat
  scale : Int
  deriving Repr, DecidableEq

def scaledDownTen (num den : Nat) (k : Int) : Nat × Nat :=
  if 0 ≤ k then (num, den * Nat.pow 10 k.toNat) else (num * Nat.pow 10 (-k).toNat, den)

def decimalOrder (num den : Nat) : Int :=
  let guess := binaryOrder num den * 30103 / 100000
  let below (k : Int) : Bool :=
    let (n, d) := scaledDownTen num den k
    n < d
  if below guess then guess - 1
  else if below (guess + 1) then guess
  else guess + 1

/-- The decimal of `count` digits nearest to the number, if it or its neighbour reads back as `x`.
`num / den` is the magnitude of `x`. -/
def withDigits? (x : Binary64) (num den : Nat) (order : Int) (count : Nat) : Option Decimal :=
  let scale := order - Int.ofNat count + 1
  let (n, d) := scaledDownTen num den scale
  let lower := n / d
  let readsBack (digits : Nat) : Bool := decide (ofDecimal false digits scale = x)
  let upperIsNearer := d < 2 * (n % d) || (d == 2 * (n % d) && lower % 2 == 1)
  let nearer := if upperIsNearer then lower + 1 else lower
  let other := if upperIsNearer then lower else lower + 1
  if readsBack nearer then some ⟨nearer, scale⟩
  else if readsBack other then some ⟨other, scale⟩
  else none

/-- The first answer among growing digit counts; seventeen digits always suffice. -/
def shortestFrom (x : Binary64) (num den : Nat) (order : Int) : List Nat → Decimal
  | [] => ⟨0, 0⟩
  | count :: more =>
    match withDigits? x num den order count with
    | some decimal => decimal
    | none => shortestFrom x num den order more

def shortest (m : Nat) (e : Int) : Decimal :=
  let (num, den) := ratio m e
  shortestFrom (finite false m e) num den (decimalOrder num den) (List.range' 1 17)

def trimZeros (digits : List Char) : List Char :=
  (digits.reverse.dropWhile (· == '0')).reverse

def exponentText (k : Int) : List Char :=
  let digits := Nat.toDigits 10 k.natAbs
  (if k < 0 then '-' else '+') :: (if digits.length < 2 then '0' :: digits else digits)

def Decimal.layout (x : Decimal) : List Char :=
  let all := Nat.toDigits 10 x.digits
  let digits := trimZeros all
  let order : Int := Int.ofNat all.length - 1 + x.scale
  if -4 ≤ order && order < 16 then
    if order < 0 then
      '0' :: '.' :: List.replicate (-order - 1).toNat '0' ++ digits
    else
      let whole := order.toNat + 1
      let padded := digits ++ List.replicate (whole - digits.length) '0'
      let fraction := padded.drop whole
      padded.take whole ++ '.' :: (if fraction.isEmpty then ['0'] else fraction)
  else
    let mantissa := match digits with
      | [] => ['0']
      | [d] => [d]
      | d :: more => d :: '.' :: more
    mantissa ++ 'e' :: exponentText order

def text (nanText infinityText : String) : Binary64 → String
  | nan => nanText
  | infinite negative => (if negative then "-" else "") ++ infinityText
  | finite negative m e =>
    (if negative then "-" else "") ++
      (if m = 0 then "0.0" else String.ofList (shortest m e).layout)

end QueryHints.Binary64
