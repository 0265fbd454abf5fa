/-!
Binary floating point numbers of 64 bits, exactly. A finite number is a significand of at most 53 bits
times a power of two; arithmetic is done in the rationals and rounded once, to the nearest
representable number and in a tie to the one with the even significand.
-/

namespace QueryHints

inductive Binary64
  | nan
  | infinite (negative : Bool)
  | finite (negative : Bool) (significand : Nat) (exponent : Int)
  deriving Repr, DecidableEq, Inhabited

namespace Binary64

def nearestQuotient (num den : Nat) : Nat :=
  let q := num / den
  let r := num % den
  if 2 * r < den then q
  else if den < 2 * r then q + 1
  else q + q % 2

def scaledDown (num den : Nat) (e : Int) : Nat × Nat :=
  if 0 ≤ e then (num, den <<< e.toNat) else (num <<< (-e).toNat, den)

/-- The exponent of the greatest power of two that is at most the positive quotient `num / den`. -/
def binaryOrder (num den : Nat) : Int :=
  let e : Int := Int.ofNat num.log2 - Int.ofNat den.log2
  let (n, d) := scaledDown num den e
  if n < d then e - 1 else e

def round (negative : Bool) (num den : Nat) : Binary64 :=
  if num = 0 then finite negative 0 (-1074)
  else
    let e := max (binaryOrder num den - 52) (-1074)
    let (n, d) := scaledDown num den e
    let m := nearestQuotient n d
    let (m, e) := if m = 1 <<< 53 then (1 <<< 52, e + 1) else (m, e)
    if 971 < e then infinite negative else finite negative m e

def ofRat (q : Rat) : Binary64 :=
  round (q < 0) q.num.natAbs q.den

def ofInt (n : Int) : Binary64 :=
  round (n < 0) n.natAbs 1

/-- Nearest to `digits * 10 ^ scale`. Scales so large that the result is out of range, or so small that
it vanishes, are settled without computing the power. -/
def ofDecimal (negative : Bool) (digits : Nat) (scale : Int) : Binary64 :=
  if digits = 0 then finite negative 0 (-1074)
  else if 400 < scale then infinite negative
  else if scale < -400 - Int.ofNat digits.log2 then finite negative 0 (-1074)
  else if 0 ≤ scale then round negative (digits * Nat.pow 10 scale.toNat) 1
  else round negative digits (Nat.pow 10 (-scale).toNat)

def ratio (significand : Nat) (exponent : Int) : Nat × Nat :=
  if 0 ≤ exponent then (significand <<< exponent.toNat, 1)
  else (significand, 1 <<< (-exponent).toNat)

def toRat? : Binary64 → Option Rat
  | finite negative m e =>
    let (num, den) := ratio m e
    some (mkRat (if negative then -Int.ofNat num else Int.ofNat num) den)
  | _ => none

def truncate? : Binary64 → Option Int
  | finite negative m e =>
    let (num, den) := ratio m e
    let whole := Int.ofNat (num / den)
    some (if negative then -whole else whole)
  | _ => none

def add (a b : Binary64) : Binary64 :=
  match a, b with
  | nan, _ | _, nan => nan
  | infinite s, infinite t => if s = t then infinite s else nan
  | infinite s, finite .. | finite .., infinite s => infinite s
  | finite s m e, finite t n f =>
    if m = 0 && n = 0 then finite (s && t) 0 (-1074)
    else match (finite s m e).toRat?, (finite t n f).toRat? with
      | some x, some y => ofRat (x + y)
      | _, _ => nan

def lt (a b : Binary64) : Bool :=
  match a, b with
  | nan, _ | _, nan => false
  | infinite s, infinite t => s && !t
  | infinite s, finite .. => s
  | finite .., infinite t => !t
  | a, b => match a.toRat?, b.toRat? with
    | some x, some y => x < y
    | _, _ => false

def isZero : Binary64 → Bool
  | finite _ m _ => m == 0
  | _ => false

def toBits : Binary64 → Nat
  | nan => 0x7ff8000000000000
  | infinite negative => signBit negative + 0x7ff0000000000000
  | finite negative m e =>
    signBit negative + (if m < 1 <<< 52 then m else ((e + 1075).toNat <<< 52) + (m - (1 <<< 52)))
where
  signBit (negative : Bool) : Nat := if negative then 1 <<< 63 else 0

end Binary64

end QueryHints
