import QueryHints.Text.Letter

namespace QueryHints.Text.Utf8

inductive Reason
  | start
  | continuation
  | ending
  deriving Repr, DecidableEq

def Reason.message : Reason → String
  | .start => "invalid start byte"
  | .continuation => "invalid continuation byte"
  | .ending => "unexpected end of data"

structure Fault where
  first : UInt8
  position : Nat
  count : Nat
  reason : Reason
  deriving Repr, DecidableEq

/-- A character of which some octets have been read: how many more are due, the bounds of the next
one, the bits so far and the fault to report if it cannot be finished. -/
structure Pending where
  due : Nat
  low : UInt8
  high : UInt8
  bits : Nat
  first : UInt8
  position : Nat
  count : Nat
  deriving Repr, DecidableEq

def Pending.fault (p : Pending) (reason : Reason) : Fault :=
  ⟨p.first, p.position, p.count, reason⟩

/-- What a first octet above the ASCII range announces. The bounds of the second octet exclude overlong
forms, surrogates and code points above U+10FFFF. -/
def opening? (position : Nat) (b : UInt8) : Option Pending :=
  if b < 0xC2 then none
  else if b < 0xE0 then some ⟨1, 0x80, 0xBF, b.toNat - 0xC0, b, position, 1⟩
  else if b < 0xF0 then
    let low := if b = 0xE0 then 0xA0 else 0x80
    let high := if b = 0xED then 0x9F else 0xBF
    some ⟨2, low, high, b.toNat - 0xE0, b, position, 1⟩
  else if b < 0xF5 then
    let low := if b = 0xF0 then 0x90 else 0x80
    let high := if b = 0xF4 then 0x8F else 0xBF
    some ⟨3, low, high, b.toNat - 0xF0, b, position, 1⟩
  else none

/-- The state between two octets. `done` holds the letters read so far, last one first. -/
structure State where
  position : Nat
  pending : Option Pending
  done : Text

def State.step (s : State) (b : UInt8) : Except Fault State :=
  match s.pending with
  | none =>
    if b < 0x80 then .ok ⟨s.position + 1, none, Letter.ofCode b.toNat :: s.done⟩
    else match opening? s.position b with
      | some p => .ok ⟨s.position + 1, some p, s.done⟩
      | none => .error ⟨b, s.position, 1, .start⟩
  | some p =>
    if p.low ≤ b && b ≤ p.high then
      let bits := p.bits * 64 + (b.toNat - 0x80)
      if p.due ≤ 1 then .ok ⟨s.position + 1, none, Letter.ofCode bits :: s.done⟩
      else .ok ⟨s.position + 1, some ⟨p.due - 1, 0x80, 0xBF, bits, p.first, p.position, p.count + 1⟩, s.done⟩
    else .error (p.fault .continuation)

def State.finish (s : State) : Except Fault Text :=
  match s.pending with
  | none => .ok s.done.reverse
  | some p => .error (p.fault .ending)

def State.run (s : State) : List UInt8 → Except Fault Text
  | [] => s.finish
  | b :: rest =>
    match s.step b with
    | .ok next => next.run rest
    | .error fault => .error fault

def decode (octets : List UInt8) : Except Fault Text :=
  State.run ⟨0, none, []⟩ octets

/-- Ends every line with a single line feed. `afterReturn` says that a carriage return came just before. -/
def unifyLinesFrom (afterReturn : Bool) : Text → Text
  | [] => []
  | c :: rest =>
    if c = '\r' then '\n' :: unifyLinesFrom true rest
    else if afterReturn && c = '\n' then unifyLinesFrom false rest
    else c :: unifyLinesFrom false rest

def unifyLines (text : Text) : Text :=
  unifyLinesFrom false text

end QueryHints.Text.Utf8
