import Scratchpad.Json
import Scratchpad.Json.Fault

/-!
# Reading numbers

A number is a sign, whole digits without a needless zero, a fraction and an exponent, the last two
if they are there. The digits are collected into 64 bits; those that no longer fit count only as
powers of ten. A number with a fraction, an exponent or too many digits is scaled in floating-point
arithmetic.
-/

namespace Scratchpad.Json

namespace Number

/-- The greatest number that the collected digits may reach. -/
def limit : Nat := 0xFFFFFFFFFFFFFFFF

/-- Adds digits to a collected number as long as it stays within the limit, and gives the digits
that are left. -/
def collect (n : Nat) : List Char → Nat × List Char
  | [] => (n, [])
  | c :: cs =>
    let next := 10 * n + (c.toNat - '0'.toNat)
    if next ≤ limit then collect next cs else (n, c :: cs)

/-- The power `10 ^ n` for `n` up to 308. -/
def powerOfTen (n : Nat) : Float :=
  Float.ofScientific 1 false n

/-- Divides by `10 ^ n`, in steps that stay within range. -/
def shrink (f : Float) (n : Nat) : Float :=
  if n ≤ 308 then f / powerOfTen n
  else if f == 0 then f
  else shrink (f / powerOfTen 308) (n - 308)
termination_by n

/-- The number `digits * 10 ^ exponent`, if it is within range. -/
def scale (digits : Nat) (exponent : Int) : Except TextFault Float :=
  let f := digits.toUInt64.toFloat
  if exponent < 0 then .ok (shrink f exponent.natAbs)
  else if exponent ≤ 308 then
    let scaled := f * powerOfTen exponent.natAbs
    if scaled.isInf then .error .numberTooLarge else .ok scaled
  else if f == 0 then .ok f
  else .error .numberTooLarge

/-- A scaled number with its sign. -/
def real? (negative : Bool) (digits : Nat) (exponent : Int) : Except TextFault Number :=
  (scale digits exponent).map fun f => .real (if negative then -f else f)

def noDigit : List Char → TextFault
  | [] => .endInValue
  | _ => .badNumber

/-- Reads the exponent after its mark, and scales the digits by it. -/
def readExponent (negative : Bool) (digits : Nat) (exponent : Int) (cs : List Char) :
    Except TextFault (Number × List Char) := do
  let (down, cs) := match cs with
    | '-' :: rest => (true, rest)
    | '+' :: rest => (false, rest)
    | _ => (false, cs)
  let shown := cs.takeWhile Char.isDigit
  let rest := cs.dropWhile Char.isDigit
  if shown.isEmpty then .error (noDigit cs)
  else
    let power := shown.foldl (fun n c => 10 * n + (c.toNat - '0'.toNat)) 0
    if 0x80000000 ≤ power then
      if digits != 0 && !down then .error .numberTooLarge
      else .ok (.real (if negative then -0.0 else 0.0), rest)
    else
      let number ← real? negative digits (if down then exponent - power else exponent + power)
      .ok (number, rest)

def readScaled (negative : Bool) (digits : Nat) (exponent : Int) (cs : List Char) :
    Except TextFault (Number × List Char) := do
  match cs with
  | 'e' :: rest | 'E' :: rest => readExponent negative digits exponent rest
  | _ =>
    let number ← real? negative digits exponent
    .ok (number, cs)

/-- Reads the fraction after its point, and an exponent if there is one. -/
def readFraction (negative : Bool) (digits : Nat) (exponent : Int) (cs : List Char) :
    Except TextFault (Number × List Char) :=
  let shown := cs.takeWhile Char.isDigit
  let rest := cs.dropWhile Char.isDigit
  if shown.isEmpty then .error (noDigit cs)
  else
    let (digits, left) := collect digits shown
    readScaled negative digits (exponent - (shown.length - left.length : Nat)) rest

/-- A whole number. Minus zero and the numbers below the 64-bit range are no whole numbers. -/
def whole (negative : Bool) (digits : Nat) : Number :=
  if !negative then .natural digits
  else if digits == 0 || 0x8000000000000000 < digits then .real (-digits.toUInt64.toFloat)
  else .negative digits

def readUnsigned (negative : Bool) (cs : List Char) : Except TextFault (Number × List Char) :=
  match cs with
  | '0' :: d :: rest =>
    if d.isDigit then .error .badNumber else afterWhole 0 [] (d :: rest)
  | _ =>
    let shown := cs.takeWhile Char.isDigit
    if shown.isEmpty then .error (noDigit cs)
    else
      let (digits, left) := collect 0 shown
      afterWhole digits left (cs.dropWhile Char.isDigit)
where
  /-- Reads what follows the whole digits, of which some may not have been collected. -/
  afterWhole (digits : Nat) (left rest : List Char) : Except TextFault (Number × List Char) :=
    match rest with
    | '.' :: rest => readFraction negative digits left.length rest
    | 'e' :: _ | 'E' :: _ => readScaled negative digits left.length rest
    | _ =>
      if left.isEmpty then .ok (whole negative digits, rest)
      else readScaled negative digits left.length rest

end Number

end Scratchpad.Json
