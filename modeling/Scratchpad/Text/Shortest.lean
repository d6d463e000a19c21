/-!
# Shortest decimals

The text of a binary floating-point number: the fewest digits that read back as the number, the
nearest such digits, written positionally for exponents from -5 to 15 and with an exponent beyond.
-/

namespace Scratchpad.Decimal

/-- A number `mantissa * 2 ^ exponent`, and whether the gap below it is half the gap above. -/
structure Binary where
  mantissa : Nat
  exponent : Int
  narrowBelow : Bool

/-- The bit of the mantissa that is not stored. -/
def implicitBit : Nat := 1 <<< 52

/-- The magnitude that the bits of a finite double stand for. -/
def Binary.ofBits (bits : UInt64) : Binary :=
  let biased : Nat := bits.toNat >>> 52 % 2048
  let fraction : Nat := bits.toNat % implicitBit
  if biased == 0 then ⟨fraction, -1074, false⟩
  else ⟨fraction + implicitBit, (biased : Int) - 1075, fraction == 0 && biased > 1⟩

/-- The number `a * 10 ^ tens * 2 ^ twos`. -/
def scaled (a tens twos : Nat) : Nat :=
  a * Nat.pow 10 tens * Nat.pow 2 twos

/-- Compares `a * 10 ^ k` with `b * 2 ^ p`. -/
def compareScaled (a : Nat) (k : Int) (b : Nat) (p : Int) : Ordering :=
  compare (scaled a k.toNat (-p).toNat) (scaled b (-k).toNat p.toNat)

/-- Whether `d * 10 ^ k` reads back as the number: it lies between the midpoints to the two
neighbours, and on a midpoint only if the mantissa is even. -/
def Binary.readsBack (x : Binary) (d : Nat) (k : Int) : Bool :=
  let lower := compareScaled d k (4 * x.mantissa - if x.narrowBelow then 1 else 2) (x.exponent - 2)
  let upper := compareScaled d k (4 * x.mantissa + 2) (x.exponent - 2)
  if x.mantissa % 2 == 0 then lower != .lt && upper != .gt else lower == .gt && upper == .lt

/-- The greatest `e` with `10 ^ e` at most the number. -/
def Binary.magnitude (x : Binary) : Int :=
  let candidates := (List.range 640).map fun (i : Nat) => (315 : Int) - i
  (candidates.find? fun e => compareScaled 1 e x.mantissa x.exponent != .gt).getD 0

/-- The digits on the grid `10 ^ k` that read back as the number, the nearest first. -/
def Binary.onGrid? (x : Binary) (k : Int) : Option Nat :=
  let below :=
    scaled x.mantissa (-k).toNat x.exponent.toNat / scaled 1 k.toNat (-x.exponent).toNat
  let nearest :=
    match compareScaled (2 * below + 1) k (2 * x.mantissa) x.exponent with
    | .lt => [below + 1, below]
    | .gt => [below, below + 1]
    | .eq => if below % 2 == 0 then [below, below + 1] else [below + 1, below]
  nearest.find? fun d => x.readsBack d k

/-- The fewest digits that read back as a positive number, with the power of ten they count. -/
def Binary.shortest (x : Binary) : Nat × Int :=
  let top := x.magnitude
  let grids := (List.range 18).map fun (i : Nat) => top - i
  (grids.findSome? fun k => (x.onGrid? k).map fun d => (d, k)).getD (0, 0)

/-- Writes `digits * 10 ^ k` positionally if its exponent lies from -5 to 15, and with an exponent
otherwise. -/
def layout (digits : List Char) (k : Int) : String :=
  let point : Int := digits.length + k
  if 0 ≤ k && point ≤ 16 then
    String.ofList (digits ++ List.replicate k.toNat '0') ++ ".0"
  else if 0 < point && point ≤ 16 then
    String.ofList (digits.take point.toNat) ++ "." ++ String.ofList (digits.drop point.toNat)
  else if -5 < point && point ≤ 0 then
    "0." ++ String.ofList (List.replicate (-point).toNat '0' ++ digits)
  else
    let shown := match digits with
      | [] => ""
      | [d] => String.singleton d
      | d :: ds => String.singleton d ++ "." ++ String.ofList ds
    let sign := if point - 1 < 0 then "-" else "+"
    shown ++ "e" ++ sign ++ toString (point - 1).natAbs

/-- The text of a finite floating-point number. -/
def ofFloat (f : Float) : String :=
  let bits := f.toBits
  let sign := if bits.toNat >>> 63 == 1 then "-" else ""
  let x := Binary.ofBits bits
  if x.mantissa == 0 then sign ++ "0.0"
  else
    let (d, k) := x.shortest
    let digits := Nat.toDigits 10 d
    let kept := (digits.reverse.dropWhile (· == '0')).reverse
    sign ++ layout kept (k + (digits.length - kept.length : Nat))

end Scratchpad.Decimal
