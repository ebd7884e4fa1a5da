/-!
# Shortest decimals

A floating-point number stands for all reals that round to it. Its shortest decimal is the one with
the fewest digits among them, and the nearest to the number of those.

* `Binary.ofBits?`: the number as a significand and a power of two.
* `Decimal.shortest`: its shortest decimal.
* `Decimal.text`: how reports show a floating-point number.
-/

namespace PatternSuite

/-- A positive number `significand · 2 ^ exponent`; `narrow` says that the next smaller number is
only half as far away as the next greater one. -/
structure Binary where
  significand : Nat
  exponent : Int
  narrow : Bool
  deriving DecidableEq, Repr, Inhabited

/-- A positive number `digits · 10 ^ exponent`. -/
structure Decimal where
  digits : Nat
  exponent : Int
  deriving DecidableEq, Repr, Inhabited

/-- A positive fraction. -/
structure Ratio where
  num : Nat
  den : Nat
  deriving Repr, Inhabited

namespace Ratio

/-- `n · b ^ e`. -/
def scaled (n b : Nat) (e : Int) : Ratio :=
  if 0 ≤ e then ⟨n * Nat.pow b e.toNat, 1⟩ else ⟨n, Nat.pow b (-e).toNat⟩

/-- Is one fraction less than another? -/
def lt (a b : Ratio) : Bool := a.num * b.den < b.num * a.den

/-- How far apart two fractions are. -/
def distance (a b : Ratio) : Ratio :=
  ⟨max (a.num * b.den) (b.num * a.den) - min (a.num * b.den) (b.num * a.den), a.den * b.den⟩

/-- The number of digits in front of the point; for a fraction below one tenth, less than zero by
the number of zeros behind the point. -/
def magnitude (r : Ratio) : Int :=
  if r.den ≤ r.num then (Nat.toDigits 10 (r.num / r.den)).length
  else
    let d := (Nat.toDigits 10 (r.den / r.num)).length
    let zeros := if r.den ≤ r.num * Nat.pow 10 (d - 1) then d - 1 else d
    1 - (zeros : Int)

end Ratio

namespace Binary

/-- The number that is encoded by a word of 64 bits without its sign; infinities and what is no
number have none. -/
def ofBits? (bits : Nat) : Option Binary :=
  let fraction : Nat := bits % Nat.pow 2 52
  let power : Nat := bits / Nat.pow 2 52 % Nat.pow 2 11
  if power = 2047 then none
  else if power = 0 then some ⟨fraction, -1074, false⟩
  else some ⟨Nat.pow 2 52 + fraction, (power : Int) - 1075, fraction == 0 && power != 1⟩

/-- The value of a number. -/
def value (b : Binary) : Ratio := .scaled b.significand 2 b.exponent

/-- Where the reals begin that round to a number. -/
def lower (b : Binary) : Ratio :=
  .scaled (4 * b.significand - (if b.narrow then 1 else 2)) 2 (b.exponent - 2)

/-- Where the reals end that round to a number. -/
def upper (b : Binary) : Ratio := .scaled (4 * b.significand + 2) 2 (b.exponent - 2)

/-- Does a real round to a number? The two ends do when the significand is even. -/
def owns (b : Binary) (r : Ratio) : Bool :=
  if b.significand % 2 = 0 then !r.lt b.lower && !b.upper.lt r else b.lower.lt r && r.lt b.upper

end Binary

namespace Decimal

/-- The value of a decimal. -/
def value (d : Decimal) : Ratio := .scaled d.digits 10 d.exponent

/-- Without zeros at the end. -/
def strip : Nat → Decimal → Decimal
  | 0, d => d
  | fuel + 1, d =>
    if d.digits % 10 = 0 && d.digits ≠ 0 then strip fuel ⟨d.digits / 10, d.exponent + 1⟩ else d

/-- The two decimals next to a value, with a given power of ten. -/
def neighbours (r : Ratio) (exponent : Int) : List Decimal :=
  let unit := Ratio.scaled 1 10 exponent
  let below := r.num * unit.den / (r.den * unit.num)
  [⟨below, exponent⟩, ⟨below + 1, exponent⟩]

/-- The nearer one of some decimals. -/
def nearest? (r : Ratio) (ds : List Decimal) : Option Decimal :=
  ds.foldl
    (fun best d => match best with
      | none => some d
      | some e => if (d.value.distance r).lt (e.value.distance r) then some d else some e)
    none

/-- The shortest decimal from a number of digits on. -/
def shortestFrom (b : Binary) (magnitude : Int) : Nat → Nat → Decimal
  | 0, _ => ⟨0, 0⟩
  | fuel + 1, count =>
    let near := (neighbours b.value (magnitude - (count : Int))).filter fun d => b.owns d.value
    match nearest? b.value near with
    | some d => d.strip 20
    | none => shortestFrom b magnitude fuel (count + 1)

/-- The shortest decimal of a number; seventeen digits are enough for any. -/
def shortest (b : Binary) : Decimal := shortestFrom b b.value.magnitude 18 1

/-- A decimal with a point where its size is ordinary, and with a power of ten elsewhere. -/
def show' (d : Decimal) : String :=
  let ds := Nat.toDigits 10 d.digits
  let point : Int := (ds.length : Int) + d.exponent
  let zeros (n : Nat) : List Char := List.replicate n '0'
  String.ofList <|
    if 0 ≤ d.exponent ∧ point ≤ 16 then ds ++ zeros d.exponent.toNat ++ ['.', '0']
    else if 0 < point ∧ point ≤ 16 then ds.take point.toNat ++ '.' :: ds.drop point.toNat
    else if -5 < point ∧ point ≤ 0 then '0' :: '.' :: (zeros (-point).toNat ++ ds)
    else
      let power := point - 1
      let pds := Nat.toDigits 10 power.natAbs
      ds.take 1 ++ (if ds.length = 1 then [] else '.' :: ds.drop 1)
        ++ 'e' :: (if power < 0 then '-' else '+') :: (zeros (2 - pds.length) ++ pds)

/-- How reports show a floating-point number. -/
def text (x : Float) : String :=
  let bits := x.toBits.toNat
  let sign := if Nat.pow 2 63 ≤ bits then "-" else ""
  match Binary.ofBits? (bits % Nat.pow 2 63) with
  | none => if bits % Nat.pow 2 52 = 0 then sign ++ "inf" else "NaN"
  | some b => if b.significand = 0 then sign ++ "0.0" else sign ++ show' (shortest b)

end Decimal

end PatternSuite
