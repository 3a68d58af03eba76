import OidcLogin.Number.Binary64

namespace OidcLogin

structure Decimal where
  digits : Nat
  exponent : Int
deriving DecidableEq

namespace Decimal

def digitCount (d : Decimal) : Nat := (Nat.toDigits 10 d.digits).length

def point (d : Decimal) : Int := d.digitCount + d.exponent

end Decimal

namespace Binary64

-- The reals that round to a number, as whole numbers over one denominator: the lower end, the number
-- itself, the upper end.
structure Interval where
  low : Nat
  middle : Nat
  high : Nat
  denominator : Nat
  closed : Bool

def Interval.contains (i : Interval) (num : Nat) : Bool :=
  if i.closed then i.low ≤ num && num ≤ i.high else i.low < num && num < i.high

-- The interval of `mantissa * 2 ^ exponent`.  Below a power of two the numbers stand twice as close,
-- except at the least exponent.
def interval (mantissa : Nat) (exponent : Int) : Interval :=
  let below := if mantissa = Nat.pow 2 52 ∧ leastExponent < exponent then 1 else 2
  let scale : Nat := if 0 ≤ exponent then Nat.pow 2 exponent.toNat else 1
  { low := (4 * mantissa - below) * scale
    middle := 4 * mantissa * scale
    high := (4 * mantissa + 2) * scale
    denominator := if 0 ≤ exponent then 4 else 4 * Nat.pow 2 (-exponent).toNat
    closed := mantissa % 2 = 0 }

-- The `e` with `10 ^ e ≤ num / den < 10 ^ (e + 1)`, searched downwards from a little above the estimate
-- that the binary sizes give (a binary digit is worth about 1233/4096 of a decimal one).
def decimalExponent (num den : Nat) : Int :=
  go 4 (((Nat.log2 num : Int) - Nat.log2 den) * 1233 / 4096 + 2)
where
  go : Nat → Int → Int
    | 0, e => e
    | steps + 1, e =>
      let reached : Bool :=
        if 0 ≤ e then den * Nat.pow 10 e.toNat ≤ num else den ≤ num * Nat.pow 10 (-e).toNat
      if reached then e else go steps (e - 1)

def gridPoint? (i : Interval) (step : Int) : Option Decimal :=
  -- one denominator for the interval and the grid
  let up : Nat := if 0 ≤ step then 1 else Nat.pow 10 (-step).toNat
  let unit : Nat := if 0 ≤ step then i.denominator * Nat.pow 10 step.toNat else i.denominator
  let scaled : Interval :=
    { i with low := i.low * up, middle := i.middle * up, high := i.high * up }
  let floor := scaled.middle / unit
  let lower := scaled.contains (floor * unit)
  let upper := scaled.contains ((floor + 1) * unit)
  let twice := 2 * (scaled.middle % unit)
  if lower && upper then
    if twice < unit || (twice = unit && floor % 2 = 0) then some ⟨floor, step⟩
    else some ⟨floor + 1, step⟩
  else if lower then some ⟨floor, step⟩
  else if upper then some ⟨floor + 1, step⟩
  else none

-- The shortest decimal of `mantissa * 2 ^ exponent`, for a positive mantissa; seventeen digits are
-- always enough.
def shortest (mantissa : Nat) (exponent : Int) : Decimal :=
  let i := interval mantissa exponent
  let top := decimalExponent i.middle i.denominator
  ((List.range 17).findSome? fun (n : Nat) => gridPoint? i (top - n)).getD ⟨mantissa, exponent⟩

end Binary64

end OidcLogin
