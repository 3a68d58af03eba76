import OidcLogin.Number.Display

namespace OidcLogin.Binary64

inductive Style
  | fixed
  | scientific
  -- Digits from the first that counts.  Zeros that end a fraction are left out, and a power of ten
  -- comes only when the point would stand away from the digits.
  | general
deriving DecidableEq

def ratio (mantissa : Nat) (exponent : Int) : Nat × Nat :=
  if 0 ≤ exponent then (mantissa * Nat.pow 2 exponent.toNat, 1) else (mantissa, Nat.pow 2 (-exponent).toNat)

structure Leading where
  digits : Text
  power : Int

-- The first `count` digits, at least one.  Zero has no digit that counts and gives zeros.
def leading (count num den : Nat) : Leading :=
  if num = 0 then ⟨zeros count, 0⟩
  else
    let power := decimalExponent num den
    let step := power - (count - 1 : Nat)
    let rounded :=
      if 0 ≤ step then roundHalfEven num (den * Nat.pow 10 step.toNat)
      else roundHalfEven (num * Nat.pow 10 (-step).toNat) den
    -- nines may have become a one with zeros
    if rounded = Nat.pow 10 count then ⟨Text.ofNat (Nat.pow 10 (count - 1)), power + 1⟩
    else ⟨Text.ofNat rounded, power⟩

def pointed (marked : Bool) (whole fraction : Text) : Text :=
  if fraction.isEmpty && !marked then whole else whole ++ "." ++ fraction

def fixedText (marked : Bool) (places num den : Nat) : Text :=
  let scaled := roundHalfEven (num * Nat.pow 10 places) den
  let fraction := Text.ofNat (scaled % Nat.pow 10 places)
  pointed marked (Text.ofNat (scaled / Nat.pow 10 places))
    (if places = 0 then [] else zeros (places - fraction.length) ++ fraction)

def scientificText (marked : Bool) (places num den : Nat) : Text :=
  let first := leading (places + 1) num den
  pointed marked (first.digits.take 1) (first.digits.drop 1) ++ powerOfTen display first.power

def generalText (marked : Bool) (count num den : Nat) : Text :=
  let count := max count 1
  let first := leading count num den
  let text (whole fraction : Text) : Text :=
    pointed marked whole (if marked then fraction else fraction.trimEnd (· = CodePoint.ofChar '0'))
  if first.power + 1 < display.leastPoint ∨ count ≤ first.power then
    text (first.digits.take 1) (first.digits.drop 1) ++ powerOfTen display first.power
  else if first.power < 0 then text "0" (zeros (-first.power - 1).toNat ++ first.digits)
  else text (first.digits.take (first.power.toNat + 1)) (first.digits.drop (first.power.toNat + 1))

-- The size of `mantissa * 2 ^ exponent` with so many digits.  `marked` keeps what could be left out:
-- the point, and the zeros of the general style.
def rounded (style : Style) (marked : Bool) (count mantissa : Nat) (exponent : Int) : Text :=
  let (num, den) := ratio mantissa exponent
  match style with
  | .fixed => fixedText marked count num den
  | .scientific => scientificText marked count num den
  | .general => generalText marked count num den

end OidcLogin.Binary64
