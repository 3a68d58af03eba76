import OidcLogin.Number.Shortest
import OidcLogin.Text.Basic

namespace OidcLogin.Binary64

-- Where the decimal point may stand for positional notation, and how many digits an exponent has at
-- least.
structure DisplayFormat where
  leastPoint : Int
  greatestPoint : Int
  exponentDigits : Nat

-- Numbers from 0.0001 to below 10^16 are positional, and an exponent has two digits.
def display : DisplayFormat := ⟨-3, 16, 2⟩

def zeros (n : Nat) : Text := List.replicate n '0'

def positional (digits : Text) (point : Int) : Text :=
  if point ≤ 0 then "0." ++ zeros (-point).toNat ++ digits
  else if (digits.length : Int) ≤ point then
    digits ++ zeros (point.toNat - digits.length) ++ ".0"
  else digits.take point.toNat ++ "." ++ digits.drop point.toNat

def powerOfTen (format : DisplayFormat) (exponent : Int) : Text :=
  let size := Text.ofNat exponent.natAbs
  let sign : Text := if exponent < 0 then "e-" else "e+"
  sign ++ zeros (format.exponentDigits - size.length) ++ size

def scientific (format : DisplayFormat) (digits : Text) (exponent : Int) : Text :=
  let fraction : Text := if digits.length ≤ 1 then [] else "." ++ digits.drop 1
  digits.take 1 ++ fraction ++ powerOfTen format exponent

def magnitude (mantissa : Nat) (exponent : Int) : Text :=
  if mantissa = 0 then "0.0"
  else
    let decimal := shortest mantissa exponent
    let digits := Text.ofNat decimal.digits
    if display.leastPoint ≤ decimal.point ∧ decimal.point ≤ display.greatestPoint then
      positional digits decimal.point
    else scientific display (digits.trimEnd (· = CodePoint.ofChar '0')) (decimal.point - 1)

def toText : Binary64 → Text
  | .finite negative mantissa exponent =>
    if negative then "-" ++ magnitude mantissa exponent else magnitude mantissa exponent
  | .infinite negative => if negative then "-inf" else "inf"
  | .nan => "nan"

end OidcLogin.Binary64
