import OidcLogin.Text.Blank

namespace OidcLogin

namespace CodePoint

-- Each script's decimal digits are ten consecutive code points; these are the zeros.
def decimalZeros : List Nat :=
  [0x30, 0x660, 0x6F0, 0x7C0, 0x966, 0x9E6, 0xA66, 0xAE6, 0xB66, 0xBE6, 0xC66, 0xCE6, 0xD66, 0xDE6,
   0xE50, 0xED0, 0xF20, 0x1040, 0x1090, 0x17E0, 0x1810, 0x1946, 0x19D0, 0x1A80, 0x1A90, 0x1B50,
   0x1BB0, 0x1C40, 0x1C50, 0xA620, 0xA8D0, 0xA900, 0xA9D0, 0xA9F0, 0xAA50, 0xABF0, 0xFF10, 0x104A0,
   0x10D30, 0x11066, 0x110F0, 0x11136, 0x111D0, 0x112F0, 0x11450, 0x114D0, 0x11650, 0x116C0,
   0x11730, 0x118E0, 0x11950, 0x11C50, 0x11D50, 0x11DA0, 0x16A60, 0x16AC0, 0x16B50, 0x1D7CE,
   0x1D7D8, 0x1D7E2, 0x1D7EC, 0x1D7F6, 0x1E140, 0x1E2F0, 0x1E950, 0x1FBF0]

def otherDigits : List (Nat × Nat) :=
  [(0xB2, 0xB3), (0xB9, 0xB9), (0x1369, 0x1371), (0x19DA, 0x19DA), (0x2070, 0x2070),
   (0x2074, 0x2079), (0x2080, 0x2089), (0x2460, 0x2468), (0x2474, 0x247C), (0x2488, 0x2490),
   (0x24EA, 0x24EA), (0x24F5, 0x24FD), (0x24FF, 0x24FF), (0x2776, 0x277E), (0x2780, 0x2788),
   (0x278A, 0x2792), (0x10A40, 0x10A43), (0x10E60, 0x10E68), (0x11052, 0x1105A),
   (0x1F100, 0x1F10A)]

def decimalValue? (c : CodePoint) : Option Nat :=
  (decimalZeros.find? fun first => first ≤ c.val && c.val < first + 10).map (c.val - ·)

def isDigitCharacter (c : CodePoint) : Bool :=
  c.decimalValue?.isSome || c.isIn otherDigits

end CodePoint

namespace Text

-- Each decimal digit written as the ASCII digit of its value, all white space as spaces.
def withAsciiDigits (t : Text) : Text :=
  t.map fun c =>
    match c.decimalValue? with
    | some d => CodePoint.ofNat (0x30 + d)
    | none => if c.isWhiteSpace then ' ' else c

def maxDigits : Nat := 4300

def overlongMessage : Text :=
  "Exceeds the limit (" ++ ofNat maxDigits ++ " digits) for integer string conversion; "
    ++ "use sys.set_int_max_str_digits() to increase the limit"

inductive NumeralFault
  | malformed
  | tooManyDigits (count : Nat)
deriving DecidableEq

-- Characters with single underscores between them, read as the characters alone.
def ungrouped? (part : CodePoint → Bool) : Text → Option Text
  | [] => none
  | [c] => if part c then some [c] else none
  | c :: d :: rest =>
    if part c then
      if d = '_' then
        match rest with
        | [] => none
        | e :: _ => if part e then (ungrouped? part rest).map (c :: ·) else none
      else (ungrouped? part (d :: rest)).map (c :: ·)
    else none

-- A whole number: white space around it, one sign, decimal digits of any script with single
-- underscores between them.  The digits are counted before what follows them is looked at.
def toWhole? (t : Text) : Except NumeralFault Int :=
  let body := (withAsciiDigits t).trimBoth (· = ' ')
  let (negative, numeral) : Bool × Text :=
    match body with
    | c :: rest => if c = '-' then (true, rest) else if c = '+' then (false, rest) else (false, body)
    | [] => (false, [])
  let isPart (c : CodePoint) : Bool := c.isDigit || c = '_'
  match ungrouped? CodePoint.isDigit (numeral.takeWhile isPart) with
  | none => .error .malformed
  | some digits =>
    if maxDigits < digits.length then .error (.tooManyDigits digits.length)
    else if !(numeral.dropWhile isPart).isEmpty then .error .malformed
    else .ok (if negative then -(digitsValue digits : Int) else digitsValue digits)

end Text

end OidcLogin
