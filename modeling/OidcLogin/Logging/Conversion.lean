import OidcLogin.Json.Display
import OidcLogin.Logging.Fault
import OidcLogin.Number.Rounded

namespace OidcLogin.Logging

-- What stands between `%` and the letter, with its numbers known.
structure Layout where
  toTheLeft : Bool
  zeros : Bool
  plus : Bool
  blank : Bool
  marked : Bool
  width : Nat
  precision? : Option Nat
deriving DecidableEq

namespace Layout

def pad (l : Layout) (t : Text) : Text :=
  let spaces : Text := List.replicate (l.width - t.length) ' '
  if l.toTheLeft then t ++ spaces else spaces ++ t

-- A number brought to the width; zeros go between what leads it and its digits.
def padNumber (l : Layout) (negative : Bool) (mark digits : Text) : Text :=
  let sign : Text := if negative then "-" else if l.plus then "+" else if l.blank then " " else []
  let lead := sign ++ mark
  if l.zeros && !l.toTheLeft then
    lead ++ List.replicate (l.width - (lead.length + digits.length)) (CodePoint.ofChar '0') ++ digits
  else l.pad (lead ++ digits)

def text (l : Layout) (t : Text) : Text :=
  l.pad (match l.precision? with | none => t | some most => t.take most)

-- So many digits are the most that a whole number has room for.
def greatestDigits : Nat := Nat.pow 2 31 - 4

-- A whole number to a base; the precision says how many digits it has at least.  Only to the base ten it may have no
-- more than so many.
def whole (l : Layout) (base : Nat) (mark : Text) (n : Int) : Except TemplateFault Text :=
  let digits : Text := (Nat.toDigits base n.natAbs).map CodePoint.ofChar
  let least := l.precision?.getD 0
  if greatestDigits < least then .error .tooManyDigits
  else if base = 10 && !(Json.int n).isWritable then .error .overlong
  else
    .ok (l.padNumber (n < 0) mark
      (List.replicate (least - digits.length) (CodePoint.ofChar '0') ++ digits))

-- A number with as many digits as the precision says, six unless it does.
def real (l : Layout) (style : Binary64.Style) : Binary64 → Text
  | .finite negative mantissa exponent =>
    l.padNumber negative [] (Binary64.rounded style l.marked (l.precision?.getD 6) mantissa exponent)
  | .infinite negative => l.padNumber negative [] "inf"
  | .nan => l.padNumber false [] "nan"

end Layout

inductive Conversion
  | text
  | quoted
  | ascii
  | decimal
  | octal
  | hexadecimal (capitals : Bool)
  | real (style : Binary64.Style) (capitals : Bool)
  | character
deriving DecidableEq

namespace Conversion

def letters : List (Char × Conversion) :=
  [('s', .text), ('r', .quoted), ('a', .ascii), ('d', .decimal), ('i', .decimal), ('u', .decimal),
   ('o', .octal), ('x', .hexadecimal false), ('X', .hexadecimal true),
   ('e', .real .scientific false), ('E', .real .scientific true), ('f', .real .fixed false),
   ('F', .real .fixed true), ('g', .real .general false), ('G', .real .general true),
   ('c', .character)]

def ofLetter? (letter : CodePoint) : Option Conversion :=
  (letters.find? fun (known, _) => letter = CodePoint.ofChar known).map (·.2)

def sortOf : Json → Text
  | .null => "NoneType"
  | .bool _ => "bool"
  | .int _ => "int"
  | .float _ => "float"
  | .text _ => "str"
  | .list _ => "list"
  | .object _ => "dict"

-- The whole number that a value is; the constants are one and zero.
def whole? : Json → Option Int
  | .int n => some n
  | .bool b => some (if b then 1 else 0)
  | _ => none

def wholePart : Binary64 → Except TemplateFault Int
  | .finite negative mantissa exponent =>
    let (num, den) := Binary64.ratio mantissa exponent
    .ok (if negative then -(num / den : Nat) else (num / den : Nat))
  | .infinite _ => .error .infinite
  | .nan => .error .noNumber

def toWhole (letter : CodePoint) (value : Json) : Except TemplateFault Int :=
  match whole? value with
  | some n => .ok n
  | none => .error (.notNumber letter "an integer" (sortOf value))

def toTruncated (letter : CodePoint) (value : Json) : Except TemplateFault Int :=
  match value, whole? value with
  | .float x, _ => wholePart x
  | _, some n => .ok n
  | other, none => .error (.notNumber letter "a real number" (sortOf other))

def toReal (value : Json) : Except TemplateFault Binary64 :=
  match value, whole? value with
  | .float x, _ => .ok x
  | _, some n =>
    match Binary64.ofInt? n with
    | some x => .ok x
    | none => .error .tooLargeForFloat
  | other, none => .error (.notFloat (sortOf other))

def toCharacter (value : Json) : Except TemplateFault CodePoint :=
  match value, whole? value with
  | .text [c], _ => .ok c
  | _, some n =>
    if 0 ≤ n ∧ n < 0x110000 then .ok (CodePoint.ofNat n.toNat) else .error .noCharacter
  | _, none => .error .notCharacter

def asciiOnly (t : Text) : Text := t.flatMap fun c => if c.isAscii then [c] else Text.hexEscape c

def shown (value : Json) (t : Text) : Except TemplateFault Text := if value.isWritable then .ok t else .error .overlong

def withCapitals (capitals : Bool) (t : Text) : Text := if capitals then t.upper else t

def write (conversion : Conversion) (letter : CodePoint) (l : Layout) (value : Json) :
    Except TemplateFault Text :=
  match conversion with
  | .text => do return l.text (← shown value value.display)
  | .quoted => do return l.text (← shown value value.repr)
  | .ascii => do return l.text (asciiOnly (← shown value value.repr))
  | .decimal => do l.whole 10 [] (← toTruncated letter value)
  | .octal => do l.whole 8 (if l.marked then "0o" else []) (← toWhole letter value)
  | .hexadecimal capitals => do
    let written ← l.whole 16 (if l.marked then "0x" else []) (← toWhole letter value)
    return withCapitals capitals written
  | .real style capitals => do return withCapitals capitals (l.real style (← toReal value))
  | .character => do return l.pad [← toCharacter value]

end Conversion

end OidcLogin.Logging
