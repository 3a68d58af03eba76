import OidcLogin.Failure.Kind
import OidcLogin.Text.Digit

namespace OidcLogin.Logging

inductive Measure
  | width
  | precision
deriving DecidableEq

namespace Measure

def name : Measure → Text
  | .width => "width"
  | .precision => "precision"

def greatest : Measure → Nat
  | .width => Nat.pow 2 63 - 1
  | .precision => Nat.pow 2 31 - 1

def room : Measure → Text
  | .width => "C ssize_t"
  | .precision => "C int"

end Measure

inductive TemplateFault
  | tooFewArguments
  | tooManyArguments
  | incomplete
  | incompleteName
  | unnamedArguments
  | unknownName (name : Text)
  | notWhole
  | unfitting (measure : Measure)
  | tooBig (measure : Measure)
  | tooManyDigits
  | overlong
  | unknownLetter (letter : CodePoint) (position : Nat)
  | notNumber (letter : CodePoint) (wanted found : Text)
  | notFloat (found : Text)
  | tooLargeForFloat
  | infinite
  | noNumber
  | notCharacter
  | noCharacter
deriving DecidableEq

namespace TemplateFault

def kind : TemplateFault → Kind
  | .incomplete | .incompleteName | .tooBig _ | .unknownLetter .. | .noNumber | .overlong => .value
  | .unfitting _ | .tooManyDigits | .tooLargeForFloat | .infinite | .noCharacter => .overflow
  | .unknownName _ => .key
  | .tooFewArguments | .tooManyArguments | .unnamedArguments | .notWhole | .notNumber ..
  | .notFloat _ | .notCharacter => .type

def message : TemplateFault → Text
  | .tooFewArguments => "not enough arguments for format string"
  | .tooManyArguments => "not all arguments converted during string formatting"
  | .incomplete => "incomplete format"
  | .incompleteName => "incomplete format key"
  | .unnamedArguments => "format requires a mapping"
  | .unknownName name => name.quoted
  | .notWhole => "* wants int"
  | .unfitting measure => "Python int too large to convert to " ++ measure.room
  | .tooBig measure => measure.name ++ " too big"
  | .tooManyDigits => "precision too large"
  | .overlong => Text.overlongMessage
  | .unknownLetter letter position =>
    let shown : CodePoint := if 0x1F ≤ letter.val ∧ letter.val < 0x7F then letter else '?'
    "unsupported format character '" ++ [shown] ++ "' (0x"
      ++ (Nat.toDigits 16 letter.val).map CodePoint.ofChar ++ ") at index " ++ Text.ofNat position
  | .notNumber letter wanted found =>
    "%" ++ [letter] ++ " format: " ++ wanted ++ " is required, not " ++ found
  | .notFloat found => "must be real number, not " ++ found
  | .tooLargeForFloat => "int too large to convert to float"
  | .infinite => "cannot convert float infinity to integer"
  | .noNumber => "cannot convert float NaN to integer"
  | .notCharacter => "%c requires int or char"
  | .noCharacter => "%c arg not in range(0x110000)"

end TemplateFault

end OidcLogin.Logging
