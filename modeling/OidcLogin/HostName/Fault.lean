import OidcLogin.Text.Quoted

namespace OidcLogin

inductive HostNameFault
  | emptyDomain
  | longDomain
  | emptyLabel
  | longLabel
  | notComposed
  | twoHyphens
  | outerHyphen
  | leadingMark
  -- The label holds a code point, at this position from one, that no label may hold.
  | codePoint (c : CodePoint) (position : Nat) (label : Text)
  | joiner (c : CodePoint) (position : Nat) (label : Text)
  | unnamedBeforeJoiner (c : CodePoint) (position : Nat) (label : Text)
  | context (c : CodePoint) (position : Nat) (label : Text)
  | unknownDirection (position : Nat) (label : Text)
  | firstDirection (label : Text)
  | direction (leftward : Bool) (position : Nat) (label : Text)
  | mixedNumbers
  | lastDirection (label : Text)
  -- faults of a label in ASCII that stands for letters beyond it
  | noCode
  | hyphenAfterCode
  | malformedCode
  | otherCode
deriving DecidableEq

namespace HostNameFault

def numberOf (c : CodePoint) : Text :=
  let digits := Text.upper ((Nat.toDigits 16 c.val).map CodePoint.ofChar)
  ("U+" : Text) ++ List.replicate (4 - digits.length) (CodePoint.ofChar '0') ++ digits

def message : HostNameFault → Text
  | .emptyDomain => "Empty domain"
  | .longDomain => "Domain too long"
  | .emptyLabel => "Empty Label"
  | .longLabel => "Label too long"
  | .notComposed => "Label must be in Normalization Form C"
  | .twoHyphens => "Label has disallowed hyphens in 3rd and 4th position"
  | .outerHyphen => "Label must not start or end with a hyphen"
  | .leadingMark => "Label begins with an illegal combining character"
  | .codePoint c position label =>
    "Codepoint " ++ numberOf c ++ " at position " ++ Text.ofNat position ++ " of " ++ label.quoted
      ++ " not allowed"
  | .joiner c position label =>
    "Joiner " ++ numberOf c ++ " not allowed at position " ++ Text.ofNat position ++ " in "
      ++ label.quoted
  | .unnamedBeforeJoiner c position label =>
    "Unknown codepoint adjacent to joiner " ++ numberOf c ++ " at position " ++ Text.ofNat position
      ++ " in " ++ label.quoted
  | .context c position label =>
    "Codepoint " ++ numberOf c ++ " not allowed at position " ++ Text.ofNat position ++ " in "
      ++ label.quoted
  | .unknownDirection position label =>
    "Unknown directionality in label " ++ label.quoted ++ " at position " ++ Text.ofNat position
  | .firstDirection label =>
    "First codepoint in label " ++ label.quoted ++ " must be directionality L, R or AL"
  | .direction leftward position _ =>
    "Invalid direction for codepoint at position " ++ Text.ofNat position ++ " in a "
      ++ (if leftward then "right-to-left" else "left-to-right" : Text) ++ " label"
  | .mixedNumbers => "Can not mix numeral types in a right-to-left label"
  | .lastDirection _ => "Label ends with illegal codepoint directionality"
  | .noCode => "Malformed A-label, no Punycode eligible content found"
  | .hyphenAfterCode => "A-label must not end with a hyphen"
  | .malformedCode => "Invalid A-label"
  | .otherCode => "A-label is not the canonical Punycode encoding of its U-label"

end HostNameFault

end OidcLogin
