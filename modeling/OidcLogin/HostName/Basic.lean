import OidcLogin.HostName.Composition
import OidcLogin.HostName.Context
import OidcLogin.HostName.Direction
import OidcLogin.HostName.Fault
import OidcLogin.HostName.Letters
import OidcLogin.HostName.Punycode
import OidcLogin.Text.Case

namespace OidcLogin.HostName

def isDot (c : CodePoint) : Bool :=
  c = '.' || c.val = 0x3002 || c.val = 0xFF0E || c.val = 0xFF61

def checkCodePoints (label before : Text) : Text → Except HostNameFault Unit
  | [] => .ok ()
  | c :: after =>
    let position := before.length + 1
    if isLetter c then checkCodePoints label (before ++ [c]) after
    else if isJoiner c then
      if (before.getLast?.map isUnnamed).getD false then
        .error (.unnamedBeforeJoiner c position label)
      else if isJoinerPlaced before c after then checkCodePoints label (before ++ [c]) after
      else .error (.joiner c position label)
    else if isContextual c then
      if isContextualPlaced before c after then checkCodePoints label (before ++ [c]) after
      else .error (.context c position label)
    else .error (.codePoint c position label)

def directionsOf (label : Text) (position : Nat) : Text → Except HostNameFault (List Direction)
  | [] => .ok []
  | c :: rest =>
    match Direction.of? c with
    | none => .error (.unknownDirection position label)
    | some d => (directionsOf label (position + 1) rest).map (d :: ·)

def mayHold (leftward : Bool) (d : Direction) : Bool :=
  if leftward then d != .left else !d.isRightward && d != .arabicNumber

def mayEnd (leftward : Bool) (d : Direction) : Bool :=
  if leftward then d.isRightward || d.isNumber else d = .left || d = .europeanNumber

-- The first fault, going over the directions; `number` is the sort of number met before.
def checkDirections (label : Text) (leftward : Bool) (position : Nat) (number : Option Direction) :
    List Direction → Except HostNameFault Unit
  | [] => .ok ()
  | d :: rest =>
    if !mayHold leftward d then .error (.direction leftward position label)
    else if leftward && d.isNumber then
      if number.isNone || number = some d then
        checkDirections label leftward (position + 1) (some d) rest
      else .error .mixedNumbers
    else checkDirections label leftward (position + 1) number rest

def lastDirection? (directions : List Direction) : Option Direction :=
  (directions.reverse.dropWhile (· = .nonspacing)).head?

def checkDirection (label : Text) : Except HostNameFault Unit :=
  match directionsOf label 1 label with
  | .error fault => .error fault
  | .ok directions =>
    if !directions.any fun d => d.isRightward || d = .arabicNumber then .ok ()
    else
      let first? := directions.head?
      if !(first?.map fun d => d.isRightward || d = .left).getD false then
        .error (.firstDirection label)
      else
        let leftward := (first?.map Direction.isRightward).getD false
        match checkDirections label leftward 1 none directions with
        | .error fault => .error fault
        | .ok () =>
          if ((lastDirection? directions).map (mayEnd leftward)).getD false then .ok ()
          else .error (.lastDirection label)

def maxLabelCharacters : Nat := 254

-- A label must be composed, keep hyphens inside and away from the place of the mark `xn--`, begin with
-- no mark, and hold code points only that may stand there, in directions that go together.
def checkLabel (label : Text) : Except HostNameFault Unit :=
  let hyphen := CodePoint.ofChar '-'
  if label.isEmpty then .error .emptyLabel
  else if maxLabelCharacters < label.length then .error .longLabel
  else if !isComposed label then .error .notComposed
  else if (label.drop 2).take 2 = [hyphen, hyphen] then .error .twoHyphens
  else if label.head? = some hyphen ∨ label.getLast? = some hyphen then .error .outerHyphen
  else if (label.head?.map isMark).getD false then .error .leadingMark
  else
    match checkCodePoints label [] label with
    | .error fault => .error fault
    | .ok () => checkDirection label

def asciiMark : Text := "xn--"

def labelLetters (label : Text) : Except HostNameFault Text :=
  let label := label.lower
  if label.startsWith asciiMark then
    let code := label.drop asciiMark.length
    if code.isEmpty then .error .noCode
    else if code.getLast? = some (CodePoint.ofChar '-') then .error .hyphenAfterCode
    else
      match Punycode.decode? code with
      | some letters =>
        match checkLabel letters with
        | .error fault => .error fault
        | .ok () => if Punycode.encode letters = code then .ok letters else .error .otherCode
      | none => .error .malformedCode
  else (checkLabel label).map fun () => label

def maxLabelLength : Nat := 63

def labelAscii (label : Text) : Except HostNameFault Text :=
  let ascii :=
    if label.isAscii then (labelLetters label).map fun _ => label
    else (checkLabel label).map fun () => asciiMark ++ Punycode.encode label
  match ascii with
  | .error fault => .error fault
  | .ok ascii => if maxLabelLength < ascii.length then .error .longLabel else .ok ascii

def mapLabels (f : Text → Except HostNameFault Text) (host : Text) : Except HostNameFault Text :=
  match (host.splitOn isDot).reverse with
  | [] | [[]] => .error .emptyDomain
  | last :: before =>
    let labels := if last.isEmpty then before.reverse else (last :: before).reverse
    (labels.mapM f).map fun labels =>
      Text.join "." labels ++ (if last.isEmpty then [CodePoint.ofChar '.'] else [])

-- Host names have this many characters at most, and one dot at the end.
def maxLength : Nat := 253

def isTooLong (host : Text) : Bool :=
  maxLength < host.length - (if host.getLast? = some (CodePoint.ofChar '.') then 1 else 0)

def toAscii (host : Text) : Except HostNameFault Text :=
  if maxLength + 1 < host.small.length then .error .longDomain
  else
    match mapLabels labelAscii host.small with
    | .error fault => .error fault
    | .ok ascii => if isTooLong ascii then .error .longDomain else .ok ascii

def toLetters (host : Text) : Except HostNameFault Text :=
  if maxLength + 1 < host.length then .error .longDomain else mapLabels labelLetters host

end OidcLogin.HostName
