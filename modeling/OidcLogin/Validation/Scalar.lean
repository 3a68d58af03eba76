import OidcLogin.Validation.Checked
import OidcLogin.Text.Digit

namespace OidcLogin.Reader

def text : Reader Text
  | _, .text t => .ok t
  | place, _ => .refuse place .text

def nonEmptyText : Reader Text
  | place, .text t =>
    if t.any CodePoint.isSurrogate then .refuse place .unicode
    else if t.isEmpty then .refuse place .tooShort
    else .ok t
  | place, _ => .refuse place .text

def optional {α : Type} (read : Reader α) : Reader (Option α)
  | _, .null => .ok none
  | place, value => (read place value).map some

def trueTexts : List Text := ["1", "t", "true", "y", "yes", "on"]
def falseTexts : List Text := ["0", "f", "false", "n", "no", "off"]

def fitsWord (n : Int) : Bool := -(Int.pow 2 63) ≤ n && n < Int.pow 2 63

-- Binary numbers are taken for words if they lie between the greatest and the least one.
def isWithinWord (n : Int) : Bool := fitsWord n && n != -(Int.pow 2 63)

-- A truth value by its number; a number that is no word is not looked at.
def boolOfInt (place : Place) (isWord : Bool) (n : Int) : Checked Bool :=
  if !isWord then .refuse place .boolType
  else if n = 0 then .ok false
  else if n = 1 then .ok true
  else .refuse place .boolText

def bool : Reader Bool
  | _, .bool b => .ok b
  | place, .text t =>
    if trueTexts.contains t.lower then .ok true
    else if falseTexts.contains t.lower then .ok false
    else .refuse place .boolText
  | place, .int n => boolOfInt place (fitsWord n) n
  | place, .float x =>
    match x.toInt? with
    | some n => boolOfInt place (isWithinWord n) n
    | none => .refuse place .boolType
  | place, _ => .refuse place .boolType

def unsigned (t : Text) : Bool × Text :=
  match t with
  | [] => (false, [])
  | c :: rest => if c = '-' then (true, rest) else if c = '+' then (false, rest) else (false, t)

def isNumeral : Text → Bool
  | [] => false
  | c :: rest => c.isDigit && rest.all CodePoint.isDigit && (c != '0' || rest.isEmpty)

def plainInt? (t : Text) : Option Int :=
  match t with
  | [] => none
  | c :: rest =>
    if c = '-' then if isNumeral rest then some (-(Text.digitsValue rest : Int)) else none
    else if isNumeral t then some (Text.digitsValue t)
    else none

-- What is left of a text that had a zero in front once the zeros and the marks after it are gone, up to a digit or a
-- minus sign.  The last of them stays where the text ends, or where a point follows.
def afterZeros? (last : CodePoint) : Text → Option Text
  | [] => some [last]
  | c :: rest =>
    if c = '0' || c = '_' then afterZeros? c rest
    else if c = '.' then some (last :: c :: rest)
    else if c.isDigit || c = '-' then some (c :: rest)
    else none

def withoutZeros? (t : Text) : Option Text :=
  match t with
  | [] => none
  | c :: rest => if c = '0' then afterZeros? c rest else some t

def withoutFraction (t : Text) : Text :=
  match t.cutFirst? (CodePoint.ofChar '.') with
  | none => t
  | some (whole, fraction) => if !fraction.isEmpty && fraction.all (· = CodePoint.ofChar '0') then whole else t

-- The text without its marks, if each of them stands alone between other characters.
def unmarked? (t : Text) : Option Text := t.ungrouped? (· ≠ CodePoint.ofChar '_')
def unmarked (t : Text) : Text := (unmarked? t).getD t

-- A number text as JSON would write it: without what may stand in it besides.
def cleaned? (t : Text) : Option Text :=
  let (negative, body) := unsigned t
  if body.head? = some (CodePoint.ofChar '-') then none
  else
    (withoutZeros? body).bind fun body =>
      let plain := unmarked (withoutFraction body)
      if !negative then some plain
      else if plain.head? = some (CodePoint.ofChar '-') then none
      else some ('-' :: plain)

def isShort (t : Text) : Bool := t.length ≤ Text.maxDigits

def intOfText (place : Place) (t : Text) : Checked Int :=
  let body := t.trimBoth CodePoint.isWhiteSpace
  match plainInt? body with
  | some n => if isShort body then .ok n else .refuse place .intSize
  | none =>
    match ((cleaned? body).filter isShort).bind plainInt? with
    | some n => .ok n
    | none => .refuse place .intText

def intOfFloat (place : Place) (x : Binary64) : Checked Int :=
  if !x.isFinite then .refuse place .finiteNumber
  else
    match x.toInt? with
    | none => .refuse place .wholeNumber
    | some n => if isWithinWord n then .ok n else .refuse place .intSize

def int : Reader Int
  | _, .int n => .ok n
  | _, .bool b => .ok (if b then 1 else 0)
  | place, .float x => intOfFloat place x
  | place, .text t => intOfText place t
  | place, _ => .refuse place .intType

def decimalOfText? (negative : Bool) (t : Text) : Option Binary64 := do
  let isMark (c : CodePoint) : Bool := c = 'e' || c = 'E'
  let isDigits (t : Text) : Bool := t.all CodePoint.isDigit
  let mantissa : Text := t.takeWhile (!isMark ·)
  let exponent ← match t.dropWhile (!isMark ·) with
    | [] => some 0
    | _ :: power =>
      let (below, digits) := unsigned power
      let size : Int := Text.digitsValue digits
      if digits.isEmpty || !isDigits digits then none else some (if below then -size else size)
  let (whole, fraction) := (mantissa.cutFirst? (CodePoint.ofChar '.')).getD (mantissa, [])
  let digits := whole ++ fraction
  if digits.isEmpty || !isDigits digits then none
  else some (Binary64.ofDecimal negative (Text.digitsValue digits) (exponent - fraction.length))

def plainFloat? (t : Text) : Option Binary64 :=
  let (negative, body) := unsigned t
  let word := body.lower
  if word = "inf" ∨ word = "infinity" then some (.infinite negative)
  else if word = "nan" then some .nan
  else decimalOfText? negative body

-- Marks are taken out of the text as it stands, with the white space around it.
def floatOfText? (t : Text) : Option Binary64 :=
  (plainFloat? (t.trimBoth CodePoint.isWhiteSpace)).or ((unmarked? t).bind plainFloat?)

def float : Reader Binary64
  | _, .float x => .ok x
  | place, .int n =>
    match Binary64.ofInt? n with
    | some x => .ok x
    | none => .refuse place .floatType
  | _, .bool b => .ok (Binary64.ofRatio false (if b then 1 else 0) 1)
  | place, .text t =>
    match floatOfText? t with
    | some x => .ok x
    | none => .refuse place .floatText
  | place, _ => .refuse place .floatType

def items {α : Type} (read : Reader α) (name : Text) (index : Nat) : List Json → Checked (List α)
  | [] => .ok []
  | item :: rest =>
    (fun value values => value :: values) <$> read ⟨name, some index⟩ item
      <*> items read name (index + 1) rest

def list {α : Type} (read : Reader α) : Reader (List α)
  | place, .list values => items read place.field 0 values
  | place, _ => .refuse place .list

def literal (expected : Text) : Reader Text
  | place, .text t => if t = expected then .ok t else .refuse place .literal
  | place, _ => .refuse place .literal

def satisfying {α : Type} (read : Reader α) (rule : Rule) (holds : α → Bool) : Reader α :=
  fun place value =>
    (read place value).andThen fun read => if holds read then .ok read else .refuse place rule

def mapped {α β : Type} (read : Reader α) (f : α → β) : Reader β :=
  fun place value => (read place value).map f

end OidcLogin.Reader
