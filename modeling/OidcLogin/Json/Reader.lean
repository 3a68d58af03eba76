import OidcLogin.Json.Value
import OidcLogin.Text.Digit
import OidcLogin.Text.Encoding

namespace OidcLogin

namespace Json

inductive Expectation
  | value
  | nothingMore
  | propertyName
  | colon
  | comma
  | closingQuote
  | noControl
  | escape
  | unicodeEscape
deriving DecidableEq

def Expectation.message : Expectation → Text
  | .value => "Expecting value"
  | .nothingMore => "Extra data"
  | .propertyName => "Expecting property name enclosed in double quotes"
  | .colon => "Expecting ':' delimiter"
  | .comma => "Expecting ',' delimiter"
  | .closingQuote => "Unterminated string starting at"
  | .noControl => "Invalid control character at"
  | .escape => "Invalid \\escape"
  | .unicodeEscape => "Invalid \\uXXXX escape"

inductive Stop
  | missing (what : Expectation) (position : Nat)
  | overlong (digits : Nat)
  | tooDeep (inList : Bool)
deriving DecidableEq

structure Cursor where
  position : Nat
  rest : Text

abbrev Read (α : Type) := Except Stop (α × Cursor)

def isSpace (c : CodePoint) : Bool := c = ' ' || c = '\t' || c = '\n' || c = '\r'

namespace Cursor

def advance (c : Cursor) (count : Nat) : Cursor := ⟨c.position + count, c.rest.drop count⟩

def skipSpaces (c : Cursor) : Cursor :=
  let spaces := c.rest.takeWhile isSpace
  c.advance spaces.length

def startsWith (c : Cursor) (word : Text) : Bool := c.rest.startsWith word

def at? (c : Cursor) (point : Char) : Bool := c.rest.head? = some (CodePoint.ofChar point)

end Cursor

def simpleEscape? (c : CodePoint) : Option CodePoint :=
  if c = '"' || c = '\\' || c = '/' then some c
  else if c = 'b' then some (CodePoint.ofNat 0x08)
  else if c = 'f' then some (CodePoint.ofNat 0x0C)
  else if c = 'n' then some '\n'
  else if c = 'r' then some '\r'
  else if c = 't' then some '\t'
  else none

-- Reads on to the closing quote; `opening` is the position of the opening one.  A four-digit escape
-- needs one more character after it, and a high surrogate joins a low one only if a character follows
-- the pair.
def readText (opening : Nat) (read : Text) (position : Nat) : Text → Read Text
  | [] => .error (.missing .closingQuote opening)
  | c :: rest =>
    if c = '"' then .ok (read.reverse, ⟨position + 1, rest⟩)
    else if c = '\\' then
      match rest with
      | [] => .error (.missing .closingQuote opening)
      | e :: escaped =>
        if e = 'u' then
          match escaped with
          | h₁ :: h₂ :: h₃ :: h₄ :: after =>
            if after.isEmpty then .error (.missing .unicodeEscape (position + 1))
            else
              match Text.hexValue? [h₁, h₂, h₃, h₄] with
              | none => .error (.missing .unicodeEscape (position + 1))
              | some unit =>
                if Encoding.isHighUnit unit then
                  match after with
                  | s :: u :: l₁ :: l₂ :: l₃ :: l₄ :: beyond =>
                    if s = '\\' ∧ u = 'u' ∧ !beyond.isEmpty then
                      match Text.hexValue? [l₁, l₂, l₃, l₄] with
                      | none => .error (.missing .unicodeEscape (position + 7))
                      | some low =>
                        if Encoding.isLowUnit low then
                          readText opening (Encoding.joinSurrogates unit low :: read)
                            (position + 12) beyond
                        else
                          readText opening (CodePoint.ofNat unit :: read) (position + 6)
                            (s :: u :: l₁ :: l₂ :: l₃ :: l₄ :: beyond)
                    else
                      readText opening (CodePoint.ofNat unit :: read) (position + 6)
                        (s :: u :: l₁ :: l₂ :: l₃ :: l₄ :: beyond)
                  | other => readText opening (CodePoint.ofNat unit :: read) (position + 6) other
                else readText opening (CodePoint.ofNat unit :: read) (position + 6) after
          | _ => .error (.missing .unicodeEscape (position + 1))
        else
          match simpleEscape? e with
          | some meant => readText opening (meant :: read) (position + 2) escaped
          | none => .error (.missing .escape position)
    else if c.isControl then .error (.missing .noControl position)
    else readText opening (c :: read) (position + 1) rest
termination_by rest => rest.length
decreasing_by all_goals simp_all <;> omega

def digitsOf (t : Text) : Text := t.takeWhile CodePoint.isDigit

def fractionOf : Text → Text
  | [] => []
  | c :: rest => if c = '.' then digitsOf rest else []

-- The power of ten at the front and the number of characters that write it; nothing when no digit
-- follows the mark.
def exponentOf : Text → Option (Int × Nat)
  | [] => none
  | c :: rest =>
    if c = 'e' ∨ c = 'E' then
      let (negative, signs) : Bool × Nat :=
        match rest with
        | s :: _ => if s = '-' then (true, 1) else if s = '+' then (false, 1) else (false, 0)
        | [] => (false, 0)
      let digits := digitsOf (rest.drop signs)
      if digits.isEmpty then none
      else
        let size : Int := Text.digitsValue digits
        some (if negative then -size else size, 1 + signs + digits.length)
    else none

-- The longest number at the cursor; a lone minus or anything else is no value.  A zero is followed by
-- no other digit, and a number with a fraction or a power of ten is a binary number.
def readNumber (c : Cursor) : Read Json :=
  let negative := c.at? '-'
  let unsigned := c.rest.drop (if negative then 1 else 0)
  let whole : Text :=
    match unsigned with
    | [] => []
    | d :: _ => if d = '0' then [d] else digitsOf unsigned
  if whole.isEmpty then .error (.missing .value c.position)
  else
    let fraction := fractionOf (unsigned.drop whole.length)
    let fractionSize := if fraction.isEmpty then 0 else 1 + fraction.length
    let exponent? := exponentOf (unsigned.drop (whole.length + fractionSize))
    let size := (if negative then 1 else 0) + whole.length + fractionSize + (exponent?.map (·.2)).getD 0
    if fraction.isEmpty ∧ exponent? = none then
      if Text.maxDigits < whole.length then .error (.overlong whole.length)
      else
        let value : Int := Text.digitsValue whole
        .ok (.int (if negative then -value else value), c.advance size)
    else
      let exponent := (exponent?.map (·.1)).getD 0 - fraction.length
      .ok (.float (Binary64.ofDecimal negative (Text.digitsValue (whole ++ fraction)) exponent),
        c.advance size)

def constants : List (Text × Json) :=
  [("null", .null), ("true", .bool true), ("false", .bool false), ("NaN", .float .nan),
   ("Infinity", .float (.infinite false)), ("-Infinity", .float (.infinite true))]

def readScalar (c : Cursor) : Read Json :=
  match constants.find? fun (word, _) => c.startsWith word with
  | some (word, value) => .ok (value, c.advance word.length)
  | none => readNumber c

mutual
-- The value at the cursor.  `levels` more lists and objects may be entered.
def readValue (levels : Nat) : Nat → Cursor → Read Json
  | 0, c => .error (.missing .value c.position)
  | steps + 1, c =>
    if c.at? '"' then
      match readText c.position [] (c.position + 1) (c.rest.drop 1) with
      | .error stop => .error stop
      | .ok (t, next) => .ok (.text t, next)
    else if c.at? '\x7b' then
      if levels = 0 then .error (.tooDeep false)
      else
        let inside := (c.advance 1).skipSpaces
        if inside.at? '\x7d' then .ok (.object [], inside.advance 1)
        else readMembers (levels - 1) [] steps inside
    else if c.at? '[' then
      if levels = 0 then .error (.tooDeep true)
      else
        let inside := (c.advance 1).skipSpaces
        if inside.at? ']' then .ok (.list [], inside.advance 1)
        else readItems (levels - 1) [] steps inside
    else readScalar c

def readItems (levels : Nat) (items : List Json) : Nat → Cursor → Read Json
  | 0, c => .error (.missing .value c.position)
  | steps + 1, c =>
    match readValue levels steps c with
    | .error stop => .error stop
    | .ok (item, after) =>
      let next := after.skipSpaces
      if next.at? ']' then .ok (.list (item :: items).reverse, next.advance 1)
      else if next.at? ',' then readItems levels (item :: items) steps (next.advance 1).skipSpaces
      else .error (.missing .comma next.position)

def readMembers (levels : Nat) (members : List (Text × Json)) : Nat → Cursor → Read Json
  | 0, c => .error (.missing .propertyName c.position)
  | steps + 1, c =>
    if c.at? '"' then
      match readText c.position [] (c.position + 1) (c.rest.drop 1) with
      | .error stop => .error stop
      | .ok (name, afterName) =>
        let colon := afterName.skipSpaces
        if colon.at? ':' then
          match readValue levels steps (colon.advance 1).skipSpaces with
          | .error stop => .error stop
          | .ok (value, after) =>
            let next := after.skipSpaces
            if next.at? '\x7d' then
              .ok (.object (Members.ofPairs ((name, value) :: members).reverse), next.advance 1)
            else if next.at? ',' then
              readMembers levels ((name, value) :: members) steps (next.advance 1).skipSpaces
            else .error (.missing .comma next.position)
        else .error (.missing .colon colon.position)
    else .error (.missing .propertyName c.position)
end

def readAll (levels : Nat) (t : Text) : Except Stop Json :=
  -- every second step consumes a character
  match readValue levels (2 * t.length + 2) (Cursor.skipSpaces ⟨0, t⟩) with
  | .error stop => .error stop
  | .ok (value, after) =>
    let next := after.skipSpaces
    if next.rest.isEmpty then .ok value else .error (.missing .nothingMore next.position)

def lineAndColumn (t : Text) (position : Nat) : Nat × Nat :=
  let before := t.take position
  (before.count (CodePoint.ofChar '\n') + 1,
   (before.reverse.takeWhile (· != CodePoint.ofChar '\n')).length + 1)

end Json

inductive DocumentFault
  | undecodable (fault : DecodeFault)
  | malformed (what : Json.Expectation) (line column position : Nat)
  | overlong (digits : Nat)
  | tooDeep (inList : Bool)
deriving DecidableEq

namespace Text

def tooManyDigitsMessage (count : Nat) : Text :=
  "Exceeds the limit (" ++ ofNat maxDigits ++ " digits) for integer string conversion: value has "
    ++ ofNat count ++ " digits; use sys.set_int_max_str_digits() to increase the limit"

end Text

namespace Json

def ofDecoded (levels : Nat) (t : Text) : Except DocumentFault Json :=
  match readAll levels t with
  | .ok value => .ok value
  | .error (.missing what position) =>
    let (line, column) := lineAndColumn t position
    .error (.malformed what line column position)
  | .error (.overlong digits) => .error (.overlong digits)
  | .error (.tooDeep inList) => .error (.tooDeep inList)

def ofBytes (levels : Nat) (bytes : Bytes) : Except DocumentFault Json :=
  match Text.decodeDetected bytes with
  | .error fault => .error (.undecodable fault)
  | .ok t => ofDecoded levels t

end Json

def DocumentFault.message : DocumentFault → Text
  | .undecodable fault => fault.message
  | .malformed what line column position =>
    what.message ++ ": line " ++ Text.ofNat line ++ " column " ++ Text.ofNat column ++ " (char "
      ++ Text.ofNat position ++ ")"
  | .overlong digits => Text.tooManyDigitsMessage digits
  | .tooDeep inList =>
    "maximum recursion depth exceeded while decoding a JSON "
      ++ (if inList then "array" else "object" : Text) ++ " from a unicode string"

end OidcLogin
