import OidcLogin.Text.Utf8

namespace OidcLogin

inductive Encoding
  | utf8
  | utf8Marked
  | utf16 (bigEndian marked : Bool)
  | utf32 (bigEndian marked : Bool)
deriving DecidableEq

structure DecodeFault where
  encoding : Encoding
  start : Nat
  count : Nat
  lead : UInt8
  reason : DecodeReason
deriving DecidableEq

namespace Encoding

def name : Encoding → Text
  | .utf8 | .utf8Marked => "utf-8"
  | .utf16 bigEndian _ => if bigEndian then "utf-16-be" else "utf-16-le"
  | .utf32 bigEndian _ => if bigEndian then "utf-32-be" else "utf-32-le"

def detect : Bytes → Encoding
  | [] => .utf8
  | [_] => .utf8
  | [a, b] =>
    if a = 0xFE ∧ b = 0xFF then .utf16 true true
    else if a = 0xFF ∧ b = 0xFE then .utf16 false true
    else if a = 0 then .utf16 true false
    else if b = 0 then .utf16 false false
    else .utf8
  | [a, b, c] =>
    if a = 0xFE ∧ b = 0xFF then .utf16 true true
    else if a = 0xFF ∧ b = 0xFE then .utf16 false true
    else if a = 0xEF ∧ b = 0xBB ∧ c = 0xBF then .utf8Marked
    else .utf8
  | a :: b :: c :: d :: _ =>
    if a = 0 ∧ b = 0 ∧ c = 0xFE ∧ d = 0xFF then .utf32 true true
    else if a = 0xFF ∧ b = 0xFE ∧ c = 0 ∧ d = 0 then .utf32 false true
    else if a = 0xFE ∧ b = 0xFF then .utf16 true true
    else if a = 0xFF ∧ b = 0xFE then .utf16 false true
    else if a = 0xEF ∧ b = 0xBB ∧ c = 0xBF then .utf8Marked
    else if a = 0 then (if b = 0 then .utf32 true false else .utf16 true false)
    else if b = 0 then (if c = 0 ∧ d = 0 then .utf32 false false else .utf16 false false)
    else .utf8

def unit16 (bigEndian : Bool) (a b : UInt8) : Nat :=
  if bigEndian then 256 * a.toNat + b.toNat else a.toNat + 256 * b.toNat

def unit32 (bigEndian : Bool) (a b c d : UInt8) : Nat :=
  if bigEndian then 65536 * unit16 true a b + unit16 true c d
  else unit16 false a b + 65536 * unit16 false c d

-- The 16-bit units, or the position and value of a byte that is left over.
def units16 (bigEndian : Bool) (units : List Nat) (position : Nat) :
    Bytes → Except (Nat × UInt8) (List Nat)
  | [] => .ok units.reverse
  | [a] => .error (position, a)
  | a :: b :: rest => units16 bigEndian (unit16 bigEndian a b :: units) (position + 2) rest

def isHighUnit (n : Nat) : Bool := 0xD800 ≤ n && n < 0xDC00
def isLowUnit (n : Nat) : Bool := 0xDC00 ≤ n && n < 0xE000

def joinSurrogates (high low : Nat) : CodePoint :=
  CodePoint.ofNat (0x10000 + (high - 0xD800) * 0x400 + (low - 0xDC00))

-- Surrogates that follow each other as high and low make one code point; others stand alone.
def joinUnits (points : Text) (high? : Option Nat) : List Nat → Text
  | [] =>
    match high? with
    | none => points.reverse
    | some high => (CodePoint.ofNat high :: points).reverse
  | unit :: rest =>
    match high? with
    | none =>
      if isHighUnit unit then joinUnits points (some unit) rest
      else joinUnits (CodePoint.ofNat unit :: points) none rest
    | some high =>
      if isLowUnit unit then joinUnits (joinSurrogates high unit :: points) none rest
      else if isHighUnit unit then joinUnits (CodePoint.ofNat high :: points) (some unit) rest
      else joinUnits (CodePoint.ofNat unit :: CodePoint.ofNat high :: points) none rest

def decode32 (bigEndian marked : Bool) (points : Text) (position : Nat) :
    Bytes → Except DecodeFault Text
  | [] => .ok points.reverse
  | a :: b :: c :: d :: rest =>
    let n := unit32 bigEndian a b c d
    if n < 0x110000 then
      decode32 bigEndian marked (CodePoint.ofNat n :: points) (position + 4) rest
    else .error ⟨.utf32 bigEndian marked, position, 4, a, .outOfRange⟩
  | a :: rest =>
    .error ⟨.utf32 bigEndian marked, position, rest.length + 1, a, .truncated⟩

def decode (e : Encoding) (bytes : Bytes) : Except DecodeFault Text :=
  match e with
  | .utf8 | .utf8Marked =>
    match Utf8.decode true (if e = .utf8Marked then bytes.drop 3 else bytes) with
    | .ok t => .ok t
    | .error piece => .error ⟨e, piece.start, piece.count, piece.lead, piece.reason⟩
  | .utf16 bigEndian marked =>
    let skipped := if marked then 2 else 0
    match units16 bigEndian [] skipped (bytes.drop skipped) with
    | .ok units => .ok (joinUnits [] none units)
    | .error (position, byte) => .error ⟨e, position, 1, byte, .truncated⟩
  | .utf32 bigEndian marked =>
    let skipped := if marked then 4 else 0
    decode32 bigEndian marked [] skipped (bytes.drop skipped)

end Encoding

def Text.decodeDetected (bytes : Bytes) : Except DecodeFault Text :=
  (Encoding.detect bytes).decode bytes

def DecodeFault.message (f : DecodeFault) : Text :=
  let place : Text :=
    if f.count = 1 then
      "byte 0x" ++ Text.hexDigits 2 f.lead.toNat ++ " in position " ++ Text.ofNat f.start
    else
      "bytes in position " ++ Text.ofNat f.start ++ "-" ++ Text.ofNat (f.start + f.count - 1)
  "'" ++ f.encoding.name ++ "' codec can't decode " ++ place ++ ": " ++ f.reason.message

end OidcLogin
