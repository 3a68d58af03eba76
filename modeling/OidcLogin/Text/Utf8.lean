import OidcLogin.Text.Charset

namespace OidcLogin

inductive DecodeReason
  | invalidStart
  | invalidContinuation
  | unexpectedEnd
  | truncated
  | outOfRange
deriving DecidableEq

def DecodeReason.message : DecodeReason → Text
  | .invalidStart => "invalid start byte"
  | .invalidContinuation => "invalid continuation byte"
  | .unexpectedEnd => "unexpected end of data"
  | .truncated => "truncated data"
  | .outOfRange => "code point not in range(0x110000)"

namespace Utf8

structure Malformed where
  start : Nat
  count : Nat
  lead : UInt8
  reason : DecodeReason
deriving DecidableEq

inductive Item
  | point (c : CodePoint)
  | malformed (piece : Malformed)
deriving DecidableEq

-- A sequence under way: where it began, what was read of it, what it needs.
structure Pending where
  start : Nat
  lead : UInt8
  count : Nat
  owed : Nat
  value : Nat
  low : Nat
  high : Nat
  surrogate : Bool

inductive State
  | between
  | within (s : Pending)

-- The state after the first octet of a sequence, or the item that the octet is by itself.  Octets that
-- encode surrogates are let through if `surrogates` says so.
def opening (surrogates : Bool) (position : Nat) (b : UInt8) : Sum Item Pending :=
  let n := b.toNat
  let pending (owed value low high : Nat) : Sum Item Pending :=
    .inr ⟨position, b, 1, owed, value, low, high, false⟩
  if n < 0x80 then .inl (.point (CodePoint.ofNat n))
  else if n < 0xC2 then .inl (.malformed ⟨position, 1, b, .invalidStart⟩)
  else if n < 0xE0 then pending 1 (n - 0xC0) 0x80 0xBF
  else if n = 0xE0 then pending 2 0 0xA0 0xBF
  else if n = 0xED then pending 2 0xD 0x80 (if surrogates then 0xBF else 0x9F)
  else if n < 0xF0 then pending 2 (n - 0xE0) 0x80 0xBF
  else if n = 0xF0 then pending 3 0 0x90 0xBF
  else if n < 0xF4 then pending 3 (n - 0xF0) 0x80 0xBF
  else if n = 0xF4 then pending 3 4 0x80 0x8F
  else .inl (.malformed ⟨position, 1, b, .invalidStart⟩)

-- A sequence that the octet after it ended.  Octets of a surrogate that is not complete are refused
-- at the first continuation.
def Pending.broken (s : Pending) : Item :=
  .malformed ⟨s.start, if s.surrogate then 1 else s.count, s.lead, .invalidContinuation⟩

def Pending.cutOff (s : Pending) : Item :=
  if s.surrogate then s.broken else .malformed ⟨s.start, s.count, s.lead, .unexpectedEnd⟩

def scan (surrogates : Bool) (items : List Item) (position : Nat) : State → Bytes → List Item
  | .between, [] => items.reverse
  | .within s, [] => (s.cutOff :: items).reverse
  | .between, b :: rest =>
    match opening surrogates position b with
    | .inl item => scan surrogates (item :: items) (position + 1) .between rest
    | .inr s => scan surrogates items (position + 1) (.within s) rest
  | .within s, b :: rest =>
    if s.low ≤ b.toNat ∧ b.toNat ≤ s.high then
      let value := 64 * s.value + (b.toNat - 0x80)
      if s.owed = 1 then
        scan surrogates (.point (CodePoint.ofNat value) :: items) (position + 1) .between rest
      else
        let surrogate := s.surrogate || (s.lead.toNat = 0xED && 0xA0 ≤ b.toNat)
        scan surrogates items (position + 1)
          (.within ⟨s.start, s.lead, s.count + 1, s.owed - 1, value, 0x80, 0xBF, surrogate⟩) rest
    else
      match opening surrogates position b with
      | .inl item => scan surrogates (item :: s.broken :: items) (position + 1) .between rest
      | .inr next => scan surrogates (s.broken :: items) (position + 1) (.within next) rest

def Item.point? : Item → Option CodePoint
  | .point c => some c
  | .malformed _ => none

def Item.malformed? : Item → Option Malformed
  | .point _ => none
  | .malformed piece => some piece

def decodeLossy (bytes : Bytes) : Text :=
  (scan false [] 0 .between bytes).map fun item => item.point?.getD CodePoint.replacement

def decode (surrogates : Bool) (bytes : Bytes) : Except Malformed Text :=
  let items := scan surrogates [] 0 .between bytes
  match items.findSome? Item.malformed? with
  | some piece => .error piece
  | none => .ok (items.filterMap Item.point?)

end Utf8

end OidcLogin
