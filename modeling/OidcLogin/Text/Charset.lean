import OidcLogin.Text.Quoted

namespace OidcLogin

abbrev Bytes := List UInt8

inductive Charset
  | ascii
  | latin1
  | utf8
deriving DecidableEq

namespace Charset

def name : Charset → Text
  | .ascii => "ascii"
  | .latin1 => "latin-1"
  | .utf8 => "utf-8"

def accepts : Charset → CodePoint → Bool
  | .ascii, c => c.val < 0x80
  | .latin1, c => c.val < 0x100
  | .utf8, c => !c.isSurrogate

def refusal : Charset → Text
  | .ascii => "ordinal not in range(128)"
  | .latin1 => "ordinal not in range(256)"
  | .utf8 => "surrogates not allowed"

end Charset

def CodePoint.utf8 (c : CodePoint) : Bytes :=
  let octet (n : Nat) : UInt8 := UInt8.ofNat n
  if c.val < 0x80 then [octet c.val]
  else if c.val < 0x800 then [octet (0xC0 + c.val / 64), octet (0x80 + c.val % 64)]
  else if c.val < 0x10000 then
    [octet (0xE0 + c.val / 4096), octet (0x80 + c.val / 64 % 64), octet (0x80 + c.val % 64)]
  else
    [octet (0xF0 + c.val / 262144), octet (0x80 + c.val / 4096 % 64),
     octet (0x80 + c.val / 64 % 64), octet (0x80 + c.val % 64)]

def Charset.octets : Charset → CodePoint → Bytes
  | .utf8, c => c.utf8
  | _, c => [UInt8.ofNat c.val]

structure EncodeFault where
  charset : Charset
  refused : CodePoint
  start : Nat
  count : Nat
deriving DecidableEq

def EncodeFault.message (f : EncodeFault) : Text :=
  let place : Text :=
    if f.count = 1 then
      "character '" ++ Text.hexEscape f.refused ++ "' in position " ++ Text.ofNat f.start
    else
      "characters in position " ++ Text.ofNat f.start ++ "-" ++ Text.ofNat (f.start + f.count - 1)
  "'" ++ f.charset.name ++ "' codec can't encode " ++ place ++ ": " ++ f.charset.refusal

def Text.encode (charset : Charset) (t : Text) : Except EncodeFault Bytes :=
  let accepted := t.takeWhile charset.accepts
  match t.dropWhile charset.accepts with
  | [] => .ok (t.flatMap charset.octets)
  | refused :: rest =>
    let run := rest.takeWhile (!charset.accepts ·)
    .error ⟨charset, refused, accepted.length, run.length + 1⟩

end OidcLogin
