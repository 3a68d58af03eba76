import Mathlib.Data.List.TakeWhile
import OidcLogin.Text.Base64

namespace OidcLogin

theorem Text.encode_eq_ok {charset : Charset} {t : Text} {octets : Bytes} :
    t.encode charset = .ok octets
      ↔ (∀ c ∈ t, charset.accepts c = true) ∧ octets = t.flatMap charset.octets := by
  unfold Text.encode
  cases rest : t.dropWhile charset.accepts with
  | nil =>
    have all := List.dropWhile_eq_nil_iff.1 rest
    constructor
    · intro same
      cases same
      exact ⟨all, rfl⟩
    · intro given
      rw [given.2]
  | cons refused after =>
    have head := List.head?_dropWhile_not charset.accepts t
    rw [rest, List.head?_cons] at head
    have member : refused ∈ t := (List.dropWhile_sublist _).subset (rest ▸ List.mem_cons_self)
    constructor
    · intro impossible
      cases impossible
    · intro given
      have accepted := given.1 refused member
      simp [accepted] at head

namespace Base64

def value (c : CodePoint) : Nat :=
  if c.val = 0x2B then 62
  else if c.val = 0x2F then 63
  else if c.val < 0x3A then c.val - 0x30 + 52
  else if c.val < 0x5B then c.val - 0x41
  else c.val - 0x61 + 26

theorem value_character {n : Nat} (small : n < 64) : value (character n) = n := by
  have all : ∀ m : Fin 64, value (character m) = m := by decide
  exact all ⟨n, small⟩

theorem character_ne_padding {n : Nat} (small : n < 64) : character n ≠ CodePoint.ofChar '=' := by
  have all : ∀ m : Fin 64, character m ≠ CodePoint.ofChar '=' := by decide
  exact all ⟨n, small⟩

-- The octets of a text, four characters at a time.
def decode : Text → Bytes
  | w :: x :: y :: z :: rest =>
    let first := UInt8.ofNat (4 * value w + value x / 16)
    let second := UInt8.ofNat (value x % 16 * 16 + value y / 4)
    let third := UInt8.ofNat (value y % 4 * 64 + value z)
    if y = CodePoint.ofChar '=' then [first]
    else if z = CodePoint.ofChar '=' then [first, second]
    else first :: second :: third :: decode rest
  | _ => []

-- Each octet is read from the two characters that its bits are in, whatever else is in these.

theorem first_octet (a : UInt8) {n : Nat} (small : n < 16) :
    UInt8.ofNat (4 * value (character (a.toNat / 4)) + value (character (a.toNat % 4 * 16 + n)) / 16) = a := by
  have byte := a.toNat_lt
  rw [value_character (by omega), value_character (by omega)]
  have whole : 4 * (a.toNat / 4) + (a.toNat % 4 * 16 + n) / 16 = a.toNat := by omega
  rw [whole, UInt8.ofNat_toNat]

theorem second_octet (b : UInt8) {m n : Nat} (high : m < 4) (low : n < 4) :
    UInt8.ofNat (value (character (m * 16 + b.toNat / 16)) % 16 * 16
      + value (character (b.toNat % 16 * 4 + n)) / 4) = b := by
  have byte := b.toNat_lt
  rw [value_character (by omega), value_character (by omega)]
  have whole : (m * 16 + b.toNat / 16) % 16 * 16 + (b.toNat % 16 * 4 + n) / 4 = b.toNat := by omega
  rw [whole, UInt8.ofNat_toNat]

theorem third_octet (c : UInt8) {m : Nat} (high : m < 16) :
    UInt8.ofNat (value (character (m * 4 + c.toNat / 64)) % 4 * 64 + value (character (c.toNat % 64))) = c := by
  have byte := c.toNat_lt
  rw [value_character (by omega), value_character (by omega)]
  have whole : (m * 4 + c.toNat / 64) % 4 * 64 + c.toNat % 64 = c.toNat := by omega
  rw [whole, UInt8.ofNat_toNat]

theorem decode_encode (octets : Bytes) : decode (encode octets) = octets := by
  fun_induction encode octets with
  | case1 => rfl
  | case2 a =>
    have first := first_octet a (n := 0) (by decide)
    rw [Nat.add_zero] at first
    rw [decode, if_pos rfl, first]
  | case3 a b =>
    have byte := b.toNat_lt
    have last : b.toNat % 16 * 4 < 64 := by omega
    have second := second_octet b (m := a.toNat % 4) (n := 0) (Nat.mod_lt _ (by decide)) (by decide)
    rw [Nat.add_zero] at second
    rw [decode, if_neg (character_ne_padding last), if_pos rfl, first_octet a (by omega), second]
  | case4 a b c rest ih =>
    have byte := b.toNat_lt
    have other := c.toNat_lt
    have third : b.toNat % 16 * 4 + c.toNat / 64 < 64 := by omega
    have fourth : c.toNat % 64 < 64 := by omega
    rw [decode, if_neg (character_ne_padding third), if_neg (character_ne_padding fourth), ih,
      first_octet a (by omega), second_octet b (by omega) (by omega), third_octet c (by omega)]

theorem encode_injective {a b : Bytes} (same : encode a = encode b) : a = b := by
  rw [← decode_encode a, same, decode_encode b]

end Base64

end OidcLogin
