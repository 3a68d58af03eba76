import OidcLogin.Proofs.Text.Octets

namespace OidcLogin.Base64

def alphabet : Text := "ABCDEFGHIJKLMNOPQRSTUVWXYZabcdefghijklmnopqrstuvwxyz0123456789+/"

def IsDigit (c : CodePoint) (n : Nat) : Prop := alphabet[n]? = some c

inductive Writes : Bytes → Text → Prop
  | nil : Writes [] []
  | one {a : UInt8} {w x : CodePoint} {i j : Nat} (first : IsDigit w i) (second : IsDigit x j)
      (bits : a.toNat * 16 = i * 64 + j) :
      Writes [a] [w, x, CodePoint.ofChar '=', CodePoint.ofChar '=']
  | two {a b : UInt8} {w x y : CodePoint} {i j k : Nat} (first : IsDigit w i) (second : IsDigit x j)
      (third : IsDigit y k) (bits : (a.toNat * 256 + b.toNat) * 4 = (i * 64 + j) * 64 + k) :
      Writes [a, b] [w, x, y, CodePoint.ofChar '=']
  | three {a b c : UInt8} {w x y z : CodePoint} {i j k l : Nat} {octets : Bytes} {t : Text}
      (first : IsDigit w i) (second : IsDigit x j) (third : IsDigit y k) (fourth : IsDigit z l)
      (bits : (a.toNat * 256 + b.toNat) * 256 + c.toNat = ((i * 64 + j) * 64 + k) * 64 + l)
      (rest : Writes octets t) :
      Writes (a :: b :: c :: octets) (w :: x :: y :: z :: t)

theorem isDigit_character {n : Nat} (small : n < 64) : IsDigit (character n) n := by
  have all : ∀ m : Fin 64, alphabet[m.val]? = some (character m.val) := by
    unfold alphabet
    rw [Text.ofString_ofList]
    decide
  exact all ⟨n, small⟩

theorem IsDigit.lt {c : CodePoint} {n : Nat} (digit : IsDigit c n) : n < 64 := by
  have length : alphabet.length = 64 := by
    unfold alphabet
    rw [Text.ofString_ofList]
    rfl
  obtain ⟨small, _⟩ := List.getElem?_eq_some_iff.1 digit
  omega

theorem IsDigit.eq_character {c : CodePoint} {n : Nat} (digit : IsDigit c n) : c = character n :=
  Option.some.inj (digit.symm.trans (isDigit_character digit.lt))

theorem writes_encode (octets : Bytes) : Writes octets (encode octets) := by
  fun_induction encode octets with
  | case1 => exact .nil
  | case2 a =>
    have byte := a.toNat_lt
    exact .one (isDigit_character (by omega)) (isDigit_character (by omega)) (by omega)
  | case3 a b =>
    have byte := a.toNat_lt
    have next := b.toNat_lt
    exact .two (isDigit_character (by omega)) (isDigit_character (by omega)) (isDigit_character (by omega)) (by omega)
  | case4 a b c rest ih =>
    have byte := a.toNat_lt
    have next := b.toNat_lt
    have last := c.toNat_lt
    exact .three (isDigit_character (by omega)) (isDigit_character (by omega)) (isDigit_character (by omega))
      (isDigit_character (by omega)) (by omega) ih

-- A number has one row of digits, as each of these is below the base.
theorem writes_iff {octets : Bytes} {t : Text} : Writes octets t ↔ t = encode octets := by
  constructor
  · intro writes
    induction writes with
    | nil => rfl
    | @one a w x i j first second bits =>
      have small := second.lt
      have high : i = a.toNat / 4 := by omega
      have low : j = a.toNat % 4 * 16 := by omega
      rw [first.eq_character, second.eq_character, high, low, encode]
    | @two a b w x y i j k first second third bits =>
      have byte := b.toNat_lt
      have middle := second.lt
      have small := third.lt
      have high : i = a.toNat / 4 := by omega
      have between : j = a.toNat % 4 * 16 + b.toNat / 16 := by omega
      have low : k = b.toNat % 16 * 4 := by omega
      rw [first.eq_character, second.eq_character, third.eq_character, high, between, low, encode]
    | @three a b c w x y z i j k l octets t first second third fourth bits rest ih =>
      have byte := b.toNat_lt
      have other := c.toNat_lt
      have second' := second.lt
      have third' := third.lt
      have fourth' := fourth.lt
      have high : i = a.toNat / 4 := by omega
      have next : j = a.toNat % 4 * 16 + b.toNat / 16 := by omega
      have later : k = b.toNat % 16 * 4 + c.toNat / 64 := by omega
      have low : l = c.toNat % 64 := by omega
      rw [first.eq_character, second.eq_character, third.eq_character, fourth.eq_character, high, next, later, low,
        ih, encode]
  · rintro rfl
    exact writes_encode octets

end OidcLogin.Base64
