namespace OidcLogin

-- A number below 0x110000.  Surrogates are included; `IsScalar` tells them apart.
structure CodePoint where
  val : Nat
  isLt : val < 0x110000
deriving DecidableEq

namespace CodePoint

def ofChar (c : Char) : CodePoint :=
  ⟨c.toNat, by
    have valid := c.valid
    simp only [UInt32.isValidChar, Nat.isValidChar] at valid
    simp only [Char.toNat]
    omega⟩

instance : Coe Char CodePoint := ⟨ofChar⟩

def replacement : CodePoint := ⟨0xFFFD, by decide⟩

instance : Inhabited CodePoint := ⟨replacement⟩

-- The code point of a number; a number outside the range becomes the replacement character.
def ofNat (n : Nat) : CodePoint := if h : n < 0x110000 then ⟨n, h⟩ else replacement

def isSurrogate (c : CodePoint) : Bool := 0xD800 ≤ c.val && c.val < 0xE000

def isIn (c : CodePoint) (runs : List (Nat × Nat)) : Bool :=
  runs.any fun (first, last) => first ≤ c.val && c.val ≤ last

def IsScalar (c : CodePoint) : Prop := c.isSurrogate = false

instance (c : CodePoint) : Decidable c.IsScalar := inferInstanceAs (Decidable (_ = _))

def isAscii (c : CodePoint) : Bool := c.val < 0x80
def isControl (c : CodePoint) : Bool := c.val < 0x20
def isDigit (c : CodePoint) : Bool := 0x30 ≤ c.val && c.val ≤ 0x39
def isUpper (c : CodePoint) : Bool := 0x41 ≤ c.val && c.val ≤ 0x5A
def isLower (c : CodePoint) : Bool := 0x61 ≤ c.val && c.val ≤ 0x7A
def isLetter (c : CodePoint) : Bool := c.isUpper || c.isLower
def isAlphanumeric (c : CodePoint) : Bool := c.isLetter || c.isDigit

def toLower (c : CodePoint) : CodePoint := if c.isUpper then ofNat (c.val + 0x20) else c
def toUpper (c : CodePoint) : CodePoint := if c.isLower then ofNat (c.val - 0x20) else c

def hexValue? (c : CodePoint) : Option Nat :=
  if c.isDigit then some (c.val - 0x30)
  else if 0x61 ≤ c.val && c.val ≤ 0x66 then some (c.val - 0x57)
  else if 0x41 ≤ c.val && c.val ≤ 0x46 then some (c.val - 0x37)
  else none

theorem ofNat_val (c : CodePoint) : ofNat c.val = c := by
  simp [ofNat, c.isLt]

theorem val_ofNat {n : Nat} (small : n < 0x110000) : (ofNat n).val = n := by
  simp [ofNat, small]

theorem ext {a b : CodePoint} (same : a.val = b.val) : a = b := by
  cases a; cases b; simp_all

end CodePoint

end OidcLogin
