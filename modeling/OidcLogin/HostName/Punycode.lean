import OidcLogin.Text.Basic

namespace OidcLogin.Punycode

-- The lowest and the highest threshold of a digit are 1 and 26.
def threshold (k bias : Nat) : Nat :=
  if k ≤ bias then 1 else if bias + 26 ≤ k then 26 else k - bias

def digit (n : Nat) : CodePoint :=
  if n < 26 then CodePoint.ofNat (0x61 + n) else CodePoint.ofNat (0x30 + (n - 26))

def digitValue? (c : CodePoint) : Option Nat :=
  if c.isLower then some (c.val - 0x61)
  else if c.isUpper then some (c.val - 0x41)
  else if c.isDigit then some (c.val - 0x30 + 26)
  else none

theorem threshold_bounds (k bias : Nat) : 1 ≤ threshold k bias ∧ threshold k bias ≤ 26 := by
  unfold threshold
  split
  · omega
  · split <;> omega

-- A number as digits, the least one first.  What is left of it shrinks, as every threshold is
-- positive.
def writeNumber (bias k n : Nat) : Text :=
  let t := threshold k bias
  if n < t then [digit n]
  else digit (t + (n - t) % (36 - t)) :: writeNumber bias (k + 36) ((n - t) / (36 - t))
termination_by n
decreasing_by
  have bounds := threshold_bounds k bias
  have quotient := Nat.div_le_self (n - threshold k bias) (36 - threshold k bias)
  omega

def settle (delta k : Nat) : Nat :=
  if 455 < delta then settle (delta / 35) (k + 36) else k + 36 * delta / (delta + 38)
termination_by delta

def adapt (delta count : Nat) (first : Bool) : Nat :=
  let delta := if first then delta / 700 else delta / 2
  settle (delta + delta / count) 0

structure Progress where
  written : Text
  delta : Nat
  bias : Nat
  done : Nat

-- Goes over the label once, writing a number at each occurrence of `n`.
def pass (basic n : Nat) (p : Progress) : List Nat → Progress
  | [] => p
  | c :: rest =>
    if c < n then pass basic n { p with delta := p.delta + 1 } rest
    else if c = n then
      let number := writeNumber p.bias 36 p.delta
      pass basic n
        ⟨p.written ++ number, 0, adapt p.delta (p.done + 1) (p.done = basic), p.done + 1⟩ rest
    else pass basic n p rest

-- The passes for some code points, in ascending order; `n` is the least one that is not settled.
def passes (label : List Nat) (basic : Nat) : List Nat → Nat → Progress → Text
  | [], _, p => p.written
  | next :: rest, n, p =>
    let p := pass basic next { p with delta := p.delta + (next - n) * (p.done + 1) } label
    passes label basic rest (next + 1) { p with delta := p.delta + 1 }

def beyondAscii (label : List Nat) : List Nat :=
  (label.filter (128 ≤ ·)).eraseDups.mergeSort

def encode (label : Text) : Text :=
  let basic := label.filter CodePoint.isAscii
  let lead : Text := if basic.isEmpty then [] else basic ++ [CodePoint.ofChar '-']
  let values := label.map (·.val)
  lead ++ passes values basic.length (beyondAscii values) 128 ⟨[], 0, 72, basic.length⟩

def readNumber? (bias : Nat) (k weight sum : Nat) : Text → Option (Nat × Text)
  | [] => none
  | c :: rest =>
    match digitValue? c with
    | none => none
    | some d =>
      let t := threshold k bias
      let sum := sum + d * weight
      if d < t then some (sum, rest) else readNumber? bias (k + 36) (weight * (36 - t)) sum rest

theorem length_readNumber {bias k weight sum number : Nat} {t rest : Text}
    (read : readNumber? bias k weight sum t = some (number, rest)) : rest.length < t.length := by
  induction t generalizing k weight sum with
  | nil => simp [readNumber?] at read
  | cons c tail ih =>
    rw [readNumber?] at read
    split at read
    · cases read
    · dsimp only at read
      split at read
      · cases read; simp
      · have shorter := ih read
        rw [List.length_cons]
        omega

-- Puts in the letters that the numbers tell: each number leads from the code point and the place of
-- the letter before to those of the next one.
def insertions? (n place bias : Nat) (label numbers : Text) : Option Text :=
  if numbers.isEmpty then some label
  else
    match read : readNumber? bias 36 1 0 numbers with
    | none => none
    | some (delta, rest) =>
      have := length_readNumber read
      let count := label.length + 1
      let n := n + (place + delta) / count
      let place := (place + delta) % count
      if n < 0x110000 then
        insertions? n (place + 1) (adapt delta count (label.all CodePoint.isAscii))
          (label.take place ++ CodePoint.ofNat n :: label.drop place) rest
      else none
termination_by numbers.length

def decode? (t : Text) : Option Text :=
  let (basic, numbers) := (t.cutLast? (CodePoint.ofChar '-')).getD ([], t)
  insertions? 128 0 72 basic numbers

end OidcLogin.Punycode
