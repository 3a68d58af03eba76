import OidcLogin.Text.Basic

namespace OidcLogin.Logging

inductive Extent
  | written (n : Nat)
  | argument
deriving DecidableEq

inductive Choice
  | next
  | named (name : Text)
  | unclosed
deriving DecidableEq

structure Directive where
  choice : Choice
  flags : Text
  width? : Option Extent
  precision? : Option Extent
  -- None if the template ends too early.
  letter? : Option CodePoint
deriving DecidableEq

namespace Directive

def isFlag (c : CodePoint) : Bool :=
  c = '-' || c = '0' || c = '+' || c = ' ' || c = '#'

-- What stands before the closing bracket, and what follows it.  Brackets in between come in pairs, of
-- which `inner` are open.
def untilClosed? (inner : Nat) : Text → Option (Text × Text)
  | [] => none
  | c :: rest =>
    if c = ')' then
      match inner with
      | 0 => some ([], rest)
      | inner + 1 => (untilClosed? inner rest).map (Prod.map (c :: ·) id)
    else (untilClosed? (if c = '(' then inner + 1 else inner) rest).map (Prod.map (c :: ·) id)

def readChoice (t : Text) : Choice × Text :=
  match t with
  | [] => (.next, [])
  | c :: rest =>
    if c = '(' then
      match untilClosed? 0 rest with
      | some (name, after) => (.named name, after)
      | none => (.unclosed, [])
    else (.next, t)

def readExtent (t : Text) : Option Extent × Text :=
  if t.head? = some (CodePoint.ofChar '*') then (some .argument, t.tail)
  else
    let digits : Text := t.takeWhile CodePoint.isDigit
    (if digits.isEmpty then none else some (.written (Text.digitsValue digits)),
      t.dropWhile CodePoint.isDigit)

def readPrecision (t : Text) : Option Extent × Text :=
  if t.head? = some (CodePoint.ofChar '.') then
    let (extent?, after) := readExtent t.tail
    (some (extent?.getD (.written 0)), after)
  else (none, t)

-- A letter before the last one that tells the size of a number; it changes nothing.
def dropSize : Text → Text
  | [] => []
  | c :: rest => if c = 'h' ∨ c = 'l' ∨ c = 'L' then rest else c :: rest

def read (t : Text) : Directive × Text :=
  let (choice, t) := readChoice t
  let (width?, afterWidth) := readExtent (t.dropWhile isFlag)
  let (precision?, afterPrecision) := readPrecision afterWidth
  let last := dropSize afterPrecision
  (⟨choice, t.takeWhile isFlag, width?, precision?, last.head?⟩, last.tail)

theorem length_untilClosed? {t : Text} {inner : Nat} {parts : Text × Text}
    (closed : untilClosed? inner t = some parts) : parts.2.length ≤ t.length := by
  induction t generalizing inner parts with
  | nil => simp [untilClosed?] at closed
  | cons c rest ih =>
    have more {n : Nat} {further : Text × Text}
        (found : (untilClosed? n rest).map (Prod.map (c :: ·) id) = some further) :
        further.2.length ≤ (c :: rest).length := by
      obtain ⟨before, inside, rfl⟩ := Option.map_eq_some_iff.mp found
      have shorter := ih inside
      exact Nat.le_succ_of_le shorter
    unfold untilClosed? at closed
    split at closed
    · cases inner with
      | zero =>
        obtain rfl := Option.some.inj closed
        exact Nat.le_succ _
      | succ inner => exact more closed
    · exact more closed

theorem length_readChoice (t : Text) : (readChoice t).2.length ≤ t.length := by
  unfold readChoice
  split
  · exact Nat.le_refl _
  · split
    · split
      · rename_i closed
        exact Nat.le_succ_of_le (length_untilClosed? closed)
      · exact Nat.zero_le _
    · exact Nat.le_refl _

theorem length_readExtent (t : Text) : (readExtent t).2.length ≤ t.length := by
  unfold readExtent
  split
  · exact (List.tail_sublist t).length_le
  · exact (List.dropWhile_sublist _).length_le

theorem length_readPrecision (t : Text) : (readPrecision t).2.length ≤ t.length := by
  unfold readPrecision
  split
  · exact Nat.le_trans (length_readExtent t.tail) (List.tail_sublist t).length_le
  · exact Nat.le_refl _

theorem length_dropSize (t : Text) : (dropSize t).length ≤ t.length := by
  cases t with
  | nil => exact Nat.le_refl _
  | cons c rest =>
    rw [dropSize]
    split
    · exact Nat.le_succ _
    · exact Nat.le_refl _

theorem length_read (t : Text) : (read t).2.length ≤ t.length :=
  calc (read t).2.length
    _ ≤ _ := (List.tail_sublist _).length_le
    _ ≤ _ := length_dropSize _
    _ ≤ _ := length_readPrecision _
    _ ≤ _ := length_readExtent _
    _ ≤ _ := (List.dropWhile_sublist isFlag).length_le
    _ ≤ _ := length_readChoice t

end Directive

end OidcLogin.Logging
