import Mathlib.Algebra.Group.Nat.Defs
import Mathlib.Data.List.Induction
import OidcLogin.Proofs.Text.Trimming
import OidcLogin.Text.Digit

namespace OidcLogin.Text

variable {n k : Nat} {t : Text} {c : CodePoint}

theorem ofNat_eq (n : Nat) : ofNat n = (Nat.toDigits 10 n).map CodePoint.ofChar := by
  unfold ofNat ofString
  rw [Nat.toList_repr]

theorem ofNat_of_lt (small : n < 10) : ofNat n = [CodePoint.ofChar n.digitChar] := by
  rw [ofNat_eq, Nat.toDigits_of_lt_base small, List.map_singleton]

theorem ofNat_of_le (large : 10 ≤ n) : ofNat n = ofNat (n / 10) ++ [CodePoint.ofChar (n % 10).digitChar] := by
  rw [ofNat_eq, ofNat_eq, Nat.toDigits_of_base_le (by decide) large, List.map_append, List.map_singleton]

theorem ofNat_ne_nil (n : Nat) : ofNat n ≠ [] := by
  by_cases small : n < 10
  · simp [ofNat_of_lt small]
  · simp [ofNat_of_le (Nat.le_of_not_lt small)]

theorem length_ofNat_le (positive : 0 < k) : (ofNat n).length ≤ k ↔ n < 10 ^ k := by
  rw [ofNat_eq, List.length_map]
  exact Nat.length_toDigits_le_iff (by decide) positive

theorem val_digitChar : ∀ d < 10, (CodePoint.ofChar d.digitChar).val = 0x30 + d := by decide

theorem isDigit_of_mem_ofNat (member : c ∈ ofNat n) : c.isDigit = true := by
  induction n using Nat.strongRecOn with
  | ind n ih =>
    have last (d : Nat) (small : d < 10) : (CodePoint.ofChar d.digitChar).isDigit = true := by
      have value := val_digitChar d small
      simp only [CodePoint.isDigit, Bool.and_eq_true, decide_eq_true_eq]
      omega
    by_cases small : n < 10
    · rw [ofNat_of_lt small] at member
      rw [List.mem_singleton.1 member]
      exact last n small
    · rw [ofNat_of_le (Nat.le_of_not_lt small)] at member
      rcases List.mem_append.1 member with before | same
      · exact ih (n / 10) (by omega) before
      · rw [List.mem_singleton.1 same]
        exact last (n % 10) (by omega)

theorem digitsValue_concat (t : Text) (c : CodePoint) :
    digitsValue (t ++ [c]) = 10 * digitsValue t + (c.val - 0x30) := by
  simp [digitsValue]

theorem digitsValue_ofNat (n : Nat) : digitsValue (ofNat n) = n := by
  induction n using Nat.strongRecOn with
  | ind n ih =>
    by_cases small : n < 10
    · have value := val_digitChar n small
      rw [ofNat_of_lt small]
      simp only [digitsValue, List.foldl_cons, List.foldl_nil]
      omega
    · have value := val_digitChar (n % 10) (by omega)
      rw [ofNat_of_le (Nat.le_of_not_lt small), digitsValue_concat, ih (n / 10) (by omega)]
      omega

theorem eq_zero_of_head_ofNat (zero : (ofNat n).head? = some (CodePoint.ofChar '0')) : n = 0 := by
  induction n using Nat.strongRecOn with
  | ind n ih =>
    by_cases small : n < 10
    · have value := val_digitChar n small
      rw [ofNat_of_lt small] at zero
      have same : CodePoint.ofChar n.digitChar = CodePoint.ofChar '0' := Option.some.inj zero
      rw [same] at value
      simp [CodePoint.ofChar] at value
      omega
    · obtain ⟨d, rest, front⟩ := List.exists_cons_of_ne_nil (ofNat_ne_nil (n / 10))
      rw [ofNat_of_le (Nat.le_of_not_lt small), front] at zero
      have shorter := ih (n / 10) (by omega) (by rw [front]; exact zero)
      omega

theorem digitsValue_lt (digits : ∀ c ∈ t, c.isDigit = true) : digitsValue t < 10 ^ t.length := by
  induction t using List.reverseRecOn with
  | nil => simp [digitsValue]
  | append_singleton t c ih =>
    have before := ih fun d member => digits d (List.mem_append_left _ member)
    have last := digits c (List.mem_append_right _ (List.mem_singleton.2 rfl))
    simp only [CodePoint.isDigit, Bool.and_eq_true, decide_eq_true_eq] at last
    rw [digitsValue_concat, List.length_append, List.length_singleton, Nat.pow_succ]
    omega

theorem ne_of_isDigit {other : CodePoint} (digit : c.isDigit = true) (noDigit : other.isDigit = false) : c ≠ other := by
  rintro rfl
  cases digit.symm.trans noDigit

-- Characters with single marks between them, and the characters alone.
inductive Grouped (part : CodePoint → Bool) : Text → Text → Prop
  | last {c : CodePoint} (isPart : part c = true) : Grouped part [c] [c]
  | next {c : CodePoint} {t parts : Text} (isPart : part c = true) (rest : Grouped part t parts) :
      Grouped part (c :: t) (c :: parts)
  | apart {c : CodePoint} {t parts : Text} (isPart : part c = true) (rest : Grouped part t parts) :
      Grouped part (c :: CodePoint.ofChar '_' :: t) (c :: parts)

section

variable {part : CodePoint → Bool} {parts : Text}

theorem Grouped.part_head (grouped : Grouped part (c :: t) parts) : part c = true := by
  cases grouped with
  | last isPart | next isPart _ | apart isPart _ => exact isPart

theorem Grouped.exists_cons (grouped : Grouped part t parts) : ∃ c rest, t = c :: rest := by
  cases grouped with
  | last _ | next _ _ | apart _ _ => exact ⟨_, _, rfl⟩

theorem Grouped.parts_ne_nil (grouped : Grouped part t parts) : parts ≠ [] := by
  cases grouped with
  | last _ | next _ _ | apart _ _ => exact List.cons_ne_nil _ _

theorem Grouped.part_of_mem (grouped : Grouped part t parts) : ∀ c ∈ parts, part c = true := by
  induction grouped with
  | last isPart => exact List.forall_mem_singleton.2 isPart
  | next isPart _ ih | apart isPart _ ih => exact List.forall_mem_cons.2 ⟨isPart, ih⟩

theorem Grouped.mem (grouped : Grouped part t parts) (member : c ∈ t) : c = CodePoint.ofChar '_' ∨ c ∈ parts := by
  induction grouped with
  | last _ => exact .inr member
  | next _ _ ih =>
    rcases List.mem_cons.1 member with rfl | later
    · exact .inr List.mem_cons_self
    · exact (ih later).imp_right (List.mem_cons_of_mem _)
  | apart _ _ ih =>
    rcases List.mem_cons.1 member with rfl | after
    · exact .inr List.mem_cons_self
    · rcases List.mem_cons.1 after with mark | later
      · exact .inl mark
      · exact (ih later).imp_right (List.mem_cons_of_mem _)

theorem ungrouped?_eq_some (noPart : part (CodePoint.ofChar '_') = false) :
    ungrouped? part t = some parts ↔ Grouped part t parts := by
  constructor
  · intro read
    fun_induction ungrouped? part t generalizing parts with
    | case1 => cases read
    | case2 c isPart =>
      cases read
      exact .last isPart
    | case3 => cases read
    | case4 => cases read
    | case5 c isPart e rest next ih =>
      obtain ⟨others, found, rfl⟩ := Option.map_eq_some_iff.1 read
      exact .apart isPart (ih found)
    | case6 => cases read
    | case7 c d rest isPart other ih =>
      obtain ⟨others, found, rfl⟩ := Option.map_eq_some_iff.1 read
      exact .next isPart (ih found)
    | case8 => cases read
  · intro grouped
    induction grouped with
    | last isPart => simp [ungrouped?, isPart]
    | next isPart rest ih =>
      obtain ⟨d, after, rfl⟩ := rest.exists_cons
      have other : d ≠ CodePoint.ofChar '_' := by
        rintro rfl
        cases rest.part_head.symm.trans noPart
      simp [ungrouped?, isPart, other, ih]
    | apart isPart rest ih =>
      obtain ⟨d, after, rfl⟩ := rest.exists_cons
      simp [ungrouped?, isPart, rest.part_head, ih]

theorem grouped_self (full : t ≠ []) (isParts : ∀ c ∈ t, part c = true) : Grouped part t t := by
  induction t with
  | nil => exact absurd rfl full
  | cons c rest ih =>
    obtain ⟨first, later⟩ := List.forall_mem_cons.1 isParts
    cases rest with
    | nil => exact .last first
    | cons d rest => exact .next first (ih (List.cons_ne_nil d rest) later)

theorem Grouped.of_mem {other : CodePoint → Bool} (grouped : Grouped part t parts)
    (isOther : ∀ c ∈ parts, other c = true) : Grouped other t parts := by
  induction grouped with
  | last _ => exact .last (isOther _ List.mem_cons_self)
  | next _ _ ih =>
    exact .next (isOther _ List.mem_cons_self) (ih fun c member => isOther c (List.mem_cons_of_mem _ member))
  | apart _ _ ih =>
    exact .apart (isOther _ List.mem_cons_self) (ih fun c member => isOther c (List.mem_cons_of_mem _ member))

end

theorem ungrouped?_of_digits (full : t ≠ []) (digits : ∀ c ∈ t, c.isDigit = true) :
    ungrouped? CodePoint.isDigit t = some t :=
  (ungrouped?_eq_some rfl).2 (grouped_self full digits)

theorem mem_ofInt {n : Int} (member : c ∈ ofInt n) : c = CodePoint.ofChar '-' ∨ c.isDigit = true := by
  unfold ofInt at member
  split at member
  · rcases List.mem_cons.1 member with same | digit
    · exact .inl same
    · exact .inr (isDigit_of_mem_ofNat digit)
  · exact .inr (isDigit_of_mem_ofNat member)

theorem decimalValue?_of_isDigit (digit : c.isDigit = true) : c.decimalValue? = some (c.val - 0x30) := by
  simp only [CodePoint.isDigit, Bool.and_eq_true, decide_eq_true_eq] at digit
  have inFirst : (0x30 ≤ c.val && c.val < 0x30 + 10) = true := by
    simp only [Bool.and_eq_true, decide_eq_true_eq]
    omega
  have opening : CodePoint.decimalZeros = 0x30 :: CodePoint.decimalZeros.tail := rfl
  unfold CodePoint.decimalValue?
  rw [opening]
  simp only [List.find?_cons, inFirst, Option.map_some]

theorem withAsciiDigits_ofInt (n : Int) : withAsciiDigits (ofInt n) = ofInt n := by
  unfold withAsciiDigits
  rw [List.map_congr_left (g := id), List.map_id]
  intro c member
  rcases mem_ofInt member with rfl | digit
  · decide
  · have value := decimalValue?_of_isDigit digit
    simp only [CodePoint.isDigit, Bool.and_eq_true, decide_eq_true_eq] at digit
    rw [value]
    apply CodePoint.ext
    have below := c.isLt
    dsimp only [id]
    rw [CodePoint.val_ofNat (by omega)]
    omega

theorem toWhole?_of_digits (full : t.withAsciiDigits ≠ []) (digits : ∀ c ∈ t.withAsciiDigits, c.isDigit = true) :
    t.toWhole? = if maxDigits < t.withAsciiDigits.length then .error (.tooManyDigits t.withAsciiDigits.length)
      else .ok (digitsValue t.withAsciiDigits) := by
  have notSpace : ∀ c ∈ t.withAsciiDigits, decide (c = CodePoint.ofChar ' ') = false :=
    fun c member => decide_eq_false (ne_of_isDigit (digits c member) rfl)
  have parts : ∀ c ∈ t.withAsciiDigits, (c.isDigit || decide (c = CodePoint.ofChar '_')) = true :=
    fun c member => by rw [digits c member, Bool.true_or]
  have whole := ungrouped?_of_digits full digits
  obtain ⟨c, rest, front⟩ := List.exists_cons_of_ne_nil full
  have digit := digits c (front ▸ List.mem_cons_self)
  have notMinus : c ≠ CodePoint.ofChar '-' := ne_of_isDigit digit rfl
  have notPlus : c ≠ CodePoint.ofChar '+' := ne_of_isDigit digit rfl
  unfold toWhole?
  rw [trimBoth_eq_self notSpace]
  rw [front] at parts whole ⊢
  simp only [notMinus, notPlus, if_false, List.takeWhile_eq_self_iff.2 parts, List.dropWhile_eq_nil_iff.2 parts,
    whole, List.isEmpty_nil, Bool.not_true, Bool.false_eq_true]

theorem toWhole?_ofInt {n : Int} (short : (ofNat n.natAbs).length ≤ maxDigits) : (ofInt n).toWhole? = .ok n := by
  have digits : ∀ c ∈ ofNat n.natAbs, c.isDigit = true := fun c member => isDigit_of_mem_ofNat member
  have value := digitsValue_ofNat n.natAbs
  by_cases negative : n < 0
  · have written : ofInt n = CodePoint.ofChar '-' :: ofNat n.natAbs := by rw [ofInt, if_pos negative]
    have notSpace : ∀ c ∈ ofInt n, decide (c = CodePoint.ofChar ' ') = false := by
      intro c member
      rcases mem_ofInt member with rfl | digit
      · rfl
      · exact decide_eq_false (ne_of_isDigit digit rfl)
    have parts : ∀ c ∈ ofNat n.natAbs, (c.isDigit || decide (c = CodePoint.ofChar '_')) = true :=
      fun c member => by rw [digits c member, Bool.true_or]
    have whole := ungrouped?_of_digits (ofNat_ne_nil _) digits
    unfold toWhole?
    rw [withAsciiDigits_ofInt, trimBoth_eq_self notSpace, written]
    simp only [if_true, List.takeWhile_eq_self_iff.2 parts, List.dropWhile_eq_nil_iff.2 parts, whole, value,
      if_neg (Nat.not_lt.2 short), List.isEmpty_nil, Bool.not_true, Bool.false_eq_true, if_false]
    congr 1
    omega
  · have written : ofInt n = ofNat n.natAbs := by rw [ofInt, if_neg negative]
    have ascii : (ofInt n).withAsciiDigits = ofNat n.natAbs := (withAsciiDigits_ofInt n).trans written
    rw [toWhole?_of_digits (ascii ▸ ofNat_ne_nil _) (ascii ▸ digits), ascii, if_neg (Nat.not_lt.2 short), value]
    congr 1
    omega

theorem natAbs_signed {p : Prop} [Decidable p] (m : Nat) : (if p then -(m : Int) else m).natAbs = m := by
  split
  · rw [Int.natAbs_neg, Int.natAbs_natCast]
  · rw [Int.natAbs_natCast]

theorem length_of_toWhole? {n : Int} (read : t.toWhole? = .ok n) : (ofNat n.natAbs).length ≤ maxDigits := by
  have settled {p : Prop} [Decidable p] {m : Int}
      (same : (if p then .error .malformed else .ok m : Except NumeralFault Int) = .ok n) : m = n := by
    split at same
    · cases same
    · cases same
      rfl
  unfold toWhole? at read
  dsimp only at read
  split at read
  · cases read
  · rename_i digits found
    split at read
    · cases read
    · rename_i short
      have grouped := (ungrouped?_eq_some rfl).1 found
      have value : n.natAbs = digitsValue digits := by
        rw [← settled read]
        exact natAbs_signed digits.digitsValue
      have positive : 0 < digits.length := List.length_pos_iff.2 grouped.parts_ne_nil
      have fits := (length_ofNat_le positive).2 (digitsValue_lt grouped.part_of_mem)
      rw [value]
      omega

end OidcLogin.Text
