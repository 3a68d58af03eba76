import OidcLogin.Proofs.Text.Numerals

namespace OidcLogin

theorem CodePoint.decimalValue?_lt {c : CodePoint} {d : Nat} (value : c.decimalValue? = some d) : d < 10 := by
  obtain ⟨first, found, rfl⟩ := Option.map_eq_some_iff.1 value
  have inside := List.find?_some found
  simp only [Bool.and_eq_true, decide_eq_true_eq] at inside
  omega

-- Digit characters that are no decimal digits come after all ASCII characters, and none of them is blank.
theorem CodePoint.above_of_otherDigit {c : CodePoint} (other : c.isIn otherDigits = true) :
    0xB2 ≤ c.val ∧ c.isWhiteSpace = false := by
  have runs : ∀ run ∈ otherDigits, 0xB2 ≤ run.1
      ∧ ∀ blank ∈ [0x1680, 0x2028, 0x2029, 0x202F, 0x205F, 0x3000], blank < run.1 ∨ run.2 < blank := by decide
  have spaces : ∀ run ∈ otherDigits, 0x200A < run.1 ∨ run.2 < 0x2000 := by decide
  obtain ⟨run, member, inside⟩ := List.any_eq_true.1 other
  obtain ⟨above, blanks⟩ := runs run member
  have apart := spaces run member
  simp only [Bool.and_eq_true, decide_eq_true_eq] at inside
  simp only [List.forall_mem_cons, List.not_mem_nil, false_implies, implies_true, and_true] at blanks
  refine ⟨by omega, ?_⟩
  simp only [isWhiteSpace, Bool.or_eq_false_iff, Bool.and_eq_false_iff, decide_eq_false_iff_not, beq_eq_false_iff_ne]
  omega

namespace Text

variable {t : Text} {n : Nat} {c : CodePoint}

-- The number that decimal digits write; none if some character is no decimal digit.
def decimal? (t : Text) : Option Nat :=
  t.foldl (fun n? c => n?.bind fun n => c.decimalValue?.map (10 * n + ·)) (some 0)

theorem decimal?_concat (t : Text) (c : CodePoint) :
    decimal? (t ++ [c]) = (decimal? t).bind fun n => c.decimalValue?.map (10 * n + ·) := by
  simp [decimal?]

theorem exists_decimal?_concat (read : decimal? (t ++ [c]) = some n) :
    ∃ before d, decimal? t = some before ∧ c.decimalValue? = some d ∧ n = 10 * before + d := by
  rw [decimal?_concat] at read
  obtain ⟨before, first, last⟩ := Option.bind_eq_some_iff.1 read
  obtain ⟨d, value, rfl⟩ := Option.map_eq_some_iff.1 last
  exact ⟨before, d, first, value, rfl⟩

theorem decimalValue?_of_decimal? (read : decimal? t = some n) : ∀ c ∈ t, ∃ d, c.decimalValue? = some d := by
  induction t using List.reverseRecOn generalizing n with
  | nil => exact List.forall_mem_nil _
  | append_singleton t c ih =>
    obtain ⟨before, d, first, value, _⟩ := exists_decimal?_concat read
    intro other member
    rcases List.mem_append.1 member with earlier | last
    · exact ih first other earlier
    · exact ⟨d, List.mem_singleton.1 last ▸ value⟩

theorem isDigitCharacter_of_decimal? (read : decimal? t = some n) : ∀ c ∈ t, c.isDigitCharacter = true := by
  intro c member
  obtain ⟨d, value⟩ := decimalValue?_of_decimal? read c member
  rw [CodePoint.isDigitCharacter, value, Option.isSome_some, Bool.true_or]

theorem isDigit_ofNat {d : Nat} (small : d < 10) : (CodePoint.ofNat (0x30 + d)).isDigit = true := by
  have value : (CodePoint.ofNat (0x30 + d)).val = 0x30 + d := CodePoint.val_ofNat (by omega)
  simp only [CodePoint.isDigit, value, Bool.and_eq_true, decide_eq_true_eq]
  omega

-- The invariant of the reader: the ASCII digits of what was read have the same value.
theorem withAsciiDigits_of_decimal? (read : decimal? t = some n) :
    (∀ c ∈ t.withAsciiDigits, c.isDigit = true) ∧ digitsValue t.withAsciiDigits = n := by
  induction t using List.reverseRecOn generalizing n with
  | nil =>
    cases read
    exact ⟨List.forall_mem_nil _, rfl⟩
  | append_singleton t c ih =>
    obtain ⟨before, d, first, value, rfl⟩ := exists_decimal?_concat read
    obtain ⟨digits, same⟩ := ih first
    have small := CodePoint.decimalValue?_lt value
    have last : withAsciiDigits (t ++ [c]) = withAsciiDigits t ++ [CodePoint.ofNat (0x30 + d)] := by
      simp only [withAsciiDigits, List.map_append, List.map_cons, List.map_nil, value]
    rw [last, digitsValue_concat, same, CodePoint.val_ofNat (by omega), Nat.add_sub_cancel_left]
    refine ⟨?_, rfl⟩
    intro other member
    rcases List.mem_append.1 member with earlier | single
    · exact digits other earlier
    · rw [List.mem_singleton.1 single]
      exact isDigit_ofNat small

theorem toWhole?_of_decimal? (full : t ≠ []) (read : decimal? t = some n) (short : t.length ≤ maxDigits) :
    t.toWhole? = .ok n := by
  obtain ⟨digits, value⟩ := withAsciiDigits_of_decimal? read
  have length : t.withAsciiDigits.length = t.length := List.length_map _
  rw [toWhole?_of_digits (by rw [← List.length_pos_iff, length]; exact List.length_pos_iff.2 full) digits,
    if_neg (Nat.not_lt.2 (length ▸ short)), value]

theorem toWhole?_of_long_decimal? (read : decimal? t = some n) (long : maxDigits < t.length) :
    t.toWhole? = .error (.tooManyDigits t.length) := by
  obtain ⟨digits, _⟩ := withAsciiDigits_of_decimal? read
  have length : t.withAsciiDigits.length = t.length := List.length_map _
  rw [toWhole?_of_digits (by rw [← List.length_pos_iff, length]; omega) digits, length, if_pos long]

theorem decimal?_eq_none (other : decimal? t = none) : ∃ c ∈ t, c.decimalValue? = none := by
  induction t using List.reverseRecOn with
  | nil => cases other
  | append_singleton t c ih =>
    rw [decimal?_concat] at other
    cases first : decimal? t with
    | none =>
      obtain ⟨d, member, none⟩ := ih first
      exact ⟨d, List.mem_append_left _ member, none⟩
    | some before =>
      rw [first] at other
      exact ⟨c, List.mem_append_right _ List.mem_cons_self, Option.map_eq_none_iff.1 other⟩

theorem mem_withAsciiDigits_of_digitCharacter (all : ∀ c ∈ t, c.isDigitCharacter = true) :
    (∀ d ∈ t.withAsciiDigits, d.isDigit = true ∨ 0xB2 ≤ d.val)
      ∧ ∀ c ∈ t, c.decimalValue? = none → ∃ d ∈ t.withAsciiDigits, 0xB2 ≤ d.val := by
  have kept : ∀ c ∈ t, c.decimalValue? = none → 0xB2 ≤ c.val ∧ c.isWhiteSpace = false := by
    intro c member none
    have digit := all c member
    rw [CodePoint.isDigitCharacter, none, Option.isSome_none, Bool.false_or] at digit
    exact CodePoint.above_of_otherDigit digit
  constructor
  · intro d member
    obtain ⟨c, inside, rfl⟩ := List.mem_map.1 member
    cases value : c.decimalValue? with
    | some d => exact .inl (isDigit_ofNat (CodePoint.decimalValue?_lt value))
    | none =>
      obtain ⟨above, dark⟩ := kept c inside value
      dsimp only
      rw [dark, if_neg Bool.false_ne_true]
      exact .inr above
  · intro c inside none
    obtain ⟨above, dark⟩ := kept c inside none
    refine ⟨c, List.mem_map.2 ⟨c, inside, ?_⟩, above⟩
    rw [none]
    dsimp only
    rw [dark, if_neg Bool.false_ne_true]

theorem toWhole?_of_other_digit (all : ∀ c ∈ t, c.isDigitCharacter = true)
    (other : ∃ c ∈ t, c.decimalValue? = none) : ∃ fault, t.toWhole? = .error fault := by
  obtain ⟨c, inside, none⟩ := other
  obtain ⟨letters, strange⟩ := mem_withAsciiDigits_of_digitCharacter all
  obtain ⟨stranger, member, above⟩ := strange c inside none
  have differs {d : CodePoint} (mem : d ∈ t.withAsciiDigits) {mark : Char} (below : (CodePoint.ofChar mark).val < 0xB2)
      (noDigit : (CodePoint.ofChar mark).isDigit = false) : d ≠ CodePoint.ofChar mark := by
    rcases letters d mem with digit | above
    · exact ne_of_isDigit digit noDigit
    · rintro rfl
      omega
  have notSpace : ∀ d ∈ t.withAsciiDigits, decide (d = CodePoint.ofChar ' ') = false :=
    fun d mem => decide_eq_false (differs mem (by decide) rfl)
  have remains : (t.withAsciiDigits.dropWhile fun c => c.isDigit || decide (c = CodePoint.ofChar '_')) ≠ [] := by
    rw [ne_eq, List.dropWhile_eq_nil_iff]
    intro parts
    have part := parts stranger member
    have apart := @differs stranger member '_' (by decide) rfl
    simp only [decide_eq_false apart, Bool.or_false, CodePoint.isDigit, Bool.and_eq_true, decide_eq_true_eq] at part
    omega
  obtain ⟨d, rest, front⟩ := List.exists_cons_of_ne_nil (List.ne_nil_of_mem member)
  have first : d ∈ t.withAsciiDigits := front ▸ List.mem_cons_self
  have notMinus : d ≠ CodePoint.ofChar '-' := differs first (by decide) rfl
  have notPlus : d ≠ CodePoint.ofChar '+' := differs first (by decide) rfl
  unfold toWhole?
  rw [trimBoth_eq_self notSpace]
  rw [front] at remains ⊢
  simp only [notMinus, notPlus, if_false]
  split
  · exact ⟨_, rfl⟩
  · split
    · exact ⟨_, rfl⟩
    · rw [if_pos (by simpa using remains)]
      exact ⟨_, rfl⟩

end Text

end OidcLogin
