import Mathlib.Algebra.Group.Int.Defs
import OidcLogin.Proofs.Text.Cuts
import OidcLogin.Proofs.Text.Numerals
import OidcLogin.Proofs.Validation.Success

namespace OidcLogin.Reader

variable {t body padding numeral digits : Text} {c : CodePoint} {n : Int} {place : Place}

def IsFill (c : CodePoint) : Prop := c = CodePoint.ofChar '0' ∨ c = CodePoint.ofChar '_'

-- Zeros that may stand in front of a number, with marks anywhere after the first of them.
inductive IsPadding : Text → Prop
  | none : IsPadding []
  | zeros {rest : Text} (fills : ∀ c ∈ rest, IsFill c) : IsPadding (CodePoint.ofChar '0' :: rest)

inductive IsNought : Text → Prop
  | none : IsNought []
  | zeros {rest : Text} (full : rest ≠ []) (all : ∀ c ∈ rest, c = CodePoint.ofChar '0') :
      IsNought (CodePoint.ofChar '.' :: rest)

-- Digits with single marks between them, no zero in front, and perhaps a fraction of zeros.
inductive Numeral : Text → Text → Prop
  | mk {written fraction digits : Text} (grouped : Text.Grouped CodePoint.isDigit written digits)
      (leading : digits.head? = some (CodePoint.ofChar '0') → digits = [CodePoint.ofChar '0'])
      (nought : IsNought fraction) : Numeral (written ++ fraction) digits

inductive Signed : Text → Bool → Text → Prop
  | minus (t : Text) : Signed (CodePoint.ofChar '-' :: t) true t
  | plus (t : Text) : Signed (CodePoint.ofChar '+' :: t) false t
  | none (t : Text) : Signed t false t

-- A whole number as it is written between white space.  The minus sign may also come after the zeros in front, and a
-- mark may follow it there; with a minus sign anywhere there is one digit less.
inductive Writes : Text → Int → Prop
  | positive {t padding numeral digits : Text} (signed : Signed t false (padding ++ numeral)) (padded : IsPadding padding)
      (writes : Numeral numeral digits) (short : digits.length ≤ 4300) : Writes t (Text.digitsValue digits)
  | negative {t padding numeral digits : Text} (signed : Signed t true (padding ++ numeral)) (padded : IsPadding padding)
      (writes : Numeral numeral digits) (short : digits.length < 4300) : Writes t (-(Text.digitsValue digits))
  | inside {t padding mark numeral digits : Text}
      (signed : Signed t false (padding ++ CodePoint.ofChar '-' :: (mark ++ numeral))) (padded : IsPadding padding)
      (full : padding ≠ []) (marked : mark = [] ∨ mark = [CodePoint.ofChar '_']) (writes : Numeral numeral digits)
      (short : digits.length < 4300) : Writes t (-(Text.digitsValue digits))

inductive IsWhole : Json → Int → Prop
  | int (n : Int) : IsWhole (.int n) n
  | bool (b : Bool) : IsWhole (.bool b) (if b then 1 else 0)
  | float {x : Binary64} {n : Int} (whole : x.toInt? = some n) (within : -2 ^ 63 < n ∧ n < 2 ^ 63) :
      IsWhole (.float x) n
  | text {t body : Text} {n : Int} (trims : Text.Trims CodePoint.isWhiteSpace t body) (writes : Writes body n) :
      IsWhole (.text t) n

structure IsPlain (digits : Text) : Prop where
  full : digits ≠ []
  isDigit : ∀ c ∈ digits, c.isDigit = true
  leading : digits.head? = some (CodePoint.ofChar '0') → digits = [CodePoint.ofChar '0']

theorem isNumeral_iff : isNumeral digits = true ↔ IsPlain digits := by
  cases digits with
  | nil =>
    constructor
    · rintro ⟨⟩
    · intro plain
      exact absurd rfl plain.full
  | cons c rest =>
    simp only [isNumeral, Bool.and_eq_true, Bool.or_eq_true, bne_iff_ne, List.all_eq_true, List.isEmpty_iff]
    constructor
    · rintro ⟨⟨first, later⟩, leading⟩
      refine ⟨List.cons_ne_nil c rest, List.forall_mem_cons.2 ⟨first, later⟩, ?_⟩
      intro zero
      cases Option.some.inj zero
      rw [leading.resolve_left fun other => other rfl]
    · intro plain
      obtain ⟨first, later⟩ := List.forall_mem_cons.1 plain.isDigit
      refine ⟨⟨first, later⟩, ?_⟩
      by_cases zero : c = CodePoint.ofChar '0'
      · subst zero
        exact .inr (List.cons.inj (plain.leading rfl)).2
      · exact .inl zero

theorem IsPlain.not_mem {c : CodePoint} (plain : IsPlain digits) (noDigit : c.isDigit = false) : c ∉ digits :=
  fun member => Text.ne_of_isDigit (plain.isDigit c member) noDigit rfl

inductive PlainInt : Text → Int → Prop
  | positive {digits : Text} (plain : IsPlain digits) : PlainInt digits (Text.digitsValue digits)
  | negative {digits : Text} (plain : IsPlain digits) :
      PlainInt (CodePoint.ofChar '-' :: digits) (-(Text.digitsValue digits))

theorem plainInt?_eq_some : plainInt? t = some n ↔ PlainInt t n := by
  unfold plainInt?
  constructor
  · intro read
    split at read
    · cases read
    · split at read
      · rename_i minus
        subst minus
        split at read
        · rename_i plain
          cases read
          exact .negative (isNumeral_iff.1 plain)
        · cases read
      · split at read
        · rename_i plain
          cases read
          exact .positive (isNumeral_iff.1 plain)
        · cases read
  · intro writes
    cases writes with
    | positive plain =>
      obtain ⟨c, rest, rfl⟩ := List.exists_cons_of_ne_nil plain.full
      have noMinus : c ≠ CodePoint.ofChar '-' := Text.ne_of_isDigit (plain.isDigit c List.mem_cons_self) rfl
      dsimp only
      rw [if_neg noMinus, if_pos (isNumeral_iff.2 plain)]
    | negative plain =>
      dsimp only
      rw [if_pos rfl, if_pos (isNumeral_iff.2 plain)]

theorem unsigned_of_signed {negative : Bool} (signed : Signed t negative body)
    (unsignedBody : body.head? ≠ some (CodePoint.ofChar '-') ∧ body.head? ≠ some (CodePoint.ofChar '+')) :
    unsigned t = (negative, body) := by
  cases signed with
  | minus => rfl
  | plus => rfl
  | none =>
    cases t with
    | nil => rfl
    | cons c rest =>
      have noMinus : c ≠ CodePoint.ofChar '-' := fun same => unsignedBody.1 (congrArg some same)
      have noPlus : c ≠ CodePoint.ofChar '+' := fun same => unsignedBody.2 (congrArg some same)
      unfold unsigned
      dsimp only
      rw [if_neg noMinus, if_neg noPlus]

theorem signed_unsigned (t : Text) : Signed t (unsigned t).1 (unsigned t).2 := by
  unfold unsigned
  split
  · exact .none []
  · split
    · rename_i minus
      subst minus
      exact .minus _
    · split
      · rename_i plus
        subst plus
        exact .plus _
      · exact .none _

-- What may be left when the zeros in front are gone: it has no zero in front any more, unless that is its last digit.
inductive Leads : Text → Prop
  | zero : Leads [CodePoint.ofChar '0']
  | point (rest : Text) : Leads (CodePoint.ofChar '0' :: CodePoint.ofChar '.' :: rest)
  | other {c : CodePoint} (rest : Text) (notZero : c ≠ CodePoint.ofChar '0')
      (first : c.isDigit = true ∨ c = CodePoint.ofChar '-') : Leads (c :: rest)

theorem Leads.ne_nil (leads : Leads t) : t ≠ [] := by
  cases leads with
  | zero | point _ | other _ _ _ => exact List.cons_ne_nil _ _

theorem Leads.not_fill {c : CodePoint} {rest : Text} (leads : Leads (c :: rest)) (fill : IsFill c) :
    c = CodePoint.ofChar '0' ∧ ∀ d later, rest = d :: later → d = CodePoint.ofChar '.' := by
  cases leads with
  | zero =>
    refine ⟨rfl, ?_⟩
    rintro d later ⟨⟩
  | point =>
    refine ⟨rfl, ?_⟩
    rintro d later ⟨⟩
    rfl
  | other _ notZero first =>
    cases fill.resolve_left notZero
    rcases first with digit | minus
    · cases digit
    · cases minus

def Fills (t body : Text) : Prop := ∃ run, (∀ c ∈ run, IsFill c) ∧ t = run ++ body

theorem fills_nil : Fills [] body ↔ body = [] := by
  constructor
  · rintro ⟨run, _, split⟩
    exact (List.append_eq_nil_iff.1 split.symm).2
  · rintro rfl
    exact ⟨[], List.forall_mem_nil _, rfl⟩

theorem fills_cons {c : CodePoint} : Fills (c :: t) body ↔ body = c :: t ∨ (IsFill c ∧ Fills t body) := by
  constructor
  · rintro ⟨run, fills, split⟩
    cases run with
    | nil => exact .inl split.symm
    | cons d run =>
      obtain ⟨rfl, later⟩ := List.cons.inj split
      obtain ⟨first, others⟩ := List.forall_mem_cons.1 fills
      exact .inr ⟨first, run, others, later⟩
  · rintro (rfl | ⟨fill, run, fills, rfl⟩)
    · exact ⟨[], List.forall_mem_nil _, rfl⟩
    · exact ⟨c :: run, List.forall_mem_cons.2 ⟨fill, fills⟩, rfl⟩

theorem IsFill.not_point (fill : IsFill c) : c ≠ CodePoint.ofChar '.' := by
  rintro rfl
  rcases fill with zero | mark
  · cases zero
  · cases mark

theorem afterZeros?_of_fill {last : CodePoint} (fill : IsFill c) : afterZeros? last (c :: t) = afterZeros? c t := by
  have mark : c = CodePoint.ofChar '0' ∨ c = CodePoint.ofChar '_' := fill
  refine if_pos ?_
  simpa only [Bool.or_eq_true, decide_eq_true_eq] using mark

theorem afterZeros?_of_end {last : CodePoint} (other : ¬ IsFill c) (leads : Leads body)
    (kept : body = last :: c :: t → c = CodePoint.ofChar '.') :
    afterZeros? last (c :: t) = some body ↔ body = last :: c :: t ∨ body = c :: t := by
  have noMark : ¬(c = CodePoint.ofChar '0' ∨ c = CodePoint.ofChar '_') := other
  unfold afterZeros?
  rw [if_neg (by simpa only [Bool.or_eq_true, decide_eq_true_eq] using noMark)]
  by_cases point : c = CodePoint.ofChar '.'
  · have starts : body ≠ c :: t := by
      rintro rfl
      subst point
      rcases leads with _ | _ | ⟨_, _, first | minus⟩
      · cases first
      · cases minus
    rw [if_pos point, Option.some.injEq, or_iff_left starts, eq_comm]
  · rw [if_neg point, or_iff_right fun same => point (kept same)]
    by_cases first : (c.isDigit || decide (c = CodePoint.ofChar '-')) = true
    · rw [if_pos first, Option.some.injEq, eq_comm]
    · rw [if_neg first]
      constructor
      · rintro ⟨⟩
      · rintro rfl
        rw [Bool.or_eq_true, decide_eq_true_eq] at first
        cases leads with
        | zero | point => exact absurd (.inl rfl) other
        | other _ _ starts => exact absurd starts first

theorem afterZeros?_eq_some {last : CodePoint} (leads : Leads body) (fill : IsFill last) :
    afterZeros? last t = some body ↔ Fills (last :: t) body := by
  induction t generalizing last with
  | nil =>
    rw [fills_cons, fills_nil, or_iff_left fun none => leads.ne_nil none.2]
    simp only [afterZeros?, Option.some.injEq, eq_comm]
  | cons c rest ih =>
    have kept : body = last :: c :: rest → c = CodePoint.ofChar '.' := by
      rintro rfl
      exact (leads.not_fill fill).2 c rest rfl
    rw [fills_cons, and_iff_right fill]
    by_cases isFill : IsFill c
    · rw [afterZeros?_of_fill isFill, ih isFill]
      exact (or_iff_right fun same => isFill.not_point (kept same)).symm
    · have stops : ¬(IsFill c ∧ Fills rest body) := fun filled => isFill filled.1
      rw [afterZeros?_of_end isFill leads kept, fills_cons, or_iff_left stops]

theorem IsPadding.isFill (padded : IsPadding padding) : ∀ c ∈ padding, IsFill c := by
  cases padded with
  | none => exact List.forall_mem_nil _
  | zeros fills => exact List.forall_mem_cons.2 ⟨.inl rfl, fills⟩

theorem withoutZeros?_eq_some (leads : Leads body) :
    withoutZeros? t = some body ↔ ∃ padding, IsPadding padding ∧ t = padding ++ body := by
  unfold withoutZeros?
  cases t with
  | nil =>
    constructor
    · rintro ⟨⟩
    · rintro ⟨padding, _, split⟩
      exact absurd (List.append_eq_nil_iff.1 split.symm).2 leads.ne_nil
  | cons c rest =>
    dsimp only
    by_cases zero : c = CodePoint.ofChar '0'
    · subst zero
      rw [if_pos rfl, afterZeros?_eq_some leads (.inl rfl)]
      constructor
      · rintro ⟨run, fills, split⟩
        refine ⟨run, ?_, split⟩
        cases run with
        | nil => exact .none
        | cons d run =>
          cases (List.cons.inj split).1
          exact .zeros (List.forall_mem_cons.1 fills).2
      · rintro ⟨padding, padded, split⟩
        exact ⟨padding, padded.isFill, split⟩
    · rw [if_neg zero, Option.some.injEq]
      constructor
      · rintro rfl
        exact ⟨[], .none, rfl⟩
      · rintro ⟨padding, padded, split⟩
        cases padded with
        | none => exact split
        | zeros _ => exact absurd (List.cons.inj split).1 zero

theorem withoutFraction_eq {whole : Text} (noPoint : CodePoint.ofChar '.' ∉ whole) :
    withoutFraction t = whole ↔ ∃ fraction, IsNought fraction ∧ t = whole ++ fraction := by
  unfold withoutFraction
  constructor
  · intro same
    split at same
    · exact ⟨[], .none, by rw [same, List.append_nil]⟩
    · rename_i front fraction cut
      obtain ⟨rfl, _⟩ := Text.cutFirst?_eq_some.1 cut
      split at same
      · rename_i zeros
        simp only [Bool.and_eq_true, Bool.not_eq_true', List.isEmpty_eq_false_iff, List.all_eq_true,
          decide_eq_true_eq] at zeros
        exact ⟨_, .zeros zeros.1 zeros.2, same ▸ rfl⟩
      · exact absurd (same ▸ List.mem_append_right front List.mem_cons_self) noPoint
  · rintro ⟨fraction, nought, rfl⟩
    cases nought with
    | none =>
      rw [List.append_nil, Text.cutFirst?_eq_none.2 noPoint]
    | zeros full all =>
      rw [Text.cutFirst?_eq_some.2 ⟨rfl, noPoint⟩]
      dsimp only
      rw [if_pos]
      simpa only [Bool.and_eq_true, Bool.not_eq_true', List.isEmpty_eq_false_iff, List.all_eq_true,
        decide_eq_true_eq] using And.intro full all

def isUnmarked (c : CodePoint) : Bool := c ≠ CodePoint.ofChar '_'

theorem unmarked_eq {plain : Text} (full : plain ≠ []) (noMark : CodePoint.ofChar '_' ∉ plain) :
    unmarked t = plain ↔ Text.Grouped isUnmarked t plain := by
  have grouping : unmarked? t = t.ungrouped? isUnmarked := rfl
  have unmarks : ∀ c ∈ plain, isUnmarked c = true := by
    intro c member
    refine decide_eq_true ?_
    rintro rfl
    exact noMark member
  rw [← Text.ungrouped?_eq_some rfl, ← grouping]
  unfold unmarked
  constructor
  · intro same
    cases found : unmarked? t with
    | some parts =>
      rw [found] at same
      rw [← same]
      rfl
    | none =>
      rw [found] at same
      subst same
      cases found.symm.trans ((Text.ungrouped?_eq_some rfl).2 (Text.grouped_self full unmarks))
  · intro found
    rw [found]
    rfl

theorem unmarked_withoutFraction_eq {plain : Text} (full : plain ≠ []) (noMark : CodePoint.ofChar '_' ∉ plain)
    (noPoint : CodePoint.ofChar '.' ∉ plain) :
    unmarked (withoutFraction t) = plain
      ↔ ∃ written fraction, Text.Grouped isUnmarked written plain ∧ IsNought fraction ∧ t = written ++ fraction := by
  have free {written : Text} (grouped : Text.Grouped isUnmarked written plain) : CodePoint.ofChar '.' ∉ written := by
    intro member
    rcases grouped.mem member with mark | inside
    · cases mark
    · exact noPoint inside
  rw [unmarked_eq full noMark]
  constructor
  · intro grouped
    obtain ⟨fraction, nought, split⟩ := (withoutFraction_eq (free grouped)).1 rfl
    exact ⟨_, fraction, grouped, nought, split⟩
  · rintro ⟨written, fraction, grouped, nought, split⟩
    rwa [(withoutFraction_eq (free grouped)).2 ⟨fraction, nought, split⟩]

theorem isUnmarked_of_isDigit {c : CodePoint} (digit : c.isDigit = true) : isUnmarked c = true :=
  decide_eq_true (Text.ne_of_isDigit digit rfl)

theorem Numeral.isPlain (writes : Numeral numeral digits) : IsPlain digits := by
  cases writes with
  | mk grouped leading _ => exact ⟨grouped.parts_ne_nil, grouped.part_of_mem, leading⟩

theorem unmarked_withoutFraction_eq_digits (plain : IsPlain digits) :
    unmarked (withoutFraction t) = digits ↔ Numeral t digits := by
  rw [unmarked_withoutFraction_eq plain.full (plain.not_mem rfl) (plain.not_mem rfl)]
  constructor
  · rintro ⟨written, fraction, grouped, nought, rfl⟩
    exact .mk (grouped.of_mem plain.isDigit) plain.leading nought
  · intro writes
    cases writes with
    | mk grouped leading nought =>
      exact ⟨_, _, grouped.of_mem fun c member => isUnmarked_of_isDigit (grouped.part_of_mem c member), nought, rfl⟩

theorem unmarked_withoutFraction_eq_minus (plain : IsPlain digits) :
    unmarked (withoutFraction t) = CodePoint.ofChar '-' :: digits
      ↔ ∃ mark numeral, (mark = [] ∨ mark = [CodePoint.ofChar '_']) ∧ Numeral numeral digits
        ∧ t = CodePoint.ofChar '-' :: (mark ++ numeral) := by
  have free {c : CodePoint} (noDigit : c.isDigit = false) (noMinus : c ≠ CodePoint.ofChar '-') :
      c ∉ CodePoint.ofChar '-' :: digits := by
    intro member
    exact plain.not_mem noDigit ((List.mem_cons.1 member).resolve_left noMinus)
  rw [unmarked_withoutFraction_eq (List.cons_ne_nil _ _) (free rfl (by decide)) (free rfl (by decide))]
  constructor
  · rintro ⟨written, fraction, grouped, nought, rfl⟩
    cases grouped with
    | last _ => exact absurd rfl plain.full
    | next _ rest => exact ⟨[], _, .inl rfl, .mk (rest.of_mem plain.isDigit) plain.leading nought, rfl⟩
    | apart _ rest => exact ⟨_, _, .inr rfl, .mk (rest.of_mem plain.isDigit) plain.leading nought, rfl⟩
  · rintro ⟨mark, numeral, marked, writes, rfl⟩
    cases writes with
    | mk grouped leading nought =>
      have rest := grouped.of_mem fun c member => isUnmarked_of_isDigit (grouped.part_of_mem c member)
      rcases marked with rfl | rfl
      · exact ⟨_, _, .next rfl rest, nought, rfl⟩
      · exact ⟨_, _, .apart rfl rest, nought, rfl⟩

theorem Numeral.leads (writes : Numeral numeral digits) : Leads numeral := by
  cases writes with
  | mk grouped leading nought =>
    obtain ⟨c, rest, rfl⟩ := grouped.exists_cons
    by_cases zero : c = CodePoint.ofChar '0'
    · subst zero
      have single : rest = [] := by
        cases grouped with
        | last _ => rfl
        | next _ later | apart _ later => exact absurd (List.cons.inj (leading rfl)).2 later.parts_ne_nil
      subst single
      cases nought with
      | none => exact .zero
      | zeros _ _ => exact .point _
    · exact .other _ zero (.inl grouped.part_head)

theorem not_sign_of_digit (starts : ∃ c rest, t = c :: rest ∧ c.isDigit = true) :
    t.head? ≠ some (CodePoint.ofChar '-') ∧ t.head? ≠ some (CodePoint.ofChar '+') := by
  obtain ⟨c, rest, rfl, digit⟩ := starts
  refine ⟨fun same => ?_, fun same => ?_⟩
  · exact Text.ne_of_isDigit digit rfl (Option.some.inj same)
  · exact Text.ne_of_isDigit digit rfl (Option.some.inj same)

theorem IsPadding.digit_of_full (padded : IsPadding padding) (full : padding ≠ []) (body : Text) :
    ∃ c rest, padding ++ body = c :: rest ∧ c.isDigit = true := by
  cases padded with
  | none => exact absurd rfl full
  | zeros _ => exact ⟨_, _, rfl, rfl⟩

theorem IsPadding.digit_of_numeral (padded : IsPadding padding) (writes : Numeral numeral digits) :
    ∃ c rest, padding ++ numeral = c :: rest ∧ c.isDigit = true := by
  cases padded with
  | none =>
    cases writes with
    | mk grouped _ _ =>
      obtain ⟨c, rest, rfl⟩ := grouped.exists_cons
      exact ⟨c, _, rfl, grouped.part_head⟩
  | zeros _ => exact ⟨_, _, rfl, rfl⟩

theorem exists_core_of_cleaned? {plain : Text} (read : cleaned? t = some plain) :
    ∃ body core, body.head? ≠ some (CodePoint.ofChar '-') ∧ withoutZeros? body = some core
      ∧ ((Signed t false body ∧ unmarked (withoutFraction core) = plain)
        ∨ (Signed t true body ∧ CodePoint.ofChar '-' :: unmarked (withoutFraction core) = plain)) := by
  have signed := signed_unsigned t
  unfold cleaned? at read
  revert read signed
  rcases unsigned t with ⟨negative, body⟩
  dsimp only
  intro read signed
  split at read
  · cases read
  · rename_i noMinus
    obtain ⟨core, found, read⟩ := Option.bind_eq_some_iff.1 read
    refine ⟨body, core, noMinus, found, ?_⟩
    cases negative with
    | false => exact .inl ⟨signed, Option.some.inj read⟩
    | true =>
      rw [Bool.not_true, if_neg Bool.false_ne_true] at read
      split at read
      · cases read
      · exact .inr ⟨signed, Option.some.inj read⟩

theorem cleaned?_of_signed {negative : Bool} {core : Text} (signed : Signed t negative body)
    (unsignedBody : body.head? ≠ some (CodePoint.ofChar '-') ∧ body.head? ≠ some (CodePoint.ofChar '+'))
    (found : withoutZeros? body = some core) :
    cleaned? t =
      if !negative then some (unmarked (withoutFraction core))
      else if (unmarked (withoutFraction core)).head? = some (CodePoint.ofChar '-') then none
      else some (CodePoint.ofChar '-' :: unmarked (withoutFraction core)) := by
  unfold cleaned?
  rw [unsigned_of_signed signed unsignedBody]
  dsimp only
  rw [if_neg unsignedBody.1, found, Option.bind_some]

theorem cleaned?_eq_some_digits (plain : IsPlain digits) :
    cleaned? t = some digits
      ↔ ∃ padding numeral, Signed t false (padding ++ numeral) ∧ IsPadding padding ∧ Numeral numeral digits := by
  constructor
  · intro read
    obtain ⟨body, core, _, found, ⟨signed, same⟩ | ⟨_, same⟩⟩ := exists_core_of_cleaned? read
    · have writes := (unmarked_withoutFraction_eq_digits plain).1 same
      obtain ⟨padding, padded, rfl⟩ := (withoutZeros?_eq_some writes.leads).1 found
      exact ⟨padding, core, signed, padded, writes⟩
    · exact absurd (same ▸ List.mem_cons_self) (plain.not_mem rfl)
  · rintro ⟨padding, numeral, signed, padded, writes⟩
    have found := (withoutZeros?_eq_some writes.leads).2 ⟨padding, padded, rfl⟩
    rw [cleaned?_of_signed signed (not_sign_of_digit (padded.digit_of_numeral writes)) found,
      (unmarked_withoutFraction_eq_digits plain).2 writes]
    rfl

theorem cleaned?_eq_some_minus (plain : IsPlain digits) :
    cleaned? t = some (CodePoint.ofChar '-' :: digits)
      ↔ (∃ padding numeral, Signed t true (padding ++ numeral) ∧ IsPadding padding ∧ Numeral numeral digits)
        ∨ ∃ padding mark numeral, Signed t false (padding ++ CodePoint.ofChar '-' :: (mark ++ numeral))
            ∧ IsPadding padding ∧ padding ≠ [] ∧ (mark = [] ∨ mark = [CodePoint.ofChar '_'])
            ∧ Numeral numeral digits := by
  have leadsMinus (rest : Text) : Leads (CodePoint.ofChar '-' :: rest) := .other rest (by decide) (.inr rfl)
  constructor
  · intro read
    obtain ⟨body, core, noMinus, found, ⟨signed, same⟩ | ⟨signed, same⟩⟩ := exists_core_of_cleaned? read
    · obtain ⟨mark, numeral, marked, writes, rfl⟩ := (unmarked_withoutFraction_eq_minus plain).1 same
      obtain ⟨padding, padded, rfl⟩ := (withoutZeros?_eq_some (leadsMinus _)).1 found
      refine .inr ⟨padding, mark, numeral, signed, padded, ?_, marked, writes⟩
      rintro rfl
      exact noMinus rfl
    · have writes := (unmarked_withoutFraction_eq_digits plain).1 (List.cons.inj same).2
      obtain ⟨padding, padded, rfl⟩ := (withoutZeros?_eq_some writes.leads).1 found
      exact .inl ⟨padding, core, signed, padded, writes⟩
  · rintro (⟨padding, numeral, signed, padded, writes⟩ | ⟨padding, mark, numeral, signed, padded, full, marked, writes⟩)
    · have noMinus : digits.head? ≠ some (CodePoint.ofChar '-') := fun same =>
        plain.not_mem rfl (List.mem_of_head? same)
      have found := (withoutZeros?_eq_some writes.leads).2 ⟨padding, padded, rfl⟩
      rw [cleaned?_of_signed signed (not_sign_of_digit (padded.digit_of_numeral writes)) found,
        (unmarked_withoutFraction_eq_digits plain).2 writes, Bool.not_true, if_neg Bool.false_ne_true, if_neg noMinus]
    · have found := (withoutZeros?_eq_some (leadsMinus (mark ++ numeral))).2 ⟨padding, padded, rfl⟩
      rw [cleaned?_of_signed signed (not_sign_of_digit (padded.digit_of_full full _)) found,
        (unmarked_withoutFraction_eq_minus plain).2 ⟨mark, numeral, marked, writes, rfl⟩]
      rfl

theorem cleaned?_of_plainInt (plain : PlainInt t n) : cleaned? t = some t := by
  have self {digits : Text} (plain : IsPlain digits) : Numeral digits digits := by
    have whole : Numeral (digits ++ []) digits := .mk (Text.grouped_self plain.full plain.isDigit) plain.leading .none
    rwa [List.append_nil] at whole
  cases plain with
  | positive plain => exact (cleaned?_eq_some_digits plain).2 ⟨[], t, .none t, .none, self plain⟩
  | negative plain => exact (cleaned?_eq_some_minus plain).2 (.inl ⟨[], _, .minus _, .none, self plain⟩)

theorem writes_iff :
    Writes t n ↔ ∃ plain : Text, cleaned? t = some plain ∧ plain.length ≤ 4300 ∧ PlainInt plain n := by
  constructor
  · intro writes
    cases writes with
    | positive signed padded writes short =>
      have found := (cleaned?_eq_some_digits writes.isPlain).2 ⟨_, _, signed, padded, writes⟩
      exact ⟨_, found, short, .positive writes.isPlain⟩
    | negative signed padded writes short =>
      have found := (cleaned?_eq_some_minus writes.isPlain).2 (.inl ⟨_, _, signed, padded, writes⟩)
      exact ⟨_, found, short, .negative writes.isPlain⟩
    | inside signed padded full marked writes short =>
      have found := (cleaned?_eq_some_minus writes.isPlain).2 (.inr ⟨_, _, _, signed, padded, full, marked, writes⟩)
      exact ⟨_, found, short, .negative writes.isPlain⟩
  · rintro ⟨plain, found, short, isPlain⟩
    cases isPlain with
    | positive isPlain =>
      obtain ⟨_, _, signed, padded, writes⟩ := (cleaned?_eq_some_digits isPlain).1 found
      exact .positive signed padded writes short
    | negative isPlain =>
      rcases (cleaned?_eq_some_minus isPlain).1 found with ⟨_, _, signed, padded, writes⟩ | inside
      · exact .negative signed padded writes short
      · obtain ⟨_, _, _, signed, padded, full, marked, writes⟩ := inside
        exact .inside signed padded full marked writes short

theorem intOfText_eq_ok :
    intOfText place t = .ok n ↔ ∃ body, Text.Trims CodePoint.isWhiteSpace t body ∧ Writes body n := by
  have short {plain : Text} : isShort plain = true ↔ plain.length ≤ 4300 := decide_eq_true_iff
  simp only [← Text.trimBoth_eq_iff, exists_eq_left', writes_iff]
  unfold intOfText
  generalize t.trimBoth CodePoint.isWhiteSpace = body
  dsimp only
  cases direct : plainInt? body with
  | some m =>
    simp only [cleaned?_of_plainInt (plainInt?_eq_some.1 direct), Option.some.injEq, exists_eq_left', ← short,
      ← plainInt?_eq_some, direct]
    cases isShort body with
    | true => simp
    | false => simp [Checked.refuse]
  | none =>
    have refusal : (Checked.refuse place .intText : Checked Int) ≠ .ok n := by rintro ⟨⟩
    cases found : cleaned? body with
    | none =>
      simp only [reduceCtorEq, false_and, exists_false, iff_false]
      exact refusal
    | some plain =>
      simp only [Option.some.injEq, exists_eq_left', ← short, ← plainInt?_eq_some, Option.filter_some]
      cases isShort plain with
      | false =>
        simp only [Bool.false_eq_true, false_and, iff_false]
        exact refusal
      | true =>
        simp only [if_true, Option.bind_some, true_and]
        cases plainInt? plain with
        | none => exact iff_of_false refusal (by rintro ⟨⟩)
        | some m => simp only [Checked.ok.injEq, Option.some.injEq]

theorem isWithinWord_iff : isWithinWord n = true ↔ -2 ^ 63 < n ∧ n < 2 ^ 63 := by
  have power : Int.pow 2 63 = 2 ^ 63 := rfl
  simp only [isWithinWord, fitsWord, power, Bool.and_eq_true, decide_eq_true_eq, bne_iff_ne]
  omega

theorem intOfFloat_eq_ok {x : Binary64} :
    intOfFloat place x = .ok n ↔ x.toInt? = some n ∧ -2 ^ 63 < n ∧ n < 2 ^ 63 := by
  rw [← isWithinWord_iff]
  unfold intOfFloat
  cases x with
  | finite negative mantissa exponent =>
    have finite : (!(Binary64.finite negative mantissa exponent).isFinite) = false := rfl
    rw [finite, if_neg Bool.false_ne_true]
    cases Binary64.toInt? (.finite negative mantissa exponent) with
    | none => simp [Checked.refuse]
    | some k =>
      dsimp only
      by_cases within : isWithinWord k = true
      · rw [if_pos within]
        constructor
        · rintro ⟨⟩
          exact ⟨rfl, within⟩
        · rintro ⟨⟨⟩, _⟩
          rfl
      · rw [if_neg within]
        constructor
        · rintro ⟨⟩
        · rintro ⟨⟨⟩, other⟩
          exact absurd other within
  | infinite _ | nan => simp [Binary64.isFinite, Binary64.toInt?, Checked.refuse]

theorem int_eq_ok {given : Json} : int place given = .ok n ↔ IsWhole given n := by
  constructor
  · intro read
    cases given with
    | int k =>
      cases read
      exact .int _
    | bool b =>
      cases read
      exact .bool b
    | float x =>
      obtain ⟨whole, within⟩ := intOfFloat_eq_ok.1 read
      exact .float whole within
    | text t =>
      obtain ⟨body, trims, writes⟩ := intOfText_eq_ok.1 read
      exact .text trims writes
    | null | list _ | object _ => cases read
  · intro whole
    cases whole with
    | int | bool => rfl
    | float whole within => exact intOfFloat_eq_ok.2 ⟨whole, within⟩
    | text trims writes => exact intOfText_eq_ok.2 ⟨_, trims, writes⟩

end OidcLogin.Reader
