import Mathlib.Algebra.Group.Nat.Defs
import Mathlib.Data.List.Induction
import OidcLogin.Address.Basic
import OidcLogin.Proofs.Text.Cuts

namespace OidcLogin

namespace CodePoint

variable {c : CodePoint}

theorem isAscii_of_isAlphanumeric (alphanumeric : c.isAlphanumeric = true) : c.isAscii = true := by
  simp only [isAlphanumeric, isLetter, isUpper, isLower, isDigit, Bool.or_eq_true, Bool.and_eq_true,
    decide_eq_true_eq] at alphanumeric
  simp only [isAscii, decide_eq_true_eq]
  omega

theorem isAlphanumeric_of_hexValue? (hex : c.hexValue?.isSome = true) : c.isAlphanumeric = true := by
  unfold hexValue? at hex
  split at hex
  · rename_i digit
    simp [isAlphanumeric, digit]
  · simp only [isAlphanumeric, isLetter, isUpper, isLower, Bool.or_eq_true, Bool.and_eq_true, decide_eq_true_eq]
    split at hex
    · rename_i small
      simp only [Bool.and_eq_true, decide_eq_true_eq] at small
      omega
    · split at hex
      · rename_i capital
        simp only [Bool.and_eq_true, decide_eq_true_eq] at capital
        omega
      · cases hex

theorem hexValue?_lt {d : Nat} (read : c.hexValue? = some d) : d < 16 := by
  unfold hexValue? at read
  split at read
  · rename_i digit
    simp only [isDigit, Bool.and_eq_true, decide_eq_true_eq] at digit
    cases read
    omega
  · split at read
    · rename_i small
      simp only [Bool.and_eq_true, decide_eq_true_eq] at small
      cases read
      omega
    · split at read
      · rename_i capital
        simp only [Bool.and_eq_true, decide_eq_true_eq] at capital
        cases read
        omega
      · cases read

end CodePoint

namespace Text

variable {t : Text} {n : Nat}

theorem hexValue?_concat (t : Text) (c : CodePoint) :
    hexValue? (t ++ [c]) = (hexValue? t).bind fun n => c.hexValue?.map (16 * n + ·) := by
  simp [hexValue?]

theorem hexValue?_eq_some (read : hexValue? t = some n) :
    n < 16 ^ t.length ∧ ∀ c ∈ t, c.hexValue?.isSome = true := by
  induction t using List.reverseRecOn generalizing n with
  | nil =>
    cases read
    exact ⟨Nat.one_pos, fun c impossible => absurd impossible List.not_mem_nil⟩
  | append_singleton t c ih =>
    rw [hexValue?_concat] at read
    obtain ⟨before, found, last⟩ := Option.bind_eq_some_iff.1 read
    obtain ⟨d, digit, rfl⟩ := Option.map_eq_some_iff.1 last
    obtain ⟨bound, digits⟩ := ih found
    have small := CodePoint.hexValue?_lt digit
    constructor
    · rw [List.length_append, List.length_singleton, Nat.pow_succ]
      omega
    · intro e member
      rcases List.mem_append.1 member with inside | same
      · exact digits e inside
      · rw [List.mem_singleton.1 same, digit]
        rfl

end Text

namespace Address

variable {t : Text} {c : CodePoint} {value : Nat}

theorem readOctet?_eq_some (read : readOctet? t = some value) : value ≤ 255 ∧ ∀ c ∈ t, c.isDigit = true := by
  unfold readOctet? at read
  split at read
  · cases read
  · rename_i shape
    split at read
    · cases read
    · dsimp only at read
      split at read
      · rename_i small
        cases read
        simp only [Bool.or_eq_true, Bool.not_eq_true', decide_eq_true_eq, not_or, Bool.not_eq_false] at shape
        exact ⟨small, List.all_eq_true.1 shape.1.2⟩
      · cases read

theorem readV4?_eq_some (read : readV4? t = some value) :
    value < 2 ^ 32 ∧ ∀ c ∈ t, c.isDigit = true ∨ c = CodePoint.ofChar '.' := by
  unfold readV4? at read
  split at read
  · rename_i a b c d pieces
    obtain ⟨first, one, read⟩ := Option.bind_eq_some_iff.1 read
    obtain ⟨second, two, read⟩ := Option.bind_eq_some_iff.1 read
    obtain ⟨third, three, read⟩ := Option.bind_eq_some_iff.1 read
    obtain ⟨fourth, four, read⟩ := Option.bind_eq_some_iff.1 read
    obtain ⟨oneSmall, oneDigits⟩ := readOctet?_eq_some one
    obtain ⟨twoSmall, twoDigits⟩ := readOctet?_eq_some two
    obtain ⟨threeSmall, threeDigits⟩ := readOctet?_eq_some three
    obtain ⟨fourSmall, fourDigits⟩ := readOctet?_eq_some four
    cases read
    refine ⟨by omega, ?_⟩
    intro e member
    rw [← Text.join_splitOn (CodePoint.ofChar '.') t, pieces] at member
    rcases Text.mem_join member with mark | ⟨piece, isPiece, inside⟩
    · exact .inr (List.mem_singleton.1 mark)
    · left
      simp only [List.mem_cons, List.not_mem_nil, or_false] at isPiece
      rcases isPiece with rfl | rfl | rfl | rfl
      · exact oneDigits e inside
      · exact twoDigits e inside
      · exact threeDigits e inside
      · exact fourDigits e inside
  · cases read

theorem readGroup?_eq_some (read : readGroup? t = some value) :
    value < 65536 ∧ ∀ c ∈ t, c.hexValue?.isSome = true := by
  unfold readGroup? at read
  split at read
  · cases read
  · rename_i shape
    obtain ⟨_, short⟩ := not_or.1 shape
    obtain ⟨bound, digits⟩ := Text.hexValue?_eq_some read
    have power : 16 ^ t.length ≤ 16 ^ 4 := Nat.pow_le_pow_right (by decide) (Nat.le_of_not_lt short)
    exact ⟨Nat.lt_of_lt_of_le bound power, digits⟩

def IsMark (c : CodePoint) : Prop :=
  c.hexValue?.isSome = true ∨ c = CodePoint.ofChar '.' ∨ c = CodePoint.ofChar ':'

instance (c : CodePoint) : Decidable (IsMark c) := inferInstanceAs (Decidable (_ ∨ _))

theorem IsMark.of_isDigit (digit : c.isDigit = true) : IsMark c := by
  left
  unfold CodePoint.hexValue?
  rw [if_pos digit]
  rfl

theorem IsMark.isAscii (mark : IsMark c) : c.isAscii = true := by
  rcases mark with hex | rfl | rfl
  · exact CodePoint.isAscii_of_isAlphanumeric (CodePoint.isAlphanumeric_of_hexValue? hex)
  · rfl
  · rfl

theorem readGroups?_eq_some {texts : List Text} {groups : List (Option Nat)} (read : readGroups? texts = some groups) :
    (∀ n, some n ∈ groups → n < 65536) ∧ ∀ piece ∈ texts, ∀ c ∈ piece, IsMark c := by
  fun_induction readGroups? texts generalizing groups with
  | case1 =>
    cases read
    exact ⟨nofun, nofun⟩
  | case2 last dotted =>
    obtain ⟨value, found, rfl⟩ := Option.map_eq_some_iff.1 read
    obtain ⟨bound, marks⟩ := readV4?_eq_some found
    constructor
    · intro n member
      simp only [List.mem_cons, Option.some.injEq, List.not_mem_nil, or_false] at member
      omega
    · intro piece isPiece c inside
      rw [List.mem_singleton.1 isPiece] at inside
      rcases marks c inside with digit | dot
      · exact .of_isDigit digit
      · exact .inr (.inl dot)
  | case3 last _ empty =>
    cases read
    rw [List.isEmpty_iff.1 empty]
    constructor
    · intro n member
      cases List.mem_singleton.1 member
    · intro piece isPiece c inside
      rw [List.mem_singleton.1 isPiece] at inside
      cases inside
  | case4 last =>
    obtain ⟨value, found, rfl⟩ := Option.map_eq_some_iff.1 read
    obtain ⟨bound, digits⟩ := readGroup?_eq_some found
    constructor
    · intro n member
      cases List.mem_singleton.1 member
      exact bound
    · intro piece isPiece c inside
      rw [List.mem_singleton.1 isPiece] at inside
      exact .inl (digits c inside)
  | case5 group rest _ empty ih =>
    obtain ⟨others, found, rfl⟩ := Option.map_eq_some_iff.1 read
    obtain ⟨small, marks⟩ := ih found
    rw [List.isEmpty_iff.1 empty]
    constructor
    · intro n member
      rcases List.mem_cons.1 member with impossible | later
      · cases impossible
      · exact small n later
    · intro piece isPiece c inside
      rcases List.mem_cons.1 isPiece with rfl | later
      · cases inside
      · exact marks piece later c inside
  | case6 group rest _ _ ih =>
    obtain ⟨value, found, read⟩ := Option.bind_eq_some_iff.1 read
    obtain ⟨others, told, read⟩ := Option.bind_eq_some_iff.1 read
    cases read
    obtain ⟨bound, digits⟩ := readGroup?_eq_some found
    obtain ⟨small, marks⟩ := ih told
    constructor
    · intro n member
      rcases List.mem_cons.1 member with same | later
      · cases same
        exact bound
      · exact small n later
    · intro piece isPiece c inside
      rcases List.mem_cons.1 isPiece with rfl | later
      · exact .inl (digits c inside)
      · exact marks piece later c inside

theorem mapM_id_eq_some {groups : List (Option Nat)} {filled : List Nat} :
    groups.mapM id = some filled ↔ groups = filled.map some := by
  induction groups generalizing filled with
  | nil =>
    rw [List.mapM_nil]
    constructor
    · intro same
      cases same
      rfl
    · intro same
      rw [List.map_eq_nil_iff.1 same.symm]
      rfl
  | cons group rest ih =>
    rw [List.mapM_cons]
    constructor
    · intro made
      obtain ⟨n, same, later⟩ := Option.bind_eq_some_iff.1 made
      obtain ⟨others, found, told⟩ := Option.bind_eq_some_iff.1 later
      cases same
      cases told
      rw [ih.1 found]
      rfl
    · intro same
      cases filled with
      | nil => cases same
      | cons n filled =>
        cases same
        exact Option.bind_eq_some_iff.2 ⟨n, rfl, Option.bind_eq_some_iff.2 ⟨filled, ih.2 rfl, rfl⟩⟩

theorem fillGroups?_eq_some {groups : List (Option Nat)} {filled : List Nat} (made : fillGroups? groups = some filled) :
    filled.length = 8 ∧ ∀ n ∈ filled, n = 0 ∨ some n ∈ groups := by
  have whole := List.takeWhile_append_dropWhile (p := (·.isSome)) (l := groups)
  unfold fillGroups? at made
  dsimp only at made
  split at made
  · split at made
    · rename_i eight
      have same := mapM_id_eq_some.1 made
      rw [same] at eight ⊢
      exact ⟨by simpa using eight, fun n member => .inr (List.mem_map_of_mem member)⟩
    · cases made
  · rename_i gap after rest
    rw [rest] at whole
    split at made
    · cases made
    · cases made
    · rename_i front back _ chosen
      have inside : (∀ g ∈ front, g ∈ groups) ∧ ∀ g ∈ back, g ∈ groups := by
        rw [← whole]
        split at chosen
        · split at chosen
          · cases chosen
            exact ⟨nofun, fun g member => List.mem_append_right _ (.tail _ (.tail _ member))⟩
          · cases chosen
        · cases chosen
          exact ⟨fun g member => List.mem_append_left _ member,
            fun g member => List.mem_append_right _ (.tail _ member)⟩
      obtain ⟨frontInside, backInside⟩ := inside
      have kept : ∀ g ∈ (if back = [none] then [] else back), g ∈ groups := by
        split
        · exact nofun
        · exact backInside
      generalize (if back = [none] then [] else back) = back at made kept
      split at made
      · rename_i fits
        have same := mapM_id_eq_some.1 made
        obtain ⟨_, room⟩ := Bool.and_eq_true_iff.1 fits
        have short := of_decide_eq_true room
        constructor
        · have lengths := congrArg List.length same
          simp only [List.length_append, List.length_replicate, List.length_map] at lengths
          omega
        · intro n member
          have found : some n ∈ filled.map some := List.mem_map_of_mem member
          rw [← same] at found
          rcases List.mem_append.1 found with before | last
          · rcases List.mem_append.1 before with first | zero
            · exact .inr (frontInside _ first)
            · exact .inl (Option.some.inj (List.eq_of_mem_replicate zero))
          · exact .inr (kept _ last)
      · cases made

theorem groupsValue_concat (groups : List Nat) (n : Nat) :
    groupsValue (groups ++ [n]) = 65536 * groupsValue groups + n := by
  simp [groupsValue]

theorem groupsValue_lt {groups : List Nat} (small : ∀ n ∈ groups, n < 65536) :
    groupsValue groups < 65536 ^ groups.length := by
  induction groups using List.reverseRecOn with
  | nil => exact Nat.one_pos
  | append_singleton groups n ih =>
    have before := ih fun m member => small m (List.mem_append_left _ member)
    have last := small n (List.mem_append_right _ (List.mem_singleton.2 rfl))
    rw [groupsValue_concat, List.length_append, List.length_singleton, Nat.pow_succ]
    omega

theorem readV6Value?_eq_some (read : readV6Value? t = some value) :
    value < 2 ^ 128 ∧ ∀ c ∈ t, IsMark c := by
  unfold readV6Value? at read
  dsimp only at read
  split at read
  · cases read
  · obtain ⟨groups, told, read⟩ := Option.bind_eq_some_iff.1 read
    obtain ⟨filled, made, read⟩ := Option.bind_eq_some_iff.1 read
    cases read
    obtain ⟨small, marks⟩ := readGroups?_eq_some told
    obtain ⟨eight, origin⟩ := fillGroups?_eq_some made
    have fits : ∀ n ∈ filled, n < 65536 := by
      intro n member
      rcases origin n member with rfl | given
      · decide
      · exact small n given
    have bound := groupsValue_lt fits
    rw [eight] at bound
    refine ⟨bound, fun c member => ?_⟩
    rw [← Text.join_splitOn (CodePoint.ofChar ':') t] at member
    rcases Text.mem_join member with mark | ⟨piece, isPiece, inside⟩
    · exact .inr (.inr (List.mem_singleton.1 mark))
    · exact marks piece isPiece c inside

def InRange : Address → Prop
  | .v4 value => value < 2 ^ 32
  | .v6 value _ => value < 2 ^ 128

theorem readV6?_eq_some {a : Address} (read : readV6? t = some a) :
    a.InRange ∧ ∀ c ∈ t.takeWhile (· != CodePoint.ofChar '%'), IsMark c := by
  unfold readV6? at read
  split at read
  · cases read
  · rw [← Text.cutFirst?_fst]
    split at read
    · rename_i noZone
      obtain ⟨value, found, rfl⟩ := Option.map_eq_some_iff.1 read
      rw [noZone]
      exact readV6Value?_eq_some found
    · rename_i address zone cut
      split at read
      · cases read
      · obtain ⟨value, found, rfl⟩ := Option.map_eq_some_iff.1 read
        rw [cut]
        exact readV6Value?_eq_some found

-- An address holds nothing but its marks, and a zone behind a percent sign.
theorem read?_eq_some {a : Address} (read : read? t = some a) :
    a.InRange ∧ ∀ c ∈ t.takeWhile (· != CodePoint.ofChar '%'), IsMark c := by
  unfold read? at read
  split at read
  · rename_i value found
    cases read
    obtain ⟨bound, marks⟩ := readV4?_eq_some found
    refine ⟨bound, fun c member => ?_⟩
    rcases marks c ((List.takeWhile_prefix _).subset member) with digit | dot
    · exact .of_isDigit digit
    · exact .inr (.inl dot)
  · exact readV6?_eq_some read

end Address

end OidcLogin
