import Mathlib.Data.List.TakeWhile
import OidcLogin.HostName.Basic
import OidcLogin.Proofs.Address.Reading
import OidcLogin.Proofs.Validation.Success

namespace OidcLogin

def CodePoint.IsNameMark (c : CodePoint) : Prop := c.isAlphanumeric = true ∨ c = CodePoint.ofChar '-'

instance (c : CodePoint) : Decidable c.IsNameMark := inferInstanceAs (Decidable (_ ∨ _))

theorem CodePoint.isNameMark_of_toLower {c : CodePoint} (small : c.toLower.IsNameMark) : c.IsNameMark := by
  unfold toLower at small
  split at small
  · rename_i upper
    refine .inl ?_
    simp [isAlphanumeric, isLetter, upper]
  · exact small

namespace Punycode

variable {bias k n basic : Nat} {label : Text} {c : CodePoint}

theorem isAlphanumeric_digit : ∀ n < 36, (digit n).isAlphanumeric = true := by decide

theorem isAlphanumeric_of_mem_writeNumber (member : c ∈ writeNumber bias k n) : c.isAlphanumeric = true := by
  have bounds := threshold_bounds k bias
  fun_induction writeNumber bias k n with
  | case1 k n t small =>
    rw [List.mem_singleton.1 member]
    exact isAlphanumeric_digit n (by omega)
  | case2 k n t large ih =>
    rcases List.mem_cons.1 member with rfl | later
    · have rest : (n - t) % (36 - t) < 36 - t := Nat.mod_lt _ (by omega)
      exact isAlphanumeric_digit _ (by omega)
    · exact ih later (threshold_bounds _ _)

theorem mem_pass {p : Progress} {values : List Nat} (member : c ∈ (pass basic n p values).written) :
    c ∈ p.written ∨ c.isAlphanumeric = true := by
  induction values generalizing p with
  | nil => exact .inl member
  | cons value values ih =>
    unfold pass at member
    split at member
    · exact ih (p := { p with delta := p.delta + 1 }) member
    · split at member
      · rcases ih member with before | new
        · exact (List.mem_append.1 before).imp_right isAlphanumeric_of_mem_writeNumber
        · exact .inr new
      · exact ih member

theorem mem_passes {p : Progress} {values order : List Nat} (member : c ∈ passes values basic order n p) :
    c ∈ p.written ∨ c.isAlphanumeric = true := by
  induction order generalizing n p with
  | nil => exact .inl member
  | cons next order ih =>
    rcases ih member with before | new
    · exact mem_pass (p := { p with delta := p.delta + (next - n) * (p.done + 1) }) before
    · exact .inr new

theorem mem_encode (member : c ∈ encode label) :
    (c ∈ label ∧ c.isAscii = true) ∨ c.IsNameMark := by
  unfold encode at member
  rcases List.mem_append.1 member with lead | number
  · split at lead
    · cases lead
    · rcases List.mem_append.1 lead with basic | hyphen
      · exact .inl (List.mem_filter.1 basic)
      · exact .inr (.inr (List.mem_singleton.1 hyphen))
  · rcases mem_passes number with none | digit
    · cases none
    · exact .inr (.inl digit)

theorem encode_of_isAscii (ascii : label.isAscii = true) (full : label ≠ []) :
    encode label = label ++ [CodePoint.ofChar '-'] := by
  have all : label.filter CodePoint.isAscii = label := List.filter_eq_self.2 (List.all_eq_true.1 ascii)
  have none : beyondAscii (label.map (·.val)) = [] := by
    have absent : (label.map (·.val)).filter (128 ≤ ·) = [] := by
      rw [List.filter_eq_nil_iff]
      intro value member
      obtain ⟨c, inside, rfl⟩ := List.mem_map.1 member
      have small := List.all_eq_true.1 ascii c inside
      simp only [CodePoint.isAscii, decide_eq_true_eq] at small ⊢
      omega
    unfold beyondAscii
    rw [absent]
    simp
  have some : label.isEmpty = false := by simpa using full
  unfold encode
  dsimp only
  rw [all, none, some]
  simp [passes]

theorem insertions?_nil (n place bias : Nat) (label : Text) : insertions? n place bias label [] = some label := by
  rw [insertions?]
  rfl

theorem insertions?_of_number {n place bias delta : Nat} {label numbers : Text}
    (read : readNumber? bias 36 1 0 numbers = some (delta, []))
    (valid : n + (place + delta) / (label.length + 1) < 0x110000) :
    insertions? n place bias label numbers
      = some (label.take ((place + delta) % (label.length + 1))
        ++ CodePoint.ofNat (n + (place + delta) / (label.length + 1))
          :: label.drop ((place + delta) % (label.length + 1))) := by
  have full : numbers.isEmpty = false := by
    cases numbers with
    | nil => cases read
    | cons _ _ => rfl
  rw [insertions?, full, if_neg Bool.false_ne_true]
  split
  · rename_i none
    cases none.symm.trans read
  · rename_i found
    cases found.symm.trans read
    dsimp only
    rw [if_pos valid, insertions?_nil]

end Punycode

namespace HostName

variable {host label letters t : Text} {c : CodePoint}

def MayStand (c : CodePoint) : Prop := isLetter c = true ∨ isJoiner c = true ∨ isContextual c = true

theorem first_lettersBelow0x800 :
    ∀ run ∈ lettersBelow0x800, run = (0x2D, 0x2D) ∨ run = (0x30, 0x39) ∨ run = (0x61, 0x7A) ∨ 0x80 ≤ run.1 := by
  decide +kernel

theorem isNameMark_of_mayStand (stands : MayStand c) (ascii : c.isAscii = true) : c.IsNameMark := by
  have small : c.val < 0x80 := by simpa [CodePoint.isAscii] using ascii
  rcases stands with letter | joiner | contextual
  · unfold isLetter at letter
    rw [if_pos (by omega)] at letter
    obtain ⟨run, isRun, inside⟩ := List.any_eq_true.1 letter
    simp only [Bool.and_eq_true, decide_eq_true_eq] at inside
    rcases first_lettersBelow0x800 run isRun with rfl | rfl | rfl | beyond
    · exact .inr (CodePoint.ext (by change c.val = 0x2D; omega))
    · refine .inl ?_
      simp [CodePoint.isAlphanumeric, CodePoint.isDigit, inside]
    · refine .inl ?_
      simp [CodePoint.isAlphanumeric, CodePoint.isLetter, CodePoint.isLower, inside]
    · omega
  · simp only [isJoiner, Bool.or_eq_true, decide_eq_true_eq] at joiner
    omega
  · simp only [isContextual, isArabicDigit, isPersianDigit, Bool.or_eq_true, Bool.and_eq_true,
      decide_eq_true_eq] at contextual
    omega

theorem mayStand_of_checkCodePoints {before after : Text} (passed : checkCodePoints label before after = .ok ()) :
    ∀ c ∈ after, MayStand c := by
  induction after generalizing before with
  | nil => exact nofun
  | cons d after ih =>
    unfold checkCodePoints at passed
    dsimp only at passed
    have both : MayStand d ∧ ∀ c ∈ after, MayStand c := by
      split at passed
      · rename_i letter
        exact ⟨.inl letter, ih passed⟩
      · split at passed
        · rename_i joiner
          split at passed
          · cases passed
          · split at passed
            · exact ⟨.inr (.inl joiner), ih passed⟩
            · cases passed
        · split at passed
          · rename_i contextual
            split at passed
            · exact ⟨.inr (.inr contextual), ih passed⟩
            · cases passed
          · cases passed
    exact List.forall_mem_cons.2 both

theorem mayStand_of_checkLabel (passed : checkLabel label = .ok ()) : ∀ c ∈ label, MayStand c := by
  unfold checkLabel at passed
  dsimp only at passed
  iterate 6
    split at passed
    · cases passed
  cases points : checkCodePoints label [] label with
  | error fault =>
    rw [points] at passed
    cases passed
  | ok _ => exact mayStand_of_checkCodePoints points

-- Letters of a label without the mark are the label's own; others are told by the code behind the mark.
theorem labelLetters_eq_ok (read : labelLetters label = .ok letters) :
    (∀ c ∈ letters, MayStand c)
      ∧ (label.lower.startsWith asciiMark = false ∧ letters = label.lower
        ∨ ∃ code, label.lower = asciiMark ++ code ∧ code ≠ []
            ∧ code.getLast? ≠ some (CodePoint.ofChar '-') ∧ Punycode.encode letters = code) := by
  unfold labelLetters at read
  dsimp only at read
  split at read
  · rename_i marked
    obtain ⟨code, split⟩ := List.isPrefixOf_iff_prefix.1 marked
    rw [← split, List.drop_left] at read
    split at read
    · cases read
    · rename_i full
      split at read
      · cases read
      · rename_i noHyphen
        split at read
        · split at read
          · cases read
          · rename_i passed
            split at read
            · rename_i same
              cases read
              exact ⟨mayStand_of_checkLabel passed, .inr ⟨code, split.symm, by simpa using full, noHyphen, same⟩⟩
            · cases read
        · cases read
  · rename_i unmarked
    obtain ⟨_, passed, read⟩ := except_map_eq_ok.1 read
    cases read
    exact ⟨mayStand_of_checkLabel passed, .inl ⟨by simpa using unmarked, rfl⟩⟩

theorem isNameMark_of_mem_marked (stand : ∀ c ∈ letters, MayStand c)
    (member : c ∈ asciiMark ++ Punycode.encode letters) :
    c.IsNameMark := by
  rcases List.mem_append.1 member with mark | code
  · have all : ∀ d ∈ asciiMark, d.IsNameMark := by decide
    exact all c mark
  · rcases Punycode.mem_encode code with ⟨inside, ascii⟩ | mark
    · exact isNameMark_of_mayStand (stand c inside) ascii
    · exact mark

theorem isAscii_toLower (ascii : c.isAscii = true) : c.toLower.isAscii = true := by
  unfold CodePoint.toLower
  split
  · rename_i upper
    simp only [CodePoint.isUpper, Bool.and_eq_true, decide_eq_true_eq] at upper
    simp only [CodePoint.isAscii, decide_eq_true_eq]
    rw [CodePoint.val_ofNat (by omega)]
    omega
  · exact ascii

theorem isNameMark_of_labelAscii (written : labelAscii label = .ok t) : ∀ c ∈ t, c.IsNameMark := by
  unfold labelAscii at written
  dsimp only at written
  split at written
  · cases written
  · rename_i ascii told
    split at written
    · cases written
    · cases written
      split at told
      · rename_i plain
        obtain ⟨letters, read, told⟩ := except_map_eq_ok.1 told
        cases told
        intro c member
        have small : c.toLower ∈ label.lower := List.mem_map_of_mem member
        apply CodePoint.isNameMark_of_toLower
        obtain ⟨stand, ⟨_, rfl⟩ | ⟨code, marked, _, _, rfl⟩⟩ := labelLetters_eq_ok read
        · exact isNameMark_of_mayStand (stand _ small) (isAscii_toLower (List.all_eq_true.1 plain c member))
        · rw [marked] at small
          exact isNameMark_of_mem_marked stand small
      · obtain ⟨_, passed, told⟩ := except_map_eq_ok.1 told
        cases told
        exact fun c => isNameMark_of_mem_marked (mayStand_of_checkLabel passed)

theorem beyondAscii_of_marked (read : labelLetters label = .ok letters)
    (marked : label.lower.startsWith asciiMark = true) : ∃ c ∈ letters, c.isAscii = false := by
  obtain ⟨_, ⟨unmarked, _⟩ | ⟨code, _, full, noHyphen, rfl⟩⟩ := labelLetters_eq_ok read
  · rw [marked] at unmarked
    cases unmarked
  · apply Classical.byContradiction
    intro none
    have ascii : letters.isAscii = true := by
      apply List.all_eq_true.2
      intro c member
      rw [← Bool.not_eq_false]
      exact fun beyond => none ⟨c, member, beyond⟩
    have some : letters ≠ [] := by
      rintro rfl
      exact full (by simp [Punycode.encode, Punycode.beyondAscii, Punycode.passes])
    apply noHyphen
    rw [Punycode.encode_of_isAscii ascii some, List.getLast?_concat]

section Labels

variable {f : Text → Except HostNameFault Text}

theorem mem_mapM {labels written : List Text} (made : labels.mapM f = .ok written) :
    (∀ t ∈ written, ∃ label ∈ labels, f label = .ok t) ∧ ∀ label ∈ labels, ∃ t ∈ written, f label = .ok t := by
  induction labels generalizing written with
  | nil =>
    cases made
    exact ⟨nofun, nofun⟩
  | cons label labels ih =>
    rw [List.mapM_cons] at made
    obtain ⟨t, first, made⟩ := except_bind_eq_ok.1 made
    obtain ⟨others, rest, made⟩ := except_bind_eq_ok.1 made
    cases made
    obtain ⟨back, forth⟩ := ih rest
    constructor
    · intro other isOther
      rcases List.mem_cons.1 isOther with rfl | later
      · exact ⟨label, List.mem_cons_self, first⟩
      · obtain ⟨source, inside, same⟩ := back other later
        exact ⟨source, List.mem_cons_of_mem _ inside, same⟩
    · intro other isOther
      rcases List.mem_cons.1 isOther with rfl | later
      · exact ⟨t, List.mem_cons_self, first⟩
      · obtain ⟨image, inside, same⟩ := forth other later
        exact ⟨image, List.mem_cons_of_mem _ inside, same⟩

theorem mapLabels_eq_ok (made : mapLabels f host = .ok t) :
    (∀ c ∈ t, c = CodePoint.ofChar '.' ∨ ∃ label written, f label = .ok written ∧ c ∈ written)
      ∧ ∀ label ∈ host.splitOn isDot, label ≠ [] → ∃ written, f label = .ok written ∧ ∀ c ∈ written, c ∈ t := by
  unfold mapLabels at made
  split at made
  · cases made
  · cases made
  · rename_i last before _ backwards
    dsimp only at made
    have pieces : host.splitOn isDot = before.reverse ++ [last] := by
      rw [← List.reverse_reverse (host.splitOn isDot), backwards, List.reverse_cons]
    have kept : ∀ label ∈ host.splitOn isDot, label ≠ [] →
        label ∈ (if last.isEmpty then before.reverse else (last :: before).reverse) := by
      intro label isLabel full
      rw [pieces] at isLabel
      split
      · rename_i empty
        rcases List.mem_append.1 isLabel with first | same
        · exact first
        · rw [List.mem_singleton.1 same] at full
          exact absurd (List.isEmpty_iff.1 empty) full
      · rwa [List.reverse_cons]
    generalize (if last.isEmpty then before.reverse else (last :: before).reverse) = labels at made kept
    obtain ⟨written, mapped, made⟩ := except_map_eq_ok.1 made
    subst made
    obtain ⟨back, forth⟩ := mem_mapM mapped
    constructor
    · intro c member
      rcases List.mem_append.1 member with inside | dot
      · rcases Text.mem_join inside with mark | ⟨piece, isPiece, inside⟩
        · exact .inl (List.mem_singleton.1 mark)
        · obtain ⟨label, _, same⟩ := back piece isPiece
          exact .inr ⟨label, piece, same, inside⟩
      · split at dot
        · exact .inl (List.mem_singleton.1 dot)
        · cases dot
    · intro label isLabel full
      obtain ⟨piece, isPiece, same⟩ := forth label (kept label isLabel full)
      exact ⟨piece, same, fun c inside => List.mem_append_left _ (Text.mem_join_of_mem isPiece inside)⟩

end Labels

theorem mem_toAscii (written : toAscii host = .ok t) : ∀ c ∈ t, c.IsNameMark ∨ c = CodePoint.ofChar '.' := by
  unfold toAscii at written
  split at written
  · cases written
  · split at written
    · cases written
    · rename_i ascii made
      split at written
      · cases written
      · cases written
        intro c member
        rcases (mapLabels_eq_ok made).1 c member with dot | ⟨label, piece, read, inside⟩
        · exact .inr dot
        · exact .inl (isNameMark_of_labelAscii read c inside)

-- A marked host name is no address.
theorem read?_of_toLetters (read : toLetters host = .ok t) (marked : host.startsWith asciiMark = true) :
    Address.read? t = none := by
  unfold toLetters at read
  split at read
  · cases read
  · obtain ⟨origin, labels⟩ := mapLabels_eq_ok read
    obtain ⟨rest, rfl⟩ := List.isPrefixOf_iff_prefix.1 marked
    obtain ⟨init, last, first, others, whole, _, pieces⟩ := Text.splitOn_append (p := isDot) asciiMark rest
    obtain ⟨rfl, rfl⟩ : init = [] ∧ last = asciiMark := by
      have same : [asciiMark] = init ++ [last] := whole
      have both := List.append_inj' (same.symm.trans (List.nil_append _).symm) rfl
      exact both.imp_right List.singleton_inj.1
    have isLabel : asciiMark ++ first ∈ (asciiMark ++ rest).splitOn isDot := by
      rw [pieces]
      exact List.mem_cons_self
    obtain ⟨letters, told, inside⟩ := labels _ isLabel (by simp [asciiMark, Text.ofString])
    have small : Text.lower (asciiMark ++ first) = asciiMark ++ Text.lower first := List.map_append
    have prefixed : Text.startsWith (Text.lower (asciiMark ++ first)) asciiMark = true := by
      rw [small]
      exact List.isPrefixOf_iff_prefix.2 (List.prefix_append _ _)
    obtain ⟨c, member, beyond⟩ := beyondAscii_of_marked told prefixed
    have unzoned : ∀ c ∈ t, (c != CodePoint.ofChar '%') = true := by
      intro c member
      rw [bne_iff_ne]
      rintro rfl
      rcases origin _ member with dot | ⟨label, piece, read, inside⟩
      · exact absurd dot (by decide)
      · exact absurd (isNameMark_of_mayStand ((labelLetters_eq_ok read).1 _ inside) rfl) (by decide)
    apply Option.eq_none_iff_forall_not_mem.2
    intro a found
    have marks := (Address.read?_eq_some found).2
    rw [List.takeWhile_eq_self_iff.2 unzoned] at marks
    have ascii := (marks c (inside c member)).isAscii
    rw [beyond] at ascii
    cases ascii

theorem labelLetters_of_code {code : Text} {fault : HostNameFault} (marked : label.lower = asciiMark ++ code)
    (full : code ≠ []) (ends : code.getLast? ≠ some (CodePoint.ofChar '-'))
    (decoded : Punycode.decode? code = some letters) (refused : checkLabel letters = .error fault) :
    labelLetters label = .error fault := by
  have starts : Text.startsWith (asciiMark ++ code) asciiMark = true :=
    List.isPrefixOf_iff_prefix.2 (List.prefix_append _ _)
  unfold labelLetters
  dsimp only
  rw [marked, if_pos starts, List.drop_left, List.isEmpty_eq_false_iff.2 full, if_neg Bool.false_ne_true,
    if_neg ends, decoded]
  dsimp only
  rw [refused]

theorem toLetters_of_label {fault : HostNameFault} (short : host.length ≤ maxLength + 1) (full : host ≠ [])
    (single : host.splitOn isDot = [host]) (refused : labelLetters host = .error fault) :
    toLetters host = .error fault := by
  obtain ⟨c, rest, rfl⟩ := List.exists_cons_of_ne_nil full
  unfold toLetters mapLabels
  rw [if_neg (Nat.not_lt.2 short), single]
  simp only [List.reverse_singleton]
  change (labelLetters (c :: rest) >>= _ : Except _ _).map _ = _
  rw [refused]
  rfl

end HostName

end OidcLogin
