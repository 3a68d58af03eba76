import OidcLogin.Text.Case

namespace OidcLogin

-- ASCII without the k, which a sign outside ASCII has for its small letter too.
def CodePoint.IsPlain (c : CodePoint) : Prop := c.isAscii = true ∧ c ≠ CodePoint.ofChar 'k'

instance (c : CodePoint) : Decidable c.IsPlain := inferInstanceAs (Decidable (_ ∧ _))

-- Where the small letters of a run are.  The run of the Kelvin sign is that sign alone.
theorem CapitalRun.small_of_mem : ∀ r ∈ capitalRuns, r.last + r.distance < 0x110000
    ∧ (0x80 ≤ r.first + r.distance ∨ r.first = r.last ∧ r.last + r.distance = 0x6B) := by
  decide +kernel

namespace CodePoint

variable {c : CodePoint}

theorem toLower_of_not_isAscii (foreign : c.isAscii = false) : c.toLower = c := by
  refine if_neg fun upper => ?_
  simp only [isUpper, Bool.and_eq_true, decide_eq_true_eq] at upper
  simp only [isAscii, decide_eq_false_iff_not] at foreign
  omega

theorem not_isPlain_toSmall (foreign : c.isAscii = false) : ¬ c.toSmall.IsPlain := by
  unfold toSmall
  rw [if_neg (by simp [foreign])]
  split
  · rename_i run found
    have inside := List.find?_some found
    simp only [CapitalRun.contains, Bool.and_eq_true, decide_eq_true_eq] at inside
    obtain ⟨below, above | ⟨alone, kelvin⟩⟩ := CapitalRun.small_of_mem run (List.mem_of_find?_eq_some found)
    · rintro ⟨ascii, _⟩
      rw [isAscii, val_ofNat (by omega), decide_eq_true_eq] at ascii
      omega
    · have small : ((c.val : Int) + run.distance).toNat = 0x6B := by omega
      rw [small]
      decide
  · exact fun plain => absurd plain.1 (by simp [foreign])

end CodePoint

namespace Text

variable {t before after w : Text} {c : CodePoint}

theorem smallOf_of_isAscii (ascii : c.isAscii = true) : smallOf before c after = [c.toLower] := by
  simp only [CodePoint.isAscii, decide_eq_true_eq] at ascii
  unfold smallOf
  rw [if_neg (by omega), if_neg (by simp; omega), CodePoint.toSmall, if_pos (by simpa [CodePoint.isAscii] using ascii)]

theorem smallAfter_of_isAscii (before : Text) (ascii : ∀ c ∈ t, c.isAscii = true) : smallAfter before t = t.lower := by
  induction t generalizing before with
  | nil => rfl
  | cons c rest ih =>
    rw [smallAfter, smallOf_of_isAscii (ascii c List.mem_cons_self),
      ih (c :: before) fun d member => ascii d (List.mem_cons_of_mem _ member)]
    rfl

theorem exists_mem_smallOf (foreign : c.isAscii = false) : ∃ d ∈ smallOf before c after, ¬ d.IsPlain := by
  unfold smallOf
  split
  · exact ⟨CodePoint.ofNat 0x307, by simp, by decide⟩
  · split
    · exact ⟨CodePoint.ofNat 0x3C2, by simp, by decide⟩
    · exact ⟨c.toSmall, by simp, CodePoint.not_isPlain_toSmall foreign⟩

theorem exists_mem_smallAfter (before : Text) (member : c ∈ t) (foreign : c.isAscii = false) :
    ∃ d ∈ smallAfter before t, ¬ d.IsPlain := by
  induction t generalizing before with
  | nil => cases member
  | cons first rest ih =>
    rw [smallAfter]
    rcases List.mem_cons.1 member with rfl | later
    · obtain ⟨d, inside, other⟩ : ∃ d ∈ smallOf before c rest, ¬ d.IsPlain := exists_mem_smallOf foreign
      exact ⟨d, List.mem_append_left _ inside, other⟩
    · obtain ⟨d, inside, other⟩ := ih (first :: before) later
      exact ⟨d, List.mem_append_right _ inside, other⟩

-- A word of plain letters is found in letters of any case, and only so.
theorem small_eq_iff (plain : ∀ d ∈ w, d.IsPlain) : t.small = w ↔ t.lower = w := by
  cases ascii : t.all CodePoint.isAscii with
  | true => rw [small, smallAfter_of_isAscii [] (List.all_eq_true.1 ascii)]
  | false =>
    obtain ⟨c, member, foreign⟩ := List.all_eq_false.1 ascii
    rw [Bool.not_eq_true] at foreign
    constructor
    · rintro rfl
      obtain ⟨d, inside, other⟩ := exists_mem_smallAfter [] member foreign
      exact absurd (plain d inside) other
    · rintro rfl
      have kept : c ∈ t.lower := List.mem_map.2 ⟨c, member, CodePoint.toLower_of_not_isAscii foreign⟩
      exact absurd (plain c kept).1 (by simp [foreign])

end Text

end OidcLogin
