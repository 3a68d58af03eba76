import Mathlib.Data.List.TakeWhile
import OidcLogin.Text.Blank

namespace OidcLogin.Text

variable {p : CodePoint → Bool} {t kept tail : Text} {c : CodePoint}

theorem trimEnd_append (p : CodePoint → Bool) (t : Text) :
    ∃ tail, t = t.trimEnd p ++ tail ∧ ∀ c ∈ tail, p c = true := by
  refine ⟨(t.reverse.takeWhile p).reverse, ?_, fun c member => ?_⟩
  · unfold Text.trimEnd
    rw [← List.reverse_append, List.takeWhile_append_dropWhile, List.reverse_reverse]
  · exact List.mem_takeWhile_imp (List.mem_reverse.1 member)

theorem trimEnd_append_of_all (all : ∀ c ∈ tail, p c = true) : trimEnd p (t ++ tail) = trimEnd p t := by
  unfold trimEnd
  rw [List.reverse_append, List.dropWhile_append_of_pos fun c member => all c (List.mem_reverse.1 member)]

theorem getLast?_trimEnd (last : (t.trimEnd p).getLast? = some c) : p c = false := by
  unfold trimEnd at last
  rw [List.getLast?_reverse] at last
  have stopped := List.head?_dropWhile_not p t.reverse
  rw [last] at stopped
  simpa using stopped

-- What is left of a text when its ends go.
structure Trims (p : CodePoint → Bool) (t kept : Text) : Prop where
  ends : ∃ before after, t = before ++ kept ++ after ∧ (∀ c ∈ before, p c = true) ∧ ∀ c ∈ after, p c = true
  first : ∀ c, kept.head? = some c → p c = false
  last : ∀ c, kept.getLast? = some c → p c = false

theorem dropWhile_eq_self (first : ∀ c, kept.head? = some c → p c = false) : kept.dropWhile p = kept := by
  cases kept with
  | nil => rfl
  | cons c rest => exact List.dropWhile_cons_of_neg (by simp [first c rfl])

theorem trimEnd_eq_self (last : ∀ c, kept.getLast? = some c → p c = false) : kept.trimEnd p = kept := by
  unfold trimEnd
  rw [dropWhile_eq_self, List.reverse_reverse]
  intro c first
  exact last c (by rwa [List.head?_reverse] at first)

theorem trimBoth_eq_iff : t.trimBoth p = kept ↔ Trims p t kept := by
  unfold trimBoth trimStart
  constructor
  · rintro rfl
    obtain ⟨after, cut, trailing⟩ := trimEnd_append p (t.dropWhile p)
    refine ⟨⟨t.takeWhile p, after, ?_, fun c member => List.mem_takeWhile_imp member, trailing⟩, ?_, ?_⟩
    · rw [List.append_assoc, ← cut, List.takeWhile_append_dropWhile]
    · intro c first
      have stopped := List.head?_dropWhile_not p t
      rw [cut, List.head?_append, first] at stopped
      simpa using stopped
    · exact fun c last => getLast?_trimEnd last
  · rintro ⟨⟨before, after, rfl, leading, trailing⟩, first, last⟩
    rw [List.append_assoc, List.dropWhile_append_of_pos leading]
    cases kept with
    | nil =>
      rw [List.nil_append, List.dropWhile_eq_nil_iff.2 trailing]
      rfl
    | cons c rest =>
      have stays : (c :: rest ++ after).dropWhile p = c :: rest ++ after :=
        dropWhile_eq_self fun d head => first d head
      rw [stays, trimEnd_append_of_all trailing, trimEnd_eq_self last]

theorem trimBoth_eq_self (none : ∀ c ∈ t, p c = false) : t.trimBoth p = t :=
  trimBoth_eq_iff.2 ⟨⟨[], [], by simp, nofun, nofun⟩, fun c first => none c (List.mem_of_mem_head? first),
    fun c last => none c (List.mem_of_getLast? last)⟩

theorem trimmed?_eq_some : t.trimmed? = some kept ↔ Trims CodePoint.isBlank t kept ∧ kept ≠ [] := by
  rw [← trimBoth_eq_iff]
  change t.trimmed? = some kept ↔ trim t = kept ∧ kept ≠ []
  unfold trimmed?
  split
  · rename_i nothing
    rw [nothing]
    simp
  · rename_i full
    constructor
    · rintro ⟨⟩
      exact ⟨rfl, full⟩
    · rintro ⟨rfl, _⟩
      rfl

theorem trimmed?_eq_none : t.trimmed? = none ↔ t.isBlank = true := by
  have blank : t.isBlank = true ↔ t.trim = [] := by
    refine Iff.trans List.all_eq_true (Iff.trans ?_ trimBoth_eq_iff.symm)
    constructor
    · exact fun all => ⟨⟨t, [], by simp, all, nofun⟩, nofun, nofun⟩
    · rintro ⟨⟨before, after, rfl, leading, trailing⟩, _, _⟩ c member
      rw [List.append_nil] at member
      exact (List.mem_append.1 member).elim (leading c) (trailing c)
  rw [blank]
  unfold trimmed?
  split
  · rename_i nothing
    simp [nothing]
  · rename_i full
    simpa using full

theorem Trims.isBlank_eq_false (trims : Trims CodePoint.isBlank t kept) (full : kept ≠ []) : kept.isBlank = false := by
  obtain ⟨c, rest, rfl⟩ := List.exists_cons_of_ne_nil full
  exact List.all_eq_false.2 ⟨c, List.mem_cons_self, by simp [trims.first c rfl]⟩

-- A text that shows at both ends, so that there is nothing to trim.
structure IsTrimmed (t : Text) : Prop where
  full : t ≠ []
  first : ∀ c, t.head? = some c → c.isBlank = false
  last : ∀ c, t.getLast? = some c → c.isBlank = false

theorem isTrimmed_iff :
    t.IsTrimmed ↔ t ≠ [] ∧ t.head?.all (!·.isBlank) = true ∧ t.getLast?.all (!·.isBlank) = true := by
  have shows (end? : Option CodePoint) :
      (∀ c, end? = some c → c.isBlank = false) ↔ end?.all (!·.isBlank) = true := by
    cases end? with
    | none | some _ => simp
  rw [← shows, ← shows]
  exact ⟨fun shows => ⟨shows.full, shows.first, shows.last⟩, fun ⟨full, first, last⟩ => ⟨full, first, last⟩⟩

instance : Decidable t.IsTrimmed := decidable_of_iff _ isTrimmed_iff.symm

theorem isTrimmed_of_trimmed? (trimmed : t.trimmed? = some kept) : kept.IsTrimmed :=
  have ⟨trims, full⟩ := trimmed?_eq_some.1 trimmed
  ⟨full, trims.first, trims.last⟩

theorem trimmed?_eq_self : t.trimmed? = some t ↔ t.IsTrimmed := by
  constructor
  · exact isTrimmed_of_trimmed?
  · exact fun shows => trimmed?_eq_some.2 ⟨⟨⟨[], [], by simp, nofun, nofun⟩, shows.first, shows.last⟩, shows.full⟩

end OidcLogin.Text
