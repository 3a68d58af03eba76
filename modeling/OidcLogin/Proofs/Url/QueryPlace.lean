import OidcLogin.Proofs.Url.Rejoining

namespace OidcLogin.Url

variable {t query : Text} {c : CodePoint} {own : Parts}

def queryText (address : Text) : Text := (cutAt '?' (cutAt '#' address).1).2

def IsUnmarked (t : Text) : Prop := ∀ c ∈ t, c ≠ CodePoint.ofChar '?' ∧ c ≠ CodePoint.ofChar '#'

theorem isUnmarked_append {other : Text} : IsUnmarked (t ++ other) ↔ IsUnmarked t ∧ IsUnmarked other :=
  List.forall_mem_append

theorem isUnmarked_schemeOf (t : Text) : IsUnmarked (schemeOf t) := by
  have unmarked : ∀ d : CodePoint, isSchemeCharacter d = true →
      d.toLower ≠ CodePoint.ofChar '?' ∧ d.toLower ≠ CodePoint.ofChar '#' := by
    intro d isCharacter
    unfold CodePoint.toLower
    split
    · rename_i upper
      simp only [CodePoint.isUpper, Bool.and_eq_true, decide_eq_true_eq] at upper
      have lowered : (CodePoint.ofNat (d.val + 0x20)).val = d.val + 0x20 := CodePoint.val_ofNat (by omega)
      constructor
      · intro same
        rw [same] at lowered
        change 0x3F = d.val + 0x20 at lowered
        omega
      · intro same
        rw [same] at lowered
        change 0x23 = d.val + 0x20 at lowered
        omega
    · constructor
      · rintro rfl
        cases isCharacter
      · rintro rfl
        cases isCharacter
  intro c member
  unfold schemeOf splitScheme at member
  split at member
  · cases member
  · rename_i scheme rest cut
    split at member
    · rename_i named
      obtain ⟨d, inside, rfl⟩ := List.mem_map.1 member
      have all := (Bool.and_eq_true_iff.1 named).2
      exact unmarked d (List.all_eq_true.1 all d inside)
    · cases member

theorem isUnmarked_authorityOf (t : Text) : IsUnmarked (authorityOf t) := by
  intro c member
  have stays := endsAuthority_of_mem_authorityOf member
  simp only [endsAuthority, Bool.or_eq_false_iff, decide_eq_false_iff_not] at stays
  exact ⟨stays.1.2, stays.2⟩

theorem mem_of_mem_path {withParams : Bool} {path : Text}
    (member : c ∈ (if withParams then splitParams path else (path, [])).1
      ∨ c ∈ (if withParams then splitParams path else (path, [])).2) : c ∈ path := by
  cases withParams with
  | true => exact mem_of_mem_splitParams member
  | false => exact member.elim id fun impossible => absurd impossible List.not_mem_nil

theorem mem_hierarchy (split : Url.split t = .ok own) (member : c ∈ own.path ∨ c ∈ own.params) :
    c ∈ (cutAt '?' (cutAt '#' (remainderOf t)).1).1 := by
  unfold Url.split splitAs at split
  dsimp only at split
  split at split
  · cases split
  · split at split
    · cases split
    · cases split
      exact mem_of_mem_path member

theorem isUnmarked_hierarchy (split : Url.split t = .ok own) : IsUnmarked (own.path ++ own.params) := by
  intro c member
  have inside := mem_hierarchy split (List.mem_append.1 member)
  constructor
  · rintro rfl
    exact cutAt_free '?' _ inside
  · rintro rfl
    exact cutAt_free '#' _ (mem_of_mem_cutAt_fst inside)

theorem mem_withAuthority {scheme authority path : Text} (member : c ∈ withAuthority scheme authority path) :
    c = CodePoint.ofChar '/' ∨ c ∈ authority ∨ c ∈ path := by
  unfold withAuthority at member
  split at member
  · rcases List.mem_append.1 member with before | inPath
    · rcases List.mem_append.1 before with slash | inAuthority
      · have slashes : ∀ d ∈ Text.ofString "//", d = CodePoint.ofChar '/' := by decide
        exact .inl (slashes c slash)
      · exact .inr (.inl inAuthority)
    · split at inPath
      · exact (List.mem_cons.1 inPath).imp_right .inr
      · exact .inr (.inr inPath)
  · exact .inr (.inr member)

theorem isUnmarked_front (split : Url.split t = .ok own) :
    IsUnmarked ((if own.scheme.isEmpty then [] else own.scheme ++ [CodePoint.ofChar ':'])
      ++ withAuthority own.scheme own.authority (own.path ++ marked ';' own.params)) := by
  obtain ⟨scheme, authority⟩ := split_eq_ok split
  obtain ⟨path, params⟩ := isUnmarked_append.1 (isUnmarked_hierarchy split)
  rw [isUnmarked_append]
  constructor
  · split
    · intro c impossible
      cases impossible
    · rw [isUnmarked_append, scheme]
      exact ⟨isUnmarked_schemeOf t, by unfold IsUnmarked; decide⟩
  · intro c member
    rcases mem_withAuthority member with rfl | inAuthority | inPath
    · decide
    · rw [authority] at inAuthority
      exact isUnmarked_authorityOf t c inAuthority
    · rcases List.mem_append.1 inPath with inPath | afterPath
      · exact path c inPath
      · rcases mem_marked afterPath with rfl | inParams
        · decide
        · exact params c inParams

theorem queryText_unsplit (split : Url.split t = .ok own) (noMark : CodePoint.ofChar '#' ∉ query) :
    queryText (unsplit { own with query := query }) = query := by
  have front := isUnmarked_front split
  unfold queryText unsplit
  dsimp only
  rw [cutAt_marked, cutAt_marked]
  · intro member
    exact (front _ member).1 rfl
  · intro member
    rcases List.mem_append.1 member with before | afterPath
    · exact (front _ before).2 rfl
    · rcases mem_marked afterPath with impossible | inQuery
      · exact absurd impossible (by decide)
      · exact noMark inQuery

end OidcLogin.Url
