import OidcLogin.Proofs.Url.Agreement
import OidcLogin.Proofs.Url.Form

namespace OidcLogin

namespace RequestUrl

variable {isBare : CodePoint → Bool} {t escaped : Text} {u : RequestUrl}

theorem length_escapeCharacter (isBare : CodePoint → Bool) (c : CodePoint) :
    escapeCharacter isBare c = [c] ∨ 2 ≤ (escapeCharacter isBare c).length := by
  unfold escapeCharacter
  split
  · exact .inl rfl
  · refine .inr ?_
    unfold CodePoint.utf8
    dsimp only
    split
    · simp [Form.percent]
    · split
      · simp [Form.percent]
      · split
        · simp [Form.percent]
        · simp [Form.percent]

theorem length_escapeAll (isBare : CodePoint → Bool) (done : List Text) (t : Text) :
    done.reverse.flatten.length + t.length ≤ (escapeAll isBare done t).length := by
  have one (c : CodePoint) : 1 ≤ (escapeCharacter isBare c).length := by
    rcases length_escapeCharacter isBare c with same | long
    · rw [same, List.length_singleton]
    · omega
  fun_induction escapeAll isBare done t with
  | case1 done => simp
  | case2 done c high low after escape ih =>
    simp only [List.reverse_cons, List.flatten_append, List.length_append, List.flatten_singleton,
      List.length_cons] at ih ⊢
    omega
  | case3 done c high low after notEscape ih =>
    have here := one c
    simp only [List.reverse_cons, List.flatten_append, List.length_append, List.flatten_singleton,
      List.length_cons] at ih ⊢
    omega
  | case4 done c other short ih =>
    have here := one c
    simp only [List.reverse_cons, List.flatten_append, List.length_append, List.flatten_singleton,
      List.length_cons] at ih ⊢
    omega

theorem escapePart_eq_ok (made : escapePart isBare t = .ok escaped) : escaped = escapeAll isBare [] t := by
  unfold escapePart escape at made
  split at made
  · rename_i found
    split at found
    · cases found
    · cases found
      cases made
      rfl
  · cases made

theorem escapePart_eq_nil (made : escapePart isBare t = .ok escaped) : escaped = [] ↔ t = [] := by
  have same := escapePart_eq_ok made
  constructor
  · intro empty
    have length := length_escapeAll isBare [] t
    rw [← same, empty] at length
    simpa using length
  · intro empty
    subst empty
    rw [same, escapeAll]
    rfl

theorem escapePart_eq_singleton {c : CodePoint} (bare : isBare c = true)
    (made : escapePart isBare t = .ok escaped) : escaped = [c] ↔ t = [c] := by
  have same := escapePart_eq_ok made
  have single (d : CodePoint) : escapeAll isBare [] [d] = escapeCharacter isBare d := by
    simp [escapeAll]
  constructor
  · intro alone
    have length := length_escapeAll isBare [] t
    rw [← same, alone] at length
    cases t with
    | nil => exact absurd ((escapePart_eq_nil made).2 rfl) (by simp [alone])
    | cons d rest =>
      obtain rfl : rest = [] := by simpa using length
      rw [single, alone] at same
      rcases length_escapeCharacter isBare d with kept | long
      · rw [same, kept]
      · rw [← same] at long
        simp at long
  · intro alone
    subst alone
    rw [same, single, escapeCharacter, if_pos bare]

-- A request has no credentials if its user information is empty, or a colon between nothing and nothing.
theorem credentials?_eq_none : u.credentials? = none ↔ u.userInfo = [] ∨ u.userInfo = [CodePoint.ofChar ':'] := by
  have empty (t : Text) : (Form.decodePercent t).isEmpty = decide (t = []) := by
    rw [Bool.eq_iff_iff, List.isEmpty_iff, Form.decodePercent, Form.unescape_eq_nil]
    simp
  unfold credentials?
  cases cut : u.userInfo.cutFirst? (CodePoint.ofChar ':') with
  | none =>
    have notColon : u.userInfo ≠ [CodePoint.ofChar ':'] := by
      intro colon
      exact Text.cutFirst?_eq_none.1 cut (colon ▸ List.mem_cons_self)
    simp [empty, notColon]
  | some halves =>
    obtain ⟨name, password⟩ := halves
    obtain ⟨joined, absent⟩ := Text.cutFirst?_eq_some.1 cut
    rw [joined]
    cases name with
    | nil => simp [empty]
    | cons c rest => simp [empty]

end RequestUrl

-- The address names a user: what stands before the last `@` of its authority is more than a colon.
def Url.NamesUser (address : Text) : Prop :=
  let written := (RequestUrl.splitAuthority (Url.authorityOf address)).1
  written ≠ [] ∧ written ≠ [CodePoint.ofChar ':']

instance (address : Text) : Decidable (Url.NamesUser address) := inferInstanceAs (Decidable (_ ∧ _))

theorem RequestUrl.credentials?_of_forRequest {address : Text} {u : RequestUrl}
    (full : Url.authorityOf address ≠ []) (made : forRequest address = .ok u) :
    u.credentials? = none ↔ u.isAbsolute = false ∨ ¬ Url.NamesUser address := by
  rw [credentials?_eq_none]
  rcases forRequest_agrees full made with ⟨nowhere, nobody⟩ | ⟨absolute, _, escaped⟩
  · simp [isAbsolute, nowhere, nobody]
  · rw [escapePart_eq_nil escaped, escapePart_eq_singleton (by decide) escaped]
    unfold Url.NamesUser
    dsimp only
    rw [absolute, not_and_or, not_not, not_not]
    simp

end OidcLogin
