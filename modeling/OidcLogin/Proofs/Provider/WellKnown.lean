import OidcLogin.Proofs.Text.Trimming
import OidcLogin.Proofs.Url.Agreement
import OidcLogin.Provider.Discovery

namespace OidcLogin

namespace Url

variable {base tail other : Text}

-- Once something is written that shows, only what is removed anywhere goes from what follows.
theorem cleaned_append {c : CodePoint} (shown : c ∈ base) (dark : ¬ c.val ≤ 0x20) (tail : Text) :
    cleaned (base ++ tail) = cleaned base ++ tail.filter (!isRemoved ·) := by
  have kept : (base.dropWhile (·.val ≤ 0x20)).isEmpty = false := by
    rw [List.isEmpty_eq_false_iff]
    intro nothing
    exact dark (by simpa using List.dropWhile_eq_nil_iff.1 nothing c shown)
  unfold cleaned
  rw [List.dropWhile_append, kept, if_neg Bool.false_ne_true, List.filter_append]

theorem splitScheme_append (named : (splitScheme base).1 ≠ []) :
    splitScheme (base ++ tail) = ((splitScheme base).1, (splitScheme base).2 ++ tail) := by
  unfold splitScheme at named ⊢
  cases cut : base.cutFirst? (CodePoint.ofChar ':') with
  | none =>
    rw [cut] at named
    exact absurd rfl named
  | some halves =>
    rw [cut] at named
    rw [Text.cutFirst?_append cut tail]
    dsimp only at named ⊢
    split at named
    · rename_i letters
      rw [if_pos letters, if_pos letters]
    · exact absurd rfl named

theorem colon_mem_of_splitScheme (named : (splitScheme base).1 ≠ []) : CodePoint.ofChar ':' ∈ base := by
  by_contra absent
  apply named
  unfold splitScheme
  rw [Text.cutFirst?_eq_none.2 absent]

theorem splitScheme_ne_nil_of_append (named : (splitScheme (base ++ tail)).1 ≠ [])
    (absent : CodePoint.ofChar ':' ∉ tail) : (splitScheme base).1 ≠ [] := by
  have colon : CodePoint.ofChar ':' ∈ base :=
    (List.mem_append.1 (colon_mem_of_splitScheme named)).resolve_right absent
  unfold splitScheme at named ⊢
  cases cut : base.cutFirst? (CodePoint.ofChar ':') with
  | none => exact absurd colon (Text.cutFirst?_eq_none.1 cut)
  | some halves =>
    rw [Text.cutFirst?_append cut tail] at named
    dsimp only at named ⊢
    split at named
    · rename_i letters
      rw [if_pos letters]
      exact named
    · exact absurd rfl named

theorem mem_of_mem_cleaned {c : CodePoint} (member : c ∈ cleaned base) : c ∈ base :=
  (List.dropWhile_sublist _).subset (List.mem_filter.1 member).1

theorem splitAuthority_append (ends : tail.takeWhile (!endsAuthority ·) = []) (location : Text) :
    (splitAuthority ("//" ++ location ++ tail)).1 = location.takeWhile (!endsAuthority ·) := by
  have slashed : Text.startsWith ("//" ++ location ++ tail) "//" = true :=
    List.isPrefixOf_iff_prefix.2 ⟨location ++ tail, by simp⟩
  unfold splitAuthority
  rw [if_pos slashed]
  exact Text.takeWhile_append_of_stop ends

theorem takeWhile_of_slashes (slashes : ∀ c ∈ tail, c = CodePoint.ofChar '/') :
    tail.takeWhile (!endsAuthority ·) = [] := by
  cases tail with
  | nil => rfl
  | cons c rest =>
    obtain rfl := slashes c List.mem_cons_self
    exact List.takeWhile_cons_of_neg (by decide)

theorem exists_location (slashes : ∀ c ∈ tail, c = CodePoint.ofChar '/')
    (full : (splitAuthority (base ++ tail)).1 ≠ []) : ∃ location, base = "//" ++ location := by
  have nothing : ∀ n, (tail.drop n).takeWhile (!endsAuthority ·) = [] :=
    fun n => takeWhile_of_slashes fun c member => slashes c (List.mem_of_mem_drop member)
  unfold splitAuthority at full
  split at full
  · rename_i slashed
    match base, slashed, full with
    | [], _, full => exact absurd (nothing 2) full
    | [c], _, full => exact absurd (nothing 1) full
    | c :: d :: location, slashed, _ =>
      obtain ⟨rest, same⟩ := List.isPrefixOf_iff_prefix.1 slashed
      cases same
      exact ⟨location, rfl⟩
  · exact absurd rfl full

theorem fst_splitAuthority (location : Text) :
    (splitAuthority ("//" ++ location)).1 = location.takeWhile (!endsAuthority ·) := by
  have whole := splitAuthority_append (takeWhile_of_slashes (List.forall_mem_nil _)) location
  rwa [List.append_nil] at whole

theorem place_append (named : schemeOf base ≠ []) (full : authorityOf base ≠ [])
    (kept : tail.filter (!isRemoved ·) = tail) (ends : tail.takeWhile (!endsAuthority ·) = []) :
    schemeOf (base ++ tail) = schemeOf base ∧ authorityOf (base ++ tail) = authorityOf base := by
  have colon := mem_of_mem_cleaned (colon_mem_of_splitScheme named)
  have lengthened := cleaned_append colon (by decide) tail
  unfold schemeOf authorityOf at *
  obtain ⟨location, same⟩ := exists_location (List.forall_mem_nil _) (by rwa [List.append_nil])
  rw [lengthened, kept, splitScheme_append named, same, splitAuthority_append ends, fst_splitAuthority]
  exact ⟨rfl, rfl⟩

theorem filter_of_slashes (slashes : ∀ c ∈ tail, c = CodePoint.ofChar '/') : tail.filter (!isRemoved ·) = tail := by
  refine List.filter_eq_self.2 fun c member => ?_
  rw [slashes c member]
  rfl

theorem named_of_append (slashes : ∀ c ∈ tail, c = CodePoint.ofChar '/') (named : schemeOf (base ++ tail) ≠ [])
    (full : authorityOf (base ++ tail) ≠ []) : schemeOf base ≠ [] ∧ authorityOf base ≠ [] := by
  have noColon : CodePoint.ofChar ':' ∉ tail := fun member => absurd (slashes _ member) (by decide)
  have colon : CodePoint.ofChar ':' ∈ base :=
    (List.mem_append.1 (mem_of_mem_cleaned (colon_mem_of_splitScheme named))).resolve_right noColon
  have trimmed := cleaned_append colon (by decide) tail
  unfold schemeOf authorityOf at *
  rw [trimmed, filter_of_slashes slashes] at named full
  have scheme := splitScheme_ne_nil_of_append named noColon
  rw [splitScheme_append scheme] at full
  obtain ⟨location, same⟩ := exists_location slashes full
  rw [same] at full ⊢
  rw [splitAuthority_append (takeWhile_of_slashes slashes)] at full
  rw [fst_splitAuthority]
  exact ⟨scheme, full⟩

end Url

namespace Discovery

-- The metadata is asked for at the authority of the issuer, with the scheme of the issuer.
theorem place_url {issuer : Text} (named : Url.schemeOf issuer ≠ []) (full : Url.authorityOf issuer ≠ []) :
    Url.schemeOf (url issuer) = Url.schemeOf issuer
      ∧ Url.authorityOf (url issuer) = Url.authorityOf issuer := by
  obtain ⟨tail, whole, slashed⟩ := Text.trimEnd_append (· = CodePoint.ofChar '/') issuer
  unfold url withoutSlashes
  generalize Text.trimEnd (· = CodePoint.ofChar '/') issuer = base at whole ⊢
  subst whole
  have slashes : ∀ c ∈ tail, c = CodePoint.ofChar '/' := fun c member => of_decide_eq_true (slashed c member)
  obtain ⟨scheme, authority⟩ := Url.named_of_append slashes named full
  have trimmed := Url.place_append scheme authority (Url.filter_of_slashes slashes) (Url.takeWhile_of_slashes slashes)
  have kept : wellKnownPath.filter (!Url.isRemoved ·) = wellKnownPath := by decide
  have lengthened := Url.place_append scheme authority kept (by decide)
  exact ⟨lengthened.1.trans trimmed.1.symm, lengthened.2.trans trimmed.2.symm⟩

end Discovery

end OidcLogin
