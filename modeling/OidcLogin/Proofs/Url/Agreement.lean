import Mathlib.Data.List.TakeWhile
import OidcLogin.Proofs.Text.Cuts
import OidcLogin.Proofs.Validation.Success
import OidcLogin.Url.Request
import OidcLogin.Url.Split

namespace OidcLogin

section TakeWhile

variable {p q : CodePoint → Bool} {t tail : Text}

theorem Text.takeWhile_dropWhile_eq_nil (stops : ∀ c, q c = false → p c = false) :
    (t.dropWhile q).takeWhile p = [] := by
  have head := List.head?_dropWhile_not q t
  cases rest : t.dropWhile q with
  | nil => rfl
  | cons c after =>
    rw [rest] at head
    exact List.takeWhile_cons_of_neg (by simp [stops c head])

theorem Text.takeWhile_append_of_stop (stop : tail.takeWhile p = []) :
    (t ++ tail).takeWhile p = t.takeWhile p := by
  rw [List.takeWhile_append]
  split
  · rename_i all
    rw [stop, List.append_nil]
    exact (List.takeWhile_prefix p).eq_of_length all |>.symm
  · rfl

end TakeWhile

namespace Url

-- Scheme and authority are read from the cleaned text, whether or not the rest can be split.

def schemeOf (t : Text) : Text := (splitScheme (cleaned t)).1

def authorityOf (t : Text) : Text := (splitAuthority (splitScheme (cleaned t)).2).1

theorem split_eq_ok {t : Text} {parts : Parts} (split : Url.split t = .ok parts) :
    parts.scheme = schemeOf t ∧ parts.authority = authorityOf t := by
  unfold Url.split splitAs at split
  dsimp only at split
  have same : (if (splitScheme (cleaned t)).1.isEmpty then [] else (splitScheme (cleaned t)).1)
      = (splitScheme (cleaned t)).1 := by
    split
    · rename_i empty
      exact (List.isEmpty_iff.1 empty).symm
    · rfl
  split at split
  · cases split
  · split at split
    · cases split
    · cases split
      exact ⟨same, rfl⟩

end Url

namespace RequestUrl

theorem cutOptional_fst (mark : Char) (t : Text) :
    (cutOptional mark t).1 = t.takeWhile (· != CodePoint.ofChar mark) := by
  rw [← Text.cutFirst?_fst]
  unfold cutOptional
  cases t.cutFirst? (CodePoint.ofChar mark) with
  | none => rfl
  | some cut => rfl

theorem control?_eq_none {t : Text} :
    control? t = none ↔ ∀ c ∈ t, (c.isControl || c.val = 0x7F) = false := by
  unfold control?
  rw [Option.map_eq_none_iff, List.findIdx?_eq_none_iff]

theorem cleaned_of_visible {c : CodePoint} {rest : Text} (visible : control? (c :: rest) = none)
    (dark : ¬ c.val ≤ 0x20) : Url.cleaned (c :: rest) = c :: rest := by
  have kept : ∀ d ∈ c :: rest, (!Url.isRemoved d) = true := by
    intro d member
    have plain := control?_eq_none.1 visible d member
    cases removed : Url.isRemoved d with
    | false => rfl
    | true =>
      have which : d = '\t' ∨ d = '\r' ∨ d = '\n' := by simpa [Url.isRemoved, or_assoc] using removed
      rcases which with rfl | rfl | rfl
      · exact absurd plain (by decide)
      · exact absurd plain (by decide)
      · exact absurd plain (by decide)
  unfold Url.cleaned
  rw [List.dropWhile_cons_of_neg (by simpa using dark)]
  exact List.filter_eq_self.2 kept

theorem Written.scheme_ofText (t : Text) :
    (Written.ofText t).scheme = (splitScheme (t.takeWhile (· != CodePoint.ofChar '#'))).1 := by
  unfold Written.ofText
  rw [← cutOptional_fst]
  dsimp only
  split
  · rfl
  · rfl

-- What stands after the scheme, up to the query.
def hierarchy (t : Text) : Text :=
  (splitScheme (t.takeWhile (· != CodePoint.ofChar '#'))).2.takeWhile (· != CodePoint.ofChar '?')

theorem Written.authority_ofText {t : Text} (slashed : Text.startsWith (hierarchy t) "//" = true) :
    (Written.ofText t).authority = ((hierarchy t).drop 2).takeWhile (· != CodePoint.ofChar '/') := by
  have shown : (cutOptional '?' (splitScheme (cutOptional '#' t).1).2).1 = hierarchy t := by
    unfold hierarchy
    rw [cutOptional_fst, cutOptional_fst]
  unfold Written.ofText
  dsimp only
  rw [shown, if_pos slashed]

theorem splitScheme_of_space {c : CodePoint} {rest : Text} (visible : control? (c :: rest) = none)
    (space : c.val ≤ 0x20) : (Written.ofText (c :: rest)).scheme = [] := by
  have plain := control?_eq_none.1 visible c List.mem_cons_self
  have code : c.val = 0x20 := by
    simp [CodePoint.isControl] at plain
    omega
  obtain rfl : c = CodePoint.ofChar ' ' := CodePoint.ext code
  rw [Written.scheme_ofText, List.takeWhile_cons_of_pos (by decide)]
  unfold splitScheme
  rw [Text.cutFirst?_cons_of_ne (by decide)]
  cases Text.cutFirst? (CodePoint.ofChar ':') (rest.takeWhile (· != CodePoint.ofChar '#')) with
  | none => rfl
  | some cut => rfl

theorem splitScheme_agrees {t scheme rest : Text}
    (split : splitScheme (t.takeWhile (· != CodePoint.ofChar '#')) = (scheme, rest)) (named : scheme ≠ []) :
    (Url.splitScheme t).1 = scheme.lower
      ∧ rest = (Url.splitScheme t).2.takeWhile (· != CodePoint.ofChar '#') := by
  have whole := List.takeWhile_append_dropWhile (p := (· != CodePoint.ofChar '#')) (l := t)
  have before : ∀ c ∈ t.takeWhile (· != CodePoint.ofChar '#'), (c != CodePoint.ofChar '#') = true :=
    fun c member => List.mem_takeWhile_imp (p := (· != CodePoint.ofChar '#')) member
  have stop : (t.dropWhile (· != CodePoint.ofChar '#')).takeWhile (· != CodePoint.ofChar '#') = [] :=
    Text.takeWhile_dropWhile_eq_nil fun _ stops => stops
  generalize List.takeWhile (· != CodePoint.ofChar '#') t = head at split whole before
  generalize t.dropWhile (· != CodePoint.ofChar '#') = tail at whole stop
  subst whole
  unfold splitScheme at split
  cases cut : Text.cutFirst? (CodePoint.ofChar ':') head with
  | none =>
    rw [cut] at split
    cases split
    exact absurd rfl named
  | some halves =>
    obtain ⟨first, second⟩ := halves
    obtain ⟨joined, _⟩ := Text.cutFirst?_eq_some.1 cut
    rw [cut] at split
    dsimp only at split
    split at split
    · rename_i letters
      cases split
      have spelled : ((scheme.head?.map CodePoint.isLetter).getD false
          && scheme.all Url.isSchemeCharacter) = true := by
        have notEmpty : scheme.isEmpty = false := by simpa using named
        rw [notEmpty, Bool.false_or] at letters
        exact letters
      have kept : ∀ c ∈ rest, (c != CodePoint.ofChar '#') = true := by
        intro c member
        refine before c ?_
        rw [joined]
        exact List.mem_append_right _ (List.mem_cons_of_mem _ member)
      unfold Url.splitScheme
      rw [Text.cutFirst?_append cut tail]
      dsimp only
      rw [if_pos spelled]
      refine ⟨rfl, ?_⟩
      rw [Text.takeWhile_append_of_stop stop]
      exact (List.takeWhile_eq_self_iff.2 kept).symm
    · cases split
      exact absurd rfl named

theorem takeWhile_authority (t : Text) :
    ((t.takeWhile (· != CodePoint.ofChar '#')).takeWhile (· != CodePoint.ofChar '?')).takeWhile
        (· != CodePoint.ofChar '/')
      = t.takeWhile (!Url.endsAuthority ·) := by
  rw [List.takeWhile_takeWhile, List.takeWhile_takeWhile]
  congr 1
  funext c
  by_cases slash : c = CodePoint.ofChar '/'
  · subst slash; rfl
  · by_cases question : c = CodePoint.ofChar '?'
    · subst question; rfl
    · by_cases hash : c = CodePoint.ofChar '#'
      · subst hash; rfl
      · simp [Url.endsAuthority, slash, question, hash]

-- Where there is an authority, the strict reader finds none but that, unless it finds no scheme.
theorem ofText_agrees {t : Text} (full : Url.authorityOf t ≠ []) (visible : control? t = none) :
    (Written.ofText t).scheme = []
      ∨ (Written.ofText t).scheme.lower = Url.schemeOf t
        ∧ (Written.ofText t).authority = Url.authorityOf t := by
  cases t with
  | nil => exact .inl rfl
  | cons c rest =>
    by_cases dark : c.val ≤ 0x20
    · exact .inl (splitScheme_of_space visible dark)
    · by_cases named : (Written.ofText (c :: rest)).scheme = []
      · exact .inl named
      · unfold Url.authorityOf at full
        unfold Url.schemeOf Url.authorityOf
        rw [cleaned_of_visible visible dark] at full ⊢
        rw [Written.scheme_ofText] at named ⊢
        rcases written : splitScheme ((c :: rest).takeWhile (· != CodePoint.ofChar '#')) with ⟨name, tail⟩
        rw [written] at named
        obtain ⟨same, after⟩ := splitScheme_agrees written named
        refine .inr ⟨same.symm, ?_⟩
        generalize (Url.splitScheme (c :: rest)).2 = remainder at full after ⊢
        unfold Url.splitAuthority at full ⊢
        split at full
        · rename_i slashed
          obtain ⟨location, rfl⟩ := List.isPrefixOf_iff_prefix.1 slashed
          have shown : hierarchy (c :: rest) = "//" ++ (location.takeWhile (· != CodePoint.ofChar '#')).takeWhile
              (· != CodePoint.ofChar '?') := by
            unfold hierarchy
            rw [written]
            dsimp only
            rw [after]
            rfl
          rw [Written.authority_ofText (by rw [shown]; exact List.isPrefixOf_iff_prefix.2 ⟨_, rfl⟩), shown,
            if_pos slashed]
          exact takeWhile_authority location
        · exact absurd rfl full

def hasAuthority (u : RequestUrl) : Bool := !u.userInfo.isEmpty || !u.host.isEmpty || u.port.isSome

structure Written.Normalizes (w : Written) (host? : Option Text) (u : RequestUrl) : Prop where
  scheme : u.scheme = w.scheme.lower
  userInfo : escapePart isBareInUserInfo (RequestUrl.splitAuthority w.authority).1 = .ok u.userInfo
  host : readHost (host?.getD (RequestUrl.splitAuthority w.authority).2.1) = .ok u.host
  port : readPort w.scheme (RequestUrl.splitAuthority w.authority).2.2 = .ok u.port
  checked : checkPath (!w.scheme.isEmpty) u.hasAuthority w.path = .ok ()
  path : escapePart isBareInPath (if !w.scheme.isEmpty || u.hasAuthority then removeDotSegments w.path else w.path)
    = .ok u.path
  query : escapeOptional isBareInQuery w.query = .ok u.query
  fragment : escapeOptional isBareInFragment w.fragment = .ok u.fragment

theorem Written.normalize_eq_ok {w : Written} {host? : Option Text} {u : RequestUrl} :
    w.normalize host? = .ok u ↔ w.Normalizes host? u := by
  unfold Written.normalize
  simp only [except_bind_eq_ok]
  constructor
  · intro made
    obtain ⟨userInfo, escaped, host, read, port, given, _, checked, path, written, query, asked, fragment, told,
      same⟩ := made
    cases same
    exact ⟨rfl, escaped, read, given, checked, written, asked, told⟩
  · intro normal
    refine ⟨u.userInfo, normal.userInfo, u.host, normal.host, u.port, normal.port, (), normal.checked, u.path,
      normal.path, u.query, normal.query, u.fragment, normal.fragment, ?_⟩
    rw [← normal.scheme]
    rfl

theorem read_eq_ok {t : Text} {u : RequestUrl} (read : RequestUrl.read t = .ok u) :
    control? t = none ∧ (Written.ofText t).normalize none = .ok u := by
  unfold RequestUrl.read at read
  dsimp only at read
  split at read
  · cases read
  · cases control : control? t with
    | none =>
      rw [control] at read
      exact ⟨rfl, read⟩
    | some found =>
      rw [control] at read
      cases read

theorem escapePart_nil (isBare : CodePoint → Bool) : escapePart isBare [] = .ok [] := by
  simp [escapePart, escape, escapeAll]

theorem relative_eq_ok {u v : RequestUrl} (made : u.relative = .ok v) : v.scheme = [] ∧ v.userInfo = [] := by
  unfold relative Written.assemble at made
  simp only [except_bind_eq_ok] at made
  obtain ⟨_, _, _, _, _, _, _, _, _, _, _, _, made⟩ := made
  have normal := Written.normalize_eq_ok.1 made
  exact ⟨normal.scheme, Except.ok.inj (normal.userInfo.symm.trans (escapePart_nil _))⟩

theorem forRequest_eq_ok {t : Text} {u : RequestUrl} (made : forRequest t = .ok u) :
    ∃ v, RequestUrl.read t = .ok v
      ∧ (v.isAbsolute = true ∧ u = v ∨ v.isAbsolute = false ∧ v.relative = .ok u) := by
  unfold forRequest at made
  obtain ⟨v, read, later⟩ := except_bind_eq_ok.1 made
  refine ⟨v, read, ?_⟩
  cases absolute : v.isAbsolute with
  | true =>
    rw [absolute, if_pos rfl] at later
    cases later
    exact .inl ⟨rfl, rfl⟩
  | false =>
    rw [absolute, if_neg Bool.false_ne_true] at later
    exact .inr ⟨rfl, later⟩

-- What a request is sent to: no place at all, or one of the scheme and the authority that were judged.
theorem forRequest_agrees {t : Text} {u : RequestUrl} (full : Url.authorityOf t ≠ [])
    (made : forRequest t = .ok u) :
    u.scheme = [] ∧ u.userInfo = []
      ∨ u.isAbsolute = true ∧ u.scheme = Url.schemeOf t
        ∧ escapePart isBareInUserInfo (splitAuthority (Url.authorityOf t)).1 = .ok u.userInfo := by
  obtain ⟨v, read, kind⟩ := forRequest_eq_ok made
  rcases kind with ⟨absolute, rfl⟩ | ⟨_, relative⟩
  · obtain ⟨visible, normal⟩ := read_eq_ok read
    have scheme := (Written.normalize_eq_ok.1 normal).scheme
    have escaped := (Written.normalize_eq_ok.1 normal).userInfo
    rcases ofText_agrees full visible with none | ⟨named, same⟩
    · rw [none] at scheme
      rw [isAbsolute, scheme] at absolute
      cases absolute
    · rw [named] at scheme
      rw [same] at escaped
      exact .inr ⟨absolute, scheme, escaped⟩
  · exact .inl (relative_eq_ok relative)

end RequestUrl

end OidcLogin
