import OidcLogin.Proofs.Provider.WellKnown

namespace OidcLogin

namespace Text

variable {sep : CodePoint} {t : Text}

theorem exists_last_cut (member : sep ∈ t) : ∃ before after, t = before ++ sep :: after ∧ sep ∉ after := by
  obtain ⟨after, before, backwards, absent⟩ := List.eq_append_cons_of_mem (List.mem_reverse.2 member)
  refine ⟨before.reverse, after.reverse, ?_, by simpa using absent⟩
  rw [← List.reverse_reverse t, backwards]
  simp

end Text

namespace Url

variable {mark : Char} {t before after parents segment scheme location rest : Text} {c : CodePoint}

theorem cutAt_marked (free : CodePoint.ofChar mark ∉ before) (after : Text) :
    cutAt mark (before ++ marked mark after) = (before, after) := by
  unfold cutAt marked
  cases after with
  | nil =>
    rw [List.isEmpty_nil, if_pos rfl, List.append_nil, Text.cutFirst?_eq_none.2 free]
    rfl
  | cons c rest =>
    rw [List.isEmpty_cons, if_neg Bool.false_ne_true, Text.cutFirst?_eq_some.2 ⟨rfl, free⟩]
    rfl

theorem cutAt_free (mark : Char) (t : Text) : CodePoint.ofChar mark ∉ (cutAt mark t).1 := by
  unfold cutAt
  cases cut : t.cutFirst? (CodePoint.ofChar mark) with
  | none => exact Text.cutFirst?_eq_none.1 cut
  | some halves => exact (Text.cutFirst?_eq_some.1 cut).2

theorem isPrefix_cutAt (mark : Char) (t : Text) : (cutAt mark t).1 <+: t := by
  unfold cutAt
  cases cut : t.cutFirst? (CodePoint.ofChar mark) with
  | none => exact List.prefix_rfl
  | some halves => exact ⟨_, (Text.cutFirst?_eq_some.1 cut).1.symm⟩

theorem mem_of_mem_cutAt_fst (member : c ∈ (cutAt mark t).1) : c ∈ t := (isPrefix_cutAt mark t).subset member

theorem mem_of_mem_cutAt_snd (member : c ∈ (cutAt mark t).2) : c ∈ t := by
  unfold cutAt at member
  cases cut : t.cutFirst? (CodePoint.ofChar mark) with
  | none =>
    rw [cut] at member
    cases member
  | some halves =>
    rw [cut] at member
    rw [(Text.cutFirst?_eq_some.1 cut).1]
    exact List.mem_append_right _ (List.mem_cons_of_mem _ member)

theorem mem_marked (member : c ∈ marked mark t) : c = CodePoint.ofChar mark ∨ c ∈ t := by
  unfold marked at member
  split at member
  · cases member
  · exact List.mem_cons.1 member

theorem splitParams_eq (free : CodePoint.ofChar '/' ∉ segment) :
    splitParams (parents ++ CodePoint.ofChar '/' :: segment)
      = (parents ++ CodePoint.ofChar '/' :: (cutAt ';' segment).1, (cutAt ';' segment).2) := by
  unfold splitParams cutAt
  rw [Text.cutLast?_append free]
  dsimp only
  cases segment.cutFirst? (CodePoint.ofChar ';') with
  | none => rfl
  | some halves => rfl

-- A path with its parameters is split as it was put together.
def IsSegmented (path params : Text) : Prop := splitParams (path ++ marked ';' params) = (path, params)

-- A path that something follows an authority with begins with a slash.
def IsRooted (path : Text) : Prop := path = [] ∨ path.head? = some (CodePoint.ofChar '/')

theorem exists_segment (slash : t.head? = some (CodePoint.ofChar '/')) :
    ∃ parents segment, t = parents ++ CodePoint.ofChar '/' :: segment ∧ CodePoint.ofChar '/' ∉ segment :=
  Text.exists_last_cut (List.mem_of_head? slash)

theorem isSegmented_splitParams (rooted : IsRooted t) : IsSegmented (splitParams t).1 (splitParams t).2 := by
  rcases rooted with rfl | slash
  · rfl
  obtain ⟨parents, segment, rfl, free⟩ := exists_segment slash
  rw [splitParams_eq free]
  have named := cutAt_marked (cutAt_free ';' segment) (cutAt ';' segment).2
  have stillFree : CodePoint.ofChar '/' ∉ (cutAt ';' segment).1 ++ marked ';' (cutAt ';' segment).2 := by
    intro member
    rcases List.mem_append.1 member with inName | inParams
    · exact free (mem_of_mem_cutAt_fst inName)
    · rcases mem_marked inParams with impossible | inParams
      · exact absurd impossible (by decide)
      · exact free (mem_of_mem_cutAt_snd inParams)
  unfold IsSegmented
  rw [List.append_assoc, List.cons_append, splitParams_eq stillFree, named]

theorem mem_of_mem_splitParams (member : c ∈ (splitParams t).1 ∨ c ∈ (splitParams t).2) : c ∈ t := by
  by_cases slash : CodePoint.ofChar '/' ∈ t
  · obtain ⟨parents, segment, rfl, free⟩ := Text.exists_last_cut slash
    rw [splitParams_eq free] at member
    rcases member with inPath | inParams
    · rcases List.mem_append.1 inPath with early | last
      · exact List.mem_append_left _ early
      · refine List.mem_append_right _ ?_
        rcases List.mem_cons.1 last with rfl | inName
        · exact List.mem_cons_self
        · exact List.mem_cons_of_mem _ (mem_of_mem_cutAt_fst inName)
    · exact List.mem_append_right _ (List.mem_cons_of_mem _ (mem_of_mem_cutAt_snd inParams))
  · have single : splitParams t = cutAt ';' t := by
      unfold splitParams
      rw [Text.cutLast?_eq_none slash]
    rw [single] at member
    exact member.elim mem_of_mem_cutAt_fst mem_of_mem_cutAt_snd

theorem head?_splitParams (slash : t.head? = some (CodePoint.ofChar '/')) :
    (splitParams t).1.head? = some (CodePoint.ofChar '/') := by
  obtain ⟨parents, segment, rfl, free⟩ := exists_segment slash
  rw [splitParams_eq free]
  cases parents with
  | nil => rfl
  | cons first others => exact slash

def remainderOf (t : Text) : Text := (splitAuthority (splitScheme (cleaned t)).2).2

def divided (scheme authority remainder : Text) : Parts :=
  let beforeFragment := (cutAt '#' remainder).1
  let path := (cutAt '?' beforeFragment).1
  ⟨scheme, authority, (splitParams path).1, (splitParams path).2, (cutAt '?' beforeFragment).2,
    (cutAt '#' remainder).2⟩

def IsWeb (scheme : Text) : Prop := scheme = "https" ∨ scheme = "http"

structure IsPermitted (authority : Text) : Prop where
  brackets : checkBrackets authority = .ok ()
  decomposition : checkDecomposition authority = .ok ()

theorem IsWeb.ne_nil (web : IsWeb scheme) : scheme ≠ [] := by
  rcases web with rfl | rfl
  · decide
  · decide

theorem IsWeb.contains (web : IsWeb scheme) : schemesWithParams.contains scheme = true := by
  rcases web with rfl | rfl
  · decide
  · decide

-- A web address has parts exactly if its authority is permitted.
theorem split_eq_ok_iff {parts : Parts} (web : IsWeb (schemeOf t)) :
    split t = .ok parts
      ↔ IsPermitted (authorityOf t) ∧ parts = divided (schemeOf t) (authorityOf t) (remainderOf t) := by
  have named : (splitScheme (cleaned t)).1.isEmpty = false := List.isEmpty_eq_false_iff.2 web.ne_nil
  have params : schemesWithParams.contains (splitScheme (cleaned t)).1 = true := web.contains
  unfold split splitAs
  dsimp only
  rw [named, if_neg Bool.false_ne_true]
  cases brackets : checkBrackets (splitAuthority (splitScheme (cleaned t)).2).1 with
  | error fault =>
    constructor
    · intro same
      cases same
    · intro given
      cases given.1.brackets.symm.trans brackets
  | ok done =>
    dsimp only
    cases decomposition : checkDecomposition (splitAuthority (splitScheme (cleaned t)).2).1 with
    | error fault =>
      constructor
      · intro same
        cases same
      · intro given
        cases given.1.decomposition.symm.trans decomposition
    | ok done =>
      dsimp only
      rw [params, if_pos rfl]
      constructor
      · intro same
        exact ⟨⟨brackets, decomposition⟩, (Except.ok.inj same).symm⟩
      · intro given
        exact congrArg Except.ok given.2.symm

-- The parts of a web address, with the marks where splitting leaves them.
structure Parts.IsSplit (p : Parts) : Prop where
  web : IsWeb p.scheme
  located : p.authority ≠ []
  permitted : IsPermitted p.authority
  authority : ∀ c ∈ p.authority, endsAuthority c = false
  rooted : p.path = [] ∧ p.params = [] ∨ p.path.head? = some (CodePoint.ofChar '/')
  segmented : IsSegmented p.path p.params
  hierarchy : ∀ c, c ∈ p.path ∨ c ∈ p.params → c ≠ CodePoint.ofChar '?' ∧ c ≠ CodePoint.ofChar '#'
  query : CodePoint.ofChar '#' ∉ p.query
  kept : ∀ c, c ∈ p.authority ∨ c ∈ p.path ∨ c ∈ p.params ∨ c ∈ p.query ∨ c ∈ p.fragment → isRemoved c = false

def Parts.remainder (p : Parts) : Text :=
  p.path ++ marked ';' p.params ++ marked '?' p.query ++ marked '#' p.fragment

theorem mem_cleaned (member : c ∈ cleaned t) : isRemoved c = false := by
  simpa using (List.mem_filter.1 member).2

theorem mem_of_mem_splitScheme (member : c ∈ (splitScheme t).2) : c ∈ t := by
  unfold splitScheme at member
  cases cut : t.cutFirst? (CodePoint.ofChar ':') with
  | none =>
    rw [cut] at member
    exact member
  | some halves =>
    rw [cut] at member
    dsimp only at member
    split at member
    · rw [(Text.cutFirst?_eq_some.1 cut).1]
      exact List.mem_append_right _ (List.mem_cons_of_mem _ member)
    · exact member

theorem mem_of_mem_splitAuthority (member : c ∈ (splitAuthority t).1 ∨ c ∈ (splitAuthority t).2) : c ∈ t := by
  unfold splitAuthority at member
  split at member
  · rcases member with inside | after
    · exact List.mem_of_mem_drop ((List.takeWhile_sublist _).subset inside)
    · exact List.mem_of_mem_drop ((List.dropWhile_sublist _).subset after)
  · exact member.elim (fun impossible => absurd impossible List.not_mem_nil) id

theorem endsAuthority_of_mem_authorityOf (member : c ∈ authorityOf t) : endsAuthority c = false := by
  unfold authorityOf splitAuthority at member
  split at member
  · simpa using List.mem_takeWhile_imp member
  · cases member

theorem head_remainderOf (full : authorityOf t ≠ []) : ∀ c ∈ (remainderOf t).head?, endsAuthority c = true := by
  intro c head
  unfold authorityOf splitAuthority at full
  unfold remainderOf splitAuthority at head
  split at head
  · have stopped := List.head?_dropWhile_not (!endsAuthority ·) ((splitScheme (cleaned t)).2.drop 2)
    rw [Option.mem_def.1 head] at stopped
    simpa using stopped
  · rename_i bare
    exact absurd (if_neg bare ▸ rfl) full

theorem isRooted_of_remainder (starts : ∀ c ∈ rest.head?, endsAuthority c = true) :
    IsRooted (cutAt '?' (cutAt '#' rest).1).1 := by
  have noQuery := cutAt_free '?' (cutAt '#' rest).1
  have noFragment : CodePoint.ofChar '#' ∉ (cutAt '?' (cutAt '#' rest).1).1 :=
    fun member => cutAt_free '#' rest (mem_of_mem_cutAt_fst member)
  obtain ⟨others, whole⟩ := (isPrefix_cutAt '?' (cutAt '#' rest).1).trans (isPrefix_cutAt '#' rest)
  cases path : (cutAt '?' (cutAt '#' rest).1).1 with
  | nil => exact .inl rfl
  | cons c more =>
    rw [path] at noQuery noFragment whole
    have ends := starts c (by rw [← whole]; rfl)
    simp only [endsAuthority, Bool.or_eq_true, decide_eq_true_eq] at ends
    rcases ends with (rfl | rfl) | rfl
    · exact .inr rfl
    · exact absurd List.mem_cons_self noQuery
    · exact absurd List.mem_cons_self noFragment

theorem mem_of_mem_query {parts : Parts} (web : IsWeb parts.scheme) (split : split t = .ok parts)
    (member : c ∈ parts.query) : c ∈ t := by
  rw [(split_eq_ok split).1] at web
  obtain ⟨_, rfl⟩ := (split_eq_ok_iff web).1 split
  have inRemainder : c ∈ remainderOf t := mem_of_mem_cutAt_fst (mem_of_mem_cutAt_snd member)
  exact mem_of_mem_cleaned (mem_of_mem_splitScheme (mem_of_mem_splitAuthority (.inr inRemainder)))

theorem isSplit_of_split {parts : Parts} (web : IsWeb parts.scheme) (located : parts.authority ≠ [])
    (split : split t = .ok parts) : parts.IsSplit := by
  obtain ⟨sameScheme, sameAuthority⟩ := split_eq_ok split
  rw [sameScheme] at web
  rw [sameAuthority] at located
  obtain ⟨permitted, rfl⟩ := (split_eq_ok_iff web).1 split
  have rooted := isRooted_of_remainder (head_remainderOf located)
  have inHierarchy : ∀ c, c ∈ (divided (schemeOf t) (authorityOf t) (remainderOf t)).path
      ∨ c ∈ (divided (schemeOf t) (authorityOf t) (remainderOf t)).params →
        c ∈ (cutAt '?' (cutAt '#' (remainderOf t)).1).1 := fun c => mem_of_mem_splitParams
  have inRemainder : ∀ c ∈ remainderOf t, isRemoved c = false := fun c member =>
    mem_cleaned (mem_of_mem_splitScheme (mem_of_mem_splitAuthority (.inr member)))
  refine ⟨web, located, permitted, fun c => endsAuthority_of_mem_authorityOf, ?_, isSegmented_splitParams rooted,
    ?_, ?_, ?_⟩
  · rcases rooted with empty | slash
    · refine .inl ?_
      unfold divided
      dsimp only
      rw [empty]
      exact ⟨rfl, rfl⟩
    · exact .inr (head?_splitParams slash)
  · intro c member
    have inside := inHierarchy c member
    refine ⟨?_, ?_⟩
    · rintro rfl
      exact cutAt_free '?' _ inside
    · rintro rfl
      exact cutAt_free '#' _ (mem_of_mem_cutAt_fst inside)
  · intro member
    exact cutAt_free '#' _ (mem_of_mem_cutAt_snd member)
  · intro c member
    rcases member with inAuthority | inPath | inParams | inQuery | inFragment
    · exact mem_cleaned (mem_of_mem_splitScheme (mem_of_mem_splitAuthority (.inl inAuthority)))
    · exact inRemainder c (mem_of_mem_cutAt_fst (mem_of_mem_cutAt_fst (inHierarchy c (.inl inPath))))
    · exact inRemainder c (mem_of_mem_cutAt_fst (mem_of_mem_cutAt_fst (inHierarchy c (.inr inParams))))
    · exact inRemainder c (mem_of_mem_cutAt_fst (mem_of_mem_cutAt_snd inQuery))
    · exact inRemainder c (mem_of_mem_cutAt_snd inFragment)

theorem splitScheme_web (web : IsWeb scheme) (rest : Text) :
    splitScheme (scheme ++ CodePoint.ofChar ':' :: rest) = (scheme, rest) := by
  have absent : CodePoint.ofChar ':' ∉ scheme := by
    rcases web with rfl | rfl
    · decide
    · decide
  have letters : ((scheme.head?.map CodePoint.isLetter).getD false && scheme.all isSchemeCharacter) = true := by
    rcases web with rfl | rfl
    · decide
    · decide
  have small : scheme.lower = scheme := by
    rcases web with rfl | rfl
    · decide
    · decide
  unfold splitScheme
  rw [Text.cutFirst?_eq_some.2 ⟨rfl, absent⟩]
  dsimp only
  rw [letters, if_pos rfl, small]

theorem cleaned_web (web : IsWeb scheme) (kept : ∀ c ∈ rest, isRemoved c = false) :
    cleaned (scheme ++ rest) = scheme ++ rest := by
  have shown : ∀ d ∈ scheme, isRemoved d = false ∧ ¬ d.val ≤ 0x20 := by
    rcases web with rfl | rfl
    · decide
    · decide
  obtain ⟨first, others, same⟩ := List.exists_cons_of_ne_nil web.ne_nil
  have inside : first ∈ scheme := same ▸ List.mem_cons_self
  have whole : (scheme ++ rest).filter (!isRemoved ·) = scheme ++ rest := by
    refine List.filter_eq_self.2 fun d member => ?_
    rcases List.mem_append.1 member with early | late
    · simp [(shown d early).1]
    · simp [kept d late]
  unfold cleaned
  rw [same, List.cons_append, List.dropWhile_cons_of_neg (by simpa using (shown first inside).2), ← List.cons_append,
    ← same, whole]

theorem splitAuthority_location (inside : ∀ c ∈ location, endsAuthority c = false)
    (starts : ∀ c ∈ rest.head?, endsAuthority c = true) :
    splitAuthority ("//" ++ location ++ rest) = (location, rest) := by
  have slashed : Text.startsWith ("//" ++ location ++ rest) "//" = true :=
    List.isPrefixOf_iff_prefix.2 ⟨location ++ rest, by simp⟩
  have all : ∀ c ∈ location, (!endsAuthority c) = true := fun c member => by simp [inside c member]
  unfold splitAuthority
  rw [if_pos slashed]
  change ((location ++ rest).takeWhile _, (location ++ rest).dropWhile _) = _
  rw [List.takeWhile_append_of_pos all, List.dropWhile_append_of_pos all]
  cases rest with
  | nil => simp
  | cons c others =>
    have ends := starts c rfl
    rw [List.takeWhile_cons_of_neg (by simp [ends]), List.dropWhile_cons_of_neg (by simp [ends]), List.append_nil]

namespace Parts.IsSplit

variable {p : Parts}

theorem head_remainder (own : p.IsSplit) : ∀ c ∈ p.remainder.head?, endsAuthority c = true := by
  intro c head
  unfold remainder at head
  have slash : endsAuthority (CodePoint.ofChar '/') = true := by decide
  rcases own.rooted with ⟨noPath, noParams⟩ | rooted
  · rw [noPath, noParams] at head
    unfold marked at head
    cases query : p.query with
    | nil =>
      rw [query] at head
      cases fragment : p.fragment with
      | nil =>
        rw [fragment] at head
        cases head
      | cons first others =>
        rw [fragment] at head
        cases head
        decide
    | cons first others =>
      rw [query] at head
      cases head
      decide
  · cases path : p.path with
    | nil =>
      rw [path] at rooted
      cases rooted
    | cons first others =>
      rw [path] at rooted head
      cases rooted
      cases head
      exact slash

theorem divided_remainder (own : p.IsSplit) : divided p.scheme p.authority p.remainder = p := by
  have noQuery : CodePoint.ofChar '?' ∉ p.path ++ marked ';' p.params := by
    intro member
    rcases List.mem_append.1 member with inPath | afterPath
    · exact (own.hierarchy _ (.inl inPath)).1 rfl
    · rcases mem_marked afterPath with impossible | inParams
      · exact absurd impossible (by decide)
      · exact (own.hierarchy _ (.inr inParams)).1 rfl
  have noFragment : CodePoint.ofChar '#' ∉ p.path ++ marked ';' p.params ++ marked '?' p.query := by
    intro member
    rcases List.mem_append.1 member with inHierarchy | afterHierarchy
    · rcases List.mem_append.1 inHierarchy with inPath | afterPath
      · exact (own.hierarchy _ (.inl inPath)).2 rfl
      · rcases mem_marked afterPath with impossible | inParams
        · exact absurd impossible (by decide)
        · exact (own.hierarchy _ (.inr inParams)).2 rfl
    · rcases mem_marked afterHierarchy with impossible | inQuery
      · exact absurd impossible (by decide)
      · exact own.query inQuery
  unfold divided remainder
  rw [cutAt_marked noFragment]
  dsimp only
  rw [cutAt_marked noQuery, own.segmented]

theorem unsplit_eq (own : p.IsSplit) :
    unsplit p = p.scheme ++ CodePoint.ofChar ':' :: ("//" ++ p.authority ++ p.remainder) := by
  have named : p.scheme.isEmpty = false := List.isEmpty_eq_false_iff.2 own.web.ne_nil
  have located : p.authority.isEmpty = false := List.isEmpty_eq_false_iff.2 own.located
  have path : (!(p.path ++ marked ';' p.params).isEmpty
      && (p.path ++ marked ';' p.params).head? != some (CodePoint.ofChar '/')) = false := by
    rcases own.rooted with ⟨noPath, noParams⟩ | rooted
    · rw [noPath, noParams]
      rfl
    · rw [List.head?_append, rooted]
      simp
  unfold unsplit withAuthority
  rw [named, located, path, Bool.not_false, Bool.true_or, if_pos rfl, if_neg Bool.false_ne_true,
    if_neg Bool.false_ne_true, remainder]
  simp

theorem kept_remainder (own : p.IsSplit) : ∀ c ∈ p.remainder, isRemoved c = false := by
  intro c member
  have mark {mark : Char} {part : Text} (isMark : isRemoved (CodePoint.ofChar mark) = false)
      (kept : ∀ c ∈ part, isRemoved c = false) (member : c ∈ marked mark part) : isRemoved c = false := by
    rcases mem_marked member with rfl | inside
    · exact isMark
    · exact kept c inside
  rcases List.mem_append.1 member with member | afterQuery
  · rcases List.mem_append.1 member with member | afterParams
    · rcases List.mem_append.1 member with inPath | afterPath
      · exact own.kept c (.inr (.inl inPath))
      · exact mark (by decide) (fun c inParams => own.kept c (.inr (.inr (.inl inParams)))) afterPath
    · exact mark (by decide) (fun c inQuery => own.kept c (.inr (.inr (.inr (.inl inQuery))))) afterParams
  · exact mark (by decide) (fun c inFragment => own.kept c (.inr (.inr (.inr (.inr inFragment))))) afterQuery

theorem kept_afterScheme (own : p.IsSplit) :
    ∀ c ∈ CodePoint.ofChar ':' :: ("//" ++ p.authority ++ p.remainder), isRemoved c = false := by
  have slashes : ∀ c ∈ Text.ofString "//", isRemoved c = false := by decide
  refine List.forall_mem_cons.2 ⟨by decide, List.forall_mem_append.2 ⟨?_, own.kept_remainder⟩⟩
  exact List.forall_mem_append.2 ⟨slashes, fun c inAuthority => own.kept c (.inl inAuthority)⟩

theorem kept_unsplit (own : p.IsSplit) : ∀ c ∈ unsplit p, isRemoved c = false := by
  have scheme : ∀ c ∈ p.scheme, isRemoved c = false := by
    rcases own.web with https | http
    · rw [https]; decide
    · rw [http]; decide
  rw [own.unsplit_eq]
  exact List.forall_mem_append.2 ⟨scheme, own.kept_afterScheme⟩

theorem split_unsplit (own : p.IsSplit) : split (unsplit p) = .ok p := by
  have clean : cleaned (unsplit p) = unsplit p := by
    rw [own.unsplit_eq]
    exact cleaned_web own.web own.kept_afterScheme
  have scheme : splitScheme (cleaned (unsplit p)) = (p.scheme, "//" ++ p.authority ++ p.remainder) := by
    rw [clean, own.unsplit_eq]
    exact splitScheme_web own.web _
  have authority : splitAuthority (splitScheme (cleaned (unsplit p))).2 = (p.authority, p.remainder) := by
    rw [scheme]
    exact splitAuthority_location own.authority own.head_remainder
  have sameScheme : schemeOf (unsplit p) = p.scheme := congrArg Prod.fst scheme
  have sameAuthority : authorityOf (unsplit p) = p.authority := congrArg Prod.fst authority
  have sameRemainder : remainderOf (unsplit p) = p.remainder := congrArg Prod.snd authority
  rw [split_eq_ok_iff (sameScheme ▸ own.web), sameScheme, sameAuthority, sameRemainder]
  exact ⟨own.permitted, own.divided_remainder.symm⟩

theorem withQuery (own : p.IsSplit) {query fragment : Text} (noMark : CodePoint.ofChar '#' ∉ query)
    (kept : ∀ c, c ∈ query ∨ c ∈ fragment → isRemoved c = false) :
    Parts.IsSplit { p with query := query, fragment := fragment } where
  web := own.web
  located := own.located
  permitted := own.permitted
  authority := own.authority
  rooted := own.rooted
  segmented := own.segmented
  hierarchy := own.hierarchy
  query := noMark
  kept := by
    intro c member
    rcases member with inAuthority | inPath | inParams | given
    · exact own.kept c (.inl inAuthority)
    · exact own.kept c (.inr (.inl inPath))
    · exact own.kept c (.inr (.inr (.inl inParams)))
    · exact kept c given

end Parts.IsSplit

theorem exists_split_of_same_place {parts : Parts} {other : Text} (split : Url.split t = .ok parts)
    (web : IsWeb parts.scheme) (scheme : schemeOf other = schemeOf t) (authority : authorityOf other = authorityOf t) :
    ∃ found, Url.split other = .ok found ∧ found.scheme = parts.scheme ∧ found.authority = parts.authority := by
  obtain ⟨sameScheme, sameAuthority⟩ := split_eq_ok split
  rw [sameScheme] at web
  obtain ⟨permitted, _⟩ := (split_eq_ok_iff web).1 split
  rw [← authority] at permitted
  have found : Url.split other = .ok _ := (split_eq_ok_iff (scheme ▸ web)).2 ⟨permitted, rfl⟩
  exact ⟨_, found, scheme.trans sameScheme.symm, authority.trans sameAuthority.symm⟩

end Url

end OidcLogin
