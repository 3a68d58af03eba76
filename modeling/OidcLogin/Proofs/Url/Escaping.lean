import OidcLogin.Proofs.Address.Reading
import OidcLogin.Proofs.Url.UserInfo

namespace OidcLogin.RequestUrl

variable {isBare : CodePoint → Bool} {t escaped path segment : Text} {c d : CodePoint}

-- The characters of a part: those that escapes are written with may stand in it, and no controls.
structure IsPart (isBare : CodePoint → Bool) : Prop where
  percent : isBare (CodePoint.ofChar '%') = true
  alphanumeric : ∀ c, c.isAlphanumeric = true → isBare c = true
  visible : ∀ c, isBare c = true → isVisible c = true

theorem isVisible_of_isUnreserved (unreserved : isUnreserved c = true) : isVisible c = true := by
  simp only [isUnreserved, Bool.or_eq_true, decide_eq_true_eq] at unreserved
  rcases unreserved with (((alphanumeric | rfl) | rfl) | rfl) | rfl
  · simp only [CodePoint.isAlphanumeric, CodePoint.isLetter, CodePoint.isUpper, CodePoint.isLower, CodePoint.isDigit,
      Bool.or_eq_true, Bool.and_eq_true, decide_eq_true_eq] at alphanumeric
    simp only [isVisible, Bool.and_eq_true, decide_eq_true_eq]
    omega
  all_goals rfl

theorem isUnreserved_of_isAlphanumeric (alphanumeric : c.isAlphanumeric = true) : isUnreserved c = true := by
  simp [isUnreserved, alphanumeric]

theorem isPart_allBut {reserved : Text} (free : reserved.contains (CodePoint.ofChar '%') = false) :
    IsPart (allBut reserved) where
  percent := by
    unfold allBut
    rw [free]
    rfl
  alphanumeric := by
    intro c alphanumeric
    simp [allBut, isUnreserved_of_isAlphanumeric alphanumeric]
  visible := by
    intro c bare
    simp only [allBut, Bool.or_eq_true, Bool.and_eq_true] at bare
    exact bare.elim isVisible_of_isUnreserved And.left

theorem isPart_host : IsPart isBareInHost where
  percent := by decide
  alphanumeric := by
    intro c alphanumeric
    simp [isBareInHost, isUnreserved_of_isAlphanumeric alphanumeric]
  visible := by
    intro c bare
    rcases Bool.or_eq_true_iff.1 bare with unreserved | mark
    · exact isVisible_of_isUnreserved unreserved
    · have all : ∀ d ∈ Text.ofString "!$&'()*+,;=\"`\x7b\x7d%|\\", isVisible d = true := by decide
      exact all c (List.contains_iff_mem.1 mark)

theorem isPart_userInfo : IsPart isBareInUserInfo := isPart_allBut (by decide)
theorem isPart_path : IsPart isBareInPath := isPart_allBut (by decide)
theorem isPart_query : IsPart isBareInQuery := isPart_allBut (by decide)
theorem isPart_fragment : IsPart isBareInFragment := isPart_allBut (by decide)

theorem escapeCharacter_of_bare (bare : isBare c = true) : escapeCharacter isBare c = [c] := if_pos bare

-- An escape that is there is kept, which is what escaping its characters one by one gives.
theorem escapeAll_eq_flatMap (part : IsPart isBare) (done : List Text) (t : Text) :
    escapeAll isBare done t = done.reverse.flatten ++ t.flatMap (escapeCharacter isBare) := by
  have hex {c : CodePoint} (digit : c.hexValue?.isSome = true) : escapeCharacter isBare c = [c] :=
    escapeCharacter_of_bare (part.alphanumeric c (CodePoint.isAlphanumeric_of_hexValue? digit))
  fun_induction escapeAll isBare done t with
  | case1 done => simp
  | case2 done c high low after escape ih =>
    obtain ⟨rfl, highDigit, lowDigit⟩ := escape
    rw [ih]
    simp only [List.flatMap_cons, escapeCharacter_of_bare part.percent, hex highDigit, hex lowDigit]
    simp
  | case3 done c high low after notEscape ih =>
    rw [ih]
    simp
  | case4 done c other short ih =>
    rw [ih]
    simp

theorem isAlphanumeric_upperHex : ∀ n < 16, (Form.upperHex n).isAlphanumeric = true := by decide

theorem mem_escapeCharacter (member : d ∈ escapeCharacter isBare c) :
    isBare c = true ∧ d = c ∨ d = CodePoint.ofChar '%' ∨ d.isAlphanumeric = true := by
  unfold escapeCharacter at member
  split at member
  · rename_i bare
    exact .inl ⟨bare, List.mem_singleton.1 member⟩
  · obtain ⟨b, _, inside⟩ := List.mem_flatMap.1 member
    have small : b.toNat < 256 := b.toNat_lt
    rcases List.mem_cons.1 inside with mark | digits
    · exact .inr (.inl mark)
    · rcases List.mem_cons.1 digits with rfl | low
      · exact .inr (.inr (isAlphanumeric_upperHex _ (by omega)))
      · rw [List.mem_singleton.1 low]
        exact .inr (.inr (isAlphanumeric_upperHex _ (by omega)))

theorem bare_of_mem_escapeCharacter (part : IsPart isBare) (member : d ∈ escapeCharacter isBare c) :
    isBare d = true := by
  rcases mem_escapeCharacter member with ⟨bare, rfl⟩ | rfl | alphanumeric
  · exact bare
  · exact part.percent
  · exact part.alphanumeric d alphanumeric

theorem bare_of_escapePart (part : IsPart isBare) (made : escapePart isBare t = .ok escaped) :
    ∀ c ∈ escaped, isBare c = true := by
  rw [escapePart_eq_ok made, escapeAll_eq_flatMap part]
  intro d member
  obtain ⟨c, _, inside⟩ := List.mem_flatMap.1 member
  exact bare_of_mem_escapeCharacter part inside

theorem flatMap_of_bare (bare : ∀ c ∈ t, isBare c = true) : t.flatMap (escapeCharacter isBare) = t := by
  induction t with
  | nil => rfl
  | cons c t ih =>
    obtain ⟨first, rest⟩ := List.forall_mem_cons.1 bare
    rw [List.flatMap_cons, escapeCharacter_of_bare first, ih rest]
    rfl

theorem escapePart_of_bare (part : IsPart isBare) (bare : ∀ c ∈ t, isBare c = true) :
    escapePart isBare t = .ok t := by
  have scalar : t.find? CodePoint.isSurrogate = none := by
    rw [List.find?_eq_none]
    intro c member
    have visible := part.visible c (bare c member)
    simp only [isVisible, Bool.and_eq_true, decide_eq_true_eq] at visible
    simp only [CodePoint.isSurrogate, Bool.and_eq_true, decide_eq_true_eq]
    omega
  unfold escapePart escape
  rw [scalar, escapeAll_eq_flatMap part, flatMap_of_bare bare]
  rfl

theorem escapeOptional_some (isBare : CodePoint → Bool) (t : Text) :
    escapeOptional isBare (some t) = (escapePart isBare t).map some := rfl

theorem escapeOptional_of_bare (part : IsPart isBare) {t? : Option Text} (bare : ∀ t ∈ t?, ∀ c ∈ t, isBare c = true) :
    escapeOptional isBare t? = .ok t? := by
  cases t? with
  | none => rfl
  | some t =>
    rw [escapeOptional_some, escapePart_of_bare part (bare t rfl)]
    rfl

theorem bare_of_escapeOptional (part : IsPart isBare) {t? escaped? : Option Text}
    (made : escapeOptional isBare t? = .ok escaped?) : ∀ t ∈ escaped?, ∀ c ∈ t, isBare c = true := by
  cases t? with
  | none =>
    cases made
    exact nofun
  | some t =>
    rw [escapeOptional_some] at made
    obtain ⟨escaped, written, made⟩ := except_map_eq_ok.1 made
    cases made
    intro other same
    cases same
    exact bare_of_escapePart part written

theorem control?_of_visible (visible : ∀ c ∈ t, isVisible c = true) : control? t = none := by
  rw [control?_eq_none]
  intro c member
  have here := visible c member
  simp only [isVisible, Bool.and_eq_true, decide_eq_true_eq] at here
  simp only [CodePoint.isControl, Bool.or_eq_false_iff, decide_eq_false_iff_not]
  omega

theorem control?_of_bare (part : IsPart isBare) (bare : ∀ c ∈ t, isBare c = true) : control? t = none :=
  control?_of_visible fun c member => part.visible c (bare c member)

def IsPlain (segment : Text) : Prop := segment ≠ Text.ofString "." ∧ segment ≠ Text.ofString ".."

def IsUndotted (path : Text) : Prop := ∀ segment ∈ path.splitOn (· = CodePoint.ofChar '/'), IsPlain segment

def keepSegment (kept : List Text) (segment : Text) : List Text :=
  if segment = Text.ofString "." then kept
  else if segment = Text.ofString ".." then (if kept = [] ∨ kept = [[]] then kept else kept.drop 1)
  else segment :: kept

theorem removeDotSegments_eq (path : Text) :
    removeDotSegments path
      = Text.join [CodePoint.ofChar '/'] ((path.splitOn (· = CodePoint.ofChar '/')).foldl keepSegment []).reverse :=
  rfl

theorem foldl_keepSegment {segments done : List Text} (plain : ∀ segment ∈ segments, IsPlain segment) :
    segments.foldl keepSegment done = segments.reverse ++ done := by
  induction segments generalizing done with
  | nil => rfl
  | cons segment segments ih =>
    obtain ⟨⟨one, two⟩, rest⟩ := List.forall_mem_cons.1 plain
    rw [List.foldl_cons, keepSegment, if_neg one, if_neg two, ih rest]
    simp

theorem plain_of_mem_foldl {segments done : List Text} (plain : ∀ segment ∈ done, IsPlain segment)
    (member : segment ∈ segments.foldl keepSegment done) : IsPlain segment ∧ (segment ∈ done ∨ segment ∈ segments) := by
  induction segments generalizing done with
  | nil => exact ⟨plain segment member, .inl member⟩
  | cons first segments ih =>
    have step : ∀ other ∈ keepSegment done first, IsPlain other ∧ (other ∈ done ∨ other = first) := by
      intro other inside
      unfold keepSegment at inside
      split at inside
      · exact ⟨plain other inside, .inl inside⟩
      · rename_i one
        split at inside
        · split at inside
          · exact ⟨plain other inside, .inl inside⟩
          · have before := List.mem_of_mem_drop inside
            exact ⟨plain other before, .inl before⟩
        · rename_i two
          rcases List.mem_cons.1 inside with rfl | before
          · exact ⟨⟨one, two⟩, .inr rfl⟩
          · exact ⟨plain other before, .inl before⟩
    obtain ⟨here, origin⟩ := ih (fun other inside => (step other inside).1) member
    refine ⟨here, ?_⟩
    rcases origin with inside | later
    · rcases (step segment inside).2 with before | rfl
      · exact .inl before
      · exact .inr List.mem_cons_self
    · exact .inr (List.mem_cons_of_mem _ later)

theorem removeDotSegments_of_isUndotted (undotted : IsUndotted path) : removeDotSegments path = path := by
  rw [removeDotSegments_eq, foldl_keepSegment undotted, List.append_nil, List.reverse_reverse]
  exact Text.join_splitOn _ path

theorem isUndotted_removeDotSegments (path : Text) : IsUndotted (removeDotSegments path) := by
  rw [removeDotSegments_eq]
  generalize left : ((path.splitOn (· = CodePoint.ofChar '/')).foldl keepSegment []).reverse = segments
  have plain : ∀ segment ∈ segments, IsPlain segment ∧ CodePoint.ofChar '/' ∉ segment := by
    intro segment member
    rw [← left, List.mem_reverse] at member
    obtain ⟨here, origin⟩ := plain_of_mem_foldl (List.forall_mem_nil _) member
    rcases origin with none | isPiece
    · cases none
    · exact ⟨here, fun slash => absurd rfl (of_decide_eq_false (Text.mem_of_mem_splitOn isPiece slash).2)⟩
  intro segment isPiece
  by_cases empty : segments = []
  · rw [empty] at isPiece
    rw [List.mem_singleton.1 isPiece]
    exact ⟨by decide, by decide⟩
  · rw [Text.splitOn_join empty fun piece member => (plain piece member).2] at isPiece
    exact (plain segment isPiece).1

theorem mem_removeDotSegments (member : c ∈ removeDotSegments path) : c = CodePoint.ofChar '/' ∨ c ∈ path := by
  rw [removeDotSegments_eq] at member
  rcases Text.mem_join member with mark | ⟨segment, isSegment, inside⟩
  · exact .inl (List.mem_singleton.1 mark)
  · rw [List.mem_reverse] at isSegment
    rcases (plain_of_mem_foldl (List.forall_mem_nil _) isSegment).2 with none | isPiece
    · cases none
    · exact .inr (Text.mem_of_mem_splitOn isPiece inside).1

-- Escaping goes through the segments one by one, and leaves no dots where there were none.

theorem splitOn_flatMap (slash : isBare (CodePoint.ofChar '/') = true) (t : Text) :
    Text.splitOn (· = CodePoint.ofChar '/') (t.flatMap (escapeCharacter isBare))
      = (Text.splitOn (· = CodePoint.ofChar '/') t).map (·.flatMap (escapeCharacter isBare)) := by
  induction t with
  | nil => rfl
  | cons c t ih =>
    rw [List.flatMap_cons]
    by_cases same : c = CodePoint.ofChar '/'
    · subst same
      rw [escapeCharacter_of_bare slash, List.singleton_append, Text.splitOn_cons_of_pos (by rfl),
        Text.splitOn_cons_of_pos (by rfl), ih]
      rfl
    · obtain ⟨first, rest, pieces⟩ :=
        List.exists_cons_of_ne_nil (Text.splitOn_ne_nil (p := (· = CodePoint.ofChar '/')) (t := t))
      have free : ∀ d ∈ escapeCharacter isBare c, decide (d = CodePoint.ofChar '/') = false := by
        intro d member
        refine decide_eq_false fun isSlash => ?_
        subst isSlash
        rcases mem_escapeCharacter member with ⟨_, rfl⟩ | mark | alphanumeric
        · exact same rfl
        · exact absurd mark (by decide)
        · exact absurd alphanumeric (by decide)
      rw [pieces, List.map_cons] at ih
      rw [Text.splitOn_append_of_free free ih, Text.splitOn_cons_of_neg (decide_eq_false same) pieces]
      rfl

theorem flatMap_of_free (free : CodePoint.ofChar '%' ∉ t.flatMap (escapeCharacter isBare)) :
    t.flatMap (escapeCharacter isBare) = t := by
  apply flatMap_of_bare
  intro c member
  apply Classical.byContradiction
  intro notBare
  apply free
  refine List.mem_flatMap.2 ⟨c, member, ?_⟩
  rw [escapeCharacter, if_neg notBare]
  obtain ⟨b, rest, octets⟩ : ∃ b rest, c.utf8 = b :: rest := by
    unfold CodePoint.utf8
    dsimp only
    split
    · exact ⟨_, _, rfl⟩
    · split
      · exact ⟨_, _, rfl⟩
      · split
        · exact ⟨_, _, rfl⟩
        · exact ⟨_, _, rfl⟩
  rw [octets]
  exact List.mem_append_left _ List.mem_cons_self

theorem isPlain_flatMap (plain : IsPlain segment) : IsPlain (segment.flatMap (escapeCharacter isBare)) := by
  have kept : ∀ dots : Text, CodePoint.ofChar '%' ∉ dots → segment ≠ dots →
      segment.flatMap (escapeCharacter isBare) ≠ dots := by
    intro dots free other same
    rw [← same] at free
    exact other ((flatMap_of_free free).symm.trans same)
  exact ⟨kept _ (by decide) plain.1, kept _ (by decide) plain.2⟩

theorem isUndotted_of_escapePart (part : IsPart isBare) (slash : isBare (CodePoint.ofChar '/') = true)
    (undotted : IsUndotted path) (made : escapePart isBare path = .ok escaped) : IsUndotted escaped := by
  rw [escapePart_eq_ok made, escapeAll_eq_flatMap part]
  intro segment isPiece
  rw [List.reverse_nil, List.flatten_nil, List.nil_append, splitOn_flatMap slash] at isPiece
  obtain ⟨source, isSource, rfl⟩ := List.mem_map.1 isPiece
  exact isPlain_flatMap (undotted source isSource)

end OidcLogin.RequestUrl
