import OidcLogin.Text.Basic

namespace OidcLogin.Text

variable {sep c : CodePoint} {p : CodePoint → Bool} {t before after : Text}

theorem cutFirst?_cons_self : cutFirst? c (c :: t) = some ([], t) := by
  simp [cutFirst?]

theorem cutFirst?_cons_of_ne (other : c ≠ sep) :
    cutFirst? sep (c :: t) = (cutFirst? sep t).map fun cut => (c :: cut.1, cut.2) := by
  have kept : (c != sep) = true := by simpa using other
  unfold cutFirst?
  rw [List.dropWhile_cons_of_pos (p := (· != sep)) kept,
    List.takeWhile_cons_of_pos (p := (· != sep)) kept]
  cases List.dropWhile (· != sep) t with
  | nil => rfl
  | cons head rest => rfl

theorem cutFirst?_eq_some :
    cutFirst? sep t = some (before, after) ↔ t = before ++ sep :: after ∧ sep ∉ before := by
  induction t generalizing before with
  | nil => simp [cutFirst?]
  | cons c t ih =>
    by_cases found : c = sep
    · subst found
      rw [cutFirst?_cons_self]
      constructor
      · intro same
        cases same
        exact ⟨rfl, List.not_mem_nil⟩
      · intro given
        obtain ⟨joined, absent⟩ := given
        cases before with
        | nil => cases joined; rfl
        | cons head rest =>
          cases joined
          exact absurd List.mem_cons_self absent
    · rw [cutFirst?_cons_of_ne found]
      constructor
      · intro given
        obtain ⟨⟨rest, tail⟩, cut, same⟩ := Option.map_eq_some_iff.1 given
        cases same
        obtain ⟨rfl, absent⟩ := ih.1 cut
        refine ⟨rfl, ?_⟩
        intro member
        rcases List.mem_cons.1 member with same | member
        · exact found same.symm
        · exact absent member
      · intro given
        obtain ⟨joined, absent⟩ := given
        cases before with
        | nil =>
          cases joined
          exact absurd rfl found
        | cons head rest =>
          cases joined
          have cut := ih.2 ⟨rfl, fun member => absent (List.mem_cons_of_mem _ member)⟩
          rw [cut]
          rfl

theorem cutFirst?_eq_none : cutFirst? sep t = none ↔ sep ∉ t := by
  induction t with
  | nil => simp [cutFirst?]
  | cons c t ih =>
    by_cases found : c = sep
    · subst found
      simp [cutFirst?_cons_self]
    · rw [cutFirst?_cons_of_ne found, Option.map_eq_none_iff, ih]
      simp [Ne.symm found]

theorem cutFirst?_fst (sep : CodePoint) (t : Text) :
    ((cutFirst? sep t).map (·.1)).getD t = t.takeWhile (· != sep) := by
  have whole := List.takeWhile_append_dropWhile (p := (· != sep)) (l := t)
  unfold cutFirst?
  cases rest : t.dropWhile (· != sep) with
  | nil =>
    rw [rest, List.append_nil] at whole
    exact whole.symm
  | cons head after => rfl

theorem cutFirst?_append (cut : cutFirst? sep t = some (before, after)) (suffix : Text) :
    cutFirst? sep (t ++ suffix) = some (before, after ++ suffix) := by
  obtain ⟨rfl, absent⟩ := cutFirst?_eq_some.1 cut
  exact cutFirst?_eq_some.2 ⟨by simp, absent⟩

theorem splitOn_cons_of_pos (isSep : p c = true) : splitOn p (c :: t) = [] :: splitOn p t := by
  simp [splitOn, isSep]

theorem splitOn_ne_nil : splitOn p t ≠ [] := by
  cases t with
  | nil => simp [splitOn]
  | cons c t =>
    simp only [splitOn, List.foldr_cons]
    split
    · exact List.cons_ne_nil _ _
    · split
      · exact List.cons_ne_nil _ _
      · exact List.cons_ne_nil _ _

theorem splitOn_cons_of_neg {piece : Text} {rest : List Text} (notSep : p c = false)
    (pieces : splitOn p t = piece :: rest) : splitOn p (c :: t) = (c :: piece) :: rest := by
  unfold splitOn at pieces ⊢
  rw [List.foldr_cons, pieces, if_neg (by simp [notSep])]

-- Two texts joined: the last piece of the one and the first of the other become one piece.
theorem splitOn_append (a b : Text) :
    ∃ init last first rest,
      splitOn p a = init ++ [last] ∧ splitOn p b = first :: rest
        ∧ splitOn p (a ++ b) = init ++ (last ++ first) :: rest := by
  induction a with
  | nil =>
    obtain ⟨first, rest, pieces⟩ := List.exists_cons_of_ne_nil (splitOn_ne_nil (p := p) (t := b))
    exact ⟨[], [], first, rest, rfl, pieces, pieces⟩
  | cons c a ih =>
    obtain ⟨init, last, first, rest, one, two, both⟩ := ih
    cases sep : p c with
    | true =>
      refine ⟨[] :: init, last, first, rest, ?_, two, ?_⟩
      · rw [splitOn_cons_of_pos sep, one]; rfl
      · rw [List.cons_append, splitOn_cons_of_pos sep, both]; rfl
    | false =>
      cases init with
      | nil =>
        exact ⟨[], c :: last, first, rest, splitOn_cons_of_neg sep one, two,
          splitOn_cons_of_neg sep both⟩
      | cons head init =>
        exact ⟨(c :: head) :: init, last, first, rest, splitOn_cons_of_neg sep one, two,
          splitOn_cons_of_neg sep both⟩

theorem cutLast?_append (absent : sep ∉ after) : cutLast? sep (before ++ sep :: after) = some (before, after) := by
  unfold cutLast?
  have backwards : (before ++ sep :: after).reverse = after.reverse ++ sep :: before.reverse := by simp
  rw [backwards, cutFirst?_eq_some.2 ⟨rfl, by simpa using absent⟩]
  simp

theorem cutLast?_eq_none (absent : sep ∉ t) : cutLast? sep t = none := by
  unfold cutLast?
  rw [Option.map_eq_none_iff, cutFirst?_eq_none]
  simpa using absent

-- Pieces that hold no separator are told from what stands between them.

theorem splitOn_nil (p : CodePoint → Bool) : splitOn p [] = [[]] := rfl

theorem splitOn_append_of_free (free : ∀ c ∈ before, p c = false) {piece : Text} {rest : List Text}
    (pieces : splitOn p after = piece :: rest) : splitOn p (before ++ after) = (before ++ piece) :: rest := by
  induction before with
  | nil => exact pieces
  | cons c before ih =>
    have later := ih fun d member => free d (List.mem_cons_of_mem _ member)
    exact splitOn_cons_of_neg (free c List.mem_cons_self) later

theorem splitOn_of_free (free : ∀ c ∈ t, p c = false) : splitOn p t = [t] := by
  have whole := splitOn_append_of_free free (splitOn_nil p)
  rwa [List.append_nil] at whole

theorem splitOn_append_cons (free : ∀ c ∈ before, p c = false) (isSep : p c = true) :
    splitOn p (before ++ c :: after) = before :: splitOn p after := by
  have later : splitOn p (c :: after) = [] :: splitOn p after := splitOn_cons_of_pos isSep
  have whole := splitOn_append_of_free free later
  rwa [List.append_nil] at whole

theorem mem_of_mem_splitOn {piece : Text} (isPiece : piece ∈ splitOn p t) (member : c ∈ piece) :
    c ∈ t ∧ p c = false := by
  induction t generalizing piece with
  | nil =>
    rw [List.mem_singleton.1 isPiece] at member
    cases member
  | cons d t ih =>
    cases sep : p d with
    | true =>
      rw [splitOn_cons_of_pos sep] at isPiece
      rcases List.mem_cons.1 isPiece with rfl | later
      · cases member
      · obtain ⟨inside, free⟩ := ih later member
        exact ⟨List.mem_cons_of_mem _ inside, free⟩
    | false =>
      obtain ⟨first, rest, pieces⟩ := List.exists_cons_of_ne_nil (splitOn_ne_nil (p := p) (t := t))
      rw [splitOn_cons_of_neg sep pieces] at isPiece
      rw [pieces] at ih
      rcases List.mem_cons.1 isPiece with rfl | later
      · rcases List.mem_cons.1 member with rfl | inside
        · exact ⟨List.mem_cons_self, sep⟩
        · obtain ⟨inside, free⟩ := ih List.mem_cons_self inside
          exact ⟨List.mem_cons_of_mem _ inside, free⟩
      · obtain ⟨inside, free⟩ := ih (List.mem_cons_of_mem _ later) member
        exact ⟨List.mem_cons_of_mem _ inside, free⟩

theorem join_cons_cons (mark first second : Text) (rest : List Text) :
    join mark (first :: second :: rest) = first ++ (mark ++ join mark (second :: rest)) := by
  simp [join]

theorem join_append (mark : Text) {front back : List Text} (fullFront : front ≠ []) (fullBack : back ≠ []) :
    join mark (front ++ back) = join mark front ++ (mark ++ join mark back) := by
  obtain ⟨next, others, rfl⟩ := List.exists_cons_of_ne_nil fullBack
  induction front with
  | nil => exact absurd rfl fullFront
  | cons first rest ih =>
    cases rest with
    | nil =>
      rw [List.singleton_append, join_cons_cons]
      simp [join]
    | cons second rest =>
      rw [List.cons_append, List.cons_append, join_cons_cons, ← List.cons_append, ih (List.cons_ne_nil _ _),
        join_cons_cons]
      simp

theorem length_join_le (mark : CodePoint) {k : Nat} {pieces : List Text} (short : ∀ piece ∈ pieces, piece.length ≤ k) :
    (join [mark] pieces).length ≤ pieces.length * (k + 1) := by
  induction pieces with
  | nil => exact Nat.zero_le _
  | cons first rest ih =>
    have later := ih fun piece member => short piece (List.mem_cons_of_mem _ member)
    have head := short first List.mem_cons_self
    cases rest with
    | nil =>
      simp only [join, List.map_nil, List.flatten_nil, List.append_nil, List.length_singleton]
      omega
    | cons second rest =>
      rw [join_cons_cons, List.length_append, List.length_append, List.length_singleton, List.length_cons,
        Nat.succ_mul]
      omega

theorem splitOn_join {pieces : List Text} (full : pieces ≠ []) (free : ∀ piece ∈ pieces, sep ∉ piece) :
    splitOn (· = sep) (join [sep] pieces) = pieces := by
  induction pieces with
  | nil => exact absurd rfl full
  | cons first rest ih =>
    have head : ∀ c ∈ first, decide (c = sep) = false := by
      intro c member
      refine decide_eq_false ?_
      rintro rfl
      exact free first List.mem_cons_self member
    cases rest with
    | nil =>
      rw [join_singleton]
      exact splitOn_of_free head
    | cons second rest =>
      have later := ih (List.cons_ne_nil second rest) fun piece member => free piece (List.mem_cons_of_mem _ member)
      rw [join_cons_cons]
      exact (splitOn_append_cons head (decide_eq_true rfl)).trans (congrArg (first :: ·) later)

theorem join_splitOn (sep : CodePoint) (t : Text) : join [sep] (splitOn (· = sep) t) = t := by
  induction t with
  | nil => rfl
  | cons c t ih =>
    obtain ⟨first, rest, pieces⟩ := List.exists_cons_of_ne_nil (splitOn_ne_nil (p := (· = sep)) (t := t))
    rw [pieces] at ih
    by_cases isSep : c = sep
    · rw [splitOn_cons_of_pos (decide_eq_true isSep), pieces, join_cons_cons, ih, isSep]
      rfl
    · rw [splitOn_cons_of_neg (decide_eq_false isSep) pieces]
      rw [← ih]
      cases rest with
      | nil => rfl
      | cons second rest => rfl

theorem mem_join_of_mem {mark piece : Text} {pieces : List Text} (isPiece : piece ∈ pieces) (inside : c ∈ piece) :
    c ∈ join mark pieces := by
  cases isPiece with
  | head rest => exact List.mem_append_left _ inside
  | tail first later =>
    have marked : c ∈ mark ++ piece := List.mem_append_right _ inside
    exact List.mem_append_right _ (List.mem_flatten_of_mem (List.mem_map_of_mem later) marked)

theorem mem_join {mark : Text} {pieces : List Text} (member : c ∈ join mark pieces) :
    c ∈ mark ∨ ∃ piece ∈ pieces, c ∈ piece := by
  cases pieces with
  | nil => cases member
  | cons first rest =>
    rcases List.mem_append.1 member with inside | later
    · exact .inr ⟨first, List.mem_cons_self, inside⟩
    · obtain ⟨joined, found, inside⟩ := List.mem_flatten.1 later
      obtain ⟨piece, isPiece, rfl⟩ := List.mem_map.1 found
      rcases List.mem_append.1 inside with between | inside
      · exact .inl between
      · exact .inr ⟨piece, List.mem_cons_of_mem _ isPiece, inside⟩

end OidcLogin.Text
