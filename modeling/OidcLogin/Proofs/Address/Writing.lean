import OidcLogin.Proofs.Address.Reading
import OidcLogin.Proofs.Text.Numerals

namespace OidcLogin.Address

variable {n start length : Nat} {groups : List Nat} {t : Text} {c : CodePoint}

theorem readOctet?_ofNat (small : n < 256) : readOctet? (Text.ofNat n) = some n := by
  have digits : (Text.ofNat n).all CodePoint.isDigit = true :=
    List.all_eq_true.2 fun c member => Text.isDigit_of_mem_ofNat member
  have full : (Text.ofNat n).isEmpty = false := by simpa using Text.ofNat_ne_nil n
  have short : (Text.ofNat n).length ≤ 3 := (Text.length_ofNat_le (by decide)).2 (by omega)
  have plain : ¬ (1 < (Text.ofNat n).length ∧ (Text.ofNat n).head? = some (CodePoint.ofChar '0')) := by
    intro given
    obtain ⟨long, zero⟩ := given
    rw [Text.eq_zero_of_head_ofNat zero] at long
    exact absurd long (by decide)
  unfold readOctet?
  rw [digits, full, if_neg (by simpa using short), if_neg plain]
  dsimp only
  rw [Text.digitsValue_ofNat, if_pos (by omega)]

theorem groupText_of_lt (small : n < 16) : groupText n = [CodePoint.ofChar n.digitChar] := by
  rw [groupText, Nat.toDigits_of_lt_base small, List.map_singleton]

theorem groupText_of_le (large : 16 ≤ n) :
    groupText n = groupText (n / 16) ++ [CodePoint.ofChar (n % 16).digitChar] := by
  rw [groupText, groupText, Nat.toDigits_of_base_le (by decide) large, List.map_append, List.map_singleton]

theorem groupText_ne_nil (n : Nat) : groupText n ≠ [] := by
  by_cases small : n < 16
  · simp [groupText_of_lt small]
  · simp [groupText_of_le (Nat.le_of_not_lt small)]

theorem hexValue?_digitChar : ∀ d < 16, (CodePoint.ofChar d.digitChar).hexValue? = some d := by decide

theorem hexValue?_groupText (n : Nat) : Text.hexValue? (groupText n) = some n := by
  induction n using Nat.strongRecOn with
  | ind n ih =>
    by_cases small : n < 16
    · rw [groupText_of_lt small]
      simp [Text.hexValue?, hexValue?_digitChar n small]
    · rw [groupText_of_le (Nat.le_of_not_lt small), Text.hexValue?_concat, ih (n / 16) (by omega),
        hexValue?_digitChar (n % 16) (by omega)]
      simp only [Option.bind_some, Option.map_some, Option.some.injEq]
      omega

theorem length_groupText_le (small : n < 65536) : (groupText n).length ≤ 4 := by
  rw [groupText, List.length_map]
  exact (Nat.length_toDigits_le_iff (by decide) (by decide)).2 small

theorem readGroup?_groupText (small : n < 65536) : readGroup? (groupText n) = some n := by
  have short := length_groupText_le small
  unfold readGroup?
  rw [if_neg, hexValue?_groupText]
  rw [not_or, List.isEmpty_iff]
  exact ⟨groupText_ne_nil n, by omega⟩

theorem free_of_groupText (member : c ∈ groupText n) :
    c ≠ CodePoint.ofChar ':' ∧ c ≠ CodePoint.ofChar '.' ∧ c ≠ CodePoint.ofChar '%' ∧ c ≠ CodePoint.ofChar '/' := by
  have digit := (Text.hexValue?_eq_some (hexValue?_groupText n)).2 c member
  refine ⟨?_, ?_, ?_, ?_⟩ <;>
    · rintro rfl
      cases digit

theorem readGroups?_gap {rest : List Text} (more : rest ≠ []) :
    readGroups? ([] :: rest) = (readGroups? rest).map (none :: ·) := by
  obtain ⟨next, others, rfl⟩ := List.exists_cons_of_ne_nil more
  rfl

theorem readGroups?_cons (small : n < 65536) {rest : List Text} (more : rest ≠ []) :
    readGroups? (groupText n :: rest) = (readGroups? rest).map (some n :: ·) := by
  obtain ⟨next, others, rfl⟩ := List.exists_cons_of_ne_nil more
  have full : (groupText n).isEmpty = false := by simpa using groupText_ne_nil n
  change (if (groupText n).isEmpty then _ else _) = _
  rw [full, if_neg Bool.false_ne_true, readGroup?_groupText small]
  cases readGroups? (next :: others) with
  | none => rfl
  | some read => rfl

theorem readGroups?_singleton (small : n < 65536) : readGroups? [groupText n] = some [some n] := by
  have full : (groupText n).isEmpty = false := by simpa using groupText_ne_nil n
  have undotted : (groupText n).contains (CodePoint.ofChar '.') = false := by
    rw [← Bool.not_eq_true, List.contains_iff_mem]
    exact fun member => (free_of_groupText member).2.1 rfl
  unfold readGroups?
  rw [undotted, full, readGroup?_groupText small]
  rfl

theorem readGroups?_append (small : ∀ n ∈ groups, n < 65536) {rest : List Text} (more : rest ≠ []) :
    readGroups? (groups.map groupText ++ rest) = (readGroups? rest).map (groups.map some ++ ·) := by
  induction groups with
  | nil => simp
  | cons n groups ih =>
    have later := ih fun m member => small m (List.mem_cons_of_mem _ member)
    have full := List.append_ne_nil_of_right_ne_nil (groups.map groupText) more
    rw [List.map_cons, List.cons_append, readGroups?_cons (small n List.mem_cons_self) full, later,
      Option.map_map]
    rfl

theorem readGroups?_groups (small : ∀ n ∈ groups, n < 65536) :
    readGroups? (groups.map groupText) = some (groups.map some) := by
  induction groups using List.reverseRecOn with
  | nil => rfl
  | append_singleton groups n _ =>
    have before : ∀ m ∈ groups, m < 65536 := fun m member => small m (List.mem_append_left _ member)
    have last := small n (List.mem_append_right _ (List.mem_singleton.2 rfl))
    rw [List.map_append, List.map_singleton, readGroups?_append before (List.cons_ne_nil _ _),
      readGroups?_singleton last, Option.map_some, List.map_append, List.map_singleton]

-- What is written before or after an omission: nothing is an empty text.
def sideTexts (groups : List Nat) : List Text := if groups.isEmpty then [[]] else groups.map groupText

def sideGroups (groups : List Nat) : List (Option Nat) := if groups.isEmpty then [none] else groups.map some

theorem sideTexts_ne_nil (groups : List Nat) : sideTexts groups ≠ [] := by
  unfold sideTexts
  split
  · exact List.cons_ne_nil _ _
  · rename_i full
    simpa using full

theorem mem_sideTexts {piece : Text} (isPiece : piece ∈ sideTexts groups) :
    piece = [] ∨ ∃ n ∈ groups, groupText n = piece := by
  unfold sideTexts at isPiece
  split at isPiece
  · exact .inl (List.mem_singleton.1 isPiece)
  · exact .inr (List.mem_map.1 isPiece)

theorem length_sideTexts_le (groups : List Nat) : (sideTexts groups).length ≤ groups.length + 1 := by
  unfold sideTexts
  split
  · exact Nat.le_add_left _ _
  · rw [List.length_map]
    exact Nat.le_add_right _ _

theorem readGroups?_sideTexts (small : ∀ n ∈ groups, n < 65536) :
    readGroups? (sideTexts groups) = some (sideGroups groups) := by
  unfold sideTexts sideGroups
  split
  · rfl
  · exact readGroups?_groups small

theorem readGroups?_omitted {before after : List Nat} (smallBefore : ∀ n ∈ before, n < 65536)
    (smallAfter : ∀ n ∈ after, n < 65536) :
    readGroups? (sideTexts before ++ [] :: sideTexts after)
      = some (sideGroups before ++ none :: sideGroups after) := by
  have gap : readGroups? ([] :: sideTexts after) = some (none :: sideGroups after) := by
    rw [readGroups?_gap (sideTexts_ne_nil after), readGroups?_sideTexts smallAfter, Option.map_some]
  cases before with
  | nil =>
    change readGroups? ([] :: [] :: sideTexts after) = _
    rw [readGroups?_gap (List.cons_ne_nil _ _), gap]
    rfl
  | cons n before =>
    change readGroups? ((n :: before).map groupText ++ _) = _
    rw [readGroups?_append smallBefore (List.cons_ne_nil _ _), gap]
    rfl

theorem fillGroups?_groups (eight : groups.length = 8) : fillGroups? (groups.map some) = some groups := by
  have all : ∀ g ∈ groups.map some, g.isSome = true := by
    intro g member
    obtain ⟨n, _, rfl⟩ := List.mem_map.1 member
    rfl
  unfold fillGroups?
  dsimp only
  rw [List.dropWhile_eq_nil_iff.2 all]
  dsimp only
  rw [List.length_map, if_pos eight]
  exact mapM_id_eq_some.2 rfl

theorem back_of_sideGroups (groups : List Nat) :
    (if sideGroups groups = [none] then [] else sideGroups groups) = groups.map some := by
  cases groups with
  | nil => rfl
  | cons n groups => exact if_neg (by simp [sideGroups])

theorem fillGroups?_omitted (before after : List Nat) (room : before.length + after.length < 8) :
    fillGroups? (sideGroups before ++ none :: sideGroups after)
      = some (before ++ List.replicate (8 - (before.length + after.length)) 0 ++ after) := by
  have all : (after.map some).all (·.isSome) = true := by simp
  have filled : (if (after.map some).all (·.isSome)
        && decide ((before.map some).length + (after.map some).length < 8) then
      (before.map some ++ List.replicate (8 - ((before.map some).length + (after.map some).length)) (some 0)
        ++ after.map some).mapM id else none)
      = some (before ++ List.replicate (8 - (before.length + after.length)) 0 ++ after) := by
    rw [all, List.length_map, List.length_map, if_pos (by simpa using room)]
    exact mapM_id_eq_some.2 (by simp)
  rw [← back_of_sideGroups after] at filled
  obtain ⟨next, others, more⟩ : ∃ next others, sideGroups after = next :: others := by
    cases after with
    | nil => exact ⟨none, [], rfl⟩
    | cons m after => exact ⟨some m, after.map some, rfl⟩
  cases before with
  | nil =>
    rw [more] at filled ⊢
    exact filled
  | cons n before =>
    have taken : (sideGroups (n :: before) ++ none :: sideGroups after).takeWhile (·.isSome)
        = (n :: before).map some := by
      simp [sideGroups]
    have left : (sideGroups (n :: before) ++ none :: sideGroups after).dropWhile (·.isSome)
        = none :: sideGroups after := by
      simp [sideGroups]
    unfold fillGroups?
    rw [taken, left, more]
    rw [more] at filled
    exact filled

theorem longestZeroRun_eq (run : longestZeroRun groups = (start, length)) (long : 2 ≤ length) :
    groups = groups.take start ++ (List.replicate length 0 ++ groups.drop (start + length)) := by
  have chosen : ∀ (runs : List (Nat × Nat)) (best : Nat × Nat),
      let last := runs.foldl (fun best run => if best.2 < run.2 then run else best) best
      last = best ∨ last ∈ runs := by
    intro runs
    induction runs with
    | nil => exact fun best => .inl rfl
    | cons run runs ih =>
      intro best
      rcases ih (if best.2 < run.2 then run else best) with same | later
      · rw [List.foldl_cons, same]
        split
        · exact .inr List.mem_cons_self
        · exact .inl rfl
      · exact .inr (List.mem_cons_of_mem _ later)
  unfold longestZeroRun at run
  dsimp only at run
  rcases run ▸ chosen _ (0, 0) with none | member
  · cases none
    contradiction
  · obtain ⟨i, _, same⟩ := List.mem_map.1 member
    cases same
    have zeros : ∀ n ∈ (groups.drop start).takeWhile (· = 0), n = 0 := by
      intro n inside
      simpa using List.all_eq_true.1 List.all_takeWhile n inside
    have window := List.takeWhile_append_dropWhile (p := (· = 0)) (l := groups.drop start)
    have rest := congrArg (List.drop ((groups.drop start).takeWhile (· = 0)).length) window
    rw [List.drop_left] at rest
    rw [← List.eq_replicate_of_mem zeros, ← List.drop_drop, ← rest, window, List.take_append_drop]

theorem join_sideTexts (mark : Text) (groups : List Nat) :
    Text.join mark (sideTexts groups) = Text.join mark (groups.map groupText) := by
  cases groups with
  | nil => rfl
  | cons n groups => rfl

-- The two ways groups are written, both as texts with colons between them.
theorem groupsText_eq (groups : List Nat) :
    groupsText groups = Text.join [CodePoint.ofChar ':'] (groups.map groupText)
      ∨ ∃ before length after, 2 ≤ length ∧ groups = before ++ (List.replicate length 0 ++ after)
          ∧ groupsText groups
              = Text.join [CodePoint.ofChar ':'] (sideTexts before ++ [] :: sideTexts after) := by
  cases run : longestZeroRun groups with
  | mk start length =>
    unfold groupsText
    rw [run]
    dsimp only
    by_cases short : length < 2
    · rw [if_pos short]
      exact .inl rfl
    · have window := longestZeroRun_eq run (by omega)
      refine .inr ⟨groups.take start, length, groups.drop (start + length), by omega, window, ?_⟩
      have gap : Text.join [CodePoint.ofChar ':'] ([] :: sideTexts (groups.drop (start + length)))
          = [CodePoint.ofChar ':'] ++ Text.join [CodePoint.ofChar ':'] (sideTexts (groups.drop (start + length))) :=
        Text.join_append _ (List.cons_ne_nil [] []) (sideTexts_ne_nil _)
      rw [if_neg short, Text.join_append _ (sideTexts_ne_nil _) (List.cons_ne_nil _ _), gap, join_sideTexts,
        join_sideTexts, List.map_take, List.map_drop, List.append_assoc]
      rfl

theorem groupsText_pieces (eight : groups.length = 8) :
    ∃ pieces, groupsText groups = Text.join [CodePoint.ofChar ':'] pieces ∧ 2 ≤ pieces.length ∧ pieces.length ≤ 9
      ∧ ∀ piece ∈ pieces, piece = [] ∨ ∃ n ∈ groups, groupText n = piece := by
  rcases groupsText_eq groups with written | ⟨before, length, after, long, rfl, written⟩
  · refine ⟨_, written, ?_, ?_, fun piece isPiece => .inr (List.mem_map.1 isPiece)⟩ <;>
      rw [List.length_map] <;> omega
  · refine ⟨_, written, ?_, ?_, ?_⟩
    · have first := List.length_pos_iff.2 (sideTexts_ne_nil before)
      rw [List.length_append, List.length_cons]
      omega
    · have first := length_sideTexts_le before
      have last := length_sideTexts_le after
      simp only [List.length_append, List.length_cons, List.length_replicate] at eight ⊢
      omega
    · intro piece isPiece
      rcases List.mem_append.1 isPiece with first | last
      · refine (mem_sideTexts first).imp_right fun ⟨n, inside, same⟩ => ?_
        exact ⟨n, List.mem_append_left _ inside, same⟩
      · rcases List.mem_cons.1 last with rfl | last
        · exact .inl rfl
        · refine (mem_sideTexts last).imp_right fun ⟨n, inside, same⟩ => ?_
          exact ⟨n, List.mem_append_right _ (List.mem_append_right _ inside), same⟩

theorem colon_not_mem {piece : Text} (isPiece : piece = [] ∨ ∃ n ∈ groups, groupText n = piece) :
    CodePoint.ofChar ':' ∉ piece := by
  rcases isPiece with rfl | ⟨n, _, rfl⟩
  · exact List.not_mem_nil
  · exact fun member => (free_of_groupText member).1 rfl

theorem readV6Value?_groupsText (eight : groups.length = 8) (small : ∀ n ∈ groups, n < 65536) :
    readV6Value? (groupsText groups) = some (groupsValue groups) := by
  unfold readV6Value?
  dsimp only
  rcases groupsText_eq groups with written | ⟨before, length, after, long, rfl, written⟩
  · have full : groups.map groupText ≠ [] := by
      rintro none
      rw [List.map_eq_nil_iff.1 none] at eight
      contradiction
    have free : ∀ piece ∈ groups.map groupText, CodePoint.ofChar ':' ∉ piece := fun piece isPiece =>
      colon_not_mem (.inr (List.mem_map.1 isPiece))
    rw [written, Text.splitOn_join full free, List.length_map, if_neg (by omega), readGroups?_groups small]
    simp [fillGroups?_groups eight]
  · have lengths : before.length + (length + after.length) = 8 := by simpa using eight
    have free : ∀ piece ∈ sideTexts before ++ [] :: sideTexts after, CodePoint.ofChar ':' ∉ piece := by
      intro piece isPiece
      rcases List.mem_append.1 isPiece with first | last
      · exact colon_not_mem (mem_sideTexts first)
      · rcases List.mem_cons.1 last with rfl | last
        · exact List.not_mem_nil
        · exact colon_not_mem (mem_sideTexts last)
    have smallBefore : ∀ n ∈ before, n < 65536 := fun n member => small n (List.mem_append_left _ member)
    have smallAfter : ∀ n ∈ after, n < 65536 := fun n member =>
      small n (List.mem_append_right _ (List.mem_append_right _ member))
    have filled := fillGroups?_omitted before after (by omega)
    rw [show 8 - (before.length + after.length) = length by omega, List.append_assoc] at filled
    rw [written, Text.splitOn_join (by simp) free, readGroups?_omitted smallBefore smallAfter, if_neg]
    · simp [filled]
    · have first := List.length_pos_iff.2 (sideTexts_ne_nil before)
      have last := List.length_pos_iff.2 (sideTexts_ne_nil after)
      simp only [List.length_append, List.length_cons]
      omega

theorem length_groupsOf (value : Nat) : (groupsOf value).length = 8 := by
  simp [groupsOf]

theorem lt_of_mem_groupsOf {value : Nat} (member : n ∈ groupsOf value) : n < 65536 := by
  obtain ⟨i, _, rfl⟩ := List.mem_map.1 member
  exact Nat.mod_lt _ (by decide)

theorem groupsValue_groupsOf {value : Nat} (small : value < 2 ^ 128) : groupsValue (groupsOf value) = value := by
  have taken : ∀ k ≤ 8, groupsValue ((List.range k).map fun i => value / Nat.pow 65536 (7 - i) % 65536)
      = value / 65536 ^ (8 - k) := by
    intro k
    induction k with
    | zero => exact fun _ => (Nat.div_eq_of_lt small).symm
    | succ k ih =>
      intro fits
      rw [List.range_succ, List.map_append, List.map_singleton, groupsValue_concat, ih (by omega),
        show 8 - k = 7 - k + 1 by omega, show 8 - (k + 1) = 7 - k by omega, Nat.pow_succ, ← Nat.div_div_eq_div_mul]
      exact Nat.div_add_mod _ _
  exact (taken 8 le_rfl).trans (Nat.div_one value)

theorem mem_groupsText (eight : groups.length = 8) (member : c ∈ groupsText groups) :
    c = CodePoint.ofChar ':' ∨ c.hexValue?.isSome = true := by
  obtain ⟨pieces, written, _, _, origin⟩ := groupsText_pieces eight
  rw [written] at member
  rcases Text.mem_join member with mark | ⟨piece, isPiece, inside⟩
  · exact .inl (List.mem_singleton.1 mark)
  · rcases origin piece isPiece with rfl | ⟨n, _, rfl⟩
    · cases inside
    · exact .inr ((Text.hexValue?_eq_some (hexValue?_groupText n)).2 c inside)

theorem colon_mem_groupsText (eight : groups.length = 8) : CodePoint.ofChar ':' ∈ groupsText groups := by
  obtain ⟨pieces, written, several, _, _⟩ := groupsText_pieces eight
  rw [written]
  match pieces, several with
  | first :: second :: rest, _ =>
    rw [Text.join_cons_cons]
    simp

theorem length_groupsText_le (eight : groups.length = 8) (small : ∀ n ∈ groups, n < 65536) :
    (groupsText groups).length ≤ 45 := by
  obtain ⟨pieces, written, _, few, origin⟩ := groupsText_pieces eight
  have short : ∀ piece ∈ pieces, piece.length ≤ 4 := by
    intro piece isPiece
    rcases origin piece isPiece with rfl | ⟨n, inside, rfl⟩
    · exact Nat.zero_le _
    · exact length_groupText_le (small n inside)
  rw [written]
  have bound := Text.length_join_le (CodePoint.ofChar ':') short
  omega

theorem readV6?_groupsText {value : Nat} (small : value < 2 ^ 128) :
    readV6? (groupsText (groupsOf value)) = some (.v6 value none) := by
  have eight := length_groupsOf value
  have free : ∀ mark : CodePoint, mark ≠ CodePoint.ofChar ':' → mark.hexValue? = none →
      mark ∉ groupsText (groupsOf value) := by
    intro mark other noDigit member
    rcases mem_groupsText eight member with same | digit
    · exact other same
    · rw [noDigit] at digit
      cases digit
  unfold readV6?
  rw [if_neg, Text.cutFirst?_eq_none.2 (free _ (by decide) (by decide)),
    readV6Value?_groupsText eight fun n => lt_of_mem_groupsOf, groupsValue_groupsOf small]
  · rfl
  · rw [List.contains_iff_mem]
    exact free _ (by decide) (by decide)

theorem readV4?_eq_none (undotted : CodePoint.ofChar '.' ∉ t) : readV4? t = none := by
  have whole : t.splitOn (· = CodePoint.ofChar '.') = [t] := by
    apply Text.splitOn_of_free
    intro c member
    exact decide_eq_false fun same => undotted (same ▸ member)
  unfold readV4?
  rw [whole]

def octetsOf (value : Nat) : List Text :=
  (List.range 4).map fun i => Text.ofNat (value / Nat.pow 256 (3 - i) % 256)

theorem mem_octetsOf {value : Nat} {piece : Text} (isPiece : piece ∈ octetsOf value) :
    ∃ n < 256, piece = Text.ofNat n := by
  obtain ⟨i, _, rfl⟩ := List.mem_map.1 isPiece
  exact ⟨_, Nat.mod_lt _ (by decide), rfl⟩

theorem v4_toText (value : Nat) : (Address.v4 value).toText = Text.join [CodePoint.ofChar '.'] (octetsOf value) := rfl

theorem splitOn_octets (value : Nat) :
    (Address.v4 value).toText.splitOn (· = CodePoint.ofChar '.') = octetsOf value := by
  rw [v4_toText]
  refine Text.splitOn_join (List.cons_ne_nil _ _) fun piece isPiece member => ?_
  obtain ⟨n, _, rfl⟩ := mem_octetsOf isPiece
  exact absurd (Text.isDigit_of_mem_ofNat member) (by decide)

theorem readV4?_toText {value : Nat} (small : value < 2 ^ 32) : readV4? (Address.v4 value).toText = some value := by
  have octet : ∀ n, readOctet? (Text.ofNat (n % 256)) = some (n % 256) := fun n =>
    readOctet?_ofNat (Nat.mod_lt _ (by decide))
  unfold readV4?
  rw [splitOn_octets]
  change (do
    let a ← readOctet? (Text.ofNat (value / 16777216 % 256))
    let b ← readOctet? (Text.ofNat (value / 65536 % 256))
    let c ← readOctet? (Text.ofNat (value / 256 % 256))
    let d ← readOctet? (Text.ofNat (value / 1 % 256))
    pure (((a * 256 + b) * 256 + c) * 256 + d)) = _
  simp only [octet, Option.bind_eq_bind, Option.bind_some, Option.pure_def, Option.some.injEq]
  omega

theorem mem_v4_toText {value : Nat} (member : c ∈ (Address.v4 value).toText) :
    c = CodePoint.ofChar '.' ∨ c.isDigit = true := by
  rw [v4_toText] at member
  rcases Text.mem_join member with mark | ⟨piece, isPiece, inside⟩
  · exact .inl (List.mem_singleton.1 mark)
  · obtain ⟨n, _, rfl⟩ := mem_octetsOf isPiece
    exact .inr (Text.isDigit_of_mem_ofNat inside)

theorem length_v4_toText_le (value : Nat) : (Address.v4 value).toText.length ≤ 16 := by
  rw [v4_toText]
  apply Text.length_join_le (CodePoint.ofChar '.') (k := 3)
  intro piece isPiece
  obtain ⟨n, small, rfl⟩ := mem_octetsOf isPiece
  exact (Text.length_ofNat_le (by decide)).2 (by omega)

def Zoneless (a : Address) : Prop := ∀ value zone, a ≠ .v6 value (some zone)

theorem Zoneless.cases {a : Address} (zoneless : a.Zoneless) :
    (∃ value, a = .v4 value) ∨ ∃ value, a = .v6 value none := by
  cases a with
  | v4 value => exact .inl ⟨value, rfl⟩
  | v6 value zone =>
    cases zone with
    | none => exact .inr ⟨value, rfl⟩
    | some zone => exact absurd rfl (zoneless value zone)

theorem zoneless_of_read? {a : Address} (free : CodePoint.ofChar '%' ∉ t) (read : read? t = some a) : a.Zoneless := by
  unfold read? readV6? at read
  rw [Text.cutFirst?_eq_none.2 free] at read
  split at read
  · cases read
    exact nofun
  · split at read
    · cases read
    · obtain ⟨value, _, rfl⟩ := Option.map_eq_some_iff.1 read
      exact nofun

theorem v6_toText (value : Nat) : (Address.v6 value none).toText = groupsText (groupsOf value) := List.append_nil _

theorem isMark_of_mem_toText {a : Address} (zoneless : a.Zoneless) (member : c ∈ a.toText) : IsMark c := by
  rcases zoneless.cases with ⟨value, rfl⟩ | ⟨value, rfl⟩
  · rcases mem_v4_toText member with dot | digit
    · exact .inr (.inl dot)
    · exact .of_isDigit digit
  · rw [v6_toText] at member
    rcases mem_groupsText (length_groupsOf value) member with colon | digit
    · exact .inr (.inr colon)
    · exact .inl digit

theorem length_toText_le {a : Address} (zoneless : a.Zoneless) : a.toText.length ≤ 45 := by
  rcases zoneless.cases with ⟨value, rfl⟩ | ⟨value, rfl⟩
  · exact (length_v4_toText_le value).trans (by decide)
  · rw [v6_toText]
    exact length_groupsText_le (length_groupsOf value) fun n => lt_of_mem_groupsOf

theorem undotted_of_v6 (value : Nat) : CodePoint.ofChar '.' ∉ (Address.v6 value none).toText := by
  rw [v6_toText]
  intro member
  rcases mem_groupsText (length_groupsOf value) member with same | digit
  · exact absurd same (by decide)
  · exact absurd digit (by decide)

theorem readV6?_toText {value : Nat} (small : value < 2 ^ 128) :
    readV6? (Address.v6 value none).toText = some (.v6 value none) := by
  rw [v6_toText]
  exact readV6?_groupsText small

-- A zoneless address is what its canonical form is read as.
theorem read?_toText {a : Address} (range : a.InRange) (zoneless : a.Zoneless) : read? a.toText = some a := by
  unfold read?
  rcases zoneless.cases with ⟨value, rfl⟩ | ⟨value, rfl⟩
  · rw [readV4?_toText range]
  · rw [readV4?_eq_none (undotted_of_v6 value), readV6?_toText range]

theorem toText_ne_nil {a : Address} (range : a.InRange) (zoneless : a.Zoneless) : a.toText ≠ [] := by
  intro empty
  have read := read?_toText range zoneless
  rw [empty] at read
  cases read

end OidcLogin.Address
