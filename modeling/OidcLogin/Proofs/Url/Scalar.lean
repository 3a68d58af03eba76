import OidcLogin.Proofs.Text.Octets
import OidcLogin.Proofs.Url.Form

namespace OidcLogin

namespace Utf8

-- How many code points so many octets more can tell apart.
def room : Nat → Nat
  | 0 => 1
  | n + 1 => 64 * room n

-- No octets that can still follow make a surrogate of the sequence.  The two bounds are those of the code
-- points that it can become.
structure Pending.Avoids (s : Pending) : Prop where
  low : 0x80 ≤ s.low
  high : s.high ≤ 0xBF
  owed : 1 ≤ s.owed ∧ s.owed ≤ 3
  apart : room s.owed * s.value + room (s.owed - 1) * (s.high - 0x7F) ≤ 0xD800
    ∨ 0xE000 ≤ room s.owed * s.value + room (s.owed - 1) * (s.low - 0x80)

def Item.IsScalar : Item → Prop
  | .point c => c.IsScalar
  | .malformed _ => True

theorem isScalar_ofNat {n : Nat} (apart : n < 0xD800 ∨ 0xE000 ≤ n) : (CodePoint.ofNat n).IsScalar := by
  unfold CodePoint.IsScalar CodePoint.isSurrogate CodePoint.ofNat
  split
  · simp
    omega
  · decide

theorem avoids_of_bounds {start count owed value low high : Nat} {lead : UInt8} {surrogate : Bool}
    (least : 0x80 ≤ low) (most : high ≤ 0xBF) (owes : 1 ≤ owed ∧ owed ≤ 3)
    (apart : room owed * value + room (owed - 1) * (high - 0x7F) ≤ 0xD800
      ∨ 0xE000 ≤ room owed * value + room (owed - 1) * (low - 0x80)) :
    Pending.Avoids ⟨start, lead, count, owed, value, low, high, surrogate⟩ :=
  ⟨least, most, owes, apart⟩

-- What opens a sequence is told by the range of its octet, from the lowest range to the highest.
theorem opening_sound (position : Nat) (b : UInt8) :
    Sum.elim Item.IsScalar Pending.Avoids (opening false position b) := by
  have byRange {p : Prop} [Decidable p] {first second : Sum Item Pending}
      (inside : p → Sum.elim Item.IsScalar Pending.Avoids first)
      (outside : ¬ p → Sum.elim Item.IsScalar Pending.Avoids second) :
      Sum.elim Item.IsScalar Pending.Avoids (if p then first else second) := iteInduction inside outside
  unfold opening
  refine byRange (fun ascii => ?_) fun _ => ?_
  · exact isScalar_ofNat (.inl (by omega))
  refine byRange (fun refused => trivial) fun _ => ?_
  refine byRange (fun two => ?_) fun _ => ?_
  · exact avoids_of_bounds (by decide) (by decide) (by decide) (.inl (by simp only [room, Nat.sub_self]; omega))
  refine byRange (fun lowestThree => ?_) fun _ => ?_
  · exact avoids_of_bounds (by decide) (by decide) (by decide) (.inl (by decide))
  refine byRange (fun surrogates => ?_) fun _ => ?_
  · exact avoids_of_bounds (by decide) (by decide) (by decide) (.inl (by decide))
  refine byRange (fun three => ?_) fun _ => ?_
  · exact avoids_of_bounds (by decide) (by decide) (by decide) (by simp only [room, Nat.sub_self]; omega)
  refine byRange (fun lowestFour => ?_) fun _ => ?_
  · exact avoids_of_bounds (by decide) (by decide) (by decide) (.inr (by decide))
  refine byRange (fun four => ?_) fun _ => ?_
  · exact avoids_of_bounds (by decide) (by decide) (by decide) (.inr (by simp only [room, Nat.sub_self]; omega))
  refine byRange (fun highest => ?_) fun _ => trivial
  · exact avoids_of_bounds (by decide) (by decide) (by decide) (.inr (by decide))

namespace Pending.Avoids

variable {s : Pending} {b : Nat}

theorem last (avoids : s.Avoids) (one : s.owed = 1) (above : s.low ≤ b) (below : b ≤ s.high) :
    (CodePoint.ofNat (64 * s.value + (b - 0x80))).IsScalar := by
  obtain ⟨low, high, _, apart⟩ := avoids
  rw [one] at apart
  simp only [room, Nat.sub_self] at apart
  apply isScalar_ofNat
  rcases apart with under | beyond
  · left; omega
  · right; omega

theorem further (avoids : s.Avoids) (more : s.owed ≠ 1) (above : s.low ≤ b) (below : b ≤ s.high)
    (count : Nat) (surrogate : Bool) :
    Pending.Avoids
      ⟨s.start, s.lead, count, s.owed - 1, 64 * s.value + (b - 0x80), 0x80, 0xBF, surrogate⟩ := by
  obtain ⟨low, high, ⟨atLeast, atMost⟩, apart⟩ := avoids
  have owed : s.owed = 2 ∨ s.owed = 3 := by omega
  refine ⟨Nat.le_refl _, Nat.le_refl _, ?_, ?_⟩
  · dsimp only; omega
  · rcases owed with two | three
    · rw [two] at apart ⊢
      simp only [room, Nat.sub_self] at apart ⊢
      omega
    · rw [three] at apart ⊢
      simp only [room, Nat.sub_self] at apart ⊢
      omega

end Pending.Avoids

def State.Avoids : State → Prop
  | .between => True
  | .within s => s.Avoids

theorem broken_isScalar (s : Pending) : s.broken.IsScalar := trivial

theorem cutOff_isScalar (s : Pending) : s.cutOff.IsScalar := by
  unfold Pending.cutOff
  split
  · exact broken_isScalar s
  · trivial

-- The invariant of the reader: what was read has no surrogate, and what is under way becomes none.
theorem scan_isScalar {items : List Item} {position : Nat} {state : State} {bytes : Bytes}
    (read : ∀ item ∈ items, item.IsScalar) (underWay : state.Avoids) :
    ∀ item ∈ scan false items position state bytes, item.IsScalar := by
  induction bytes generalizing items position state with
  | nil =>
    cases state with
    | between => simpa [scan] using read
    | within s =>
      intro item member
      rcases List.mem_cons.1 (List.mem_reverse.1 member) with rfl | earlier
      · exact cutOff_isScalar s
      · exact read item earlier
  | cons b rest ih =>
    have opened := opening_sound position b
    cases state with
    | between =>
      unfold scan
      split
      · rename_i item found
        rw [found] at opened
        exact ih (List.forall_mem_cons.2 ⟨opened, read⟩) trivial
      · rename_i s found
        rw [found] at opened
        exact ih read opened
    | within s =>
      unfold scan
      split
      · rename_i inRange
        dsimp only
        split
        · rename_i one
          exact ih (List.forall_mem_cons.2 ⟨underWay.last one inRange.1 inRange.2, read⟩) trivial
        · rename_i more
          exact ih read (underWay.further more inRange.1 inRange.2 _ _)
      · have readOn := List.forall_mem_cons.2 ⟨broken_isScalar s, read⟩
        split
        · rename_i item found
          rw [found] at opened
          exact ih (List.forall_mem_cons.2 ⟨opened, readOn⟩) trivial
        · rename_i next found
          rw [found] at opened
          exact ih readOn opened

theorem decodeLossy_isScalar (bytes : Bytes) : (decodeLossy bytes).IsScalar := by
  intro c member
  obtain ⟨item, inside, rfl⟩ := List.mem_map.1 member
  have all : ∀ item ∈ scan false [] 0 .between bytes, item.IsScalar := scan_isScalar (by simp) trivial
  have scalar := all item inside
  cases item with
  | point c => exact scalar
  | malformed piece => exact (by decide : CodePoint.replacement.IsScalar)

end Utf8

namespace Text

variable {c : CodePoint} {t other : Text}

theorem isScalar_cons : IsScalar (c :: t) ↔ c.IsScalar ∧ t.IsScalar := List.forall_mem_cons

theorem isScalar_append : IsScalar (t ++ other) ↔ t.IsScalar ∧ other.IsScalar := List.forall_mem_append

theorem isScalar_ofString (s : String) : (ofString s).IsScalar := by
  intro c member
  obtain ⟨character, _, rfl⟩ := List.mem_map.1 member
  have valid := character.valid
  simp only [UInt32.isValidChar, Nat.isValidChar] at valid
  unfold CodePoint.IsScalar CodePoint.isSurrogate
  rw [Bool.and_eq_false_iff, decide_eq_false_iff_not, decide_eq_false_iff_not]
  change ¬ 0xD800 ≤ character.val.toNat ∨ ¬ character.val.toNat < 0xE000
  omega

theorem IsScalar.of_subset (scalar : t.IsScalar) (inside : ∀ c ∈ other, c ∈ t) : other.IsScalar :=
  fun c member => scalar c (inside c member)

theorem exists_encode_utf8 : (∃ octets, t.encode .utf8 = .ok octets) ↔ t.IsScalar := by
  have accepts : (∀ c ∈ t, Charset.utf8.accepts c = true) ↔ t.IsScalar := by
    simp [Charset.accepts, IsScalar, CodePoint.IsScalar]
  rw [← accepts]
  constructor
  · intro written
    obtain ⟨octets, same⟩ := written
    exact (encode_eq_ok.1 same).1
  · intro accepted
    exact ⟨_, encode_eq_ok.2 ⟨accepted, rfl⟩⟩

end Text

namespace Form

theorem unescape_isScalar {octets : Bytes} {t : Text} (scalar : t.IsScalar) : (unescape octets t).IsScalar := by
  fun_induction unescape octets t with
  | case1 octets => exact Utf8.decodeLossy_isScalar _
  | case2 octets high low after _ _ _ _ _ ih =>
    exact ih (Text.isScalar_cons.1 (Text.isScalar_cons.1 (Text.isScalar_cons.1 scalar).2).2).2
  | case3 octets high low after _ _ ih => exact ih (Text.isScalar_cons.1 scalar).2
  | case4 octets rest _ _ ih => exact ih (Text.isScalar_cons.1 scalar).2
  | case5 octets c rest _ _ ih => exact ih (Text.isScalar_cons.1 scalar).2
  | case6 octets c rest _ ih =>
    obtain ⟨head, tail⟩ := Text.isScalar_cons.1 scalar
    exact Text.isScalar_append.2 ⟨Utf8.decodeLossy_isScalar _, Text.isScalar_cons.2 ⟨head, ih tail⟩⟩

theorem decodeText_isScalar {t : Text} (scalar : t.IsScalar) : (decodeText t).IsScalar := by
  refine unescape_isScalar fun c member => ?_
  obtain ⟨given, inside, rfl⟩ := List.mem_map.1 member
  split
  · decide
  · exact scalar given inside

theorem isScalar_of_mem_decode {keepBlank : Bool} {query name value : Text} (scalar : query.IsScalar)
    (member : (name, value) ∈ decode keepBlank query) : name.IsScalar ∧ value.IsScalar := by
  obtain ⟨piece, isPiece, decoded⟩ := List.mem_filterMap.1 member
  have pieceScalar : piece.IsScalar := scalar.of_subset fun _ member => (Text.mem_of_mem_splitOn isPiece member).1
  cases cut : piece.cutFirst? (CodePoint.ofChar '=') with
  | none =>
    unfold decodePiece? at decoded
    rw [cut] at decoded
    dsimp only at decoded
    split at decoded
    · cases decoded
    · split at decoded
      · cases decoded
        exact ⟨decodeText_isScalar pieceScalar, fun c impossible => absurd impossible List.not_mem_nil⟩
      · cases decoded
  | some halves =>
    obtain ⟨key, given⟩ := halves
    obtain ⟨joined, _⟩ := Text.cutFirst?_eq_some.1 cut
    rw [decodePiece?_of_cut cut] at decoded
    split at decoded
    · cases decoded
    · cases decoded
      rw [joined] at pieceScalar
      obtain ⟨keyScalar, marked⟩ := Text.isScalar_append.1 pieceScalar
      exact ⟨decodeText_isScalar keyScalar, decodeText_isScalar (Text.isScalar_cons.1 marked).2⟩

section Encode

theorem exists_map {ε α β : Type} {result : Except ε α} {f : α → β} :
    (∃ value, result.map f = .ok value) ↔ ∃ value, result = .ok value := by
  cases result with
  | error fault => simp [Except.map]
  | ok given => simp [Except.map]

theorem exists_encodePair {name value : Text} :
    (∃ piece, encodePair name value = .ok piece) ↔ name.IsScalar ∧ value.IsScalar := by
  have text (t : Text) : (∃ piece, encodeText t = .ok piece) ↔ t.IsScalar :=
    exists_map.trans Text.exists_encode_utf8
  rw [← text name, ← text value]
  unfold encodePair
  cases encodeText name with
  | error fault => simp
  | ok written =>
    cases encodeText value with
    | error fault => simp
    | ok given => simp

theorem exists_encodePairs {pairs : Pairs} :
    (∃ pieces, encodePairs pairs = .ok pieces) ↔ ∀ pair ∈ pairs, pair.1.IsScalar ∧ pair.2.IsScalar := by
  induction pairs with
  | nil => simp [encodePairs]
  | cons pair rest ih =>
    obtain ⟨name, value⟩ := pair
    rw [List.forall_mem_cons, ← ih, ← exists_encodePair]
    simp only [encodePairs]
    cases encodePair name value with
    | error fault => simp
    | ok piece =>
      dsimp only
      rw [exists_map]
      simp

theorem exists_encode {pairs : Pairs} :
    (∃ body, encode pairs = .ok body) ↔ ∀ pair ∈ pairs, pair.1.IsScalar ∧ pair.2.IsScalar :=
  exists_map.trans exists_encodePairs

end Encode

end Form

end OidcLogin
