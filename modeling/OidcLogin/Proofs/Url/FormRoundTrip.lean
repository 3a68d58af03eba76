import OidcLogin.Proofs.Text.Utf8
import OidcLogin.Proofs.Url.Scalar
import OidcLogin.Proofs.Validation.Success

namespace OidcLogin.Form

variable {t name value piece body : Text} {pairs : Pairs} {pieces : List Text} {c : CodePoint}

def isWritten (c : CodePoint) : Bool := isPlain c || c = '%' || c = '+'

-- A plus is read as a space, before escapes are looked at.
def unplussed (c : CodePoint) : CodePoint := if c = CodePoint.ofChar '+' then CodePoint.ofChar ' ' else c

theorem decodeText_eq (t : Text) : decodeText t = unescape [] (t.map unplussed) := rfl

theorem isPlain_upperHex : ∀ n < 16, isPlain (upperHex n) = true := by decide

theorem hexValue?_upperHex : ∀ n < 16, (upperHex n).hexValue? = some n := by decide

theorem isAscii_of_isPlain (plain : isPlain c = true) : c.isAscii = true := by
  simp only [isPlain, Bool.or_eq_true, decide_eq_true_eq] at plain
  rcases plain with (((alphanumeric | rfl) | rfl) | rfl) | rfl
  · simp only [CodePoint.isAlphanumeric, CodePoint.isLetter, CodePoint.isUpper, CodePoint.isLower, CodePoint.isDigit,
      Bool.or_eq_true, Bool.and_eq_true, decide_eq_true_eq] at alphanumeric
    simp only [CodePoint.isAscii, decide_eq_true_eq]
    omega
  all_goals rfl

theorem isAscii_of_isWritten (written : isWritten c = true) : c.isAscii = true := by
  simp only [isWritten, Bool.or_eq_true, decide_eq_true_eq] at written
  rcases written with (plain | rfl) | rfl
  · exact isAscii_of_isPlain plain
  all_goals rfl

theorem unplussed_of_isPlain (plain : isPlain c = true) : unplussed c = c := by
  refine if_neg ?_
  rintro rfl
  exact absurd plain (by decide)

theorem ne_of_isWritten {mark : CodePoint} (isMark : isWritten mark = false) (written : isWritten c = true) :
    c ≠ mark := by
  rintro rfl
  rw [written] at isMark
  cases isMark

theorem isWritten_encodeOctet (b : UInt8) : ∀ c ∈ encodeOctet b, isWritten c = true := by
  have byte := b.toNat_lt
  intro c member
  unfold encodeOctet at member
  dsimp only at member
  split at member
  · rename_i plain
    rw [List.mem_singleton.1 member, isWritten, plain]
    rfl
  split at member
  · rw [List.mem_singleton.1 member]
    decide
  · rcases List.mem_cons.1 member with rfl | digits
    · decide
    have digit (n : Nat) (small : n < 16) : isWritten (upperHex n) = true := by
      rw [isWritten, isPlain_upperHex n small]
      rfl
    rcases List.mem_cons.1 digits with rfl | low
    · exact digit _ (by omega)
    · rw [List.mem_singleton.1 low]
      exact digit _ (by omega)

theorem unescape_bare (octets : Bytes) (rest : Text) (ascii : c.isAscii = true) (other : c ≠ CodePoint.ofChar '%') :
    unescape octets (c :: rest) = unescape (UInt8.ofNat c.val :: octets) rest := by
  rw [unescape.eq_def]
  dsimp only
  rw [if_pos ascii, if_neg other]

theorem unescape_percent (octets : Bytes) {m n : Nat} (high : m < 16) (low : n < 16) (rest : Text) :
    unescape octets (CodePoint.ofChar '%' :: upperHex m :: upperHex n :: rest)
      = unescape (UInt8.ofNat (16 * m + n) :: octets) rest := by
  rw [unescape.eq_def]
  dsimp only
  rw [if_pos (by rfl), if_pos rfl, hexValue?_upperHex m high, hexValue?_upperHex n low]

theorem unescape_encodeOctet (octets : Bytes) (b : UInt8) (rest : Text) :
    unescape octets ((encodeOctet b).map unplussed ++ rest) = unescape (b :: octets) rest := by
  have byte := b.toNat_lt
  have small : (CodePoint.ofNat b.toNat).val = b.toNat := CodePoint.val_ofNat (by omega)
  unfold encodeOctet
  dsimp only
  split
  · rename_i plain
    have other : CodePoint.ofNat b.toNat ≠ CodePoint.ofChar '%' := by
      intro same
      rw [same] at plain
      exact absurd plain (by decide)
    rw [List.map_singleton, unplussed_of_isPlain plain, List.singleton_append,
      unescape_bare octets rest (isAscii_of_isPlain plain) other, small, UInt8.ofNat_toNat]
  split
  · rename_i space
    have isSpace : b = UInt8.ofNat (CodePoint.ofChar ' ').val := by rw [← space, small, UInt8.ofNat_toNat]
    rw [isSpace]
    exact unescape_bare octets rest (by rfl) (by decide)
  · have whole : 16 * (b.toNat / 16) + b.toNat % 16 = b.toNat := Nat.div_add_mod _ _
    have bare : (percent b).map unplussed = percent b := by
      unfold percent
      simp only [List.map_cons, List.map_nil]
      rw [unplussed_of_isPlain (isPlain_upperHex _ (by omega)), unplussed_of_isPlain (isPlain_upperHex _ (by omega))]
      rfl
    rw [bare, percent, List.cons_append, List.cons_append, List.singleton_append,
      unescape_percent octets (by omega) (by omega), whole, UInt8.ofNat_toNat]

theorem unescape_encodeOctets (octets read : Bytes) :
    unescape read ((octets.flatMap encodeOctet).map unplussed) = Utf8.decodeLossy (read.reverse ++ octets) := by
  induction octets generalizing read with
  | nil =>
    rw [List.append_nil, List.flatMap_nil, List.map_nil, unescape.eq_def]
  | cons b octets ih =>
    rw [List.flatMap_cons, List.map_append, unescape_encodeOctet, ih]
    simp

theorem decodeText_encodeText (written : encodeText t = .ok body) : decodeText body = t := by
  obtain ⟨octets, encoded, made⟩ := except_map_eq_ok.1 written
  rw [← made, decodeText_eq, unescape_encodeOctets]
  exact Utf8.decodeLossy_encode encoded

theorem isWritten_encodeText (written : encodeText t = .ok body) : ∀ c ∈ body, isWritten c = true := by
  obtain ⟨octets, _, made⟩ := except_map_eq_ok.1 written
  rw [← made]
  intro c member
  obtain ⟨b, _, inside⟩ := List.mem_flatMap.1 member
  exact isWritten_encodeOctet b c inside

theorem encodePair_eq_ok (written : encodePair name value = .ok piece) :
    ∃ first second, encodeText name = .ok first ∧ encodeText value = .ok second
      ∧ piece = first ++ CodePoint.ofChar '=' :: second := by
  unfold encodePair at written
  cases front : encodeText name with
  | error fault =>
    rw [front] at written
    cases written
  | ok first =>
    cases back : encodeText value with
    | error fault =>
      rw [front, back] at written
      cases written
    | ok second =>
      rw [front, back] at written
      cases written
      exact ⟨first, second, rfl, rfl, rfl⟩

theorem mem_encodePair (written : encodePair name value = .ok piece) (member : c ∈ piece) :
    isWritten c = true ∨ c = CodePoint.ofChar '=' := by
  obtain ⟨first, second, front, back, rfl⟩ := encodePair_eq_ok written
  rcases List.mem_append.1 member with inside | later
  · exact .inl (isWritten_encodeText front c inside)
  · rcases List.mem_cons.1 later with mark | inside
    · exact .inr mark
    · exact .inl (isWritten_encodeText back c inside)

theorem decodePiece?_encodePair (written : encodePair name value = .ok piece) :
    decodePiece? true piece = some (name, value) := by
  obtain ⟨first, second, front, back, rfl⟩ := encodePair_eq_ok written
  have absent : CodePoint.ofChar '=' ∉ first := fun member =>
    ne_of_isWritten (by rfl) (isWritten_encodeText front _ member) rfl
  rw [decodePiece?_of_cut (Text.cutFirst?_eq_some.2 ⟨rfl, absent⟩), decodeText_encodeText front,
    decodeText_encodeText back]
  simp

theorem encodePairs_cons_eq_ok {rest : Pairs} (written : encodePairs ((name, value) :: rest) = .ok pieces) :
    ∃ piece others, encodePair name value = .ok piece ∧ encodePairs rest = .ok others ∧ pieces = piece :: others := by
  unfold encodePairs at written
  cases first : encodePair name value with
  | error fault =>
    rw [first] at written
    cases written
  | ok piece =>
    rw [first] at written
    obtain ⟨others, later, made⟩ := except_map_eq_ok.1 written
    exact ⟨piece, others, rfl, later, made.symm⟩

theorem filterMap_encodePairs (written : encodePairs pairs = .ok pieces) :
    pieces.filterMap (decodePiece? true) = pairs := by
  induction pairs generalizing pieces with
  | nil =>
    cases written
    rfl
  | cons pair rest ih =>
    obtain ⟨name, value⟩ := pair
    obtain ⟨piece, others, first, later, rfl⟩ := encodePairs_cons_eq_ok written
    rw [List.filterMap_cons, decodePiece?_encodePair first]
    dsimp only
    rw [ih later]

theorem mem_encodePairs (written : encodePairs pairs = .ok pieces) (isPiece : piece ∈ pieces) (member : c ∈ piece) :
    isWritten c = true ∨ c = CodePoint.ofChar '=' := by
  induction pairs generalizing pieces with
  | nil =>
    cases written
    cases isPiece
  | cons pair rest ih =>
    obtain ⟨name, value⟩ := pair
    obtain ⟨first, others, head, later, rfl⟩ := encodePairs_cons_eq_ok written
    rcases List.mem_cons.1 isPiece with rfl | further
    · exact mem_encodePair head member
    · exact ih later further

theorem mem_encode (written : encode pairs = .ok body) (member : c ∈ body) :
    isWritten c = true ∨ c = CodePoint.ofChar '=' ∨ c = CodePoint.ofChar '&' := by
  obtain ⟨pieces, encoded, made⟩ := except_map_eq_ok.1 written
  rw [← made] at member
  rcases Text.mem_join member with between | ⟨piece, isPiece, inside⟩
  · exact .inr (.inr (List.mem_singleton.1 between))
  · exact (mem_encodePairs encoded isPiece inside).imp_right .inl

-- What is written is read again, blank values included.
theorem decode_encode (written : encode pairs = .ok body) : decode true body = pairs := by
  obtain ⟨pieces, encoded, made⟩ := except_map_eq_ok.1 written
  have free : ∀ piece ∈ pieces, CodePoint.ofChar '&' ∉ piece := by
    intro piece isPiece member
    rcases mem_encodePairs encoded isPiece member with inside | mark
    · exact ne_of_isWritten (by rfl) inside rfl
    · exact absurd mark (by decide)
  rw [← made, ← filterMap_encodePairs encoded, decode]
  by_cases empty : pieces = []
  -- No pairs at all are written as the empty text, which is read as one empty piece.
  · rw [empty]
    rfl
  · exact congrArg (List.filterMap (decodePiece? true)) (Text.splitOn_join empty free)

end OidcLogin.Form
