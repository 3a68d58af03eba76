import OidcLogin.Proofs.Text.Octets
import OidcLogin.Text.Utf8

namespace OidcLogin.Utf8

variable {surrogates : Bool} {items : List Item} {position : Nat} {rest : Bytes} {s : Pending} {c : CodePoint}

theorem toNat_ofNat {n : Nat} (small : n < 256) : (UInt8.ofNat n).toNat = n :=
  UInt8.toNat_ofNat_of_lt' small

def continuing (bits : Nat) : UInt8 := UInt8.ofNat (0x80 + bits)

section Step

variable {bits : Nat} (six : bits < 64) (low : s.low ≤ 0x80 + bits) (high : 0x80 + bits ≤ s.high)

include six low high

theorem scan_last (one : s.owed = 1) :
    scan surrogates items position (.within s) (continuing bits :: rest)
      = scan surrogates (.point (CodePoint.ofNat (64 * s.value + bits)) :: items) (position + 1) .between rest := by
  rw [scan, continuing, toNat_ofNat (by omega), if_pos ⟨low, high⟩]
  dsimp only
  rw [if_pos one, Nat.add_sub_cancel_left]

variable (surrogates items position rest) in
-- Any octet before the last one leaves a sequence that every octet with six bits continues.
theorem scan_further (more : s.owed ≠ 1) :
    ∃ surrogate, scan surrogates items position (.within s) (continuing bits :: rest)
      = scan surrogates items (position + 1)
          (.within ⟨s.start, s.lead, s.count + 1, s.owed - 1, 64 * s.value + bits, 0x80, 0xBF, surrogate⟩) rest := by
  rw [scan, continuing, toNat_ofNat (by omega), if_pos ⟨low, high⟩]
  dsimp only
  rw [if_neg more, Nat.add_sub_cancel_left]
  exact ⟨_, rfl⟩

end Step

def gathered (value : Nat) (bits : List Nat) : Nat := bits.foldl (fun value bits => 64 * value + bits) value

-- As many octets as a sequence needs give its code point.  Only the first of them has bounds of its own.
theorem scan_within {first : Nat} {others : List Nat} (six : ∀ bits ∈ first :: others, bits < 64)
    (low : s.low ≤ 0x80 + first) (high : 0x80 + first ≤ s.high) (owed : s.owed = others.length + 1) :
    ∃ further, scan surrogates items position (.within s) ((first :: others).map continuing ++ rest)
      = scan surrogates (.point (CodePoint.ofNat (gathered s.value (first :: others))) :: items) further .between
          rest := by
  induction others generalizing s position first with
  | nil => exact ⟨_, scan_last (six first List.mem_cons_self) low high owed⟩
  | cons second others ih =>
    have more : s.owed ≠ 1 := by
      rw [owed, List.length_cons]
      omega
    obtain ⟨surrogate, next⟩ := scan_further surrogates items position
      ((second :: others).map continuing ++ rest) (six first List.mem_cons_self) low high more
    have left : ∀ bits ∈ second :: others, bits < 64 := fun bits member => six bits (List.mem_cons_of_mem _ member)
    have small := left second List.mem_cons_self
    rw [List.map_cons, List.cons_append, next]
    exact ih left (Nat.le_add_right _ _) (by dsimp only; omega) (by dsimp only; rw [owed, List.length_cons]; omega)

variable (items rest) in
theorem scan_sequence {lead : UInt8} {value low high : Nat} (first : Nat) (others : List Nat)
    (opened : opening surrogates position lead
      = .inr ⟨position, lead, 1, others.length + 1, value, low, high, false⟩)
    (six : ∀ bits ∈ first :: others, bits < 64) (above : low ≤ 0x80 + first) (below : 0x80 + first ≤ high) :
    ∃ further, scan surrogates items position .between (lead :: (first :: others).map continuing ++ rest)
      = scan surrogates (.point (CodePoint.ofNat (gathered value (first :: others))) :: items) further .between
          rest := by
  rw [List.cons_append, scan, opened]
  exact scan_within six above below rfl

theorem opening_two {n : Nat} (least : 0xC2 ≤ n) (most : n < 0xE0) :
    opening surrogates position (UInt8.ofNat n)
      = .inr ⟨position, UInt8.ofNat n, 1, 1, n - 0xC0, 0x80, 0xBF, false⟩ := by
  unfold opening
  dsimp only
  rw [toNat_ofNat (by omega), if_neg (by omega), if_neg (by omega), if_pos most]

variable (surrogates position) in
theorem opening_three (n second : Nat) (least : 0xE0 ≤ n) (most : n < 0xF0) (six : second < 64)
    (lowest : n = 0xE0 → 0x20 ≤ second) (apart : n = 0xED → second < 0x20) :
    ∃ low high, opening surrogates position (UInt8.ofNat n)
        = .inr ⟨position, UInt8.ofNat n, 1, 2, n - 0xE0, low, high, false⟩
      ∧ low ≤ 0x80 + second ∧ 0x80 + second ≤ high := by
  unfold opening
  dsimp only
  rw [toNat_ofNat (by omega), if_neg (by omega), if_neg (by omega), if_neg (by omega)]
  by_cases first : n = 0xE0
  · rw [if_pos first, first]
    exact ⟨_, _, rfl, by omega, by omega⟩
  rw [if_neg first]
  by_cases surrogate : n = 0xED
  · rw [if_pos surrogate, surrogate]
    refine ⟨_, _, rfl, by omega, ?_⟩
    split
    · omega
    · omega
  rw [if_neg surrogate, if_pos most]
  exact ⟨_, _, rfl, by omega, by omega⟩

variable (surrogates position) in
theorem opening_four (n second : Nat) (least : 0xF0 ≤ n) (most : n ≤ 0xF4) (six : second < 64)
    (lowest : n = 0xF0 → 0x10 ≤ second) (highest : n = 0xF4 → second < 0x10) :
    ∃ low high, opening surrogates position (UInt8.ofNat n)
        = .inr ⟨position, UInt8.ofNat n, 1, 3, n - 0xF0, low, high, false⟩
      ∧ low ≤ 0x80 + second ∧ 0x80 + second ≤ high := by
  unfold opening
  dsimp only
  rw [toNat_ofNat (by omega), if_neg (by omega), if_neg (by omega), if_neg (by omega), if_neg (by omega),
    if_neg (by omega), if_neg (by omega)]
  by_cases first : n = 0xF0
  · rw [if_pos first, first]
    exact ⟨_, _, rfl, by omega, by omega⟩
  rw [if_neg first]
  by_cases last : n = 0xF4
  · rw [last]
    exact ⟨_, _, rfl, by omega, by omega⟩
  rw [if_pos (by omega)]
  exact ⟨_, _, rfl, by omega, by omega⟩

variable (surrogates) in
theorem scan_utf8 (scalar : c.IsScalar) (items : List Item) (position : Nat) (rest : Bytes) :
    ∃ further, scan surrogates items position .between (c.utf8 ++ rest)
      = scan surrogates (.point c :: items) further .between rest := by
  have bound := c.isLt
  have apart : c.val < 0xD800 ∨ 0xE000 ≤ c.val := by
    simp [CodePoint.IsScalar, CodePoint.isSurrogate] at scalar
    omega
  have same {value : Nat} (whole : value = c.val) : CodePoint.ofNat value = c := by
    rw [whole, CodePoint.ofNat_val]
  unfold CodePoint.utf8
  dsimp only
  split
  · rename_i one
    have opened : opening surrogates position (UInt8.ofNat c.val) = .inl (.point c) := by
      unfold opening
      dsimp only
      rw [toNat_ofNat (by omega), if_pos one, CodePoint.ofNat_val]
    refine ⟨position + 1, ?_⟩
    rw [List.singleton_append, scan, opened]
  split
  · have opened : opening surrogates position (UInt8.ofNat (0xC0 + c.val / 64)) = _ :=
      opening_two (by omega) (by omega)
    obtain ⟨further, read⟩ := scan_sequence items rest (c.val % 64) [] opened (by simp; omega) (by omega) (by omega)
    refine ⟨further, read.trans ?_⟩
    rw [same (by simp only [gathered, List.foldl_cons, List.foldl_nil]; omega)]
  split
  · obtain ⟨low, high, opened, above, below⟩ := opening_three surrogates position
      (0xE0 + c.val / 4096) (c.val / 64 % 64) (by omega) (by omega) (by omega) (by omega) (by omega)
    obtain ⟨further, read⟩ := scan_sequence items rest (c.val / 64 % 64) [c.val % 64] opened (by simp; omega)
      above below
    refine ⟨further, read.trans ?_⟩
    rw [same (by simp only [gathered, List.foldl_cons, List.foldl_nil]; omega)]
  · obtain ⟨low, high, opened, above, below⟩ := opening_four surrogates position
      (0xF0 + c.val / 262144) (c.val / 4096 % 64) (by omega) (by omega) (by omega) (by omega)
      (by omega)
    obtain ⟨further, read⟩ := scan_sequence items rest (c.val / 4096 % 64)
      [c.val / 64 % 64, c.val % 64] opened (by simp; omega) above below
    refine ⟨further, read.trans ?_⟩
    rw [same (by simp only [gathered, List.foldl_cons, List.foldl_nil]; omega)]

theorem scan_text {t : Text} (scalar : t.IsScalar) (items : List Item) (position : Nat) :
    scan surrogates items position .between (t.flatMap CodePoint.utf8) = items.reverse ++ t.map .point := by
  induction t generalizing items position with
  | nil => simp [scan]
  | cons c t ih =>
    have head := scalar c List.mem_cons_self
    have tail : Text.IsScalar t := fun d member => scalar d (List.mem_cons_of_mem _ member)
    obtain ⟨further, read⟩ := scan_utf8 surrogates head items position (t.flatMap CodePoint.utf8)
    rw [List.flatMap_cons, read, ih tail]
    simp

-- A text that can be written is read back as it was.
theorem decodeLossy_encode {t : Text} {octets : Bytes} (written : t.encode .utf8 = .ok octets) :
    decodeLossy octets = t := by
  obtain ⟨accepted, rfl⟩ := Text.encode_eq_ok.1 written
  have scalar : t.IsScalar := fun c member => by simpa [Charset.accepts, CodePoint.IsScalar] using accepted c member
  have read : scan false [] 0 .between (t.flatMap CodePoint.utf8) = t.map .point := scan_text scalar [] 0
  change decodeLossy (t.flatMap CodePoint.utf8) = t
  unfold decodeLossy
  rw [read, List.map_map]
  exact List.map_id t

end OidcLogin.Utf8
