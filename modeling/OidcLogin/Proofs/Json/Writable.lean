import OidcLogin.Json.Display
import OidcLogin.Json.Reader
import OidcLogin.Proofs.Text.Numerals

namespace OidcLogin

namespace Members

variable {members : Members} {name : Text} {value : Json} {P : Json → Prop}

theorem mem_put {pair : Text × Json} (member : pair ∈ members.put name value) : pair ∈ members ∨ pair.2 = value := by
  induction members with
  | nil =>
    cases List.mem_singleton.1 member
    exact .inr rfl
  | cons first rest ih =>
    obtain ⟨other, old⟩ := first
    unfold put at member
    split at member
    · rcases List.mem_cons.1 member with rfl | later
      · exact .inr rfl
      · exact .inl (List.mem_cons_of_mem _ later)
    · rcases List.mem_cons.1 member with rfl | later
      · exact .inl List.mem_cons_self
      · exact (ih later).imp_left (List.mem_cons_of_mem _)

theorem forall_ofPairs {pairs : List (Text × Json)} (all : ∀ pair ∈ pairs, P pair.2) :
    ∀ pair ∈ ofPairs pairs, P pair.2 := by
  have grown : ∀ (pairs : List (Text × Json)) (members : Members), (∀ pair ∈ pairs, P pair.2) →
      (∀ pair ∈ members, P pair.2) →
        ∀ pair ∈ pairs.foldl (fun members pair => put members pair.1 pair.2) members, P pair.2 := by
    intro pairs
    induction pairs with
    | nil => exact fun members _ before => before
    | cons first rest ih =>
      intro members all before
      obtain ⟨here, later⟩ := List.forall_mem_cons.1 all
      refine ih _ later ?_
      intro pair member
      rcases mem_put member with old | new
      · exact before pair old
      · exact new ▸ here
  exact grown pairs [] all (List.forall_mem_nil _)

theorem mem_of_get? {members : Members} (found : members.get? name = some value) : (name, value) ∈ members := by
  unfold get? at found
  induction members with
  | nil => cases found
  | cons first rest ih =>
    obtain ⟨other, old⟩ := first
    rw [List.lookup_cons] at found
    cases same : name == other with
    | true =>
      rw [same] at found
      cases found
      rw [eq_of_beq same]
      exact List.mem_cons_self
    | false =>
      rw [same] at found
      exact List.mem_cons_of_mem _ (ih found)

end Members

namespace Json

variable {value : Json} {c next : Cursor}

theorem allWritable_iff {items : List Json} : allWritable items = true ↔ ∀ item ∈ items, item.isWritable = true := by
  induction items with
  | nil => simp [allWritable]
  | cons item rest ih => simp [allWritable, ih]

theorem membersWritable_iff {members : List (Text × Json)} :
    membersWritable members = true ↔ ∀ pair ∈ members, pair.2.isWritable = true := by
  induction members with
  | nil => simp [membersWritable]
  | cons pair rest ih => simp [membersWritable, ih]

theorem isWritable_list {items : List Json} : (list items).isWritable = true ↔ ∀ item ∈ items, item.isWritable = true :=
  allWritable_iff

theorem isWritable_object {members : List (Text × Json)} :
    (object members).isWritable = true ↔ ∀ pair ∈ members, pair.2.isWritable = true :=
  membersWritable_iff

theorem isWritable_int_iff {n : Int} : (int n).isWritable = true ↔ n.natAbs < 10 ^ 4300 := by
  have limit : 4300 = Text.maxDigits := rfl
  rw [limit]
  unfold isWritable
  generalize Text.maxDigits = most
  exact decide_eq_true_iff

theorem isWritable_int {n : Int} {digits : Nat} (bounded : n.natAbs < 10 ^ digits) (short : digits ≤ Text.maxDigits) :
    (int n).isWritable = true := by
  generalize limit : Text.maxDigits = most at short
  simp only [isWritable, limit, decide_eq_true_eq]
  exact Nat.lt_of_lt_of_le bounded (Nat.pow_le_pow_right (by decide) short)

theorem isWritable_of_digits {digits : Text} (all : ∀ c ∈ digits, c.isDigit = true)
    (short : digits.length ≤ Text.maxDigits) (negative : Bool) :
    (int (if negative then -(Text.digitsValue digits : Int) else Text.digitsValue digits)).isWritable = true := by
  refine isWritable_int ?_ short
  rw [Text.natAbs_signed]
  exact Text.digitsValue_lt all

theorem readNumber_isWritable (read : readNumber c = .ok (value, next)) : value.isWritable = true := by
  unfold readNumber at read
  extract_lets negative unsigned whole fraction fractionSize exponent? size at read
  clear_value unsigned
  -- the digits before the point, whatever comes after them
  have digits : ∀ d ∈ whole, d.isDigit = true := by
    intro d member
    dsimp only [whole] at member
    split at member
    · cases member
    · split at member
      · rename_i zero
        rw [List.mem_singleton.1 member, zero]
        rfl
      · exact List.mem_takeWhile_imp member
  clear_value size exponent? fractionSize fraction whole
  split at read
  · cases read
  · split at read
    · split at read
      · cases read
      · rename_i short
        cases read
        exact isWritable_of_digits digits (Nat.le_of_not_lt short) _
    · cases read
      rfl

theorem readScalar_isWritable (read : readScalar c = .ok (value, next)) : value.isWritable = true := by
  unfold readScalar at read
  split at read
  · rename_i word constant found
    have known : ∀ pair ∈ constants, pair.2.isWritable = true := by decide
    cases read
    exact known _ (List.mem_of_find?_eq_some found)
  · exact readNumber_isWritable read

-- The three readers call each other with one step less, and what was read before is part of what they give.
theorem readers_isWritable (steps : Nat) :
    (∀ {levels : Nat} {c next : Cursor} {value : Json},
        readValue levels steps c = .ok (value, next) → value.isWritable = true)
      ∧ (∀ {levels : Nat} {items : List Json} {c next : Cursor} {value : Json},
        (∀ item ∈ items, item.isWritable = true) →
          readItems levels items steps c = .ok (value, next) → value.isWritable = true)
      ∧ ∀ {levels : Nat} {members : List (Text × Json)} {c next : Cursor} {value : Json},
        (∀ pair ∈ members, pair.2.isWritable = true) →
          readMembers levels members steps c = .ok (value, next) → value.isWritable = true := by
  induction steps with
  | zero =>
    refine ⟨?_, ?_, ?_⟩
    · intro levels c next value read
      cases read
    · intro levels items c next value _ read
      cases read
    · intro levels members c next value _ read
      cases read
  | succ steps ih =>
    obtain ⟨ofValue, ofItems, ofMembers⟩ := ih
    refine ⟨?value, ?items, ?members⟩
    case value =>
      intro levels c next value read
      unfold readValue at read
      split at read
      · split at read
        · cases read
        · cases read
          rfl
      · split at read
        · split at read
          · cases read
          · dsimp only at read
            split at read
            · cases read
              rfl
            · exact ofMembers (List.forall_mem_nil _) read
        · split at read
          · split at read
            · cases read
            · dsimp only at read
              split at read
              · cases read
                rfl
              · exact ofItems (List.forall_mem_nil _) read
          · exact readScalar_isWritable read
    case items =>
      intro levels items c next value before read
      unfold readItems at read
      split at read
      · cases read
      · rename_i item after first
        have all : ∀ other ∈ item :: items, other.isWritable = true :=
          List.forall_mem_cons.2 ⟨ofValue first, before⟩
        dsimp only at read
        split at read
        · cases read
          exact isWritable_list.2 fun other member => all other (List.mem_reverse.1 member)
        · split at read
          · exact ofItems all read
          · cases read
    case members =>
      intro levels members c next value before read
      unfold readMembers at read
      split at read
      · split at read
        · cases read
        · dsimp only at read
          split at read
          · split at read
            · cases read
            · rename_i member after first
              split at read
              · cases read
                refine isWritable_object.2 (Members.forall_ofPairs (P := fun value => value.isWritable = true) ?_)
                intro pair inside
                rcases List.mem_cons.1 (List.mem_reverse.1 inside) with rfl | earlier
                · exact ofValue first
                · exact before pair earlier
              · split at read
                · exact ofMembers (List.forall_mem_cons.2 ⟨ofValue first, before⟩) read
                · cases read
          · cases read
      · cases read

theorem ofBytes_isWritable {levels : Nat} {bytes : Bytes} (read : ofBytes levels bytes = .ok value) : value.isWritable = true := by
  unfold ofBytes at read
  split at read
  · cases read
  · unfold ofDecoded readAll at read
    split at read
    · rename_i found
      split at found
      · cases found
      · rename_i after first
        dsimp only at found
        split at found
        · cases found
          cases read
          exact (readers_isWritable _).1 first
        · cases found
    · cases read
    · cases read
    · cases read

end Json

end OidcLogin
