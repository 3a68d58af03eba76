import Mathlib.Data.List.Forall2
import OidcLogin.Proofs.Callback.Reading
import OidcLogin.Proofs.Url.FormRoundTrip
import OidcLogin.Proofs.Validation.Alike

namespace OidcLogin

namespace Text

variable {p keep : CodePoint → Bool} {mark : CodePoint}

theorem splitOn_filter (kept : ∀ c, p c = true → keep c = true) (t : Text) :
    splitOn p (t.filter keep) = (splitOn p t).map (List.filter keep) := by
  induction t with
  | nil => rfl
  | cons c t ih =>
    cases isSep : p c with
    | true =>
      rw [List.filter_cons_of_pos (kept c isSep), splitOn_cons_of_pos isSep, splitOn_cons_of_pos isSep, ih]
      rfl
    | false =>
      obtain ⟨piece, rest, pieces⟩ := List.exists_cons_of_ne_nil (splitOn_ne_nil (p := p) (t := t))
      rw [pieces, List.map_cons] at ih
      rw [splitOn_cons_of_neg isSep pieces, List.map_cons]
      cases keeps : keep c with
      | true =>
        rw [List.filter_cons_of_pos keeps, List.filter_cons_of_pos keeps]
        exact splitOn_cons_of_neg isSep ih
      | false =>
        rw [List.filter_cons_of_neg (by simp [keeps]), List.filter_cons_of_neg (by simp [keeps])]
        exact ih

-- The pieces before a mark, of which the last one ends there.
def piecesBefore (mark : CodePoint) : List Text → List Text
  | [] => []
  | piece :: rest => if mark ∈ piece then [piece.takeWhile (· != mark)] else piece :: piecesBefore mark rest

theorem splitOn_takeWhile (inner : p mark = false) (t : Text) :
    splitOn p (t.takeWhile (· != mark)) = piecesBefore mark (splitOn p t) := by
  induction t with
  | nil => rfl
  | cons c t ih =>
    obtain ⟨piece, rest, pieces⟩ := List.exists_cons_of_ne_nil (splitOn_ne_nil (p := p) (t := t))
    by_cases ends : c = mark
    · subst ends
      rw [splitOn_cons_of_neg inner pieces, piecesBefore, if_pos List.mem_cons_self,
        List.takeWhile_cons_of_neg (by simp), List.takeWhile_cons_of_neg (by simp)]
      rfl
    have goesOn : (c != mark) = true := by simpa using ends
    rw [List.takeWhile_cons_of_pos (p := (· != mark)) goesOn]
    cases isSep : p c with
    | true =>
      rw [splitOn_cons_of_pos isSep, splitOn_cons_of_pos isSep, ih, piecesBefore, if_neg List.not_mem_nil]
    | false =>
      rw [pieces] at ih
      rw [splitOn_cons_of_neg isSep pieces]
      unfold piecesBefore at ih ⊢
      by_cases inside : mark ∈ piece
      · rw [if_pos inside] at ih
        rw [if_pos (List.mem_cons_of_mem c inside), List.takeWhile_cons_of_pos (p := (· != mark)) goesOn]
        exact splitOn_cons_of_neg isSep ih
      · rw [if_neg inside] at ih
        rw [if_neg (List.not_mem_cons_of_ne_of_not_mem (Ne.symm ends) inside)]
        exact splitOn_cons_of_neg isSep ih

end Text

namespace Callback

-- A value that stands in a query as it is: an address takes nothing out of it.
structure IsValue (v : Text) : Prop where
  full : v ≠ []
  scalar : v.IsScalar
  whole : ∀ c ∈ v, isMark c = false

theorem isValue_of_isWritten {v : Text} (full : v ≠ []) (written : ∀ c ∈ v, Form.isWritten c = true) : IsValue v where
  full := full
  scalar c member := by
    have ascii := Form.isAscii_of_isWritten (written c member)
    simp only [CodePoint.isAscii, decide_eq_true_eq] at ascii
    simp only [CodePoint.IsScalar, CodePoint.isSurrogate, Bool.and_eq_false_iff, decide_eq_false_iff_not]
    omega
  whole c member := by
    refine eq_false_of_ne_true fun mark => ?_
    have inside := written c member
    rcases isMark_cases mark with rfl | rfl | rfl | rfl
    all_goals exact absurd inside (by decide)

structure IsCodeName (name : Text) : Prop where
  read : Form.decodeText name = "code"
  whole : ∀ c ∈ name, c ≠ CodePoint.ofChar '=' ∧ isMark c = false

-- Two pieces of queries: the same one, or two codes.
inductive PieceAlike : Text → Text → Prop
  | same (piece : Text) : PieceAlike piece piece
  | code {name v w : Text} (named : IsCodeName name) (value : IsValue v) (other : IsValue w) :
      PieceAlike (name ++ CodePoint.ofChar '=' :: v) (name ++ CodePoint.ofChar '=' :: w)

-- The queries differ only in the values of codes.
def CodesApart (query other : Text) : Prop :=
  List.Forall₂ PieceAlike (query.splitOn (· = CodePoint.ofChar '&')) (other.splitOn (· = CodePoint.ofChar '&'))

section Marks

variable {name v : Text}

theorem isMark_of_mem_code (named : IsCodeName name) (value : IsValue v) :
    ∀ c ∈ name ++ CodePoint.ofChar '=' :: v, isMark c = false :=
  List.forall_mem_append.2 ⟨fun c member => (named.whole c member).2, List.forall_mem_cons.2 ⟨by decide, value.whole⟩⟩

theorem filter_code (named : IsCodeName name) (value : IsValue v) :
    (name ++ CodePoint.ofChar '=' :: v).filter (!Url.isRemoved ·) = name ++ CodePoint.ofChar '=' :: v :=
  List.filter_eq_self.2 fun c member => by
    rw [(Bool.or_eq_false_iff.1 (isMark_of_mem_code named value c member)).1]
    rfl

theorem not_mem_code (named : IsCodeName name) (value : IsValue v) :
    CodePoint.ofChar '#' ∉ name ++ CodePoint.ofChar '=' :: v := by
  intro member
  have impossible := isMark_of_mem_code named value _ member
  exact absurd impossible (by decide)

end Marks

theorem PieceAlike.filter {piece other : Text} (alike : PieceAlike piece other) :
    PieceAlike (piece.filter (!Url.isRemoved ·)) (other.filter (!Url.isRemoved ·)) := by
  cases alike with
  | same piece => exact .same _
  | code named value other =>
    rw [filter_code named value, filter_code named other]
    exact .code named value other

theorem forall₂_piecesBefore {pieces others : List Text} (alike : List.Forall₂ PieceAlike pieces others) :
    List.Forall₂ PieceAlike (Text.piecesBefore (CodePoint.ofChar '#') pieces)
      (Text.piecesBefore (CodePoint.ofChar '#') others) := by
  induction alike with
  | nil => exact .nil
  | cons first rest ih =>
    unfold Text.piecesBefore
    cases first with
    | same piece =>
      split
      · exact .cons (.same _) .nil
      · exact .cons (.same _) ih
    | code named value other =>
      rw [if_neg (not_mem_code named value), if_neg (not_mem_code named other)]
      exact .cons (.code named value other) ih

theorem CodesApart.visible {query other : Text} (apart : CodesApart query other) :
    CodesApart (visible query) (visible other) := by
  have kept : ∀ c, decide (c = CodePoint.ofChar '&') = true → (!Url.isRemoved c) = true := by
    intro c isSep
    rw [of_decide_eq_true isSep]
    rfl
  unfold CodesApart Callback.visible
  rw [Text.splitOn_takeWhile (by decide), Text.splitOn_takeWhile (by decide), Text.splitOn_filter kept,
    Text.splitOn_filter kept]
  exact forall₂_piecesBefore (List.rel_map (fun _ _ alike => alike.filter) apart)

end Callback

namespace Form

-- A value that has something in it and that can be written.
def Sendable (v : Text) : Prop := v ≠ [] ∧ v.IsScalar

-- Values of this name: the same one, or two codes.
def ValueAlike (name v w : Text) : Prop := v = w ∨ name = "code" ∧ Sendable v ∧ Sendable w

def PairAlike (pair other : Text × Text) : Prop := pair.1 = other.1 ∧ ValueAlike pair.1 pair.2 other.2

theorem ValueAlike.isEmpty {name v w : Text} (alike : ValueAlike name v w) : v.isEmpty = w.isEmpty := by
  rcases alike with rfl | ⟨_, ⟨full, _⟩, fullOther, _⟩
  · rfl
  · rw [List.isEmpty_eq_false_iff.2 full, List.isEmpty_eq_false_iff.2 fullOther]

theorem sendable_decodeText {v : Text} (value : Callback.IsValue v) : Sendable (decodeText v) :=
  ⟨fun empty => value.full (decodeText_eq_nil.1 empty), decodeText_isScalar value.scalar⟩

theorem decodePiece?_code {name : Text} (named : Callback.IsCodeName name) (v : Text) :
    decodePiece? true (name ++ CodePoint.ofChar '=' :: v) = some (Text.ofString "code", decodeText v) := by
  have cut : Text.cutFirst? (CodePoint.ofChar '=') (name ++ CodePoint.ofChar '=' :: v) = some (name, v) :=
    Text.cutFirst?_eq_some.2 ⟨rfl, fun member => (named.whole _ member).1 rfl⟩
  rw [decodePiece?_of_cut cut, Bool.not_true, Bool.and_false, if_neg Bool.false_ne_true, named.read]

theorem decodePiece?_alike {piece other : Text} (alike : Callback.PieceAlike piece other) :
    Option.Rel PairAlike (decodePiece? true piece) (decodePiece? true other) := by
  cases alike with
  | same piece =>
    cases decodePiece? true piece with
    | none => exact .none
    | some pair => exact .some ⟨rfl, .inl rfl⟩
  | code named value other =>
    rw [decodePiece?_code named, decodePiece?_code named]
    exact .some ⟨rfl, .inr ⟨rfl, sendable_decodeText value, sendable_decodeText other⟩⟩

theorem decode_alike {query other : Text} (apart : Callback.CodesApart query other) :
    List.Forall₂ PairAlike (decode true query) (decode true other) :=
  List.rel_filterMap (fun _ _ alike => decodePiece?_alike alike) apart

variable {pairs others : Pairs}

theorem filled_alike (alike : List.Forall₂ PairAlike pairs others) :
    List.Forall₂ PairAlike (filled pairs) (filled others) := by
  refine List.rel_filter (fun pair other same => ?_) alike
  change (!pair.2.isEmpty) = true ↔ (!other.2.isEmpty) = true
  rw [same.2.isEmpty]

theorem lookup_alike (alike : List.Forall₂ PairAlike pairs others) (name : Text) :
    Option.Rel (ValueAlike name) (pairs.lookup name) (others.lookup name) := by
  induction alike with
  | nil => exact .none
  | @cons pair other pairs others first rest ih =>
    obtain ⟨key, value⟩ := pair
    obtain ⟨_, given⟩ := other
    obtain ⟨rfl, same⟩ := first
    rw [List.lookup_cons, List.lookup_cons]
    cases asked : name == key with
    | true =>
      rw [eq_of_beq asked]
      exact .some same
    | false => exact ih

theorem last?_alike (alike : List.Forall₂ PairAlike pairs others) (name : Text) :
    Option.Rel (ValueAlike name) (last? pairs name) (last? others name) :=
  lookup_alike (List.rel_reverse alike) name

theorem last?_eq {name : Text} (alike : List.Forall₂ PairAlike pairs others) (other : name ≠ "code") :
    last? pairs name = last? others name := by
  have both := last?_alike alike name
  generalize last? pairs name = found, last? others name = given at both ⊢
  cases both with
  | none => rfl
  | some same =>
    rcases same with rfl | ⟨isCode, _⟩
    · rfl
    · exact absurd isCode other

end Form

namespace Callback

theorem deniedText?_eq {query other : Text} (apart : CodesApart query other) :
    deniedText? query = deniedText? other := by
  have alike := Form.decode_alike apart
  unfold deniedText?
  dsimp only
  rw [Form.last?_eq alike (by decide), Form.last?_eq alike (by decide)]

theorem readPairs_alike {query other : Text} (apart : CodesApart query other) :
    List.Forall₂ Form.PairAlike (readPairs query) (readPairs other) :=
  Form.filled_alike (Form.decode_alike apart.visible)

theorem isOtherState_eq {pairs others : Form.Pairs} (alike : List.Forall₂ Form.PairAlike pairs others)
    (expected : Option Text) : isOtherState expected pairs = isOtherState expected others := by
  unfold isOtherState
  rw [Form.last?_eq alike (by decide)]

theorem parse_alike {query other : Text} (apart : CodesApart query other) (expected : Option Text) :
    EndAlike (Form.ValueAlike "code") (parse query expected) (parse other expected) := by
  have pairs := readPairs_alike apart
  have codes := Form.last?_alike pairs "code"
  unfold parse
  rw [deniedText?_eq apart, answerPairs_eq, answerPairs_eq]
  cases deniedText? other with
  | some text => exact .failed _
  | none =>
    dsimp only
    rw [isOtherState_eq pairs]
    generalize Form.last? (readPairs query) "code" = found, Form.last? (readPairs other) "code" = given at codes ⊢
    cases codes with
    | none => exact .failed _
    | some same =>
      dsimp only
      rw [same.isEmpty]
      split
      · exact .failed _
      · split
        · exact .failed _
        · exact .done same

end Callback

end OidcLogin
