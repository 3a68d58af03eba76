import OidcLogin.Proofs.Text.Cuts
import OidcLogin.Url.Form

namespace OidcLogin

namespace Utf8

theorem scan_ne_nil {surrogates : Bool} {items : List Item} {position : Nat} {state : State}
    {bytes : Bytes} (some : items ≠ [] ∨ (∃ s, state = .within s) ∨ bytes ≠ []) :
    scan surrogates items position state bytes ≠ [] := by
  induction bytes generalizing items position state with
  | nil =>
    cases state with
    | between =>
      rcases some with read | ⟨s, impossible⟩ | bytes
      · simpa [scan] using read
      · cases impossible
      · exact absurd rfl bytes
    | within s => simp [scan]
  | cons b rest ih =>
    cases state with
    | between =>
      unfold scan
      split
      · exact ih (.inl (List.cons_ne_nil _ _))
      · exact ih (.inr (.inl ⟨_, rfl⟩))
    | within s =>
      unfold scan
      split
      · dsimp only
        split
        · exact ih (.inl (List.cons_ne_nil _ _))
        · exact ih (.inr (.inl ⟨_, rfl⟩))
      · split
        · exact ih (.inl (List.cons_ne_nil _ _))
        · exact ih (.inl (List.cons_ne_nil _ _))

theorem decodeLossy_eq_nil {bytes : Bytes} : decodeLossy bytes = [] ↔ bytes = [] := by
  constructor
  · intro empty
    cases bytes with
    | nil => rfl
    | cons b rest =>
      have items := List.map_eq_nil_iff.1 empty
      exact absurd items (scan_ne_nil (.inr (.inr (List.cons_ne_nil b rest))))
  · intro empty
    subst empty
    rfl

end Utf8

namespace Form

theorem unescape_eq_nil {octets : Bytes} {t : Text} :
    unescape octets t = [] ↔ octets = [] ∧ t = [] := by
  fun_induction unescape octets t with
  | case1 octets => simp [Utf8.decodeLossy_eq_nil]
  | _ => simp_all

theorem decodeText_eq_nil {t : Text} : decodeText t = [] ↔ t = [] := by
  simp [decodeText, unescape_eq_nil]

def filled (pairs : Pairs) : Pairs := pairs.filter fun pair => !pair.2.isEmpty

theorem mem_filled {pairs : Pairs} {name value : Text} :
    (name, value) ∈ filled pairs ↔ (name, value) ∈ pairs ∧ value ≠ [] := by
  simp [filled]

theorem decodePiece?_of_cut {keepBlank : Bool} {piece name value : Text}
    (cut : piece.cutFirst? (CodePoint.ofChar '=') = some (name, value)) :
    decodePiece? keepBlank piece
      = if value.isEmpty && !keepBlank then none else some (decodeText name, decodeText value) := by
  unfold decodePiece?
  cases piece with
  | nil => cases cut
  | cons c rest => simp only [List.isEmpty_cons, Bool.false_eq_true, if_false, cut]

theorem decodePiece?_of_not_cut {piece : Text}
    (whole : piece.cutFirst? (CodePoint.ofChar '=') = none) : decodePiece? false piece = none := by
  simp [decodePiece?, whole]

theorem decodePiece?_false (piece : Text) :
    decodePiece? false piece = (decodePiece? true piece).filter fun pair => !pair.2.isEmpty := by
  cases cut : piece.cutFirst? (CodePoint.ofChar '=') with
  | none =>
    rw [decodePiece?_of_not_cut cut]
    unfold decodePiece?
    cases piece with
    | nil => rfl
    | cons c rest => simp only [cut]; rfl
  | some halves =>
    obtain ⟨name, value⟩ := halves
    rw [decodePiece?_of_cut cut, decodePiece?_of_cut cut]
    have empty := decodeText_eq_nil (t := value)
    cases value with
    | nil => simp [Option.filter, empty.2 rfl]
    | cons v tail => simp [Option.filter, empty]

theorem decode_false (query : Text) : decode false query = filled (decode true query) := by
  unfold decode filled
  rw [List.filter_filterMap]
  congr 1
  funext piece
  exact decodePiece?_false piece

theorem name_mem_of_append {query name value : Text} (suffix : Text)
    (member : (name, value) ∈ decode false query) :
    ∃ other, (name, other) ∈ decode true (query ++ suffix) := by
  obtain ⟨piece, isPiece, decoded⟩ := List.mem_filterMap.1 member
  obtain ⟨init, last, first, rest, one, _, both⟩ :=
    Text.splitOn_append (p := (· = CodePoint.ofChar '&')) query suffix
  rw [one] at isPiece
  rcases List.mem_append.1 isPiece with earlier | final
  · rw [decodePiece?_false] at decoded
    obtain ⟨kept, _⟩ := Option.filter_eq_some_iff.1 decoded
    refine ⟨value, List.mem_filterMap.2 ⟨piece, ?_, kept⟩⟩
    rw [both]
    exact List.mem_append_left _ earlier
  · obtain rfl := List.mem_singleton.1 final
    cases cut : piece.cutFirst? (CodePoint.ofChar '=') with
    | none =>
      rw [decodePiece?_of_not_cut cut] at decoded
      cases decoded
    | some halves =>
      obtain ⟨key, given⟩ := halves
      rw [decodePiece?_of_cut cut] at decoded
      split at decoded
      · cases decoded
      · cases decoded
        have grown : decodePiece? true (piece ++ first) = _ :=
          decodePiece?_of_cut (Text.cutFirst?_append cut first)
        refine ⟨decodeText (given ++ first), List.mem_filterMap.2 ⟨piece ++ first, ?_, ?_⟩⟩
        · rw [both]
          exact List.mem_append_right _ List.mem_cons_self
        · rw [grown]
          simp

def Lacks (pairs : Pairs) (name : Text) : Prop := ∀ value, (name, value) ∉ pairs

theorem last?_eq_none {pairs : Pairs} {name : Text} : last? pairs name = none ↔ Lacks pairs name := by
  unfold last?
  rw [List.lookup_eq_none_iff]
  constructor
  · intro absent value member
    simpa using absent (name, value) (List.mem_reverse.2 member)
  · intro absent pair member
    have other : name ≠ pair.1 := by
      intro same
      subst same
      exact absent pair.2 (List.mem_reverse.1 member)
    simpa using other

theorem mem_of_last? {pairs : Pairs} {name value : Text} (found : last? pairs name = some value) :
    (name, value) ∈ pairs := by
  obtain ⟨before, after, split, _⟩ := List.lookup_eq_some_iff.1 found
  exact List.mem_reverse.1 (split ▸ List.mem_append_right _ List.mem_cons_self)

end Form

end OidcLogin
