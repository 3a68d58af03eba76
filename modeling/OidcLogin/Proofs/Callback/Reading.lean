import OidcLogin.Callback.Query
import OidcLogin.Proofs.Url.Form

namespace OidcLogin

namespace Text

theorem cutAt_fst (mark : Char) (t : Text) :
    (Url.cutAt mark t).1 = t.takeWhile (· != CodePoint.ofChar mark) := by
  have whole := List.takeWhile_append_dropWhile (p := (· != CodePoint.ofChar mark)) (l := t)
  unfold Url.cutAt cutFirst?
  cases rest : t.dropWhile (· != CodePoint.ofChar mark) with
  | nil =>
    rw [rest, List.append_nil] at whole
    exact whole.symm
  | cons head after => rfl

end Text

namespace Callback

-- The part of a query that an address shows.
def visible (query : Text) : Text :=
  (query.filter (!Url.isRemoved ·)).takeWhile (· != CodePoint.ofChar '#')

def readPairs (query : Text) : Form.Pairs := Form.filled (Form.decode true (visible query))

theorem cleaned_query (query : Text) :
    Url.cleaned (CodePoint.ofChar '?' :: query)
      = CodePoint.ofChar '?' :: query.filter (!Url.isRemoved ·) := by
  have visibleMark : ¬ (CodePoint.ofChar '?').val ≤ 0x20 := by decide
  have keptMark : (!Url.isRemoved (CodePoint.ofChar '?')) = true := by decide
  unfold Url.cleaned
  rw [List.dropWhile_cons_of_neg (by simpa using visibleMark),
    List.filter_cons_of_pos (p := (!Url.isRemoved ·)) keptMark]

theorem splitScheme_query (rest : Text) :
    Url.splitScheme (CodePoint.ofChar '?' :: rest) = ([], CodePoint.ofChar '?' :: rest) := by
  unfold Url.splitScheme
  rw [Text.cutFirst?_cons_of_ne (by decide)]
  cases Text.cutFirst? (CodePoint.ofChar ':') rest with
  | none => rfl
  | some cut => rfl

theorem splitAuthority_query (rest : Text) :
    Url.splitAuthority (CodePoint.ofChar '?' :: rest) = ([], CodePoint.ofChar '?' :: rest) := rfl

theorem cutAt_query (rest : Text) :
    Url.cutAt '?' (CodePoint.ofChar '?' :: rest) = ([], rest) := by
  unfold Url.cutAt
  rw [Text.cutFirst?_cons_self]
  rfl

-- An address that is nothing but a query always splits, and its query is the visible part.
theorem answerPairs_eq (query : Text) : answerPairs query = .ok (readPairs query) := by
  have shown : (Url.cutAt '#' (CodePoint.ofChar '?' :: query.filter (!Url.isRemoved ·))).1
      = CodePoint.ofChar '?' :: visible query := by
    rw [Text.cutAt_fst, List.takeWhile_cons_of_pos (by decide)]
    rfl
  cases cut : Url.cutAt '#' (CodePoint.ofChar '?' :: query.filter (!Url.isRemoved ·)) with
  | mk before fragment =>
    rw [cut] at shown
    obtain rfl : before = CodePoint.ofChar '?' :: visible query := shown
    have split : Url.split (CodePoint.ofChar '?' :: query)
        = .ok ⟨[], [], [], [], visible query, fragment⟩ := by
      unfold Url.split Url.splitAs
      simp only [cleaned_query, splitScheme_query, splitAuthority_query, cut, cutAt_query]
      rfl
    unfold answerPairs readPairs
    rw [split, ← Form.decode_false]
    rfl

theorem visible_append {query : Text} (kept : ∀ c ∈ query, Url.isRemoved c = false) :
    ∃ hidden, query = visible query ++ hidden := by
  have same : query.filter (!Url.isRemoved ·) = query :=
    List.filter_eq_self.2 fun c member => by simp [kept c member]
  refine ⟨query.dropWhile (· != CodePoint.ofChar '#'), ?_⟩
  unfold visible
  rw [same, List.takeWhile_append_dropWhile]

-- What an address takes out of a query, or ends it at.
def isMark (c : CodePoint) : Bool := Url.isRemoved c || c = CodePoint.ofChar '#'

theorem isMark_cases {c : CodePoint} (given : isMark c = true) :
    c = '\t' ∨ c = '\r' ∨ c = '\n' ∨ c = '#' := by
  simpa [isMark, Url.isRemoved, or_assoc] using given

theorem visible_eq_self {query : Text} (plain : ∀ c ∈ query, isMark c = false) :
    visible query = query := by
  have kept : query.filter (!Url.isRemoved ·) = query := by
    refine List.filter_eq_self.2 fun c member => ?_
    have notMark := plain c member
    simp only [isMark, Bool.or_eq_false_iff] at notMark
    simp [notMark.1]
  unfold visible
  rw [kept]
  have before : ∀ c ∈ query, (c != CodePoint.ofChar '#') = true := by
    intro c member
    have notMark := plain c member
    simp only [isMark, Bool.or_eq_false_iff, decide_eq_false_iff_not] at notMark
    simpa using notMark.2
  have whole : (query ++ []).takeWhile (· != CodePoint.ofChar '#') = query ++ [] :=
    List.takeWhile_append_of_pos before
  rwa [List.append_nil] at whole

theorem deniedText?_eq_none {query : Text} :
    deniedText? query = none ↔ Form.Lacks (Form.decode true query) "error" := by
  rw [← Form.last?_eq_none]
  unfold deniedText?
  dsimp only
  cases Form.last? (Form.decode true query) "error" with
  | none => simp
  | some error =>
    constructor
    · intro told
      dsimp only at told
      split at told
      · cases told
      · cases told
      · cases told
    · intro impossible
      cases impossible

theorem parse_eq_ok {query code : Text} {expected : Option Text} :
    parse query expected = .ok code
      ↔ Form.Lacks (Form.decode true query) "error"
        ∧ Form.last? (readPairs query) "code" = some code
        ∧ isOtherState expected (readPairs query) = false := by
  rw [← deniedText?_eq_none]
  unfold parse
  rw [answerPairs_eq]
  dsimp only
  cases denied : deniedText? query with
  | some text => simp
  | none =>
    cases found : Form.last? (readPairs query) "code" with
    | none => simp
    | some last =>
      have full : last ≠ [] := (Form.mem_filled.1 (Form.mem_of_last? found)).2
      cases other : isOtherState expected (readPairs query) with
      | true => simp
      | false => simp [full]

theorem parse_eq_error {query : Text} {expected : Option Text} {failure : Failure}
    (refused : parse query expected = .error failure) : ∃ fault, failure = .callback fault := by
  unfold parse at refused
  rw [answerPairs_eq] at refused
  dsimp only at refused
  split at refused
  · cases refused
    exact ⟨_, rfl⟩
  · split at refused
    · cases refused
      exact ⟨_, rfl⟩
    · split at refused
      · cases refused
        exact ⟨_, rfl⟩
      · split at refused
        · cases refused
          exact ⟨_, rfl⟩
        · cases refused

end Callback

end OidcLogin
