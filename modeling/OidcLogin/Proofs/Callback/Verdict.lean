import OidcLogin.Proofs.Callback.Reading

namespace OidcLogin

namespace Form

variable {pairs : Pairs} {name value other : Text}

-- The value that a name has last.
def IsLast (pairs : Pairs) (name value : Text) : Prop :=
  ∃ before after, pairs = before ++ (name, value) :: after ∧ Lacks after name

theorem last?_exact : last? pairs name = some value ↔ IsLast pairs name value := by
  unfold last?
  rw [List.lookup_eq_some_iff]
  have lacks (l : Pairs) : (∀ pair ∈ l, (name == pair.1) = false) ↔ Lacks l.reverse name := by
    rw [← last?_eq_none, last?, List.reverse_reverse, List.lookup_eq_none_iff]
    simp
  constructor
  · rintro ⟨after, before, backwards, free⟩
    refine ⟨before.reverse, after.reverse, ?_, (lacks after).1 (by simpa using free)⟩
    rw [← List.reverse_reverse pairs, backwards]
    simp
  · rintro ⟨before, after, rfl, free⟩
    refine ⟨after.reverse, before.reverse, by simp, ?_⟩
    rw [← List.reverse_reverse after] at free
    simpa using (lacks after.reverse).2 free

theorem IsLast.unique (one : IsLast pairs name value) (another : IsLast pairs name other) : value = other :=
  Option.some.inj ((last?_exact.2 one).symm.trans (last?_exact.2 another))

theorem IsLast.not_lacks (found : IsLast pairs name value) : ¬ Lacks pairs name := by
  intro absent
  cases (last?_eq_none.2 absent).symm.trans (last?_exact.2 found)

end Form

namespace Callback

-- What a provider that denies the login is told to say: its last description if that says something, else its
-- last error.
inductive Denies (whole : Form.Pairs) : Text → Prop
  | described {error description : Text} (told : Form.IsLast whole "error" error)
      (described : Form.IsLast whole "error_description" description) (full : description ≠ []) :
      Denies whole description
  | named {error : Text} (told : Form.IsLast whole "error" error)
      (silent : ∀ description, Form.IsLast whole "error_description" description → description = []) :
      Denies whole error

-- The rules, one for each outcome.  `whole` are all pairs of the query, `shown` those that code and state are
-- looked for in.
inductive Verdict (whole shown : Form.Pairs) (expected : Option Text) : Except Failure Text → Prop
  | denied {text : Text} (told : Denies whole text) :
      Verdict whole shown expected (.error (.callback (.denied text)))
  | noCode (silent : Form.Lacks whole "error") (absent : Form.Lacks shown "code") :
      Verdict whole shown expected (.error (.callback .noCode))
  | otherState {code state : Text} (silent : Form.Lacks whole "error") (found : Form.IsLast shown "code" code)
      (asked : expected = some state) (full : state ≠ []) (other : ¬ Form.IsLast shown "state" state) :
      Verdict whole shown expected (.error (.callback .otherState))
  | code {code : Text} (silent : Form.Lacks whole "error") (found : Form.IsLast shown "code" code)
      (same : ∀ state, expected = some state → state ≠ [] → Form.IsLast shown "state" state) :
      Verdict whole shown expected (.ok code)

variable {query text : Text} {expected : Option Text} {whole shown : Form.Pairs}

theorem Denies.not_lacks (denies : Denies whole text) : ¬ Form.Lacks whole "error" := by
  cases denies with
  | described told described full => exact told.not_lacks
  | named told silent => exact told.not_lacks

theorem Denies.unique {other : Text} (denies : Denies whole text) (again : Denies whole other) : text = other := by
  cases denies with
  | described told described full =>
    cases again with
    | described told' described' full' => exact described.unique described'
    | named told' silent => exact absurd (silent _ described) full
  | named told silent =>
    cases again with
    | described told' described' full' => exact absurd (silent _ described') full'
    | named told' silent' => exact told.unique told'

theorem denies_of_deniedText? (told : deniedText? query = some text) : Denies (Form.decode true query) text := by
  unfold deniedText? at told
  dsimp only at told
  split at told
  · cases told
  · rename_i error found
    have named := Form.last?_exact.1 found
    split at told
    · rename_i absent
      cases told
      refine .named named fun description isLast => ?_
      cases absent.symm.trans (Form.last?_exact.2 isLast)
    · rename_i blank
      cases told
      exact .named named fun description isLast => isLast.unique (Form.last?_exact.1 blank)
    · rename_i description full described
      cases told
      exact .described named (Form.last?_exact.1 described) full

theorem isOtherState_exact :
    isOtherState expected shown = true
      ↔ ∃ state, expected = some state ∧ state ≠ [] ∧ ¬ Form.IsLast shown "state" state := by
  cases expected with
  | none => simp [isOtherState]
  | some state =>
    cases state with
    | nil => simp [isOtherState]
    | cons c rest => simp [isOtherState, ← Form.last?_exact]

theorem verdict_of_parse (query : Text) (expected : Option Text) :
    Verdict (Form.decode true query) (readPairs query) expected (parse query expected) := by
  unfold parse
  rw [answerPairs_eq]
  dsimp only
  split
  · rename_i text told
    exact .denied (denies_of_deniedText? told)
  · rename_i told
    have silent := deniedText?_eq_none.1 told
    split
    · rename_i absent
      exact .noCode silent (Form.last?_eq_none.1 absent)
    · rename_i code found
      have isLast := Form.last?_exact.1 found
      split
      · rename_i isOther
        obtain ⟨state, asked, full, other⟩ := isOtherState_exact.1 isOther
        exact .otherState silent isLast asked full other
      · rename_i same
        have full : code ≠ [] := (Form.mem_filled.1 (Form.mem_of_last? found)).2
        rw [if_neg (by simpa using full)]
        refine .code silent isLast fun state asked given => ?_
        apply Classical.byContradiction
        intro other
        exact same (isOtherState_exact.2 ⟨state, asked, given, other⟩)

theorem Verdict.unique {result other : Except Failure Text} (verdict : Verdict whole shown expected result)
    (again : Verdict whole shown expected other) : result = other := by
  cases verdict with
  | denied told =>
    cases again with
    | denied told' => rw [told.unique told']
    | noCode silent | otherState silent | code silent => exact absurd silent told.not_lacks
  | noCode silent absent =>
    cases again with
    | denied told => exact absurd silent told.not_lacks
    | noCode => rfl
    | otherState _ found | code _ found => exact absurd absent found.not_lacks
  | otherState silent found asked full differs =>
    cases again with
    | denied told => exact absurd silent told.not_lacks
    | noCode _ absent => exact absurd absent found.not_lacks
    | otherState => rfl
    | code _ _ same => exact absurd (same _ asked full) differs
  | code silent found same =>
    cases again with
    | denied told => exact absurd silent told.not_lacks
    | noCode _ absent => exact absurd absent found.not_lacks
    | otherState _ _ asked full differs => exact absurd (same _ asked full) differs
    | code _ found' => rw [found.unique found']

theorem parse_exact {result : Except Failure Text} :
    parse query expected = result ↔ Verdict (Form.decode true query) (readPairs query) expected result := by
  constructor
  · rintro rfl
    exact verdict_of_parse query expected
  · intro verdict
    exact (verdict_of_parse query expected).unique verdict

-- Every query is read, and comes to what the rules say of its pairs and of those that its visible part has with
-- a value.  Each fault has a class of its own, and a denial is worded as the provider words it.
theorem every_query_has_its_verdict (query : Text) (expected : Option Text) :
    answerPairs query = .ok (Form.decode false (visible query))
      ∧ (∀ result, parse query expected = result
          ↔ Verdict (Form.decode true query) (Form.decode false (visible query)) expected result)
      ∧ (∀ text, (Failure.callback (.denied text)).kind = .authorizationDenied
          ∧ (Failure.callback (.denied text)).message = text)
      ∧ (Failure.callback .otherState).kind = .stateMismatch
      ∧ (Failure.callback .noCode).kind = .malformedCallback := by
  have shown : Form.decode false (visible query) = readPairs query := Form.decode_false (visible query)
  rw [shown]
  exact ⟨answerPairs_eq query, fun result => parse_exact, fun text => ⟨rfl, rfl⟩, rfl, rfl⟩

end Callback

end OidcLogin
