import OidcLogin.Proofs.Callback.Reading
import OidcLogin.Proofs.Validation.Success

namespace OidcLogin.Callback

-- No decoding tells an error, and the code is the last one with a value in the whole query too.
structure Agreed (query code : Text) : Prop where
  whole : Form.Lacks (Form.decode true query) "error"
  shown : ∃ pairs, answerPairs query = .ok pairs ∧ Form.Lacks pairs "error"
  code : Form.last? (Form.filled (Form.decode true query)) "code" = some code

-- What an accepted query always says, in its visible part.
structure Shown (query code : Text) : Prop where
  whole : Form.Lacks (Form.decode true query) "error"
  pairs : answerPairs query = .ok (Form.filled (Form.decode true (visible query)))
  code : Form.last? (Form.filled (Form.decode true (visible query))) "code" = some code

theorem shown_of_parse {query code : Text} {expected : Option Text}
    (parsed : parse query expected = .ok code) : Shown query code := by
  obtain ⟨noError, found, _⟩ := parse_eq_ok.1 parsed
  exact ⟨noError, answerPairs_eq query, found⟩

-- A `#` hides no error: a name that it cuts the value of stays, and one that it cuts has no value.
theorem Shown.lacks {query code : Text} (shown : Shown query code)
    (kept : ∀ c ∈ query, Url.isRemoved c = false) :
    Form.Lacks (Form.filled (Form.decode true (visible query))) "error" := by
  intro value member
  obtain ⟨hidden, whole⟩ := visible_append kept
  rw [← Form.decode_false] at member
  obtain ⟨other, told⟩ := Form.name_mem_of_append hidden member
  rw [← whole] at told
  exact shown.whole other told

theorem Shown.agreed {query code : Text} (shown : Shown query code)
    (plain : ∀ c ∈ query, isMark c = false) : Agreed query code := by
  have same : visible query = query := visible_eq_self plain
  have kept : ∀ c ∈ query, Url.isRemoved c = false := by
    intro c member
    exact (Bool.or_eq_false_iff.1 (plain c member)).1
  refine ⟨shown.whole, ⟨_, shown.pairs, shown.lacks kept⟩, ?_⟩
  have found := shown.code
  rwa [same] at found

def marked (mark : CodePoint) : Text := "code=c" ++ mark :: ("c" : Text)

theorem mem_marked {mark c : CodePoint} (member : c ∈ marked mark) :
    c ∈ ("code=" : Text) ∨ c = mark := by
  have letters : ∀ d ∈ ("code=c" : Text), d ∈ ("code=" : Text) := by decide
  rcases List.mem_append.1 member with start | rest
  · exact .inl (letters c start)
  · rcases List.mem_cons.1 rest with same | last
    · exact .inr same
    · obtain rfl := List.mem_singleton.1 last
      exact .inl (by decide)

theorem parse_marked {mark : CodePoint} (given : isMark mark = true) :
    ∃ code, parse (marked mark) none = .ok code ∧ mark ∉ code := by
  rcases isMark_cases given with rfl | rfl | rfl | rfl
  · exact ⟨"cc", except_eq_ok_of_toOption (by decide +kernel), by decide⟩
  · exact ⟨"cc", except_eq_ok_of_toOption (by decide +kernel), by decide⟩
  · exact ⟨"cc", except_eq_ok_of_toOption (by decide +kernel), by decide⟩
  · exact ⟨"c", except_eq_ok_of_toOption (by decide +kernel), by decide⟩

theorem whole_marked {mark : CodePoint} (given : isMark mark = true) :
    Form.last? (Form.filled (Form.decode true (marked mark))) "code"
      = some ("c" ++ mark :: ("c" : Text)) := by
  rcases isMark_cases given with rfl | rfl | rfl | rfl
  · decide +kernel
  · decide +kernel
  · decide +kernel
  · decide +kernel

theorem not_agreed_marked {mark : CodePoint} (given : isMark mark = true) :
    ∃ code, parse (marked mark) none = .ok code ∧ ¬ Agreed (marked mark) code := by
  obtain ⟨code, parsed, absent⟩ := parse_marked given
  refine ⟨code, parsed, ?_⟩
  intro agreed
  have same := Option.some.inj ((whole_marked given).symm.trans agreed.code)
  apply absent
  rw [← same]
  exact List.mem_append_right _ List.mem_cons_self

-- The two decodings agree on the queries over a set of characters exactly where no mark is among these.
-- Whatever the query, its visible part says the code; without tabs and line ends it hides no error.
theorem decodings_agree_exactly (allowed : CodePoint → Prop) (letters : ∀ c ∈ ("code=" : Text), allowed c) :
    ((∀ query expected code, (∀ c ∈ query, allowed c) → parse query expected = .ok code →
        Agreed query code)
      ↔ ∀ c, allowed c → isMark c = false)
    ∧ ∀ query expected code, parse query expected = .ok code →
        Shown query code
        ∧ ((∀ c ∈ query, Url.isRemoved c = false) →
            ∀ pairs, answerPairs query = .ok pairs → Form.Lacks pairs "error") := by
  refine ⟨⟨?_, ?_⟩, ?_⟩
  · intro agree c isAllowed
    cases found : isMark c with
    | false => rfl
    | true =>
      obtain ⟨code, parsed, differ⟩ := not_agreed_marked found
      have all : ∀ d ∈ marked c, allowed d := by
        intro d member
        rcases mem_marked member with letter | same
        · exact letters d letter
        · exact same ▸ isAllowed
      exact absurd (agree _ none code all parsed) differ
  · intro unmarked query expected code all parsed
    exact (shown_of_parse parsed).agreed fun c member => unmarked c (all c member)
  · intro query expected code parsed
    have shown := shown_of_parse parsed
    refine ⟨shown, ?_⟩
    intro kept pairs answered
    obtain rfl := Except.ok.inj (shown.pairs.symm.trans answered)
    exact shown.lacks kept

theorem decodings_agree_exactly_of_repeated :
    parse "code=a&code=b%23" none = .ok "b#" ∧ Agreed "code=a&code=b%23" "b#" := by
  have parsed : parse "code=a&code=b%23" none = .ok "b#" := except_eq_ok_of_toOption (by decide +kernel)
  refine ⟨parsed, ?_⟩
  have agree := (decodings_agree_exactly (isMark · = false) (by decide)).1.2 fun _ unmarked => unmarked
  exact agree _ _ _ (by decide) parsed

-- A `#` shortens the code, and a tab in a name hides an error.
theorem decodings_differ :
    (parse "code=a#b" none = .ok "a" ∧ ¬ Agreed "code=a#b" "a")
      ∧ parse "er\tror=denied&code=a" none = .ok "a" ∧ ¬ Agreed "er\tror=denied&code=a" "a" := by
  refine ⟨⟨except_eq_ok_of_toOption (by decide +kernel), ?_⟩,
    except_eq_ok_of_toOption (by decide +kernel), ?_⟩
  · intro agreed
    have whole : Form.last? (Form.filled (Form.decode true "code=a#b")) "code" = some "a#b" := by
      decide +kernel
    exact absurd (agreed.code.symm.trans whole) (by decide)
  · intro agreed
    obtain ⟨pairs, answered, lacks⟩ := agreed.shown
    have told : answerPairs "er\tror=denied&code=a"
        = .ok [(Text.ofString "error", Text.ofString "denied"), (Text.ofString "code", Text.ofString "a")] :=
      except_eq_ok_of_toOption (by decide +kernel)
    obtain rfl := Except.ok.inj (told.symm.trans answered)
    exact lacks "denied" List.mem_cons_self

end OidcLogin.Callback
