import OidcLogin.Proofs.Authorization.ReadBack
import OidcLogin.Proofs.Callback.Verdict

namespace OidcLogin

open Program

namespace Form

variable {pairs others : Pairs} {name value : Text}

theorem isLast_of_perm (placed : pairs.Perm ((name, value) :: others)) (once : Lacks others name) :
    IsLast pairs name value := by
  have member : (name, value) ∈ pairs := placed.mem_iff.2 List.mem_cons_self
  obtain ⟨before, after, rfl⟩ := List.append_of_mem member
  have rest : (before ++ after).Perm others :=
    List.perm_cons (name, value) |>.1 (List.perm_middle.symm.trans placed)
  refine ⟨before, after, rfl, ?_⟩
  intro other inside
  exact once other (rest.mem_iff.1 (List.mem_append_right before inside))

theorem Lacks.of_perm (placed : pairs.Perm others) (absent : Lacks others name) : Lacks pairs name := by
  intro value member
  exact absent value (placed.mem_iff.1 member)

theorem filled_cons_of_ne_nil (full : value ≠ []) :
    filled ((name, value) :: others) = (name, value) :: filled others := by
  apply List.filter_cons_of_pos
  simpa using full

theorem Lacks.filled (absent : Lacks pairs name) : Lacks (filled pairs) name := by
  intro value member
  exact absent value (mem_filled.1 member).1

theorem lacks_cons : Lacks ((name, value) :: pairs) other ↔ other ≠ name ∧ Lacks pairs other := by
  constructor
  · intro absent
    refine ⟨?_, fun given member => absent given (List.mem_cons_of_mem _ member)⟩
    rintro rfl
    exact absent value List.mem_cons_self
  · rintro ⟨differs, absent⟩ given member
    rcases List.mem_cons.1 member with same | further
    · exact differs (congrArg Prod.fst same)
    · exact absent given further

end Form

namespace Callback

variable {query code state error description : Text} {params answer : Form.Pairs}

def names : List Text := ["error", "error_description", "code", "state"]

-- The parameters of an answer: a code and a state, somewhere among parameters of other names.
def IsAnswer (code state : Text) (params : Form.Pairs) : Prop :=
  ∃ others, params.Perm (("code", code) :: ("state", state) :: others) ∧ ∀ pair ∈ others, pair.1 ∉ names

-- The parameters of a denial: an error and its description, somewhere among those of an answer.
def IsDenial (error description code state : Text) (params : Form.Pairs) : Prop :=
  ∃ answer, IsAnswer code state answer
    ∧ params.Perm (("error", error) :: ("error_description", description) :: answer)

theorem lacks_of_others {others : Form.Pairs} (foreign : ∀ pair ∈ others, pair.1 ∉ names) {name : Text}
    (own : name ∈ names) : Form.Lacks others name :=
  fun _ member => foreign _ member own

theorem IsAnswer.lacks_error (isAnswer : IsAnswer code state params) : Form.Lacks params "error" := by
  obtain ⟨others, placed, foreign⟩ := isAnswer
  apply Form.Lacks.of_perm placed
  simp only [Form.lacks_cons]
  exact ⟨by decide, by decide, lacks_of_others foreign (by decide)⟩

theorem readPairs_of_encode (written : Form.encode params = .ok query) : readPairs query = Form.filled params := by
  obtain ⟨noMark, kept⟩ := Form.noMark_of_encode written
  have shown : visible query = query := by
    apply visible_eq_self
    intro c member
    have differs : c ≠ CodePoint.ofChar '#' := by
      rintro rfl
      exact noMark member
    simp [isMark, kept c member, differs]
  rw [readPairs, shown, Form.decode_encode written]

theorem IsAnswer.isLast (isAnswer : IsAnswer code state params) (someCode : code ≠ []) (someState : state ≠ []) :
    Form.IsLast (Form.filled params) "code" code ∧ Form.IsLast (Form.filled params) "state" state := by
  obtain ⟨others, placed, foreign⟩ := isAnswer
  have shown : (Form.filled params).Perm (("code", code) :: ("state", state) :: Form.filled others) := by
    rw [← Form.filled_cons_of_ne_nil someState, ← Form.filled_cons_of_ne_nil someCode]
    exact placed.filter _
  have absent {name : Text} (own : name ∈ names) : Form.Lacks (Form.filled others) name :=
    (lacks_of_others foreign own).filled
  constructor
  · apply Form.isLast_of_perm shown
    exact Form.lacks_cons.2 ⟨by decide, absent (by decide)⟩
  · apply Form.isLast_of_perm (shown.trans (List.Perm.swap _ _ _))
    exact Form.lacks_cons.2 ⟨by decide, absent (by decide)⟩

theorem IsDenial.isLast (isDenial : IsDenial error description code state params) :
    Form.IsLast params "error" error ∧ Form.IsLast params "error_description" description := by
  obtain ⟨answer, ⟨others, answered, foreign⟩, placed⟩ := isDenial
  have absent {name : Text} (own : name ∈ names) (notCode : name ≠ "code") (notState : name ≠ "state") :
      Form.Lacks answer name := by
    apply Form.Lacks.of_perm answered
    simp only [Form.lacks_cons]
    exact ⟨notCode, notState, lacks_of_others foreign own⟩
  constructor
  · apply Form.isLast_of_perm placed
    exact Form.lacks_cons.2 ⟨by decide, absent (by decide) (by decide) (by decide)⟩
  · apply Form.isLast_of_perm (placed.trans (List.Perm.swap _ _ _))
    exact Form.lacks_cons.2 ⟨by decide, absent (by decide) (by decide) (by decide)⟩

theorem IsDenial.denies (isDenial : IsDenial error description code state params) :
    Denies params (if description = [] then error else description) := by
  obtain ⟨told, described⟩ := isDenial.isLast
  split
  · rename_i silent
    apply Denies.named told
    intro other isLast
    exact (isLast.unique described).trans silent
  · rename_i full
    exact .described told described full

-- A code and a state that every answer with them is read back from, and that no denial with them gets through.
structure ReadsBack (code state : Text) : Prop where
  accepted : ∀ {params}, IsAnswer code state params → (∀ pair ∈ params, pair.1.IsScalar ∧ pair.2.IsScalar) →
    ∃ query, Form.encode params = .ok query
      ∧ parse query (some state) = .ok code
      ∧ ∀ other, other ≠ [] → other ≠ state → parse query (some other) = .error (.callback .otherState)
  denied : ∀ {params error description}, IsDenial error description code state params →
    (∀ pair ∈ params, pair.1.IsScalar ∧ pair.2.IsScalar) →
    ∃ query, Form.encode params = .ok query
      ∧ ∀ expected, parse query expected
        = .error (.callback (.denied (if description = [] then error else description)))

theorem readsBack (someCode : code ≠ []) (someState : state ≠ []) : ReadsBack code state := by
  constructor
  case accepted =>
    intro params isAnswer scalar
    obtain ⟨query, written⟩ := Form.exists_encode.2 scalar
    obtain ⟨isCode, isState⟩ := isAnswer.isLast someCode someState
    have rule : ∀ {expected result}, Verdict params (Form.filled params) expected result →
        parse query expected = result := by
      intro expected result verdict
      apply parse_exact.2
      rwa [Form.decode_encode written, readPairs_of_encode written]
    refine ⟨query, written, ?_, ?_⟩
    · apply rule
      apply Verdict.code isAnswer.lacks_error isCode
      rintro _ ⟨⟩ _
      exact isState
    · intro other full differs
      apply rule
      apply Verdict.otherState isAnswer.lacks_error isCode rfl full
      intro isOther
      exact differs (isOther.unique isState)
  case denied =>
    intro params error description isDenial scalar
    obtain ⟨query, written⟩ := Form.exists_encode.2 scalar
    refine ⟨query, written, ?_⟩
    intro expected
    apply parse_exact.2
    rw [Form.decode_encode written]
    exact .denied isDenial.denies

theorem isAlphanumeric_stateOf {draws : List (Fin 62)} :
    ∀ c ∈ Authorization.stateOf draws, c.isAlphanumeric = true := by
  intro c member
  obtain ⟨n, _, rfl⟩ := List.mem_map.1 member
  have letters : ∀ letter ∈ Authorization.stateAlphabet, letter.isAlphanumeric = true := by decide
  rw [List.getD_eq_getElem?_getD]
  cases found : Authorization.stateAlphabet[n.val]? with
  | none => rfl
  | some letter => exact letters letter (List.mem_of_getElem? found)

-- Whatever code and state a provider answers with are read back, and so are those of every login that was begun:
-- its state is of letters and digits.
theorem answers_read_back :
    (∀ code state, code ≠ [] → state ≠ [] → ReadsBack code state)
      ∧ ∀ (User : Type) (m : LoginManager)
          (history : List (Exchange (LoginEffect.Reply : LoginEffect User → Type))) (request : AuthorizationRequest),
        Runs m.authorizationRequest history (.ok request) →
          request.state.length = 48
            ∧ (∀ c ∈ request.state, c.isAlphanumeric = true)
            ∧ ∀ code, code ≠ [] → ReadsBack code request.state := by
  refine ⟨fun code state => readsBack, ?_⟩
  intro User m history request runs
  obtain ⟨draws, made⟩ := LoginManager.runs_authorizationRequest runs
  obtain ⟨url, _, rfl⟩ := except_map_eq_ok.1 made.symm
  have length : (Authorization.stateOf draws.toList).length = 48 := by
    rw [Authorization.stateOf, List.length_map, Vector.length_toList]
    rfl
  refine ⟨length, isAlphanumeric_stateOf, ?_⟩
  intro code someCode
  exact readsBack someCode (Authorization.stateOf_vector_ne_nil draws)

theorem answers_read_back_of_marks :
    (let code : Text := "4/0 A&b=c#d%2B\n€"
      let state : Text := "s+ s"
      ∃ query, Form.encode [("scope", "openid email"), ("code", code), ("iss", ""), ("state", state)] = .ok query
        ∧ parse query (some state) = .ok code
        ∧ parse query (some "s++s") = .error (.callback .otherState))
      ∧ ∃ (oidc : OidcClient) (history : List (Exchange (LoginEffect.Reply : LoginEffect Text → Type)))
          (request : AuthorizationRequest),
        Runs (LoginManager.authorizationRequest ⟨Sample.config, .given, false, oidc⟩) history (.ok request)
          ∧ ReadsBack "abc" request.state := by
  constructor
  · intro code state
    let params : Form.Pairs := [("scope", "openid email"), ("code", code), ("iss", ""), ("state", state)]
    have isAnswer : IsAnswer code state params := ⟨[("scope", "openid email"), ("iss", "")], by decide, by decide⟩
    have scalar : ∀ pair ∈ params, pair.1.IsScalar ∧ pair.2.IsScalar := by
      simp [params, Text.isScalar_ofString, code, state]
    have back := answers_read_back.1 code state (by decide) (by decide)
    obtain ⟨query, written, accepted, refused⟩ := back.accepted isAnswer scalar
    exact ⟨query, written, accepted, refused _ (by decide) (by decide)⟩
  · let oidc : OidcClient :=
      { OidcClient.overHttp Sample.config .given with authorizationUrl := fun _ state _ => .ok state }
    let m : LoginManager := ⟨Sample.config, .given, false, oidc⟩
    let draws : Vector (Fin 62) Authorization.stateLength := Vector.replicate _ 0
    have runs : Runs (m.authorizationRequest : LoginProgram Text _) [⟨.draw Authorization.stateLength, draws⟩]
        (m.requestOf (Authorization.stateOf draws.toList)) := .ask _ _ _ _ _ (.done _)
    obtain ⟨length, letters, back⟩ := answers_read_back.2 Text m _ _ runs
    exact ⟨oidc, _, _, runs, back "abc" (by decide)⟩

end Callback

end OidcLogin
