import OidcLogin.Proofs.Callback.StoryOverHttp
import OidcLogin.Proofs.Json.Documents
import OidcLogin.Proofs.Program.Lockstep
import OidcLogin.Proofs.Secrecy.Requests

namespace OidcLogin

open Program

variable {User : Type} {groupsClaimName : Text}

-- The same note, or two requests to one place.
inductive NetEffect.Like : NetEffect → NetEffect → Prop
  | note (n : Note) : NetEffect.Like (.note n) (.note n)
  | send {client : HttpClient} {request other : Http.Request} (method : request.method = other.method)
      (address : request.url = other.url) : NetEffect.Like (.send client request) (.send client other)

-- Tokens are granted by post, and claims are got.
def NetExchange.Alike (groupsClaimName : Text) : NetExchange → NetExchange → Prop
  | ⟨.send _ request, outcome⟩, ⟨.send _ other, answer⟩ =>
    (request.method = "POST" → other.method = "POST" → outcome.Alike TokensAlike answer)
      ∧ (request.method = "GET" → other.method = "GET" → outcome.Alike (ClaimsAlike groupsClaimName) answer)
  | _, _ => True

namespace NetProgram

theorem lockstep_noteAll {Answered : NetExchange → NetExchange → Prop} (notes : List Note) :
    Lockstep NetEffect.Like Answered (fun _ _ => True) (noteAll notes) (noteAll notes) := by
  induction notes with
  | nil => exact .done trivial
  | cons n rest ih => exact .ask (.note n) fun _ _ _ => ih

theorem lockstep_fetch {Same : Members → Members → Prop} {client : HttpClient} {method url content given : Text}
    {headers others : Http.Headers} (alike : List.Forall₂ (WrittenPair .ascii) headers others)
    (written : Text.WrittenAlike .utf8 content given)
    (answers : ∀ request other outcome answer, request.method = method.capitals → other.method = method.capitals →
      NetExchange.Alike groupsClaimName ⟨.send client request, outcome⟩ ⟨.send client other, answer⟩ →
        Http.Answer.Alike Same outcome answer) :
    Lockstep NetEffect.Like (NetExchange.Alike groupsClaimName) (EndAlike (Http.DocumentAlike Same))
      (fetch client method url headers content) (fetch client method url others given) := by
  unfold fetch
  rcases (Http.prepare_alike method url alike written).ends with
    ⟨fault, here, there⟩ | ⟨request, other, here, there, posted, postedOther, address⟩
  · rw [here, there]
    exact .done (.failed fault)
  · rw [here, there]
    refine .ask (.send (posted.trans postedOther.symm) address) fun outcome answer answered => .done ?_
    exact Http.receive_alike (answers request other outcome answer posted postedOther answered) address url

theorem lockstep_settled {α : Type} {ε β : Type} {Ends : α → α → Prop} {R : β → β → Prop}
    {Answered : NetExchange → NetExchange → Prop} {first second : NetProgram α} {settle : α → List Note × Except ε β}
    (both : Lockstep NetEffect.Like Answered Ends first second)
    (settled : ∀ a b, Ends a b → ToldAlike R (settle a) (settle b)) :
    Lockstep NetEffect.Like Answered (EndAlike R)
      (first >>= fun value => noteAll (settle value).1 >>= fun _ => pure (settle value).2)
      (second >>= fun value => noteAll (settle value).1 >>= fun _ => pure (settle value).2) := by
  refine lockstep_bind both fun a b ends => ?_
  have told := settled a b ends
  rw [told.notes]
  exact lockstep_bind (lockstep_noteAll _) fun _ _ _ => .done told.ends

end NetProgram

section Client

variable {config : ProviderConfig} {client : HttpClient} {secret another : Text}

theorem TokenExchange.lockstep_exchange {code other : Text} (codes : Form.ValueAlike "code" code other)
    (latin : IsLatin secret) (latinOther : IsLatin another) (redirectUri : Text) :
    Lockstep NetEffect.Like (NetExchange.Alike groupsClaimName) (EndAlike TokenResponse.Alike)
      (exchange (config.withSecret secret) client (some code) (some redirectUri))
      (exchange (config.withSecret another) client (some other) (some redirectUri)) := by
  unfold exchange
  rcases (prepare_alike config codes latin latinOther (some redirectUri)).ends with
    ⟨failure, here, there⟩ | ⟨form, given, here, there, body, authorization⟩
  · rw [here, there]
    exact .done (.failed failure)
  · rw [here, there]
    refine NetProgram.lockstep_settled (NetProgram.lockstep_fetch (formHeaders_alike authorization) body ?_)
      fun _ _ documents => ofFetch_alike _ documents
    intro request other outcome answer posted postedOther answered
    exact answered.1 (posted.trans (by decide)) (postedOther.trans (by decide))

theorem UserInfo.lockstep_fetch {accessToken other : Text} (alike : Text.WrittenAlike .ascii accessToken other) :
    Lockstep NetEffect.Like (NetExchange.Alike groupsClaimName) (EndAlike (ClaimsAlike groupsClaimName))
      (fetch (config.withSecret secret) client accessToken) (fetch (config.withSecret another) client other) := by
  refine NetProgram.lockstep_settled (NetProgram.lockstep_fetch (headers_alike alike) (.refl _) ?_)
    fun _ _ documents => ofFetch_alike _ documents
  intro request other outcome answer got gotOther answered
  exact answered.2 (got.trans (by decide)) (gotOther.trans (by decide))

end Client

inductive LoginEffect.Like : LoginEffect User → LoginEffect User → Prop
  | net {effect other : NetEffect} (like : effect.Like other) : LoginEffect.Like (.net effect) (.net other)
  | login {email name other another : Text} (administrator : Bool) :
      LoginEffect.Like (.login email name administrator) (.login other another administrator)
  | establish (request : CallbackRequest) (user other : User) :
      LoginEffect.Like (.establish request user) (.establish request other)
  | audit (request : CallbackRequest) (user other : User) :
      LoginEffect.Like (.audit request user) (.audit request other)

-- The host application does the same, though with users of its own.
def LoginExchange.Alike (groupsClaimName : Text) : LoginExchange User → LoginExchange User → Prop
  | ⟨.net effect, reply⟩, ⟨.net other, answer⟩ => NetExchange.Alike groupsClaimName ⟨effect, reply⟩ ⟨other, answer⟩
  | ⟨.login .., reply⟩, ⟨.login .., answer⟩ => EndAlike (fun _ _ => True) reply answer
  | ⟨.establish .., reply⟩, ⟨.establish .., answer⟩ => reply = answer
  | ⟨.audit .., reply⟩, ⟨.audit .., answer⟩ => reply = answer
  | _, _ => True

theorem LoginEffect.Like.note? {effect other : LoginEffect User} (like : effect.Like other) :
    effect.note? = other.note? := by
  cases like with
  | net like =>
    cases like with
    | note n => rfl
    | send method address => rfl
  | login administrator => rfl
  | establish request user other => rfl
  | audit request user other => rfl

theorem loginNotes_eq {history other : List (LoginExchange User)}
    (alike : List.Forall₂ (fun exchange another => exchange.1.Like another.1) history other) :
    loginNotes history = loginNotes other := by
  unfold loginNotes
  induction alike with
  | nil => rfl
  | cons first rest ih => rw [List.filterMap_cons, List.filterMap_cons, ih, first.note?]

theorem NetProgram.lockstep_lift {α : Type} {Ends : α → α → Prop} {first second : NetProgram α}
    (both : Lockstep NetEffect.Like (NetExchange.Alike groupsClaimName) Ends first second) :
    Lockstep LoginEffect.Like (LoginExchange.Alike groupsClaimName) Ends (first.lift : LoginProgram User α)
      second.lift :=
  lockstep_interpret both fun _ _ like => .ask (.net like) fun _ _ answered => .done answered

inductive CallbackEffect.Like : CallbackEffect User → CallbackEffect User → Prop
  | note (n : Note) : CallbackEffect.Like (.note n) (.note n)
  | exchangeCode {code other : Text} (codes : Form.ValueAlike "code" code other) (redirectUri : Text) :
      CallbackEffect.Like (.exchangeCode code redirectUri) (.exchangeCode other redirectUri)
  | fetchUserInfo {accessToken other : Text} (tokens : Text.WrittenAlike .ascii accessToken other) :
      CallbackEffect.Like (.fetchUserInfo accessToken) (.fetchUserInfo other)
  | login {email name other another : Text} (administrator : Bool) :
      CallbackEffect.Like (.login email name administrator) (.login other another administrator)
  | establish (request : CallbackRequest) (user other : User) :
      CallbackEffect.Like (.establish request user) (.establish request other)
  | audit (request : CallbackRequest) (user other : User) :
      CallbackEffect.Like (.audit request user) (.audit request other)

def CallbackExchange.Alike (groupsClaimName : Text) : CallbackExchange User → CallbackExchange User → Prop
  | ⟨.exchangeCode .., reply⟩, ⟨.exchangeCode .., answer⟩ => EndAlike TokenResponse.Alike reply answer
  | ⟨.fetchUserInfo _, reply⟩, ⟨.fetchUserInfo _, answer⟩ => EndAlike (ClaimsAlike groupsClaimName) reply answer
  | ⟨.login .., reply⟩, ⟨.login .., answer⟩ => EndAlike (fun _ _ => True) reply answer
  | ⟨.establish .., reply⟩, ⟨.establish .., answer⟩ => reply = answer
  | ⟨.audit .., reply⟩, ⟨.audit .., answer⟩ => reply = answer
  | _, _ => True

-- Two clients with secrets of their own answer like questions alike.
theorem OidcClient.lockstep_answer {config : ProviderConfig} {client : HttpClient} {secret another : Text}
    (latin : IsLatin secret) (latinOther : IsLatin another) {effect other : CallbackEffect User}
    (like : effect.Like other) :
    Lockstep LoginEffect.Like (LoginExchange.Alike groupsClaimName)
      (fun reply answer => CallbackExchange.Alike groupsClaimName ⟨effect, reply⟩ ⟨other, answer⟩)
      ((OidcClient.overHttp (config.withSecret secret) client).answer effect)
      ((OidcClient.overHttp (config.withSecret another) client).answer other) := by
  cases like with
  | note n => exact .ask (.net (.note n)) fun _ _ _ => .done trivial
  | exchangeCode codes redirectUri =>
    exact NetProgram.lockstep_lift (TokenExchange.lockstep_exchange codes latin latinOther redirectUri)
  | fetchUserInfo tokens => exact NetProgram.lockstep_lift (UserInfo.lockstep_fetch tokens)
  | login administrator => exact .ask (.login administrator) fun _ _ answered => .done answered
  | establish request user other => exact .ask (.establish request user other) fun _ _ answered => .done answered
  | audit request user other => exact .ask (.audit request user other) fun _ _ answered => .done answered

theorem CallbackProgram.lockstep_noteAll {Answered : CallbackExchange User → CallbackExchange User → Prop}
    (notes : List Note) :
    Lockstep CallbackEffect.Like Answered (fun _ _ => True) (noteAll notes : CallbackProgram User Unit)
      (noteAll notes) := by
  induction notes with
  | nil => exact .done trivial
  | cons n rest ih => exact .ask (.note n) fun _ _ _ => ih

namespace CallbackHandler

def withSecret (h : CallbackHandler) (secret : Text) : CallbackHandler :=
  { h with config := h.config.withSecret secret }

variable {h : CallbackHandler} {request : CallbackRequest} {expected : Option Text}
  {query other secret another : Text}

theorem mapper_withSecret (secret : Text) : (h.withSecret secret).mapper = h.mapper := rfl

theorem lockstep_noted {α : Type} {Answered : CallbackExchange User → CallbackExchange User → Prop}
    {Ends : α → α → Prop} (notes : List Note) {first second : CallbackProgram User α}
    (both : Lockstep CallbackEffect.Like Answered Ends first second) :
    Lockstep CallbackEffect.Like Answered Ends (CallbackProgram.noteAll notes >>= fun _ => first)
      (CallbackProgram.noteAll notes >>= fun _ => second) :=
  lockstep_bind (CallbackProgram.lockstep_noteAll notes) fun _ _ _ => both

theorem lockstep_handOver {identity another : UserIdentity}
    (administrator : identity.isAdministrator = another.isAdministrator) :
    Lockstep CallbackEffect.Like (CallbackExchange.Alike groupsClaimName) Eq
      (handOver request identity : CallbackProgram User _) (handOver request another) := by
  unfold handOver
  dsimp only
  rw [administrator]
  refine .ask (.login _) fun reply answer answered => ?_
  rcases EndAlike.ends answered with ⟨failure, rfl, rfl⟩ | ⟨user, other, rfl, rfl, _⟩
  · exact .done rfl
  · refine .ask (.establish request user other) fun reply answer answered => ?_
    obtain rfl : reply = answer := answered
    cases reply with
    | error failure => exact .done rfl
    | ok _ =>
      refine .ask (.audit request user other) fun reply answer answered => ?_
      obtain rfl : reply = answer := answered
      cases reply with
      | error failure => exact .done rfl
      | ok _ => exact lockstep_noted _ (.done rfl)

theorem lockstep_steps (apart : Callback.CodesApart query other) :
    Lockstep CallbackEffect.Like (CallbackExchange.Alike h.mapper.groupsClaimName) Eq
      ((h.withSecret secret).steps query request expected : CallbackProgram User _)
      ((h.withSecret another).steps other request expected) := by
  unfold steps
  rcases (Callback.parse_alike apart expected).ends with
    ⟨failure, here, there⟩ | ⟨code, given, here, there, codes⟩
  · rw [here, there]
    exact .done rfl
  · rw [here, there]
    refine lockstep_noted _ (.ask (.exchangeCode codes _) fun granted given answered => ?_)
    rcases EndAlike.ends answered with ⟨failure, rfl, rfl⟩ | ⟨token, other, rfl, rfl, tokens⟩
    · exact .done rfl
    · refine lockstep_noted _ (.ask (.fetchUserInfo tokens.sent) fun fetched got answered => ?_)
      rcases EndAlike.ends answered with ⟨failure, rfl, rfl⟩ | ⟨claims, others, rfl, rfl, alike⟩
      · exact .done rfl
      · refine lockstep_noted _ ?_
        rw [mapper_withSecret, mapper_withSecret]
        have decided := IdentityMapper.mapClaims_alike alike
        generalize h.mapper.mapClaims claims = told, h.mapper.mapClaims others = toldOther at decided ⊢
        obtain ⟨notes, decision⟩ := told
        obtain ⟨_, decisionOther⟩ := toldOther
        obtain ⟨rfl, ends⟩ := decided
        cases ends with
        | failed failure => exact lockstep_noted _ (.done rfl)
        | done administrator =>
          dsimp only
          rw [administrator]
          exact lockstep_noted _ (lockstep_handOver administrator)

theorem lockstep_handle (apart : Callback.CodesApart query other) :
    Lockstep CallbackEffect.Like (CallbackExchange.Alike h.mapper.groupsClaimName) Eq
      ((h.withSecret secret).handle query request expected : CallbackProgram User _)
      ((h.withSecret another).handle other request expected) := by
  refine lockstep_noted _ (lockstep_bind (lockstep_steps apart) fun stepped given same => ?_)
  obtain rfl := same
  obtain ⟨state, outcome⟩ := stepped
  cases outcome with
  | error failure => exact lockstep_noted _ (.done rfl)
  | ok _ => exact lockstep_noted _ (.done rfl)

-- Two callbacks that differ in secrets only tell the same and end the same.
theorem secrets_are_not_told {client : HttpClient} {history others : List (LoginExchange User)}
    {result given : Except Failure Text} (latin : IsLatin secret) (latinOther : IsLatin another)
    (apart : Callback.CodesApart query other)
    (runs : Runs (((h.withSecret secret).handle query request expected).withClient
      (.overHttp (h.withSecret secret).config client)) history result)
    (runsOther : Runs (((h.withSecret another).handle other request expected).withClient
      (.overHttp (h.withSecret another).config client)) others given)
    (answered : ∀ pair ∈ history.zip others, LoginExchange.Alike h.mapper.groupsClaimName pair.1 pair.2) :
    logsOf (loginNotes history) = logsOf (loginNotes others)
      ∧ spansOf (loginNotes history) = spansOf (loginNotes others)
      ∧ result = given := by
  have both : Lockstep LoginEffect.Like (LoginExchange.Alike h.mapper.groupsClaimName) Eq
      (((h.withSecret secret).handle query request expected).withClient
        (.overHttp (h.withSecret secret).config client) : LoginProgram User _)
      (((h.withSecret another).handle other request expected).withClient
        (.overHttp (h.withSecret another).config client)) :=
    lockstep_interpret (lockstep_handle apart) fun _ _ like => OidcClient.lockstep_answer latin latinOther like
  obtain ⟨alike, ends⟩ := both.of_runs runs runsOther answered
  have notes := loginNotes_eq alike
  exact ⟨by rw [notes], by rw [notes], ends⟩

end CallbackHandler

namespace Sample

theorem carries_of_texts? {response : Http.Response} {pairs : List (Text × Text)}
    (read : (Json.objectOf? (Json.ofBytes response.levels response.chunks.flatten)).bind Members.texts? = some pairs)
    (small : response.chunks.flatten.length ≤ Http.maxResponseBytes)
    (undeclared : response.headers.get? "Content-Length" = none) : response.Carries (Members.ofTexts pairs) := by
  exact ⟨Json.eq_object_of_texts? read, small, .inl undeclared⟩

def otherTokenResponse : Http.Response :=
  answered 200 [] [octets "\x7b\"access_token\":\"bt\",\"token_type\":\"Bearer\",\"id_token\":\"i\"\x7d"]

def memberResponse : Http.Response :=
  answered 200 [] [octets "\x7b\"email\":\"a@b.c\",\"name\":\"Al\",\"groups\":\"staff\"\x7d"]

def otherMemberResponse : Http.Response :=
  answered 200 [] [octets "\x7b\"email\":\"d@e.f\",\"groups\":\"staff\"\x7d"]

theorem tokens_alike : Http.Answer.Alike TokensAlike (.response tokenResponse) (.response otherTokenResponse) := by
  have carries : tokenResponse.Carries (Members.ofTexts [("access_token", "at"), ("token_type", "Bearer")]) :=
    carries_of_texts? (by decide +kernel) (by decide) rfl
  have carriesOther : otherTokenResponse.Carries
      (Members.ofTexts [("access_token", "bt"), ("token_type", "Bearer"), ("id_token", "i")]) :=
    carries_of_texts? (by decide +kernel) (by decide) rfl
  refine .carrying rfl rfl carries carriesOther ⟨.inr ⟨⟨"at", rfl, by decide⟩, "bt", rfl, by decide⟩,
    .inr ⟨.inl rfl, .inr (.inr ⟨"i", rfl⟩)⟩, .inl rfl, fun name other => ?_⟩
  simp only [tokenMembers, List.mem_cons, List.not_mem_nil, or_false, not_or] at other
  simp [Members.ofTexts, Members.get?, List.lookup_cons, beq_false_of_ne other.1, beq_false_of_ne other.2.1]

theorem claims_alike :
    Http.Answer.Alike (ClaimsAlike handler.mapper.groupsClaimName) (.response memberResponse)
      (.response otherMemberResponse) := by
  have carries : memberResponse.Carries (Members.ofTexts [("email", "a@b.c"), ("name", "Al"), ("groups", "staff")]) :=
    carries_of_texts? (by decide +kernel) (by decide) rfl
  have carriesOther : otherMemberResponse.Carries (Members.ofTexts [("email", "d@e.f"), ("groups", "staff")]) :=
    carries_of_texts? (by decide +kernel) (by decide) rfl
  exact .carrying rfl rfl carries carriesOther
    ⟨.inr ⟨⟨"a@b.c", rfl, by decide, by decide⟩, "d@e.f", rfl, by decide, by decide⟩, rfl⟩

def surroundings (ask : Http.Request → Http.Answer) : (effect : LoginEffect Text) → effect.Reply
  | .net (.send _ request) => ask request
  | .net (.note _) => ()
  | .net (.openClient _) => .given
  | .net (.closeClient _) => ()
  | .draw count => Vector.replicate count ⟨0, Nat.succ_pos 61⟩
  | .login email _ _ => .ok email
  | .establish .. => .ok ()
  | .audit .. => .ok ()

def provider (granted got : Http.Response) (request : Http.Request) : Http.Answer :=
  if request.method = "POST" then .response granted else .response got

theorem surroundings_alike {ask asked : Http.Request → Http.Answer}
    (alike : ∀ client another request given, NetExchange.Alike groupsClaimName ⟨.send client request, ask request⟩
      ⟨.send another given, asked given⟩) (effect other : LoginEffect Text) :
    LoginExchange.Alike groupsClaimName ⟨effect, surroundings ask effect⟩ ⟨other, surroundings asked other⟩ := by
  cases effect with
  | net effect =>
    cases other with
    | net other =>
      cases effect with
      | send client request =>
        cases other with
        | send another given => exact alike client another request given
        | note _ | openClient _ | closeClient _ => exact True.intro
      | note _ | openClient _ | closeClient _ => exact True.intro
    | draw _ | login _ _ _ | establish _ _ | audit _ _ => exact True.intro
  | draw _ => exact True.intro
  | login _ _ _ =>
    cases other with
    | login _ _ _ => exact .done True.intro
    | net _ | draw _ | establish _ _ | audit _ _ => exact True.intro
  | establish _ _ =>
    cases other with
    | establish _ _ => exact rfl
    | net _ | draw _ | login _ _ _ | audit _ _ => exact True.intro
  | audit _ _ =>
    cases other with
    | audit _ _ => exact rfl
    | net _ | draw _ | login _ _ _ | establish _ _ => exact True.intro

theorem provider_alike (client another : HttpClient) (request other : Http.Request) :
    NetExchange.Alike handler.mapper.groupsClaimName
      ⟨.send client request, provider tokenResponse memberResponse request⟩
      ⟨.send another other, provider otherTokenResponse otherMemberResponse other⟩ := by
  unfold provider
  refine ⟨fun posted postedOther => ?_, fun got gotOther => ?_⟩
  · rw [if_pos posted, if_pos postedOther]
    exact tokens_alike
  · rw [got, gotOther, if_neg (by decide), if_neg (by decide)]
    exact claims_alike

def callback (secret query : Text) : LoginProgram Text (Except Failure Text) :=
  ((handler.withSecret secret).handle query request none).withClient
    (.overHttp (handler.withSecret secret).config .given)

def here : (effect : LoginEffect Text) → effect.Reply := surroundings (provider tokenResponse memberResponse)

def elsewhere : (effect : LoginEffect Text) → effect.Reply :=
  surroundings (provider otherTokenResponse otherMemberResponse)

def destination : Text := "https://app.example.com?openid=success"

theorem run_callback :
    (run (fun effect (_ : Unit) => (here effect, ())) (callback "secret" "code=abc&x=1") ()).1 = .ok destination :=
  except_eq_ok_of_toOption (by decide +kernel)

end Sample

namespace CallbackHandler

theorem secrets_are_not_told_of_sample :
    ∃ (history others : List (LoginExchange Text)) (given : Except Failure Text),
      Runs (Sample.callback "secret" "code=abc&x=1") history (.ok Sample.destination)
        ∧ Runs (Sample.callback "other" "code=%78&x=1") others given
        ∧ (∀ exchange ∈ history, exchange.2 = Sample.here exchange.1)
        ∧ (∀ exchange ∈ others, exchange.2 = Sample.elsewhere exchange.1)
        ∧ logsOf (loginNotes history) = logsOf (loginNotes others)
        ∧ spansOf (loginNotes history) = spansOf (loginNotes others)
        ∧ .ok Sample.destination = given := by
  obtain ⟨history, runs, here⟩ := exists_runs Sample.here (Sample.callback "secret" "code=abc&x=1")
  obtain ⟨others, runsOther, there⟩ := exists_runs Sample.elsewhere (Sample.callback "other" "code=%78&x=1")
  rw [Sample.run_callback] at runs
  have named : Callback.IsCodeName "code" := ⟨by decide +kernel, by decide⟩
  have apart : Callback.CodesApart "code=abc&x=1" "code=%78&x=1" :=
    .cons (.code named (Callback.isValue_of_isWritten (v := "abc") (by decide) (by decide))
      (Callback.isValue_of_isWritten (v := "%78") (by decide) (by decide))) (.cons (.same "x=1") .nil)
  have latin : IsLatin "secret" ∧ IsLatin "other" := by
    unfold IsLatin
    decide
  have same := secrets_are_not_told latin.1 latin.2 apart runs runsOther
    (answered_of_surroundings (Sample.surroundings_alike Sample.provider_alike) here there)
  exact ⟨history, others, _, runs, runsOther, here, there, same⟩

end CallbackHandler

end OidcLogin
