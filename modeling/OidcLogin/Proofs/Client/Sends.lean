import OidcLogin.Manager.Effect
import OidcLogin.Proofs.Program.Asks

namespace OidcLogin

open Program

variable {P : Http.Request → Prop} {Q : NetEffect → Prop} {User : Type}

-- Such requests are sent and no others; what is no request does not count.
def NetEffect.Sends (P : Http.Request → Prop) : NetEffect → Prop
  | .send _ request => P request
  | _ => True

def LoginEffect.Sends (P : Http.Request → Prop) : LoginEffect User → Prop
  | .net effect => effect.Sends P
  | _ => True

def LoginEffect.Only (Q : NetEffect → Prop) : LoginEffect User → Prop
  | .net effect => Q effect
  | _ => True

namespace NetProgram

theorem asks_noteAll {notes : List Note} (each : ∀ n ∈ notes, Q (.note n)) :
    Asks Q (noteAll notes) := by
  induction notes with
  | nil => exact .done ()
  | cons n rest ih =>
    obtain ⟨first, others⟩ := List.forall_mem_cons.1 each
    exact .ask first fun _ => ih others

theorem asks_fetch {client : HttpClient} {method url : Text} {headers : Http.Headers} {content : Text}
    (holds : ∀ request, Http.prepare method url headers content = .ok request → Q (.send client request)) :
    Asks Q (fetch client method url headers content) := by
  unfold fetch
  cases made : Http.prepare method url headers content with
  | error fault => exact .done _
  | ok request => exact .ask (holds request made) fun outcome => .done trivial

theorem asks_settled {α β : Type} {program : NetProgram α} {settle : α → List Note × β}
    (notes : ∀ value, ∀ n ∈ (settle value).1, Q (.note n)) (asks : Asks Q program) :
    Asks Q (program >>= fun value => noteAll (settle value).1 >>= fun _ => pure (settle value).2) :=
  asks_bind asks fun value => asks_bind (asks_noteAll (notes value)) fun _ => .done trivial

theorem asks_lift {α : Type} {program : NetProgram α} (asks : Asks Q program) :
    Asks (LoginEffect.Only Q : LoginEffect User → Prop) program.lift :=
  asks_interpret asks fun _ asked => .ask asked fun _ => .done trivial

end NetProgram

theorem TokenExchange.only_exchange {config : ProviderConfig} {client : HttpClient} {code redirectUri : Option Text}
    (notes : ∀ fetched, ∀ n ∈ (ofFetch config.tokenEndpoint fetched).1, Q (.note n))
    (holds : ∀ body authorization request, prepare config code redirectUri = .ok (body, authorization) →
      Http.prepare "POST" config.tokenEndpoint (formHeaders authorization) body = .ok request →
        Q (.send client request)) :
    Asks Q (exchange config client code redirectUri) := by
  unfold exchange
  cases form : prepare config code redirectUri with
  | error failure => exact .done _
  | ok written =>
    exact NetProgram.asks_settled notes (NetProgram.asks_fetch fun request => holds _ _ request form)

theorem UserInfo.only_fetch {config : ProviderConfig} {client : HttpClient} {accessToken : Text}
    (notes : ∀ fetched, ∀ n ∈ (ofFetch config.userinfoEndpoint fetched).1, Q (.note n))
    (holds : ∀ request, Http.prepare "GET" config.userinfoEndpoint (headers accessToken) [] = .ok request →
      Q (.send client request)) :
    Asks Q (fetch config client accessToken) :=
  NetProgram.asks_settled notes (NetProgram.asks_fetch holds)

-- Besides what the client asks, a callback asks nothing of the network but to take notes.
theorem CallbackProgram.only_withClient {α : Type} {program : CallbackProgram User α} {client : OidcClient}
    (notes : ∀ n, Q (.note n)) (exchanges : ∀ code redirectUri, Asks Q (client.exchangeCode code redirectUri))
    (fetches : ∀ accessToken, Asks Q (client.fetchUserInfo accessToken)) :
    Asks (LoginEffect.Only Q) (program.withClient client) := by
  refine asks_interpret (asks_anything program) fun effect _ => ?_
  cases effect with
  | note n => exact .ask (notes n) fun _ => .done trivial
  | exchangeCode code redirectUri => exact NetProgram.asks_lift (exchanges code redirectUri)
  | fetchUserInfo accessToken => exact NetProgram.asks_lift (fetches accessToken)
  | login email name administrator => exact .ask trivial fun _ => .done trivial
  | establish request user => exact .ask trivial fun _ => .done trivial
  | audit request user => exact .ask trivial fun _ => .done trivial

theorem TokenExchange.asks_exchange {config : ProviderConfig} {client : HttpClient}
    {code redirectUri : Option Text}
    (holds : ∀ body authorization request, prepare config code redirectUri = .ok (body, authorization) →
      Http.prepare "POST" config.tokenEndpoint (formHeaders authorization) body = .ok request → P request) :
    Asks (NetEffect.Sends P) (exchange config client code redirectUri) :=
  only_exchange (fun _ _ _ => trivial) holds

theorem UserInfo.asks_fetch {config : ProviderConfig} {client : HttpClient} {accessToken : Text}
    (holds : ∀ request,
      Http.prepare "GET" config.userinfoEndpoint (headers accessToken) [] = .ok request → P request) :
    Asks (NetEffect.Sends P) (fetch config client accessToken) :=
  only_fetch (fun _ _ _ => trivial) holds

theorem CallbackProgram.asks_withClient {α : Type} {program : CallbackProgram User α} {client : OidcClient}
    (exchanges : ∀ code redirectUri, Asks (NetEffect.Sends P) (client.exchangeCode code redirectUri))
    (fetches : ∀ accessToken, Asks (NetEffect.Sends P) (client.fetchUserInfo accessToken)) :
    Asks (LoginEffect.Sends P) (program.withClient client) := by
  apply (only_withClient (fun _ => trivial) exchanges fetches).mono
  intro effect only
  cases effect with
  | net effect => exact only
  | draw _ | login _ _ _ | establish _ _ | audit _ _ => trivial

namespace Sample

def silence : (effect : LoginEffect Text) → effect.Reply
  | .net (.note _) | .net (.closeClient _) => ()
  | .net (.send ..) => .raised ⟨.http, []⟩
  | .net (.openClient _) => .given
  | .draw count => Vector.replicate count ⟨0, by decide⟩
  | .login .. | .establish .. | .audit .. => .error .groupsDenied

end Sample

end OidcLogin
