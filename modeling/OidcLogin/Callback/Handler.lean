import OidcLogin.Callback.Effect
import OidcLogin.Callback.Query
import OidcLogin.Identity.Mapper
import OidcLogin.Provider.Config

namespace OidcLogin

inductive CallbackState
  | receivedCallback
  | parsedResponse
  | codeExchanged
  | userInfoFetched
  | authorizationDecided
  | done
  | failed
deriving DecidableEq

namespace CallbackState

def all : List CallbackState :=
  [.receivedCallback, .parsedResponse, .codeExchanged, .userInfoFetched, .authorizationDecided,
   .done, .failed]

def text : CallbackState → Text
  | .receivedCallback => "received_callback"
  | .parsedResponse => "parsed_response"
  | .codeExchanged => "code_exchanged"
  | .userInfoFetched => "user_info_fetched"
  | .authorizationDecided => "authorization_decided"
  | .done => "done"
  | .failed => "failed"

end CallbackState

structure CallbackHandler where
  config : ProviderConfig
  mapper : IdentityMapper
deriving DecidableEq

namespace CallbackHandler

def ofConfig (config : ProviderConfig) : CallbackHandler :=
  ⟨config, ⟨config.adminGroup, config.allowGroup, config.groupsClaimName⟩⟩

def redirectParameter : Text := "redirect_uri"

def redirectUri (h : CallbackHandler) (request : CallbackRequest) : Text :=
  match (request.queryParams.lookup redirectParameter).join with
  | none | some [] => h.config.callbackUrl
  | some uri => uri

def spanName : Text := "openid.handle_callback"

def stateAttribute : Text := "openid.state"

def reached (state : CallbackState) : List Note :=
  [.debug ("OpenID callback state: " ++ state.text),
   .span (.attribute stateAttribute (.text state.text))]

-- The notes of a failure after a state.  A failure of the login is warned of and is the span's own;
-- then it leaves the span like any other.
def failed (state : CallbackState) (failure : Failure) : List Note :=
  let told : List Note :=
    if failure.isLogin then
      [.warning ("OpenID login failed after " ++ state.text ++ ": " ++ failure.kind.name ++ ": "
         ++ failure.message),
       .span (.failure failure.kind),
       .span (.attribute stateAttribute (.text CallbackState.failed.text)),
       .span (.status .error)]
    else []
  told ++ (Span.leave failure.kind).map Note.span

def administratorNote (administrator : Bool) : Note :=
  .span (.attribute "openid.administrator" (.bool administrator))

variable {User : Type}

def handOver (request : CallbackRequest) (identity : UserIdentity) :
    CallbackProgram User (CallbackState × Except Failure Unit) :=
  let state := CallbackState.authorizationDecided
  .ask (.login identity.email identity.displayName identity.isAdministrator) fun
    | .error failure => .done (state, .error failure)
    | .ok user =>
      .ask (.establish request user) fun
        | .error failure => .done (state, .error failure)
        | .ok () =>
          .ask (.audit request user) fun
            | .error failure => .done (state, .error failure)
            | .ok () => do
              CallbackProgram.noteAll (reached .done ++ [.span (.status .ok)])
              return (.done, .ok ())

def steps (h : CallbackHandler) (query : Text) (request : CallbackRequest)
    (expected : Option Text) : CallbackProgram User (CallbackState × Except Failure Unit) :=
  match Callback.parse query expected with
  | .error failure => .done (.receivedCallback, .error failure)
  | .ok code => do
    CallbackProgram.noteAll (reached .parsedResponse)
    .ask (.exchangeCode code (h.redirectUri request)) fun
      | .error failure => .done (.parsedResponse, .error failure)
      | .ok token => do
        CallbackProgram.noteAll (reached .codeExchanged)
        .ask (.fetchUserInfo token.accessToken) fun
          | .error failure => .done (.codeExchanged, .error failure)
          | .ok claims => do
            CallbackProgram.noteAll (reached .userInfoFetched)
            match h.mapper.mapClaims claims with
            | (notes, .error failure) =>
              CallbackProgram.noteAll notes
              return (.userInfoFetched, .error failure)
            | (notes, .ok identity) =>
              CallbackProgram.noteAll
                (notes ++ administratorNote identity.isAdministrator
                  :: reached .authorizationDecided)
              handOver request identity

-- What is added to the base URL after a login, in place of its own query and fragment.
def successReference : Text := "?openid=success"

def successUrl (h : CallbackHandler) : Except Failure Text :=
  match Url.resolve h.config.baseUrl successReference with
  | .ok url => .ok url
  | .error fault => .error (.unsplittable fault)

def handle (h : CallbackHandler) (query : Text) (request : CallbackRequest)
    (expected : Option Text) : CallbackProgram User (Except Failure Text) := do
  CallbackProgram.noteAll [.span (.start spanName)]
  match ← h.steps query request expected with
  | (state, .error failure) =>
    CallbackProgram.noteAll (failed state failure)
    return .error failure
  | (_, .ok ()) =>
    CallbackProgram.noteAll [.span .finish, .info "OpenID login succeeded"]
    return h.successUrl

end CallbackHandler

end OidcLogin
