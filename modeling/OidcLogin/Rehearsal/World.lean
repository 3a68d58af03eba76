import OidcLogin.Manager.Basic

namespace OidcLogin.Rehearsal

structure User where
  email : Text
  name : Text
  administrator : Bool
deriving DecidableEq

inductive Call
  | login (email name : Text) (administrator : Bool)
  | session (request : CallbackRequest) (user : User)
  | audit (request : CallbackRequest) (user : User)

structure HostScript where
  login : Option Raised
  session : Option Raised
  audit : Option Raised

def HostScript.none : HostScript := ⟨.none, .none, .none⟩

structure OpenedClient where
  policy : ClientPolicy
  closed : Bool

-- So many lists and objects may stand in one another in a document that is read here.
def levels : Nat := 975

structure World where
  responses : List Http.Outcome
  clients : List OpenedClient
  requests : List Http.Request
  notes : List Note
  calls : List Call
  users : List User
  host : HostScript
  draws : Nat

namespace World

def start (responses : List Http.Outcome) : World := ⟨responses, [], [], [], [], [], .none, 0⟩

def next (w : World) (responses : List Http.Outcome) (host : HostScript) : World :=
  { w with responses := responses, requests := [], notes := [], calls := [], host := host }

def isClosed (w : World) : HttpClient → Bool
  | .given => false
  | .opened number => (w.clients[number]?.map (·.closed)).getD true

def close (w : World) : HttpClient → World
  | .given => w
  | .opened number =>
    { w with clients := w.clients.modify number fun client => { client with closed := true } }

def closedClient : Raised :=
  ⟨.runtime, "Cannot send a request, as the client has been closed."⟩

def noResponse : Raised := ⟨.network "ConnectError", "no scripted response left"⟩

def send (w : World) (client : HttpClient) (request : Http.Request) : Http.Answer × World :=
  if w.isClosed client then (.raised closedClient, w)
  else
    match w.responses with
    | [] => (.raised noResponse, { w with requests := w.requests ++ [request] })
    | response :: rest =>
      (response.readAt levels, { w with requests := w.requests ++ [request], responses := rest })

-- The digits of a number to base 62, the least one first, after the count of draws before it.
def drawn (count seed : Nat) : Vector (Fin 62) count :=
  Vector.ofFn fun i => Fin.ofNat 62 (seed / Nat.pow 62 i.val + i.val * i.val + 7)

def states (w : World) : List Text :=
  (List.range w.draws).map fun seed =>
    Authorization.stateOf (drawn Authorization.stateLength seed).toList

def upsert (email name : Text) (administrator : Bool) : List User → User × List User
  | [] => (⟨email, name, administrator⟩, [⟨email, name, administrator⟩])
  | user :: rest =>
    if user.email = email then
      let user := { user with administrator := administrator }
      (user, user :: rest)
    else
      let (found, rest) := upsert email name administrator rest
      (found, user :: rest)

def outcome (raised : Option Raised) : Except Failure Unit :=
  match raised with
  | none => .ok ()
  | some r => .error (.raised r)

def answerNet : (effect : NetEffect) → World → effect.Reply × World
  | .note n, w => ((), { w with notes := w.notes ++ [n] })
  | .send client request, w => w.send client request
  | .openClient policy, w =>
    (.opened w.clients.length, { w with clients := w.clients ++ [⟨policy, false⟩] })
  | .closeClient client, w => ((), w.close client)

def answer : (effect : LoginEffect User) → World → effect.Reply × World
  | .net effect, w => answerNet effect w
  | .draw count, w => (drawn count w.draws, { w with draws := w.draws + 1 })
  | .login email name administrator, w =>
    let w := { w with calls := w.calls ++ [Call.login email name administrator] }
    match w.host.login with
    | some r => (.error (.raised r), w)
    | none =>
      let (user, users) := upsert email name administrator w.users
      (.ok user, { w with users := users })
  | .establish request user, w =>
    (outcome w.host.session, { w with calls := w.calls ++ [Call.session request user] })
  | .audit request user, w =>
    (outcome w.host.audit, { w with calls := w.calls ++ [Call.audit request user] })

def runNet {α : Type} (program : NetProgram α) (w : World) : α × World :=
  program.run answerNet w

def run {α : Type} (program : LoginProgram User α) (w : World) : α × World := program.run answer w

end World

-- A client of the protocol that asks nobody: its tokens are made of the code and the redirect
-- address, and its claims are fixed but for the name.
def fixedClient (claims : Members) : OidcClient where
  authorizationUrl scopes state redirectUri :=
    .ok ("fixed:" ++ Text.join " " scopes ++ "|" ++ state ++ "|" ++ redirectUri)
  exchangeCode code redirectUri :=
    .done (.ok ⟨code ++ "@" ++ redirectUri, "Bearer", none, none, none, none⟩)
  fetchUserInfo accessToken := .done (.ok (claims.put "name" (.text accessToken)))

end OidcLogin.Rehearsal

def OidcLogin.Json.ofText (t : Text) : Except DocumentFault Json := ofDecoded Rehearsal.levels t
