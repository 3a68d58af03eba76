import OidcLogin.Address.Pinning
import OidcLogin.Proofs.Program.Trace
import OidcLogin.Proofs.Url.Normal
import OidcLogin.Proofs.Validation.Success

namespace OidcLogin

open Program

abbrev TransportExchange := Exchange TransportEffect.Reply

def TransportEffect.isAct : TransportEffect → Bool
  | .note _ => false
  | .resolve _ => true
  | .forward _ => true

namespace Address

structure Registry.Acceptable (r : Registry) (a : Address) : Prop where
  notPrivate : r.isPrivate a = false
  notLoopback : r.isLoopback a = false
  notLinkLocal : r.isLinkLocal a = false
  notReserved : r.isReserved a = false
  notMulticast : r.isMulticast a = false

theorem Registry.acceptable_iff {r : Registry} {a : Address} : r.Acceptable a ↔ r.blocks a = false := by
  unfold blocks
  simp only [Bool.or_eq_false_iff]
  constructor
  · intro acceptable
    exact ⟨⟨⟨⟨acceptable.notPrivate, acceptable.notLoopback⟩, acceptable.notLinkLocal⟩, acceptable.notReserved⟩,
      acceptable.notMulticast⟩
  · intro given
    obtain ⟨⟨⟨⟨notPrivate, notLoopback⟩, notLinkLocal⟩, notReserved⟩, notMulticast⟩ := given
    exact ⟨notPrivate, notLoopback, notLinkLocal, notReserved, notMulticast⟩

end Address

namespace Pinning

variable {registry : Address.Registry} {request : Http.Request} {host text : Text} {texts : List Text} {a : Address} {trace : List TransportExchange}
  {result : Except Failure Http.Outcome} {forwarded : Forwarded}

-- No address, or one that is not acceptable.
def PassedOver (registry : Address.Registry) (text : Text) : Prop := ∀ a, Address.read? text = some a → ¬ registry.Acceptable a

inductive FirstAcceptable (registry : Address.Registry) : List Text → Address → Prop
  | here {text : Text} {rest : List Text} {a : Address} (read : Address.read? text = some a)
      (acceptable : registry.Acceptable a) : FirstAcceptable registry (text :: rest) a
  | later {text : Text} {rest : List Text} {a : Address} (passed : PassedOver registry text)
      (first : FirstAcceptable registry rest a) : FirstAcceptable registry (text :: rest) a

-- The request with an address for its host, the host itself in its header and as the name for TLS.
def pinned (request : Http.Request) (host : Text) (a : Address) : Forwarded where
  request := { request with
    url := request.url.moved a
    headers :=
      if request.headers.has "Host" then request.headers
      else request.headers ++ [(Text.ofString "Host", request.url.location)] }
  serverName := some host

inductive Course (registry : Address.Registry) (request : Http.Request) : List TransportExchange → Except Failure Http.Outcome → Prop
  | nameless {fault : HostNameFault} (undecodable : request.url.hostName = .error fault) :
      Course registry request [] (.error (.fetch (.hostName fault)))
  | blocked {host : Text} {a : Address} (name : request.url.hostName = .ok host)
      (literal : Address.read? host = some a) (unacceptable : ¬ registry.Acceptable a) :
      Course registry request [] (.error (.address (.blocked host a.toText)))
  | direct {host : Text} {a : Address} {outcome : Http.Outcome} (name : request.url.hostName = .ok host)
      (literal : Address.read? host = some a) (acceptable : registry.Acceptable a) :
      Course registry request [⟨.forward ⟨request, none⟩, outcome⟩] (.ok outcome)
  | unresolved {host message : Text} (name : request.url.hostName = .ok host) (named : Address.read? host = none) :
      Course registry request [⟨.resolve host, .failed message⟩] (.error (.address (.unresolved host)))
  | noneAcceptable {host : Text} {texts : List Text} (name : request.url.hostName = .ok host)
      (named : Address.read? host = none) (passed : ∀ text ∈ texts, PassedOver registry text) :
      Course registry request [⟨.resolve host, .addresses texts⟩] (.error (.address (.noneAcceptable host)))
  | unfit {host : Text} {texts : List Text} {a : Address} {fault : RequestUrlFault}
      (name : request.url.hostName = .ok host) (named : Address.read? host = none) (first : FirstAcceptable registry texts a)
      (unfit : ¬ request.url.Fits) :
      Course registry request [⟨.resolve host, .addresses texts⟩] (.error (.fetch (.url fault)))
  | pinned {host : Text} {texts : List Text} {a : Address} {outcome : Http.Outcome}
      (name : request.url.hostName = .ok host) (named : Address.read? host = none) (first : FirstAcceptable registry texts a)
      (fits : request.url.Fits) :
      Course registry request [⟨.resolve host, .addresses texts⟩, ⟨.forward (pinned request host a), outcome⟩] (.ok outcome)

theorem FirstAcceptable.acceptable (first : FirstAcceptable registry texts a) :
    registry.Acceptable a ∧ ∃ text ∈ texts, Address.read? text = some a := by
  induction first with
  | here read acceptable => exact ⟨acceptable, _, List.mem_cons_self, read⟩
  | later _ _ ih =>
    obtain ⟨acceptable, text, member, read⟩ := ih
    exact ⟨acceptable, text, List.mem_cons_of_mem _ member, read⟩

-- What goes over the answers one by one comes to the first acceptable one, or has passed over all.
theorem choose_spec (registry : Address.Registry) (host : Text) (texts : List Text) :
    match (choose registry host texts).2 with
    | some a => FirstAcceptable registry texts a
    | none => ∀ text ∈ texts, PassedOver registry text := by
  induction texts with
  | nil => exact nofun
  | cons text rest ih =>
    have skip (passed : PassedOver registry text) (same : (choose registry host (text :: rest)).2 = (choose registry host rest).2) :
        match (choose registry host (text :: rest)).2 with
        | some a => FirstAcceptable registry (text :: rest) a
        | none => ∀ other ∈ text :: rest, PassedOver registry other := by
      rw [same]
      cases chosen : (choose registry host rest).2 with
      | none =>
        rw [chosen] at ih
        exact List.forall_mem_cons.2 ⟨passed, ih⟩
      | some a =>
        rw [chosen] at ih
        exact .later passed ih
    cases read : Address.read? text with
    | none =>
      refine skip (fun a found => ?_) ?_
      · rw [read] at found
        cases found
      · rw [choose, read]
    | some a =>
      cases blocked : registry.blocks a with
      | true =>
        refine skip (fun b found acceptable => ?_) ?_
        · rw [read] at found
          cases found
          rw [Address.Registry.acceptable_iff, blocked] at acceptable
          cases acceptable
        · rw [choose, read]
          simp only [examine, blocked, if_true]
      | false =>
        have chosen : (choose registry host (text :: rest)).2 = some a := by
          rw [choose, read]
          simp [examine, blocked]
        rw [chosen]
        exact .here read (Address.Registry.acceptable_iff.2 blocked)

theorem leaves_noteAll {notes : List Note} {value : Unit} :
    Leaves TransportEffect.isAct (noteAll notes) trace value ↔ trace = [] := by
  induction notes with
  | nil => simp [noteAll, leaves_done]
  | cons n rest ih => exact (leaves_ignored rfl).trans ih

theorem leaves_noted {notes : List Note} {next : TransportProgram (Except Failure Http.Outcome)} :
    Leaves TransportEffect.isAct (noteAll notes >>= fun _ => next) trace result
      ↔ Leaves TransportEffect.isAct next trace result :=
  leaves_silent_bind fun _ _ => leaves_noteAll

theorem leaves_forward :
    Leaves TransportEffect.isAct (.ask (.forward forwarded) fun outcome => .done (.ok outcome)) trace result
      ↔ ∃ outcome, trace = [⟨.forward forwarded, outcome⟩] ∧ result = .ok outcome := by
  rw [leaves_kept rfl]
  constructor
  · intro given
    obtain ⟨outcome, rest, rfl, after⟩ := given
    obtain ⟨rfl, rfl⟩ := leaves_done.1 after
    exact ⟨outcome, rfl, rfl⟩
  · intro given
    obtain ⟨outcome, same, rfl⟩ := given
    exact ⟨outcome, [], same, .finished _⟩

theorem leaves_sendTo :
    Leaves TransportEffect.isAct (sendTo registry request host a) trace result
      ↔ ¬ registry.Acceptable a ∧ trace = [] ∧ result = .error (.address (.blocked host a.toText))
        ∨ registry.Acceptable a ∧ ∃ outcome, trace = [⟨.forward ⟨request, none⟩, outcome⟩] ∧ result = .ok outcome := by
  unfold sendTo examine
  cases blocked : registry.blocks a with
  | true =>
    have unacceptable : ¬ registry.Acceptable a := by
      rw [Address.Registry.acceptable_iff, blocked]
      exact nofun
    simp only [if_true, leaves_noted, fail, leaves_done, unacceptable, not_false_eq_true, true_and, false_and, or_false]
  | false =>
    have acceptable := Address.Registry.acceptable_iff.2 blocked
    simp only [Bool.false_eq_true, if_false, leaves_noted, leaves_forward, acceptable, not_true_eq_false, true_and,
      false_and, false_or]

def sendToChosen (request : Http.Request) (host : Text) :
    Option Address → TransportProgram (Except Failure Http.Outcome)
  | none => fail (.noneAcceptable host)
  | some a =>
    match pin request host a with
    | .error fault => .done (.error (.fetch (.url fault)))
    | .ok forwarded => .ask (.forward forwarded) fun outcome => .done (.ok outcome)

theorem leaves_sendToNamed :
    Leaves TransportEffect.isAct (sendToNamed registry request host) trace result
      ↔ ∃ found rest, trace = ⟨.resolve host, found⟩ :: rest
        ∧ match found with
          | .failed _ => rest = [] ∧ result = .error (.address (.unresolved host))
          | .addresses texts =>
            Leaves TransportEffect.isAct (sendToChosen request host (choose registry host texts).2) rest result := by
  unfold sendToNamed
  rw [leaves_kept rfl]
  refine exists_congr fun found => exists_congr fun rest => and_congr_right fun _ => ?_
  cases found with
  | failed message => exact leaves_noted.trans leaves_done
  | addresses texts =>
    dsimp only
    rw [leaves_noted]
    unfold sendToChosen
    cases (choose registry host texts).2 with
    | none => exact leaves_noted
    | some a =>
      dsimp only
      cases pin request host a with
      | error fault => exact Iff.rfl
      | ok forwarded => exact leaves_noted

-- An address is pinned exactly if the URL can be put together with it, and then only that is changed.
theorem pin_spec (host : Text) (normal : request.url.IsNormal) (named : request.url.HasName)
    (range : a.InRange) (zoneless : a.Zoneless) :
    match pin request host a with
    | .ok forwarded => request.url.Fits ∧ forwarded = pinned request host a
    | .error _ => ¬ request.url.Fits := by
  unfold pin
  dsimp only
  cases moved : request.url.withHost a.toText with
  | ok url =>
    obtain ⟨fits, rfl⟩ := (RequestUrl.withHost_eq_ok normal named range zoneless).1 moved
    exact ⟨fits, rfl⟩
  | error fault =>
    intro fits
    rw [(RequestUrl.withHost_eq_ok normal named range zoneless).2 ⟨fits, rfl⟩] at moved
    cases moved

theorem course_of_leaves (normal : request.url.IsNormal)
    (zoneless : ∀ host texts, (⟨.resolve host, .addresses texts⟩ : TransportExchange) ∈ trace →
      ∀ text ∈ texts, ∀ a, Address.read? text = some a → a.Zoneless)
    (left : Leaves TransportEffect.isAct (transport registry request) trace result) : Course registry request trace result := by
  unfold transport at left
  cases name : request.url.hostName with
  | error fault =>
    rw [name] at left
    obtain ⟨rfl, rfl⟩ := leaves_done.1 left
    exact .nameless name
  | ok host =>
    rw [name] at left
    dsimp only at left
    cases address : Address.read? host with
    | some a =>
      rw [address] at left
      rcases leaves_sendTo.1 left with ⟨unacceptable, rfl, rfl⟩ | ⟨acceptable, outcome, rfl, rfl⟩
      · exact .blocked name address unacceptable
      · exact .direct name address acceptable
    | none =>
      rw [address] at left
      obtain ⟨found, rest, rfl, after⟩ := leaves_sendToNamed.1 left
      cases found with
      | failed message =>
        obtain ⟨rfl, rfl⟩ := after
        exact .unresolved name address
      | addresses texts =>
        have chosen := choose_spec registry host texts
        dsimp only at after
        cases choice : (choose registry host texts).2 with
        | none =>
          rw [choice] at chosen after
          obtain ⟨rfl, rfl⟩ := leaves_done.1 after
          exact .noneAcceptable name address chosen
        | some a =>
          rw [choice] at chosen after
          obtain ⟨_, text, member, read⟩ := chosen.acceptable
          have spec := pin_spec host normal (normal.hasName name address) (Address.read?_eq_some read).1
            (zoneless host texts List.mem_cons_self text member a read)
          unfold sendToChosen at after
          dsimp only at after
          cases pins : pin request host a with
          | error fault =>
            rw [pins] at spec after
            obtain ⟨rfl, rfl⟩ := leaves_done.1 after
            exact .unfit name address chosen spec
          | ok forwarded =>
            rw [pins] at spec after
            obtain ⟨fits, rfl⟩ := spec
            obtain ⟨outcome, rfl, rfl⟩ := leaves_forward.1 after
            exact .pinned name address chosen fits

theorem Course.acceptable (course : Course registry request trace result)
    (zoneless : ∀ host texts, (⟨.resolve host, .addresses texts⟩ : TransportExchange) ∈ trace →
      ∀ text ∈ texts, ∀ a, Address.read? text = some a → a.Zoneless)
    {outcome : Http.Outcome} (member : (⟨.forward forwarded, outcome⟩ : TransportExchange) ∈ trace) :
    ∃ a, Address.read? forwarded.request.url.host = some a ∧ registry.Acceptable a := by
  cases course with
  | nameless _ => cases member
  | blocked _ _ _ => cases member
  | direct name literal acceptable =>
    cases List.mem_singleton.1 member
    exact ⟨_, (congrArg Address.read? (RequestUrl.host_of_address name literal)).trans literal, acceptable⟩
  | unresolved _ _ => cases List.mem_singleton.1 member
  | noneAcceptable _ _ _ => cases List.mem_singleton.1 member
  | unfit _ _ _ _ => cases List.mem_singleton.1 member
  | pinned _ _ first _ =>
    obtain ⟨acceptable, text, answered, read⟩ := first.acceptable
    rcases List.mem_cons.1 member with same | later
    · cases same
    · cases List.mem_singleton.1 later
      exact ⟨_, Address.read?_toText (Address.read?_eq_some read).1
        (zoneless _ _ List.mem_cons_self text answered _ read), acceptable⟩

theorem Course.kind_of_address {fault : AddressFault} (course : Course registry request trace (.error (.address fault))) :
    fault.kind = .security := by
  cases course with
  | blocked _ _ _ => rfl
  | unresolved _ _ => rfl
  | noneAcceptable _ _ _ => rfl

-- A request takes one of the courses, and wherever it is forwarded to is an acceptable address.
theorem guards (registry : Address.Registry) {history : List TransportExchange} (built : request.url.IsBuilt)
    (zoneless : ∀ host texts, (⟨.resolve host, .addresses texts⟩ : TransportExchange) ∈ history →
      ∀ text ∈ texts, ∀ a, Address.read? text = some a → a.Zoneless)
    (runs : Runs (transport registry request) history result) :
    Course registry request (traceOf TransportEffect.isAct history) result
      ∧ (∀ forwarded outcome, (⟨.forward forwarded, outcome⟩ : TransportExchange) ∈ history →
          ∃ a, Address.read? forwarded.request.url.host = some a ∧ registry.Acceptable a)
      ∧ ∀ fault, result = .error (.address fault) → fault.kind = .security := by
  have kept : ∀ host texts,
      (⟨.resolve host, .addresses texts⟩ : TransportExchange) ∈ traceOf TransportEffect.isAct history →
      ∀ text ∈ texts, ∀ a, Address.read? text = some a → a.Zoneless :=
    fun host texts member => zoneless host texts (mem_traceOf.1 member).1
  have course := course_of_leaves built.isNormal kept runs.leaves
  refine ⟨course, fun forwarded outcome member => ?_, fun fault same => ?_⟩
  · exact course.acceptable kept (mem_traceOf.2 ⟨member, rfl⟩)
  · exact (same ▸ course).kind_of_address

theorem leaves_handle_of_pin (name : request.url.hostName = .ok host) (named : Address.read? host = none)
    (chosen : (choose registry host texts).2 = some a) (pins : pin request host a = .ok forwarded) (outcome : Http.Outcome) :
    Leaves TransportEffect.isAct (transport registry request)
      [⟨.resolve host, .addresses texts⟩, ⟨.forward forwarded, outcome⟩] (.ok outcome) := by
  unfold transport
  rw [name]
  dsimp only
  rw [named]
  refine leaves_sendToNamed.2 ⟨_, _, rfl, ?_⟩
  dsimp only
  rw [chosen, sendToChosen, pins]
  exact leaves_forward.2 ⟨outcome, rfl, rfl⟩

end Pinning

namespace Sample

def userInfoRequest : Http.Request :=
  ⟨"GET", ⟨"https", [], "idp.example.com", none, "/userinfo", none, none⟩, [], []⟩

def capitalRequest : Http.Request :=
  ⟨"GET", ⟨"https", [], "idp.example.com", some 443, "/x", none, none⟩, [], []⟩

def mixedAnswers : List Text := ["no address", "10.0.0.5", "93.184.216.34", "8.8.8.8"]

-- 93.184.216.34
def publicAddress : Address := .v4 0x5DB8D822

def pinnedUserInfo : Forwarded := Pinning.pinned userInfoRequest "idp.example.com" publicAddress

def pinnedCapital : Forwarded := Pinning.pinned capitalRequest "idp.example.com" publicAddress

end Sample

namespace Pinning

theorem guards_mixed_answers :
    ∃ history, Sample.userInfoRequest.url.IsBuilt
      ∧ (∀ host texts, (⟨.resolve host, .addresses texts⟩ : TransportExchange) ∈ history →
          ∀ text ∈ texts, ∀ a, Address.read? text = some a → a.Zoneless)
      ∧ Runs (handle Sample.userInfoRequest) history (.ok (.response ⟨200, [], []⟩))
      ∧ traceOf TransportEffect.isAct history
          = [⟨.resolve "idp.example.com", .addresses Sample.mixedAnswers⟩,
             ⟨.forward Sample.pinnedUserInfo, .response ⟨200, [], []⟩⟩]
      ∧ Course .standard Sample.userInfoRequest (traceOf TransportEffect.isAct history) (.ok (.response ⟨200, [], []⟩))
      ∧ ∃ a, Address.read? Sample.pinnedUserInfo.request.url.host = some a ∧ Address.Registry.standard.Acceptable a := by
  have built : Sample.userInfoRequest.url.IsBuilt :=
    .read (t := "https://idp.example.com/userinfo") (except_eq_ok_of_toOption (by decide +kernel))
  have chosen : (choose .standard "idp.example.com" Sample.mixedAnswers).2 = some Sample.publicAddress := by decide +kernel
  have pins : pin Sample.userInfoRequest "idp.example.com" Sample.publicAddress = .ok Sample.pinnedUserInfo :=
    except_eq_ok_of_toOption (by decide +kernel)
  obtain ⟨history, runs, trace⟩ := leaves_handle_of_pin rfl (by decide +kernel) chosen pins (.response ⟨200, [], []⟩)
  have zoneless : ∀ host texts, (⟨.resolve host, .addresses texts⟩ : TransportExchange) ∈ history →
      ∀ text ∈ texts, ∀ a, Address.read? text = some a → a.Zoneless := by
    intro host texts member
    have kept : (⟨.resolve host, .addresses texts⟩ : TransportExchange) ∈ traceOf TransportEffect.isAct history :=
      mem_traceOf.2 ⟨member, rfl⟩
    rw [trace] at kept
    rcases List.mem_cons.1 kept with same | later
    · cases same
      have free : ∀ text ∈ Sample.mixedAnswers, CodePoint.ofChar '%' ∉ text := by decide
      exact fun text answered a => Address.zoneless_of_read? (free text answered)
    · cases List.mem_singleton.1 later
  have sent : (⟨.forward Sample.pinnedUserInfo, .response ⟨200, [], []⟩⟩ : TransportExchange)
      ∈ traceOf TransportEffect.isAct history := by
    rw [trace]
    exact List.mem_cons_of_mem _ List.mem_cons_self
  obtain ⟨course, acceptable, _⟩ := guards .standard built zoneless runs
  exact ⟨history, built, zoneless, runs, trace, course, acceptable _ _ (mem_traceOf.1 sent).1⟩

-- A port that was read with a scheme in capitals is lost when the address is put in.
theorem port_dropped_of_capital_scheme :
    RequestUrl.read "HTTPS://idp.example.com:443/x" = .ok Sample.capitalRequest.url
      ∧ ∃ history, Runs (handle Sample.capitalRequest) history (.ok (.response ⟨200, [], []⟩))
        ∧ traceOf TransportEffect.isAct history
            = [⟨.resolve "idp.example.com", .addresses ["93.184.216.34"]⟩,
               ⟨.forward Sample.pinnedCapital, .response ⟨200, [], []⟩⟩]
        ∧ Sample.pinnedCapital.request.url
            ≠ { Sample.capitalRequest.url with host := Sample.pinnedCapital.request.url.host } := by
  have chosen : (choose .standard "idp.example.com" ["93.184.216.34"]).2 = some Sample.publicAddress := by decide +kernel
  have pins : pin Sample.capitalRequest "idp.example.com" Sample.publicAddress = .ok Sample.pinnedCapital :=
    except_eq_ok_of_toOption (by decide +kernel)
  obtain ⟨history, runs, trace⟩ := leaves_handle_of_pin rfl (by decide +kernel) chosen pins (.response ⟨200, [], []⟩)
  exact ⟨except_eq_ok_of_toOption (by decide +kernel), history, runs, trace, by decide +kernel⟩

end Pinning

end OidcLogin
