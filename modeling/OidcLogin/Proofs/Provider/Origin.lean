import OidcLogin.Proofs.Callback.Session
import OidcLogin.Proofs.Provider.Course
import OidcLogin.Proofs.Text.Trimming

namespace OidcLogin

open Program

-- Both addresses can be split, and have one scheme and one authority.
def Url.SamePlace (t other : Text) : Prop :=
  ∃ parts others, Url.split t = .ok parts ∧ Url.split other = .ok others
    ∧ others.scheme = parts.scheme ∧ others.authority = parts.authority

section Accepts

variable {allowHttp : Bool} {url other : Text}

theorem Accepts.samePlace (accepts : Accepts allowHttp url) (scheme : Url.schemeOf other = Url.schemeOf url)
    (authority : Url.authorityOf other = Url.authorityOf url) : Url.SamePlace url other := by
  obtain ⟨parts, split, accepted⟩ := accepts
  obtain ⟨others, found, same⟩ :=
    Url.exists_split_of_same_place split (accepted.scheme.imp_right And.left) scheme authority
  exact ⟨parts, others, split, found, same⟩

theorem Accepts.samePlace_callback (accepts : Accepts allowHttp url) : Url.SamePlace url (url ++ callbackPath) := by
  have kept : callbackPath.filter (!Url.isRemoved ·) = callbackPath := by decide
  have ends : callbackPath.takeWhile (!Url.endsAuthority ·) = [] := by decide
  obtain ⟨scheme, authority⟩ := Url.place_append accepts.schemeOf_ne_nil accepts.authorityOf_ne_nil kept ends
  exact accepts.samePlace scheme authority

theorem Accepts.samePlace_metadata (accepts : Accepts allowHttp url) : Url.SamePlace url (Discovery.url url) := by
  obtain ⟨scheme, authority⟩ := Discovery.place_url accepts.schemeOf_ne_nil accepts.authorityOf_ne_nil
  exact accepts.samePlace scheme authority

theorem Accepts.split_successUrl (accepts : Accepts allowHttp url) :
    ∃ base leads, Url.split url = .ok base
      ∧ Url.split leads = .ok { base with query := "openid=success", fragment := [] }
      ∧ (∀ c ∈ leads, Url.isRemoved c = false)
      ∧ ∀ h : CallbackHandler, h.config.baseUrl = url → h.successUrl = .ok leads := by
  obtain ⟨base, split, isSplit⟩ := accepts.isSplit
  have noMark : CodePoint.ofChar '#' ∉ Text.ofString "openid=success" := by decide
  have kept : ∀ c, c ∈ Text.ofString "openid=success" ∨ c ∈ ([] : Text) → Url.isRemoved c = false := by
    intro c member
    have all : ∀ c ∈ Text.ofString "openid=success", Url.isRemoved c = false := by decide
    exact all c (member.resolve_right List.not_mem_nil)
  have rejoined := isSplit.withQuery noMark kept
  refine ⟨base, _, split, rejoined.split_unsplit, rejoined.kept_unsplit, fun h same => ?_⟩
  subst same
  obtain ⟨parts, again, made⟩ := accepts.successUrl
  cases split.symm.trans again
  exact made

end Accepts

theorem Discovery.url_append (bare : Text) (n : Nat) :
    url (bare ++ List.replicate n (CodePoint.ofChar '/')) = url bare := by
  unfold url withoutSlashes
  rw [Text.trimEnd_append_of_all]
  intro c member
  exact decide_eq_true (List.eq_of_mem_replicate member)

theorem Resolution.callbackUrl_of_runs {s : Settings} {given : Option HttpClient} {before : List NetExchange}
    {config : ProviderConfig} (resolving : Runs (Resolution.resolve s given) before (.ok config)) :
    Accepts true config.baseUrl ∧ config.callbackUrl = config.baseUrl ++ callbackPath := by
  have left : Leaves NetEffect.isAct (resolve s given) (traceOf NetEffect.isAct before) (.ok config) := resolving.leaves
  have course := leaves_resolve.1 left
  clear left
  generalize traceOf NetEffect.isAct before = trace at course
  generalize same : Except.ok config = result at course
  cases course with
  | incomplete checked => cases same
  | complete checked source =>
    obtain ⟨⟨issuer, endpoints⟩, _, made⟩ := except_bind_eq_ok.1 same.symm
    obtain ⟨_, rfl⟩ := configOf_eq_ok.1 made
    exact ⟨(checkGround_eq_ok.1 checked).baseUrl, rfl⟩

-- Where a login begins and ends, told by the application's own address, and where an issuer is asked.
theorem addresses_stay_in_place :
    (∀ (s : Settings) (given : Option HttpClient) (before : List NetExchange) (config : ProviderConfig),
      Runs (Resolution.resolve s given) before (.ok config) →
        (∃ base leads,
          Url.split config.baseUrl = .ok base
            ∧ Url.split leads = .ok { base with query := "openid=success", fragment := [] }
            ∧ (∀ c ∈ leads, c ≠ CodePoint.ofChar '\t' ∧ c ≠ CodePoint.ofChar '\r' ∧ c ≠ CodePoint.ofChar '\n')
            ∧ ∀ h : CallbackHandler, h.config = config →
              h.successUrl = .ok leads
                ∧ ∀ (User : Type) query request expected history url,
                  Runs (h.handle query request expected : CallbackProgram User _) history (.ok url) → url = leads)
          ∧ config.callbackUrl = config.baseUrl ++ Text.ofString "/api/session/openid/callback"
          ∧ Url.SamePlace config.baseUrl config.callbackUrl)
      ∧ ∀ (name issuer accepted : Text) (allowHttp : Bool),
        checkEndpoint name (some issuer) allowHttp = .ok accepted →
          Url.SamePlace issuer (Discovery.url issuer)
            ∧ ∀ bare m n, issuer = bare ++ List.replicate m (CodePoint.ofChar '/') →
              Discovery.url (bare ++ List.replicate n (CodePoint.ofChar '/')) = Discovery.url issuer := by
  refine ⟨fun s given before config resolving => ?_, fun name issuer accepted allowHttp checked => ?_⟩
  · obtain ⟨accepts, callback⟩ := Resolution.callbackUrl_of_runs resolving
    obtain ⟨base, leads, split, led, kept, made⟩ := accepts.split_successUrl
    refine ⟨⟨base, leads, split, led, ?_, ?_⟩, callback, callback ▸ accepts.samePlace_callback⟩
    · intro c member
      simpa [Url.isRemoved, and_assoc] using kept c member
    · intro h same
      have succeeds := made h (congrArg ProviderConfig.baseUrl same)
      refine ⟨succeeds, fun User query request expected history url runs => ?_⟩
      obtain ⟨outcome, _, result⟩ := CallbackHandler.leaves_handle.1 runs.leaves
      cases outcome with
      | error failure => cases result
      | ok done => exact Except.ok.inj (result.trans succeeds)
  · cases (checkEndpoint_eq_ok.1 checked).1
    refine ⟨(checkEndpoint_eq_ok.1 checked).2.samePlace_metadata, fun bare m n same => ?_⟩
    rw [same, Discovery.url_append, Discovery.url_append]

theorem addresses_stay_in_place_of_rare_address :
    let webUrl : Text := "https://app.example.com:8443/a;b/c;v=1?x=1#top"
    let issuer : Text := "https://idp.example.com/realm//"
    ∃ (before : List NetExchange) (config : ProviderConfig) (base : Url.Parts) (leads : Text),
      Runs (Resolution.resolve { Sample.settings with webUrl := webUrl } none) before (.ok config)
        ∧ Url.split webUrl = .ok base
        ∧ (CallbackHandler.ofConfig config).successUrl = .ok leads
        ∧ Url.split leads = .ok { base with query := "openid=success", fragment := [] }
        ∧ Url.SamePlace webUrl config.callbackUrl
        ∧ Url.SamePlace issuer (Discovery.url issuer) := by
  intro webUrl issuer
  have accepts : Accepts true webUrl := by
    unfold webUrl
    rw [Text.ofString_ofList]
    decide +kernel
  have trusted : checkEndpoint "issuer_url" (some issuer) false = .ok issuer := by
    refine checkEndpoint_eq_ok.2 ⟨rfl, ?_⟩
    unfold issuer
    rw [Text.ofString_ofList]
    decide +kernel
  let settings : Settings := { Sample.settings with webUrl := webUrl }
  have ground : Resolution.checkGround settings = .ok { Sample.ground with baseUrl := webUrl } :=
    Resolution.checkGround_eq_ok.2 ⟨rfl, by decide, rfl, by decide, rfl, accepts⟩
  have endpoints : Resolution.explicitEndpoints settings = .ok Sample.endpoints :=
    Resolution.explicitEndpoints_eq_ok.2 ⟨⟨rfl, rfl, rfl⟩, Sample.accepts_addresses.2⟩
  have explicit := Resolution.explicitConfig_eq_ok.2
    ⟨_, _, ground, endpoints, Resolution.configOf_eq_ok.2 ⟨by decide, rfl⟩⟩
  obtain ⟨before, resolving, _⟩ := (Resolution.leaves_resolve_of_explicit rfl).2 ⟨rfl, explicit.symm⟩
  obtain ⟨addresses, issuers⟩ := addresses_stay_in_place
  obtain ⟨⟨base, leads, split, led, _, made⟩, _, same⟩ := addresses settings none before _ resolving
  exact ⟨before, _, base, leads, resolving, split, (made _ rfl).1, led, same,
    (issuers _ _ _ _ trusted).1⟩

end OidcLogin
