import OidcLogin.Proofs.Text.Trimming
import OidcLogin.Proofs.Validation.Success
import OidcLogin.Settings.Basic

namespace OidcLogin

namespace Settings

variable {s : Settings} {members : Members}

def unslashed (t : Text) : Text := t.trimEnd (· = CodePoint.ofChar '/')

theorem getLast?_unslashed (t : Text) : (unslashed t).getLast? ≠ some (CodePoint.ofChar '/') := by
  intro last
  have trimmed := Text.getLast?_trimEnd (p := (· = CodePoint.ofChar '/')) last
  simp at trimmed

theorem chosenWebUrl_eq_ok {given? address : Option Text} {port : Int} {t : Text} :
    chosenWebUrl given? address port = .ok t
      ↔ given?.getD (derivedWebUrl address port) = t ∧ (given? = none → (Json.int port).isWritable = true) := by
  cases given? with
  | some given => simp [chosenWebUrl]
  | none =>
    unfold chosenWebUrl
    cases writable : (Json.int port).isWritable with
    | true => simp
    | false => simp [Checked.refuse]

-- Every field as its member gives it.  `given?` is what the address of the web application is made of.
structure Reads (members : Members) (given? : Option Text) (s : Settings) : Prop where
  force : members.withDefault "force" false Reader.bool = .ok s.force
  clientId : members.withDefault "client_id" none (.optional Reader.text) = .ok s.clientId
  clientSecret : members.withDefault "client_secret" none (.optional Reader.text) = .ok s.clientSecret
  given : members.withDefault "web_url" none trimmedText = .ok given?
  webUrl : s.webUrl = unslashed (given?.getD (derivedWebUrl s.webAddress s.webPort))
  writable : given? = none → (Json.int s.webPort).isWritable = true
  webAddress : members.withDefault "web_address" none (.optional Reader.text) = .ok s.webAddress
  webPort : members.withDefault "web_port" defaultPort Reader.int = .ok s.webPort
  issuerUrl : members.withDefault "issuer_url" none trimmedText = .ok s.issuerUrl
  authUrl : members.withDefault "auth_url" none trimmedText = .ok s.authUrl
  tokenUrl : members.withDefault "token_url" none trimmedText = .ok s.tokenUrl
  userinfoUrl : members.withDefault "userinfo_url" none trimmedText = .ok s.userinfoUrl
  adminGroup : members.withDefault "admin_group" none trimmedText = .ok s.adminGroup
  allowGroup : members.withDefault "allow_group" none trimmedText = .ok s.allowGroup
  groupsClaimName : members.withDefault "groups_claim_name" (Text.ofString "groups") claimName = .ok s.groupsClaimName
  httpTimeout : members.withDefault "http_timeout" defaultTimeout timeout = .ok s.httpTimeout
  unsafeLocalDev : members.withDefault "unsafe_local_dev" false Reader.bool = .ok s.unsafeLocalDev
  restrictPrivateNetworks :
    members.withDefault "restrict_private_networks" false Reader.bool = .ok s.restrictPrivateNetworks
  known : members.onlyNames fieldNames = .ok ()

theorem read_eq_ok : Settings.read members = .ok s ↔ ∃ given?, Reads members given? s := by
  constructor
  · intro read
    unfold Settings.read at read
    obtain ⟨_, gathered, settled⟩ := Checked.andThen_eq_ok.1 read
    obtain ⟨_, _, throughRestrict, known, rfl⟩ := Checked.seq_eq_ok.1 gathered
    obtain ⟨_, _, throughUnsafeLocalDev, restrict, rfl⟩ := Checked.seq_eq_ok.1 throughRestrict
    obtain ⟨_, _, throughHttpTimeout, unsafeLocalDev, rfl⟩ := Checked.seq_eq_ok.1 throughUnsafeLocalDev
    obtain ⟨_, _, throughGroupsClaimName, httpTimeout, rfl⟩ := Checked.seq_eq_ok.1 throughHttpTimeout
    obtain ⟨_, _, throughAllowGroup, groupsClaimName, rfl⟩ := Checked.seq_eq_ok.1 throughGroupsClaimName
    obtain ⟨_, _, throughAdminGroup, allowGroup, rfl⟩ := Checked.seq_eq_ok.1 throughAllowGroup
    obtain ⟨_, _, throughUserinfoUrl, adminGroup, rfl⟩ := Checked.seq_eq_ok.1 throughAdminGroup
    obtain ⟨_, _, throughTokenUrl, userinfoUrl, rfl⟩ := Checked.seq_eq_ok.1 throughUserinfoUrl
    obtain ⟨_, _, throughAuthUrl, tokenUrl, rfl⟩ := Checked.seq_eq_ok.1 throughTokenUrl
    obtain ⟨_, _, throughIssuerUrl, authUrl, rfl⟩ := Checked.seq_eq_ok.1 throughAuthUrl
    obtain ⟨_, _, throughWebPort, issuerUrl, rfl⟩ := Checked.seq_eq_ok.1 throughIssuerUrl
    obtain ⟨_, _, throughWebAddress, webPort, rfl⟩ := Checked.seq_eq_ok.1 throughWebPort
    obtain ⟨_, _, throughWebUrl, webAddress, rfl⟩ := Checked.seq_eq_ok.1 throughWebAddress
    obtain ⟨_, given?, throughClientSecret, given, rfl⟩ := Checked.seq_eq_ok.1 throughWebUrl
    obtain ⟨_, _, throughClientId, clientSecret, rfl⟩ := Checked.seq_eq_ok.1 throughClientSecret
    obtain ⟨_, _, throughForce, clientId, rfl⟩ := Checked.seq_eq_ok.1 throughClientId
    obtain ⟨_, force, rfl⟩ := Checked.map_eq_ok.1 throughForce
    obtain ⟨_, chosen, rfl⟩ := Checked.map_eq_ok.1 (settled : _ <$> _ = _)
    obtain ⟨rfl, writable⟩ := chosenWebUrl_eq_ok.1 chosen
    exact ⟨given?, force, clientId, clientSecret, given, rfl, writable, webAddress, webPort, issuerUrl, authUrl,
      tokenUrl, userinfoUrl, adminGroup, allowGroup, groupsClaimName, httpTimeout, unsafeLocalDev, restrict, known⟩
  · rintro ⟨given?, reads⟩
    unfold Settings.read
    rw [reads.force, reads.clientId, reads.clientSecret, reads.given, reads.webAddress, reads.webPort,
      reads.issuerUrl, reads.authUrl, reads.tokenUrl, reads.userinfoUrl, reads.adminGroup, reads.allowGroup,
      reads.groupsClaimName, reads.httpTimeout, reads.unsafeLocalDev, reads.restrictPrivateNetworks, reads.known]
    have chosen : chosenWebUrl given? s.webAddress s.webPort = .ok (given?.getD (derivedWebUrl s.webAddress s.webPort)) :=
      chosenWebUrl_eq_ok.2 ⟨rfl, reads.writable⟩
    change (_ <$> chosenWebUrl given? s.webAddress s.webPort : Checked Settings) = .ok s
    rw [chosen]
    change Checked.ok (⟨_, _, _, unslashed _, _, _, _, _, _, _, _, _, _, _, _, _⟩ : Settings) = .ok s
    rw [← reads.webUrl]

theorem load_eq_ok {keywords : Members} {environment : List (Text × Text)} :
    load keywords environment = .ok s ↔ ∃ given?, Reads (merge keywords environment) given? s :=
  Checked.toExcept_eq_ok.trans read_eq_ok

theorem withDefault_trimmedText {name : Text} {t? : Option Text}
    (read : members.withDefault name none trimmedText = .ok t?) : ∀ t, t? = some t → t.IsTrimmed := by
  intro t found
  unfold Members.withDefault at read
  split at read
  · cases read
    cases found
  · obtain ⟨given?, _, rfl⟩ := Checked.map_eq_ok.1 (read : _ <$> _ = _)
    obtain ⟨_, _, trimmed⟩ := Option.bind_eq_some_iff.1 found
    exact Text.isTrimmed_of_trimmed? trimmed

structure Normal (s : Settings) : Prop where
  issuerUrl : s.issuerUrl ≠ some []
  webUrl : s.webUrl.getLast? ≠ some (CodePoint.ofChar '/')

theorem normal_of_load {keywords : Members} {environment : List (Text × Text)}
    (loaded : load keywords environment = .ok s) : s.Normal := by
  obtain ⟨_, reads⟩ := load_eq_ok.1 loaded
  exact ⟨fun empty => (withDefault_trimmedText reads.issuerUrl _ empty).full rfl,
    reads.webUrl ▸ getLast?_unslashed _⟩

end Settings

end OidcLogin
