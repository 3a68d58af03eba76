import OidcLogin.Proofs.Client.Requests
import OidcLogin.Proofs.Identity.Mapping
import OidcLogin.Proofs.Text.Numerals
import OidcLogin.Proofs.Text.Octets
import OidcLogin.Proofs.Validation.Alike

namespace OidcLogin

-- Both can be written in the charset, or neither can for the same reason.
def Text.WrittenAlike (charset : Charset) (t other : Text) : Prop :=
  EndAlike (fun _ _ => True) (t.encode charset) (other.encode charset)

theorem Text.WrittenAlike.refl {charset : Charset} (t : Text) : WrittenAlike charset t t :=
  EndAlike.refl (fun _ => trivial) _

theorem Text.writtenAlike_of_accepts {charset : Charset} {t other : Text} (all : ∀ c ∈ t, charset.accepts c = true)
    (others : ∀ c ∈ other, charset.accepts c = true) : WrittenAlike charset t other := by
  unfold WrittenAlike
  rw [Text.encode_eq_ok.2 ⟨all, rfl⟩, Text.encode_eq_ok.2 ⟨others, rfl⟩]
  exact .done trivial

namespace Http

-- The response holds an object, within the limit, and declares no other length than that of its body.
structure Response.Carries (response : Response) (members : Members) : Prop where
  document : Json.ofBytes response.levels response.chunks.flatten = .ok (.object members)
  small : response.chunks.flatten.length ≤ maxResponseBytes
  declared : response.headers.get? "Content-Length" = none
    ∨ response.headers.get? "Content-Length" = some (Text.ofNat response.chunks.flatten.length)

-- The same outcome, or two responses that differ in the members of their objects.
inductive Answer.Alike (Same : Members → Members → Prop) : Answer → Answer → Prop
  | same (outcome : Answer) : Answer.Alike Same outcome outcome
  | carrying {response other : Response} {members others : Members} (status : response.status = other.status)
      (location : response.headers.get? "Location" = other.headers.get? "Location")
      (carries : response.Carries members) (carriesOther : other.Carries others) (alike : Same members others) :
      Answer.Alike Same (.response response) (.response other)

inductive DocumentAlike (Same : Members → Members → Prop) : Response × Json → Response × Json → Prop
  | same (answered : Response × Json) : DocumentAlike Same answered answered
  | objects {response other : Response} {members others : Members} (status : response.status = other.status)
      (alike : Same members others) : DocumentAlike Same (response, .object members) (other, .object others)

section Receive

variable {response other : Response} {members others : Members} {Same : Members → Members → Prop}

theorem toWhole?_size {size : Nat} (small : size ≤ maxResponseBytes) :
    (Text.ofNat size).toWhole? = .ok (size : Int) := by
  have whole : Text.ofInt (size : Int) = Text.ofNat size := if_neg (by omega)
  have below : size < 10 ^ 7 := by
    unfold maxResponseBytes at small
    omega
  have few : (Text.ofNat size).length ≤ 7 := (Text.length_ofNat_le (by decide)).2 below
  have short : (Text.ofNat (size : Int).natAbs).length ≤ Text.maxDigits := by
    rw [Int.natAbs_natCast]
    exact few.trans (by decide)
  rw [← whole]
  exact Text.toWhole?_ofInt short

theorem Response.Carries.checkDeclaredLength (carries : response.Carries members) (url : Text) :
    checkDeclaredLength url response.headers = .ok () := by
  unfold Http.checkDeclaredLength
  rcases carries.declared with absent | declared
  · rw [absent]
  · rw [declared]
    dsimp only
    have small := carries.small
    rw [toWhole?_size small]
    split
    · rfl
    · exact if_neg (by omega)

theorem Response.Carries.decodeBody (carries : response.Carries members) :
    decodeBody response response.chunks.flatten = .ok (.object members) := by
  unfold Http.decodeBody
  rw [carries.document]

theorem checkRedirect_eq (status : response.status = other.status)
    (location : response.headers.get? "Location" = other.headers.get? "Location") (origin : RequestUrl) :
    checkRedirect origin response = checkRedirect origin other := by
  unfold checkRedirect Redirect.location?
  rw [status, location]

theorem receive_alike {outcome answer : Answer} (alike : outcome.Alike Same answer) {request another : Request}
    (address : request.url = another.url) (url : Text) :
    EndAlike (DocumentAlike Same) (receive url request outcome) (receive url another answer) := by
  cases alike with
  | same outcome =>
    have unchanged : receive url another outcome = receive url request outcome := by
      unfold receive
      rw [address]
    rw [unchanged]
    exact .refl (fun answered => .same answered) _
  | @carrying response other members others status location carries carriesOther alike =>
    cases absolute : checkAbsolute another.url with
    | error fault =>
      unfold receive
      dsimp only
      rw [address, absolute]
      exact .failed fault
    | ok _ =>
      cases redirect : checkRedirect another.url other with
      | error fault =>
        unfold receive
        dsimp only
        rw [address, absolute, checkRedirect_eq status location, redirect]
        exact .failed fault
      | ok _ =>
        have first : receive url request (.response response) = .ok (response, .object members) := by
          refine receive_eq_ok.2 ⟨rfl, ?_, ?_, carries.checkDeclaredLength url, carries.small, carries.decodeBody⟩
          · rw [address, absolute]
          · rw [address, checkRedirect_eq status location, redirect]
        have second : receive url another (.response other) = .ok (other, .object others) :=
          receive_eq_ok.2 ⟨rfl, absolute, redirect, carriesOther.checkDeclaredLength url, carriesOther.small,
            carriesOther.decodeBody⟩
        rw [first, second]
        exact .done (.objects status alike)

end Receive

end Http

-- A member of two objects: the same value, or two values of the same form.
def MemberAlike (Form : Option Json → Prop) (given other : Option Json) : Prop :=
  given = other ∨ Form given ∧ Form other

def IsToken (given : Option Json) : Prop :=
  ∃ t, given = some (.text t) ∧ t ≠ [] ∧ ∀ c ∈ t, 0x20 ≤ c.val ∧ c.val ≤ 0x7E

def IsTextOrNull (given : Option Json) : Prop :=
  given = none ∨ given = some .null ∨ ∃ t, given = some (.text t)

def tokenMembers : List Text := ["access_token", "id_token", "refresh_token"]

-- Two answers of the token endpoint that differ in their tokens only.
structure TokensAlike (payload other : Members) : Prop where
  accessToken : MemberAlike IsToken (payload.get? "access_token") (other.get? "access_token")
  idToken : MemberAlike IsTextOrNull (payload.get? "id_token") (other.get? "id_token")
  refreshToken : MemberAlike IsTextOrNull (payload.get? "refresh_token") (other.get? "refresh_token")
  others : ∀ name, name ∉ tokenMembers → payload.get? name = other.get? name

theorem Members.has_eq_isSome (members : Members) (name : Text) : members.has name = (members.get? name).isSome := by
  unfold has get?
  induction members with
  | nil => rfl
  | cons first rest ih =>
    obtain ⟨key, value⟩ := first
    rw [List.any_cons, List.lookup_cons, ih]
    by_cases same : key = name
    · simp [same]
    · simp [same, beq_false_of_ne (Ne.symm same)]

namespace TokenResponse

structure Alike (token other : TokenResponse) : Prop where
  sent : Text.WrittenAlike .ascii token.accessToken other.accessToken
  tokenType : token.tokenType = other.tokenType

theorem Alike.refl (token : TokenResponse) : token.Alike token := ⟨.refl _, rfl⟩

theorem isBearer_eq {token other : TokenResponse} (alike : token.Alike other) : token.isBearer = other.isBearer := by
  unfold isBearer
  rw [alike.tokenType]

theorem accessToken_alike {payload other : Members} (alike : TokensAlike payload other) :
    Checked.Alike (Text.WrittenAlike .ascii) (payload.required "access_token" Reader.nonEmptyText)
      (other.required "access_token" Reader.nonEmptyText) := by
  have read {given : Option Json} (isToken : IsToken given) : ∃ t, given = some (.text t)
      ∧ Reader.nonEmptyText ⟨"access_token", none⟩ (.text t) = .ok t ∧ ∀ c ∈ t, Charset.ascii.accepts c = true := by
    obtain ⟨t, same, full, printable⟩ := isToken
    have ascii : ∀ c ∈ t, c.val < 0x80 := fun c member => by have := (printable c member).2; omega
    have scalar : t.IsScalar := by
      intro c member
      have below := ascii c member
      simp only [CodePoint.IsScalar, CodePoint.isSurrogate, Bool.and_eq_false_iff, decide_eq_false_iff_not]
      omega
    exact ⟨t, same, Reader.nonEmptyText_eq_ok.2 ⟨rfl, scalar, full⟩, fun c member => decide_eq_true (ascii c member)⟩
  unfold Members.required
  rcases alike.accessToken with same | ⟨first, second⟩
  · rw [same]
    exact .refl (fun t => .refl t) _
  · obtain ⟨t, here, readHere, ascii⟩ := read first
    obtain ⟨u, there, readThere, asciiThere⟩ := read second
    rw [here, there]
    dsimp only
    rw [readHere, readThere]
    exact .ok (Text.writtenAlike_of_accepts ascii asciiThere)

theorem optional_alike {given other : Option Json} (alike : MemberAlike IsTextOrNull given other)
    {payload others : Members} {name : Text} (here : payload.get? name = given) (there : others.get? name = other) :
    Checked.Alike (fun _ _ => True) (payload.withDefault name none (.optional Reader.text))
      (others.withDefault name none (.optional Reader.text)) := by
  have read {members : Members} (isText : IsTextOrNull (members.get? name)) :
      ∃ value, members.withDefault name none (.optional Reader.text) = .ok value := by
    unfold Members.withDefault
    rcases isText with absent | null | ⟨t, text⟩
    · rw [absent]
      exact ⟨none, rfl⟩
    · rw [null]
      exact ⟨none, rfl⟩
    · rw [text]
      exact ⟨some t, rfl⟩
  subst here there
  rcases alike with same | ⟨first, second⟩
  · have unchanged : payload.withDefault name none (.optional Reader.text)
        = others.withDefault name none (.optional Reader.text) := by
      unfold Members.withDefault
      rw [same]
    rw [unchanged]
    exact .refl (fun _ => trivial) _
  · obtain ⟨value, here⟩ := read first
    obtain ⟨another, there⟩ := read second
    rw [here, there]
    exact .ok trivial

theorem read_alike {payload other : Members} (alike : TokensAlike payload other) :
    Checked.Alike Alike (read payload) (read other) := by
  have same (name : Text) (kept : name ∉ tokenMembers) : payload.get? name = other.get? name := alike.others name kept
  have tokenType : Checked.Alike Eq (payload.required "token_type" Reader.text)
      (other.required "token_type" Reader.text) := by
    unfold Members.required
    rw [same "token_type" (by decide)]
    exact .refl (fun _ => rfl) _
  have unchanged {α : Type} (name : Text) (kept : name ∉ tokenMembers) (default : α) (reader : Reader α) :
      Checked.Alike (fun _ _ => True) (payload.withDefault name default reader)
        (other.withDefault name default reader) := by
    unfold Members.withDefault
    rw [same name kept]
    exact .refl (fun _ => trivial) _
  unfold read
  refine Checked.Alike.seq (Checked.Alike.seq (Checked.Alike.seq (Checked.Alike.seq (Checked.Alike.seq
    (Checked.Alike.map ?_ (accessToken_alike alike)) tokenType) (optional_alike alike.idToken rfl rfl))
    (optional_alike alike.refreshToken rfl rfl)) (unchanged "expires_in" (by decide) none _))
    (unchanged "scope" (by decide) none _)
  intro accessToken another sent tokenType _ rfl _ _ _ _ _ _ _ _ _ _ _ _
  exact ⟨sent, rfl⟩

end TokenResponse

-- Told by the same notes, and ended alike.
structure ToldAlike {ε α : Type} (R : α → α → Prop) (told other : List Note × Except ε α) : Prop where
  notes : told.1 = other.1
  ends : EndAlike R told.2 other.2

theorem ToldAlike.refl {ε α : Type} {R : α → α → Prop} (same : ∀ a, R a a) (told : List Note × Except ε α) :
    ToldAlike R told told := ⟨rfl, .refl same _⟩

namespace TokenExchange

variable {response other : Http.Response} {payload others : Members}

theorem ofPayload_alike (alike : TokensAlike payload others) :
    EndAlike TokenResponse.Alike (ofPayload payload) (ofPayload others) := by
  unfold ofPayload
  rcases ((TokenResponse.read_alike alike).toExcept TokenResponse.model).ends with
    ⟨report, here, there⟩ | ⟨token, another, here, there, same⟩
  · rw [here, there]
    exact .failed _
  · rw [here, there]
    dsimp only
    rw [TokenResponse.isBearer_eq same, same.tokenType]
    split
    · exact .done same
    · exact .failed _

theorem refusalText_eq (status : response.status = other.status) (alike : TokensAlike payload others) :
    refusalText response payload = refusalText other others := by
  unfold refusalText
  rw [alike.others "error" (by decide), status]

theorem descriptionOf_eq (alike : TokensAlike payload others) : descriptionOf payload = descriptionOf others := by
  unfold descriptionOf
  rw [alike.others "error_description" (by decide)]

theorem ofResponse_alike (status : response.status = other.status) (alike : TokensAlike payload others) :
    ToldAlike TokenResponse.Alike (ofResponse response (.object payload)) (ofResponse other (.object others)) := by
  have refused : (payload.has "error" || !response.isSuccess) = (others.has "error" || !other.isSuccess) := by
    rw [Members.has_eq_isSome, Members.has_eq_isSome, alike.others "error" (by decide), Http.isSuccess_eq status]
  unfold ofResponse
  dsimp only
  rw [refused, refusalText_eq status alike, descriptionOf_eq alike]
  split
  · exact ⟨rfl, .failed _⟩
  · exact ⟨rfl, ofPayload_alike alike⟩

theorem ofFetch_alike (endpoint : Text) {fetched another : Except Http.FetchFault (Http.Response × Json)}
    (alike : EndAlike (Http.DocumentAlike TokensAlike) fetched another) :
    ToldAlike TokenResponse.Alike (ofFetch endpoint fetched) (ofFetch endpoint another) := by
  cases alike with
  | failed fault => exact .refl TokenResponse.Alike.refl _
  | done documents =>
    cases documents with
    | same answered => exact .refl TokenResponse.Alike.refl _
    | objects status alike =>
      have told := ofResponse_alike status alike
      refine ⟨?_, ?_⟩
      · rw [ofFetch_ok_notes, ofFetch_ok_notes, told.notes]
      · rw [ofFetch_ok, ofFetch_ok]
        exact told.ends.mapError _

end TokenExchange

def IsAddress (given : Option Json) : Prop :=
  ∃ t, given = some (.text t) ∧ t.IsScalar ∧ t.isBlank = false

-- Two users in the same groups, whoever they are.
structure ClaimsAlike (groupsClaimName : Text) (claims other : Members) : Prop where
  email : MemberAlike IsAddress (claims.get? "email") (other.get? "email")
  groups : claims.get? groupsClaimName = other.get? groupsClaimName

theorem ClaimsAlike.refl {groupsClaimName : Text} (claims : Members) : ClaimsAlike groupsClaimName claims claims :=
  ⟨.inl rfl, rfl⟩

namespace UserInfo

theorem ofFetch_alike (endpoint : Text) {fetched another : Except Http.FetchFault (Http.Response × Json)}
    {groupsClaimName : Text} (alike : EndAlike (Http.DocumentAlike (ClaimsAlike groupsClaimName)) fetched another) :
    ToldAlike (ClaimsAlike groupsClaimName) (ofFetch endpoint fetched) (ofFetch endpoint another) := by
  cases alike with
  | failed fault => exact .refl ClaimsAlike.refl _
  | done documents =>
    cases documents with
    | same answered => exact .refl ClaimsAlike.refl _
    | @objects response other members others status alike =>
      unfold ofFetch ofResponse
      dsimp only
      rw [Http.isSuccess_eq status, status]
      cases other.isSuccess with
      | false => exact ⟨rfl, .failed _⟩
      | true => exact ⟨rfl, .done alike⟩

end UserInfo

namespace IdentityMapper

variable {m : IdentityMapper} {claims other : Members}

theorem readEmail_alike (place : Place) (alike : MemberAlike IsAddress (claims.get? "email") (other.get? "email")) :
    Checked.Alike (fun _ _ => True) (UserClaims.readEmail place ((claims.get? "email").getD .null))
      (UserClaims.readEmail place ((other.get? "email").getD .null)) := by
  rcases alike with same | ⟨⟨t, here, scalar, notBlank⟩, u, there, scalarThere, notBlankThere⟩
  · rw [same]
    exact .refl (fun _ => trivial) _
  · rw [here, there, Option.getD_some, Option.getD_some, UserClaims.readEmail_eq_ok.2 ⟨rfl, scalar, notBlank⟩,
      UserClaims.readEmail_eq_ok.2 ⟨rfl, scalarThere, notBlankThere⟩]
    exact .ok trivial

theorem mapClaims_alike (alike : ClaimsAlike m.groupsClaimName claims other) :
    ToldAlike (fun identity another => identity.isAdministrator = another.isAdministrator) (m.mapClaims claims)
      (m.mapClaims other) := by
  obtain ⟨notes, ends⟩ := mapClaims_alike_of_email (readEmail_alike _ alike.email) alike.groups
  exact ⟨notes, ends.mono fun _ _ same => same.2.2⟩

end IdentityMapper

end OidcLogin
