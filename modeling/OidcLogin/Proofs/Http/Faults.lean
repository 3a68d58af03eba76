import OidcLogin.Http.Fetch

namespace OidcLogin.Http

namespace FetchFault

variable {fault : FetchFault}

-- What is neither a fault of the network nor one of a value.
inductive Leaks : FetchFault → Prop
  | url {fault : RequestUrlFault} (written : ∀ refused, fault ≠ .unencodable refused) : Leaks (.url fault)
  | tooDeep (inList : Bool) : Leaks (.document (.tooDeep inList))

theorem Leaks.passes (leaks : fault.Leaks) : fault.isNetwork = false ∧ fault.isValue = false := by
  cases leaks with
  | @url fault written =>
    cases fault with
    | unencodable refused => exact absurd rfl (written refused)
    | _ => exact ⟨rfl, rfl⟩
  | tooDeep inList => exact ⟨rfl, rfl⟩

theorem Leaks.kind (leaks : fault.Leaks) : fault.kind = .invalidUrl ∨ fault.kind = .recursion := by
  cases leaks with
  | @url fault written =>
    cases fault with
    | unencodable refused => exact absurd rfl (written refused)
    | _ => exact .inl rfl
  | tooDeep inList => exact .inr rfl

theorem isValue_hostName (fault : HostNameFault) : isValue (.hostName fault) = true := by
  cases fault with
  | _ => rfl

theorem leaks_of_passes (usual : ∀ r, fault = .raised r → FetchFault.isNetwork (.raised r) = true)
    (notNetwork : fault.isNetwork = false) (notValue : fault.isValue = false) : fault.Leaks := by
  cases fault with
  | url fault =>
    cases fault with
    | unencodable refused => cases notValue
    | _ => exact .url fun _ impossible => by cases impossible
  | location fault =>
    cases fault with
    | unencodable refused => cases notValue
    | _ => cases notNetwork
  | hostName fault =>
    rw [isValue_hostName] at notValue
    cases notValue
  | raised r =>
    rw [usual r rfl] at notNetwork
    cases notNetwork
  | document fault =>
    cases fault with
    | tooDeep inList => exact .tooDeep inList
    | _ => cases notValue
  | unsplittable _ | unencodable _ | notAbsolute _ | lengthNotDecimal _ | lengthTooLong _ => cases notValue
  | oversized _ => cases notNetwork

end FetchFault

def Unraised {α : Type} (result : Except FetchFault α) : Prop := ∀ r, result ≠ .error (.raised r)

section Unraised

variable {α β ε : Type}

theorem unraised_bind {first : Except FetchFault α} {next : α → Except FetchFault β} (one : Unraised first)
    (other : ∀ value, Unraised (next value)) : Unraised (first >>= next) := by
  cases first with
  | error fault => exact fun r same => one r (congrArg _ (Except.error.inj same))
  | ok value => exact other value

theorem unraised_mapError {result : Except ε α} {f : ε → FetchFault} (other : ∀ fault r, f fault ≠ .raised r) :
    Unraised (result.mapError f) := by
  cases result with
  | error fault => exact fun r same => other fault r (Except.error.inj same)
  | ok value => exact fun r impossible => by cases impossible

theorem unraised_hostOf (url : RequestUrl) : Unraised (hostOf url) :=
  unraised_mapError fun _ _ impossible => by cases impossible

theorem unraised_checkLocation (url : RequestUrl) : Unraised (checkLocation url) := by
  intro r raised
  unfold checkLocation at raised
  split at raised
  · cases raised
  · cases raised

theorem unraised_withHost (origin place : RequestUrl) : Unraised (Redirect.withHost origin place) := by
  intro r raised
  unfold Redirect.withHost at raised
  split at raised
  · cases raised
  · split at raised
    · rename_i fault failed
      cases raised
      exact unraised_hostOf place r failed
    · split at raised
      · cases raised
      · split at raised
        · rename_i fault failed
          cases raised
          exact unraised_hostOf origin r failed
        · exact unraised_mapError (fun _ _ impossible => by cases impossible) r raised

theorem unraised_resolved (origin place : RequestUrl) : Unraised (Redirect.resolved origin place) := by
  intro r raised
  unfold Redirect.resolved at raised
  split at raised
  · cases raised
  · split at raised
    · cases raised
    · exact unraised_mapError (fun _ _ impossible => by cases impossible) r raised

theorem unraised_withFragment (origin place : RequestUrl) : Unraised (Redirect.withFragment origin place) := by
  intro r raised
  unfold Redirect.withFragment at raised
  split at raised
  · cases raised
  · exact unraised_mapError (fun _ _ impossible => by cases impossible) r raised

theorem unraised_isSameOrigin (origin place : RequestUrl) : Unraised (Redirect.isSameOrigin origin place) := by
  unfold Redirect.isSameOrigin
  split
  · refine unraised_bind (unraised_hostOf place) fun _ => unraised_bind (unraised_hostOf origin) fun _ => ?_
    exact fun r impossible => by cases impossible
  · refine unraised_bind (unraised_hostOf origin) fun _ => unraised_bind (unraised_hostOf place) fun _ => ?_
    exact fun r impossible => by cases impossible

theorem unraised_checkRedirect (origin : RequestUrl) (response : Response) :
    Unraised (checkRedirect origin response) := by
  intro r raised
  unfold checkRedirect at raised
  split at raised
  · cases raised
  · rename_i location _
    have target : Unraised (Redirect.target origin location) :=
      unraised_bind (unraised_mapError fun _ _ impossible => by cases impossible) fun _ =>
        unraised_bind (unraised_withHost origin _) fun _ =>
          unraised_bind (unraised_resolved origin _) fun _ => unraised_withFragment origin _
    split at raised
    · rename_i fault failed
      cases raised
      exact target r failed
    · split at raised
      · rename_i fault failed
        cases raised
        exact unraised_isSameOrigin origin _ r failed
      · split at raised
        · cases raised
        · exact unraised_checkLocation _ r raised

theorem unraised_checkAbsolute (url : RequestUrl) : Unraised (checkAbsolute url) := by
  intro r raised
  unfold checkAbsolute at raised
  split at raised
  · cases raised
  · split at raised
    · cases raised
    · cases raised

theorem unraised_checkDeclaredLength (url : Text) (headers : Headers) :
    Unraised (checkDeclaredLength url headers) := by
  intro r raised
  unfold checkDeclaredLength at raised
  split at raised
  · cases raised
  · split at raised
    · cases raised
    · split at raised
      · cases raised
      · cases raised
      · split at raised
        · cases raised
        · cases raised

theorem unraised_decodeBody (response : Response) (content : Bytes) : Unraised (decodeBody response content) := by
  intro r raised
  unfold decodeBody at raised
  split at raised
  · cases raised
  · cases raised
  · split at raised
    · cases raised
    · cases raised

theorem unraised_receive (url : Text) (request : Request) (response : Response) :
    Unraised (receive url request (.response response)) := by
  refine unraised_bind (unraised_checkAbsolute _) fun _ => ?_
  refine unraised_bind (unraised_checkRedirect _ _) fun _ => ?_
  refine unraised_bind (unraised_checkDeclaredLength _ _) fun _ => ?_
  intro r raised
  split at raised
  · cases raised
  · rename_i content _
    cases decoded : decodeBody response content with
    | error fault =>
      rw [decoded] at raised
      exact unraised_decodeBody response content r (decoded.trans (congrArg _ (Except.error.inj raised)))
    | ok value =>
      rw [decoded] at raised
      cases raised

end Unraised

theorem isValue_of_checkHost {url : RequestUrl} {headers : Headers} {fault : FetchFault}
    (refused : checkHost url headers = .error fault) : fault.isValue = true := by
  unfold checkHost at refused
  split at refused
  · cases refused
  · split at refused
    · cases refused
      exact FetchFault.isValue_hostName _
    · split at refused
      · cases refused
      · unfold checkLocation at refused
        split at refused
        · cases refused
        · cases refused
          rfl

theorem prepare_eq_error {method url content : Text} {headers : Headers} {fault : FetchFault}
    (refused : prepare method url headers content = .error fault) :
    (∃ written, RequestUrl.forRequest url = .error written ∧ fault = .url written) ∨ fault.isValue = true := by
  unfold prepare at refused
  split at refused
  · rename_i written unread
    cases refused
    exact .inl ⟨written, unread, rfl⟩
  · right
    split at refused
    · cases refused
      rfl
    · split at refused
      · cases refused
        rfl
      · split at refused
        · rename_i hostFault failed
          cases refused
          exact isValue_of_checkHost failed
        · split at refused
          · cases refused
            rfl
          · cases refused

end OidcLogin.Http
