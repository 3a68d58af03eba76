import OidcLogin.Proofs.Http.Fetch
import OidcLogin.Proofs.Text.Octets

namespace OidcLogin.Http

namespace Headers

variable {headers : Headers} {name value : Text}

theorem get?_set : (headers.set name value).get? name = some value := by
  have others : headers.filter (fun header => (header.1.lower = name.lower) && header.1.lower != name.lower)
      = [] := by
    simp
  unfold get? set
  rw [List.filter_append, List.filter_filter, others]
  simp [Text.join_singleton]

theorem get?_append_of_ne {first : Headers} (others : ∀ header ∈ first, header.1.lower ≠ name.lower) :
    Headers.get? (first ++ headers) name = headers.get? name := by
  unfold get?
  rw [List.filter_append, (List.filter_eq_nil_iff (l := first)).2, List.nil_append]
  intro header member
  simpa using others header member

theorem get?_mergeHeaders (other : name.lower ≠ "accept") :
    (mergeHeaders headers).get? name = headers.get? name := by
  refine get?_append_of_ne fun header member => ?_
  obtain rfl := List.mem_singleton.1 (List.mem_filter.1 member).1
  have accept : Text.lower "accept" = "accept" := by decide
  rw [accept]
  exact other.symm

end Headers

def Request.authorization (request : Request) : Option Text := request.headers.get? "Authorization"

def pairOctets (name password : Text) : Bytes :=
  name.flatMap CodePoint.utf8 ++ 0x3A :: password.flatMap CodePoint.utf8

theorem authorize_eq_ok {url : RequestUrl} {headers written : Headers}
    (made : authorize url headers = .ok written) :
    written.get? "Authorization" = match url.credentials? with
      | none => headers.get? "Authorization"
      | some (name, password) => some (basicAuthorization (pairOctets name password)) := by
  unfold authorize at made
  cases named : url.credentials? with
  | none =>
    rw [named] at made
    cases made
    rfl
  | some pair =>
    obtain ⟨name, password⟩ := pair
    rw [named] at made
    dsimp only at made ⊢
    split at made
    · rename_i nameOctets passwordOctets nameWritten passwordWritten
      cases made
      obtain ⟨_, rfl⟩ := Text.encode_eq_ok.1 nameWritten
      obtain ⟨_, rfl⟩ := Text.encode_eq_ok.1 passwordWritten
      exact Headers.get?_set
    · cases made
    · cases made

theorem authorization_of_prepare {method url content : Text} {headers : Headers} {request : Request}
    (made : prepare method url headers content = .ok request) :
    request.authorization = match request.url.credentials? with
      | none => headers.get? "Authorization"
      | some (name, password) => some (basicAuthorization (pairOctets name password)) := by
  obtain ⟨_, _, _, _, authorized, _⟩ := prepare_eq_ok.1 made
  have merged : (mergeHeaders headers).get? "Authorization" = headers.get? "Authorization" :=
    Headers.get?_mergeHeaders (by decide)
  rw [← merged]
  exact authorize_eq_ok authorized

theorem basicAuthorization_injective {a b : Bytes} (same : basicAuthorization a = basicAuthorization b) :
    a = b :=
  Base64.encode_injective (List.append_cancel_left same)

end OidcLogin.Http
