import OidcLogin.Http.Fetch
import OidcLogin.Proofs.Validation.Success

namespace OidcLogin.Http

-- The invariant of the reader: what was read is the chunks before, and their size is within the limit.
theorem readBounded_eq_ok {limit size : Nat} {read chunks : List Bytes} {content : Bytes}
    (within : size ≤ limit) :
    readBounded limit size read chunks = .ok content
      ↔ size + chunks.flatten.length ≤ limit ∧ content = read.reverse.flatten ++ chunks.flatten := by
  induction chunks generalizing size read with
  | nil => simp [readBounded, within, eq_comm]
  | cons chunk rest ih =>
    unfold readBounded
    by_cases tooMany : limit < size + chunk.length
    · have beyond : ¬ size + (chunk :: rest).flatten.length ≤ limit := by
        rw [List.flatten_cons, List.length_append]
        omega
      simp only [if_pos tooMany, beyond, false_and, reduceCtorEq]
    · rw [if_neg tooMany, ih (Nat.le_of_not_lt tooMany)]
      simp [Nat.add_assoc]

-- Reading stops with the chunk that takes the size over the limit, and the chunks after it are left unread.
theorem readBounded_eq_error {limit size : Nat} {read chunks rest : List Bytes} (within : size ≤ limit) :
    readBounded limit size read chunks = .error rest
      ↔ ∃ before last, chunks = before ++ last :: rest ∧ size + before.flatten.length ≤ limit
          ∧ limit < size + (before ++ [last]).flatten.length := by
  induction chunks generalizing size read with
  | nil => simp [readBounded]
  | cons chunk others ih =>
    unfold readBounded
    by_cases tooMany : limit < size + chunk.length
    · rw [if_pos tooMany]
      constructor
      · intro same
        cases same
        exact ⟨[], chunk, rfl, within, by simpa using tooMany⟩
      · intro stopped
        obtain ⟨before, last, same, small, _⟩ := stopped
        cases before with
        | nil =>
          cases same
          rfl
        | cons first before =>
          -- the first chunk is within the limit with all that come before the last one
          cases same
          rw [List.flatten_cons, List.length_append] at small
          omega
    · rw [if_neg tooMany, ih (Nat.le_of_not_lt tooMany)]
      constructor
      · intro stopped
        obtain ⟨before, last, rfl, small, large⟩ := stopped
        refine ⟨chunk :: before, last, rfl, ?_, ?_⟩
        · rw [List.flatten_cons, List.length_append]
          omega
        · rw [List.cons_append, List.flatten_cons, List.length_append]
          omega
      · intro stopped
        obtain ⟨before, last, same, small, large⟩ := stopped
        cases before with
        | nil =>
          cases same
          simp only [List.nil_append, List.flatten_cons, List.flatten_nil, List.append_nil] at large
          exact absurd large tooMany
        | cons first before =>
          cases same
          rw [List.flatten_cons, List.length_append] at small
          rw [List.cons_append, List.flatten_cons, List.length_append] at large
          exact ⟨before, last, rfl, by omega, by omega⟩

theorem prepare_eq_ok {method url content : Text} {headers : Headers} {request : Request} :
    prepare method url headers content = .ok request
      ↔ RequestUrl.forRequest url = .ok request.url ∧ checkHeaders headers = .ok ()
          ∧ content.encode .utf8 = .ok request.body ∧ checkHost request.url headers = .ok ()
          ∧ authorize request.url (mergeHeaders headers) = .ok request.headers
          ∧ request.method = method.capitals := by
  unfold prepare
  constructor
  · intro made
    split at made
    · cases made
    · rename_i target read
      split at made
      · cases made
      · rename_i headersChecked
        split at made
        · cases made
        · rename_i body written
          split at made
          · cases made
          · rename_i hostChecked
            split at made
            · cases made
            · rename_i sent authorized
              cases made
              exact ⟨read, headersChecked, written, hostChecked, authorized, rfl⟩
  · intro given
    obtain ⟨method', target, sent, body⟩ := request
    obtain ⟨read, headersChecked, written, hostChecked, authorized, same⟩ := given
    dsimp only at read written hostChecked authorized same
    rw [read]
    dsimp only
    rw [headersChecked]
    dsimp only
    rw [written]
    dsimp only
    rw [hostChecked]
    dsimp only
    rw [authorized, same]

theorem receive_eq_ok {url : Text} {request : Request} {outcome : Answer} {response : Response}
    {document : Json} :
    receive url request outcome = .ok (response, document)
      ↔ outcome = .response response ∧ checkAbsolute request.url = .ok ()
          ∧ checkRedirect request.url response = .ok ()
          ∧ checkDeclaredLength url response.headers = .ok ()
          ∧ response.chunks.flatten.length ≤ maxResponseBytes
          ∧ decodeBody response response.chunks.flatten = .ok document := by
  cases outcome with
  | raised r => simp [receive]
  | response answered =>
    simp only [receive, except_bind_eq_ok]
    constructor
    · intro given
      obtain ⟨_, absolute, _, redirect, _, declared, read⟩ := given
      split at read
      · cases read
      · rename_i content bounded
        obtain ⟨small, rfl⟩ := (readBounded_eq_ok (Nat.zero_le _)).1 bounded
        obtain ⟨_, decoded, same⟩ := except_map_eq_ok.1 read
        cases same
        exact ⟨rfl, absolute, redirect, declared, by simpa using small, by simpa using decoded⟩
    · intro given
      obtain ⟨same, absolute, redirect, declared, small, decoded⟩ := given
      cases same
      have bounded : readBounded maxResponseBytes 0 [] response.chunks
          = .ok response.chunks.flatten :=
        (readBounded_eq_ok (Nat.zero_le _)).2 ⟨by simpa using small, by simp⟩
      refine ⟨(), absolute, (), redirect, (), declared, ?_⟩
      rw [bounded]
      exact except_map_eq_ok.2 ⟨document, decoded, rfl⟩

theorem isSuccess_iff {response : Response} :
    response.isSuccess = true ↔ 200 ≤ response.status ∧ response.status ≤ 299 := by
  simp [Response.isSuccess]

theorem isSuccess_eq {response other : Response} (status : response.status = other.status) :
    response.isSuccess = other.isSuccess := by
  unfold Response.isSuccess
  rw [status]

theorem decodeBody_eq {response other : Response} (status : response.status = other.status)
    (levels : response.levels = other.levels) (content : Bytes) :
    decodeBody response content = decodeBody other content := by
  unfold decodeBody
  rw [isSuccess_eq status, levels]

theorem decodeBody_of_isSuccess {response : Response} {content : Bytes} {document : Json}
    (success : response.isSuccess = true) :
    decodeBody response content = .ok document ↔ Json.ofBytes response.levels content = .ok document := by
  unfold decodeBody
  split
  · rename_i value read
    simp [read]
  · rename_i inList read
    simp [read]
  · rename_i fault read
    simp [read, success]

end OidcLogin.Http
