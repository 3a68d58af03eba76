import OidcLogin.Proofs.Client.Requests
import OidcLogin.Proofs.Text.Decimals

namespace OidcLogin

open Program

namespace Http

variable {url : Text} {request : Request} {response other : Response} {headers : Headers} {declared : Option Nat}
  {result : Except FetchFault (Response × Json)}

-- The length that headers declare: none is given, or something that is not written in digit characters only, or
-- decimal digits of any script, no more than a number text may have.
inductive Declares (headers : Headers) : Option Nat → Prop
  | absent (unnamed : headers.get? "Content-Length" = none) : Declares headers none
  | other {given : Text} (named : headers.get? "Content-Length" = some given)
      (other : given = [] ∨ ∃ c ∈ given, c.isDigitCharacter = false) : Declares headers none
  | digits {given : Text} {size : Nat} (named : headers.get? "Content-Length" = some given) (full : given ≠ [])
      (read : given.decimal? = some size) (short : given.length ≤ 4300) : Declares headers (some size)

-- More is declared than the limit allows, or more is in the chunks.
def IsOversized (declared : Option Nat) (chunks : List Bytes) : Prop :=
  (∃ size, declared = some size ∧ 1000000 < size) ∨ 1000000 < chunks.flatten.length

-- A response that gets to its reader: it is known where the request went, and if the response leads elsewhere, a
-- request could be sent there.
structure Delivered (request : Request) (response : Response) : Prop where
  absolute : checkAbsolute request.url = .ok ()
  settled : checkRedirect request.url response = .ok ()

theorem checkDeclaredLength_of_declares (declares : Declares headers declared) (url : Text) :
    (∃ size, declared = some size ∧ 1000000 < size) ∧ checkDeclaredLength url headers = .error (.oversized url)
      ∨ ¬ (∃ size, declared = some size ∧ 1000000 < size) ∧ checkDeclaredLength url headers = .ok () := by
  have limit : maxResponseBytes = 1000000 := rfl
  unfold checkDeclaredLength
  cases declares with
  | absent unnamed =>
    rw [unnamed]
    exact .inr ⟨by simp, rfl⟩
  | @other given named other =>
    have skipped : (given.isEmpty || !given.all CodePoint.isDigitCharacter) = true := by
      rcases other with rfl | ⟨c, member, other⟩
      · rfl
      · have some : given.all CodePoint.isDigitCharacter = false := List.all_eq_false.2 ⟨c, member, by simp [other]⟩
        rw [some, Bool.not_false, Bool.or_true]
    rw [named]
    dsimp only
    rw [skipped]
    exact .inr ⟨by simp, rfl⟩
  | @digits given size named full read short =>
    have all : given.all CodePoint.isDigitCharacter = true :=
      List.all_eq_true.2 (Text.isDigitCharacter_of_decimal? read)
    have counted : (given.isEmpty || !given.all CodePoint.isDigitCharacter) = false := by
      rw [all, List.isEmpty_eq_false_iff.2 full]
      rfl
    rw [named]
    dsimp only
    rw [counted, if_neg Bool.false_ne_true, Text.toWhole?_of_decimal? full read short, limit]
    dsimp only
    by_cases large : 1000000 < size
    · exact .inl ⟨⟨size, rfl, large⟩, if_pos (by omega)⟩
    · refine .inr ⟨?_, if_neg (by omega)⟩
      rintro ⟨_, ⟨⟩, tooLarge⟩
      exact large tooLarge

theorem receive_of_delivered (delivered : Delivered request response) (url : Text) :
    receive url request (.response response)
      = checkDeclaredLength url response.headers >>= fun _ =>
          match readBounded maxResponseBytes 0 [] response.chunks with
          | .error _ => .error (.oversized url)
          | .ok content => (decodeBody response content).map (response, ·) := by
  unfold receive
  dsimp only
  rw [delivered.absolute, delivered.settled]
  rfl

theorem receive_of_isOversized (delivered : Delivered request response) (declares : Declares response.headers declared)
    (url : Text) (large : IsOversized declared response.chunks) :
    receive url request (.response response) = .error (.oversized url) := by
  rw [receive_of_delivered delivered]
  rcases checkDeclaredLength_of_declares declares url with ⟨_, refused⟩ | ⟨small, passed⟩
  · rw [refused]
    rfl
  · have tooMany : ¬ response.chunks.flatten.length ≤ 1000000 := Nat.not_le.2 (large.resolve_left small)
    rw [passed]
    cases bounded : readBounded maxResponseBytes 0 [] response.chunks with
    | error rest => rfl
    | ok content =>
      obtain ⟨within, _⟩ := (readBounded_eq_ok (Nat.zero_le _)).1 bounded
      exact absurd (by simpa [maxResponseBytes] using within) tooMany

theorem receive_of_not_isOversized (delivered : Delivered request response)
    (declares : Declares response.headers declared) (url : Text) (small : ¬ IsOversized declared response.chunks) :
    receive url request (.response response)
      = (decodeBody response response.chunks.flatten).map (response, ·) := by
  obtain ⟨declaredSmall, few⟩ := not_or.1 small
  have bounded : readBounded maxResponseBytes 0 [] response.chunks = .ok response.chunks.flatten :=
    (readBounded_eq_ok (Nat.zero_le _)).2 ⟨by simpa [maxResponseBytes] using few, rfl⟩
  rw [receive_of_delivered delivered]
  rcases checkDeclaredLength_of_declares declares url with ⟨large, _⟩ | ⟨_, passed⟩
  · exact absurd large declaredSmall
  · rw [passed, bounded]
    rfl

theorem receive_of_same_octets (delivered : Delivered request response) (redelivered : Delivered request other)
    (declares : Declares response.headers declared) (status : other.status = response.status)
    (length : other.headers.get? "Content-Length" = response.headers.get? "Content-Length")
    (octets : other.chunks.flatten = response.chunks.flatten) (levels : other.levels = response.levels) (url : Text) :
    (receive url request (.response other)).map (·.2) = (receive url request (.response response)).map (·.2) := by
  have again : Declares other.headers declared := by
    cases declares with
    | absent unnamed => exact .absent (length.trans unnamed)
    | other named other => exact .other (length.trans named) other
    | digits named full read short => exact .digits (length.trans named) full read short
  by_cases large : IsOversized declared response.chunks
  · have largeToo : IsOversized declared other.chunks := by
      unfold IsOversized
      rwa [octets]
    rw [receive_of_isOversized delivered declares url large, receive_of_isOversized redelivered again url largeToo]
  · have smallToo : ¬ IsOversized declared other.chunks := by
      unfold IsOversized
      rwa [octets]
    rw [receive_of_not_isOversized delivered declares url large,
      receive_of_not_isOversized redelivered again url smallToo, octets, decodeBody_eq status levels]
    cases decodeBody response response.chunks.flatten with
    | error fault => rfl
    | ok document => rfl

-- What a fetch gives for a response.  The reader of documents gives a value for the octets or it fails, with a fault
-- of a value or another one, which is passed on.
inductive Reads (url : Text) (response : Response) (declared : Option Nat) :
    Except FetchFault (Response × Json) → Prop
  | oversized (large : IsOversized declared response.chunks) : Reads url response declared (.error (.oversized url))
  | value {document : Json} (small : ¬ IsOversized declared response.chunks)
      (read : Json.ofBytes response.levels response.chunks.flatten = .ok document) :
      Reads url response declared (.ok (response, document))
  | undecodable {fault : DocumentFault} (small : ¬ IsOversized declared response.chunks)
      (read : Json.ofBytes response.levels response.chunks.flatten = .error fault)
      (isValue : (FetchFault.document fault).kind.isA .value = true)
      (success : 200 ≤ response.status ∧ response.status ≤ 299) :
      Reads url response declared (.error (.document fault))
  | nothing {fault : DocumentFault} (small : ¬ IsOversized declared response.chunks)
      (read : Json.ofBytes response.levels response.chunks.flatten = .error fault)
      (isValue : (FetchFault.document fault).kind.isA .value = true)
      (failed : ¬ (200 ≤ response.status ∧ response.status ≤ 299)) :
      Reads url response declared (.ok (response, .null))
  | passed {fault : DocumentFault} (small : ¬ IsOversized declared response.chunks)
      (read : Json.ofBytes response.levels response.chunks.flatten = .error fault)
      (other : (FetchFault.document fault).kind.isA .value = false) :
      Reads url response declared (.error (.document fault))

theorem decodeBody_of_error {content : Bytes} {fault : DocumentFault} (read : Json.ofBytes response.levels content = .error fault) :
    decodeBody response content
      = if response.isSuccess = true ∨ (FetchFault.document fault).kind.isA .value = false then .error (.document fault)
        else .ok .null := by
  unfold decodeBody
  rw [read]
  cases fault with
  | tooDeep inList => exact (if_pos (.inr rfl)).symm
  | undecodable _ | malformed _ _ _ _ | overlong _ =>
    simp [FetchFault.kind, Kind.isA, Kind.above, Kind.parent?]

theorem receive_exact (delivered : Delivered request response) (declares : Declares response.headers declared) :
    receive url request (.response response) = result ↔ Reads url response declared result := by
  have opened (small : ¬ IsOversized declared response.chunks) (document : Except FetchFault Json)
      (decoded : decodeBody response response.chunks.flatten = document) :
      receive url request (.response response) = document.map (response, ·) := by
    rw [receive_of_not_isOversized delivered declares url small, decoded]
  constructor
  · rintro rfl
    by_cases large : IsOversized declared response.chunks
    · rw [receive_of_isOversized delivered declares url large]
      exact .oversized large
    · cases read : Json.ofBytes response.levels response.chunks.flatten with
      | ok document =>
        rw [opened large (.ok document) (by rw [decodeBody, read])]
        exact .value large read
      | error fault =>
        rw [opened large _ (decodeBody_of_error read)]
        cases isValue : (FetchFault.document fault).kind.isA .value with
        | false =>
          rw [if_pos (.inr rfl)]
          exact .passed large read isValue
        | true =>
          by_cases success : response.isSuccess = true
          · rw [if_pos (.inl success)]
            exact .undecodable large read isValue (isSuccess_iff.1 success)
          · rw [if_neg (by simp [success])]
            exact .nothing large read isValue fun within => success (isSuccess_iff.2 within)
  · intro reads
    cases reads with
    | oversized large => exact receive_of_isOversized delivered declares url large
    | value small read => exact opened small (.ok _) (by rw [decodeBody, read])
    | undecodable small read isValue success =>
      refine opened small (.error _) ?_
      rw [decodeBody_of_error read, if_pos (.inl (isSuccess_iff.2 success))]
    | nothing small read isValue failed =>
      refine opened small (.ok _) ?_
      rw [decodeBody_of_error read, if_neg]
      rintro (success | other)
      · exact failed (isSuccess_iff.1 success)
      · rw [isValue] at other
        cases other
    | passed small read other =>
      refine opened small (.error _) ?_
      rw [decodeBody_of_error read, if_pos (.inr other)]

theorem Reads.oversized_iff (reads : Reads url response declared result) :
    (∃ fault, result = .error fault ∧ fault.kind = .oversized) ↔ IsOversized declared response.chunks := by
  have notSize (fault : DocumentFault) : (FetchFault.document fault).kind ≠ .oversized := by
    cases fault with
    | _ => exact nofun
  cases reads with
  | oversized large => exact ⟨fun _ => large, fun _ => ⟨_, rfl, rfl⟩⟩
  | value small | nothing small => simp [small]
  | @undecodable fault small | @passed fault small => simp [small, notSize fault]

end Http

namespace NetProgram

open Http (Declares Delivered Reads IsOversized readBounded maxResponseBytes)

theorem runs_fetch_of_prepared {client : HttpClient} {method url content : Text} {headers : Http.Headers}
    {request : Http.Request} {outcome : Http.Answer} {history : List NetExchange}
    {result : Except Http.FetchFault (Http.Response × Json)}
    (made : Http.prepare method url headers content = .ok request) :
    Runs (fetch client method url headers content) (⟨.send client request, outcome⟩ :: history) result
      ↔ history = [] ∧ Http.receive url request outcome = result := by
  rw [runs_fetch]
  constructor
  · rintro (⟨_, _, ⟨⟩, _⟩ | ⟨sent, _, again, ⟨⟩, rfl⟩)
    exact ⟨rfl, rfl⟩
  · rintro ⟨rfl, rfl⟩
    exact .inr ⟨request, outcome, made, rfl, rfl⟩

-- A fetch whose request is answered: what it gives, by which rule, and how far the body is read for it.
theorem fetch_reads_exactly {method url content : Text} {headers : Http.Headers} {request : Http.Request}
    {response : Http.Response} {declared : Option Nat}
    (made : Http.prepare method url headers content = .ok request) (delivered : Delivered request response)
    (declares : Declares response.headers declared) :
    (∀ (client : HttpClient) (history : List NetExchange) (result : Except Http.FetchFault (Http.Response × Json)),
        Runs (fetch client method url headers content) (⟨.send client request, .response response⟩ :: history) result
          ↔ history = [] ∧ Reads url response declared result)
      ∧ (∀ result, Reads url response declared result →
          ((∃ fault, result = .error fault ∧ fault.kind = .oversized) ↔ IsOversized declared response.chunks))
      ∧ (∀ other : Http.Response, Delivered request other → other.status = response.status →
          other.headers.get? "Content-Length" = response.headers.get? "Content-Length" →
          other.chunks.flatten = response.chunks.flatten → other.levels = response.levels →
          ∀ (client : HttpClient) (first second : Except Http.FetchFault (Http.Response × Json)),
            Runs (fetch client method url headers content) [⟨.send client request, .response response⟩] first →
            Runs (fetch client method url headers content) [⟨.send client request, .response other⟩] second →
            second.map (·.2) = first.map (·.2))
      ∧ ∀ unread, readBounded maxResponseBytes 0 [] response.chunks = .error unread
          ↔ ∃ before last, response.chunks = before ++ last :: unread ∧ before.flatten.length ≤ 1000000
              ∧ 1000000 < (before ++ [last]).flatten.length := by
  refine ⟨?_, fun result reads => reads.oversized_iff, ?_, ?_⟩
  · intro client history result
    rw [runs_fetch_of_prepared made, Http.receive_exact delivered declares]
  · intro other redelivered status length octets levels client first second one another
    obtain ⟨_, rfl⟩ := (runs_fetch_of_prepared made).1 one
    obtain ⟨_, rfl⟩ := (runs_fetch_of_prepared made).1 another
    exact Http.receive_of_same_octets delivered redelivered declares status length octets levels url
  · intro unread
    have stopped : readBounded maxResponseBytes 0 [] response.chunks = .error unread ↔ _ :=
      Http.readBounded_eq_error (Nat.zero_le maxResponseBytes)
    simpa only [Nat.zero_add, maxResponseBytes] using stopped

theorem fetch_reads_exactly_of_long_body :
    Declares [("content-length", "١٢")] (some 12)
      ∧ (∃ result, Runs (fetch .given "POST" "https://idp.example.com/token"
            (TokenExchange.formHeaders Sample.authorization) Sample.form)
          [⟨.send .given Sample.tokenRequest, .response (Sample.answered 200 [("content-length", "١٢")]
            [List.replicate 600000 0x20, [], List.replicate 400001 0x20, [0x7B]])⟩] result
        ∧ ∃ fault, result = .error fault ∧ fault.kind = .oversized)
      ∧ readBounded maxResponseBytes 0 [] [List.replicate 600000 0x20, [], List.replicate 400001 0x20, [0x7B]]
        = .error [[0x7B]] := by
  have declares : Declares [("content-length", "١٢")] (some 12) := .digits rfl (by decide) (by decide) (by decide)
  -- only the sizes of the long chunks count
  have sized : ∀ first third : Bytes, first.length = 600000 → third.length = 400001 →
      (∃ result, Runs (fetch .given "POST" "https://idp.example.com/token"
            (TokenExchange.formHeaders Sample.authorization) Sample.form)
          [⟨.send .given Sample.tokenRequest, .response (Sample.answered 200 [("content-length", "١٢")]
            [first, [], third, [0x7B]])⟩] result
        ∧ ∃ fault, result = .error fault ∧ fault.kind = .oversized)
      ∧ readBounded maxResponseBytes 0 [] [first, [], third, [0x7B]] = .error [[0x7B]] := by
    intro first third firstSize thirdSize
    have delivered : Delivered Sample.tokenRequest
        (Sample.answered 200 [("content-length", "١٢")] [first, [], third, [0x7B]]) := ⟨rfl, rfl⟩
    have tooMany : 1000000 < [first, [], third, [0x7B]].flatten.length := by
      simp only [List.flatten_cons, List.flatten_nil, List.length_append, List.length_cons, List.length_nil]
      omega
    have reads : Reads "https://idp.example.com/token"
        (Sample.answered 200 [("content-length", "١٢")] [first, [], third, [0x7B]]) (some 12) (.error (.oversized _)) := .oversized (.inr tooMany)
    obtain ⟨given, oversized, _, stopped⟩ := fetch_reads_exactly Sample.prepare_tokenRequest delivered declares
    refine ⟨⟨_, (given _ _ _).2 ⟨rfl, reads⟩, (oversized _ reads).2 (.inr tooMany)⟩, (stopped _).2 ?_⟩
    refine ⟨[first, []], third, rfl, ?_, ?_⟩
    · simp only [List.flatten_cons, List.flatten_nil, List.length_append, List.length_nil]
      omega
    · simp only [List.cons_append, List.nil_append, List.flatten_cons, List.flatten_nil, List.length_append,
        List.length_nil]
      omega
  exact ⟨declares, sized _ _ List.length_replicate List.length_replicate⟩

end NetProgram

end OidcLogin
