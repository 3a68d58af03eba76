import Mathlib.Data.List.Forall2
import OidcLogin.Proofs.Secrecy.Answers
import OidcLogin.Proofs.Secrecy.Query

namespace OidcLogin

def ProviderConfig.withSecret (config : ProviderConfig) (secret : Text) : ProviderConfig :=
  { config with clientSecret := secret }

def IsLatin (t : Text) : Prop := ∀ c ∈ t, Charset.latin1.accepts c = true

theorem Text.writtenAlike_of_isScalar {t other : Text} (scalar : t.IsScalar) (scalarOther : other.IsScalar) :
    WrittenAlike .utf8 t other := by
  obtain ⟨octets, written⟩ := exists_encode_utf8.2 scalar
  obtain ⟨others, writtenOther⟩ := exists_encode_utf8.2 scalarOther
  exact writtenAlike_of_accepts (encode_eq_ok.1 written).1 (encode_eq_ok.1 writtenOther).1

theorem Text.takeWhile_append_stop {p : CodePoint → Bool} {stop : CodePoint} (stops : p stop = false)
    (front back : Text) : (front ++ stop :: back).takeWhile p = front.takeWhile p := by
  induction front with
  | nil => exact List.takeWhile_cons_of_neg (by simp [stops])
  | cons first front ih => rw [List.cons_append, List.takeWhile_cons, List.takeWhile_cons, ih]

-- A run of characters that cannot be written ends before one that can, so what comes after does not count.
theorem Text.writtenAlike_append {charset : Charset} {front back other : Text} {stop : CodePoint}
    (stops : charset.accepts stop = true) (written : ∀ c ∈ back, charset.accepts c = true)
    (writtenOther : ∀ c ∈ other, charset.accepts c = true) :
    WrittenAlike charset (front ++ stop :: back) (front ++ stop :: other) := by
  cases rest : front.dropWhile charset.accepts with
  | nil =>
    have all := List.dropWhile_eq_nil_iff.1 rest
    refine writtenAlike_of_accepts ?_ ?_
    · exact List.forall_mem_append.2 ⟨all, List.forall_mem_cons.2 ⟨stops, written⟩⟩
    · exact List.forall_mem_append.2 ⟨all, List.forall_mem_cons.2 ⟨stops, writtenOther⟩⟩
  | cons refused after =>
    have fault (end' : Text) : (front ++ stop :: end').encode charset
        = .error ⟨charset, refused, (front.takeWhile charset.accepts).length,
            (after.takeWhile (!charset.accepts ·)).length + 1⟩ := by
      have dropped : (front ++ stop :: end').dropWhile charset.accepts = refused :: (after ++ stop :: end') := by
        rw [List.dropWhile_append, rest]
        rfl
      have taken : (front ++ stop :: end').takeWhile charset.accepts = front.takeWhile charset.accepts := by
        rw [List.takeWhile_append, if_neg]
        intro whole
        have same : front.takeWhile charset.accepts ++ front.dropWhile charset.accepts = front :=
          List.takeWhile_append_dropWhile
        have lengths := congrArg List.length same
        rw [List.length_append, whole, rest, List.length_cons] at lengths
        omega
      unfold Text.encode
      dsimp only
      rw [dropped, taken]
      dsimp only
      rw [Text.takeWhile_append_stop (by simp [stops])]
    unfold WrittenAlike
    rw [fault, fault]
    exact .failed _

def WrittenPair (charset : Charset) (pair other : Text × Text) : Prop :=
  pair.1 = other.1 ∧ Text.WrittenAlike charset pair.2 other.2

theorem WrittenPair.refl {charset : Charset} (pair : Text × Text) : WrittenPair charset pair pair := ⟨rfl, .refl _⟩

theorem forall₂_written (charset : Charset) (pairs : List (Text × Text)) :
    List.Forall₂ (WrittenPair charset) pairs pairs := List.forall₂_same.2 fun pair _ => .refl pair

namespace Form

theorem encodeText_alike {v w : Text} (alike : Text.WrittenAlike .utf8 v w) :
    EndAlike (fun _ _ => True) (encodeText v) (encodeText w) := alike.map fun _ _ _ => trivial

theorem encodePair_alike (name : Text) {v w : Text} (alike : Text.WrittenAlike .utf8 v w) :
    EndAlike (fun _ _ => True) (encodePair name v) (encodePair name w) := by
  unfold encodePair
  cases encodeText name with
  | error fault => exact .failed fault
  | ok name =>
    rcases (encodeText_alike alike).ends with ⟨fault, here, there⟩ | ⟨value, other, here, there, _⟩
    · rw [here, there]
      exact .failed fault
    · rw [here, there]
      exact .done trivial

theorem encodePairs_alike {pairs others : Pairs} (alike : List.Forall₂ (WrittenPair .utf8) pairs others) :
    EndAlike (fun _ _ => True) (encodePairs pairs) (encodePairs others) := by
  induction alike with
  | nil => exact .done trivial
  | @cons pair other pairs others first rest ih =>
    obtain ⟨name, value⟩ := pair
    obtain ⟨_, another⟩ := other
    obtain ⟨rfl, written⟩ := first
    unfold encodePairs
    rcases (encodePair_alike name written).ends with ⟨fault, here, there⟩ | ⟨piece, given, here, there, _⟩
    · rw [here, there]
      exact .failed fault
    · rw [here, there]
      exact ih.map fun _ _ _ => trivial

theorem accepts_of_mem_encode {pairs : Pairs} {body : Text} (written : encode pairs = .ok body) :
    ∀ c ∈ body, Charset.utf8.accepts c = true := by
  intro c member
  have ascii : c.isAscii = true := by
    rcases mem_encode written member with inside | rfl | rfl
    · exact isAscii_of_isWritten inside
    · rfl
    · rfl
  simp only [CodePoint.isAscii, decide_eq_true_eq] at ascii
  simp only [Charset.accepts, CodePoint.isSurrogate, Bool.not_eq_true', Bool.and_eq_false_iff, decide_eq_false_iff_not]
  omega

theorem encode_alike {pairs others : Pairs} (alike : List.Forall₂ (WrittenPair .utf8) pairs others) :
    EndAlike (Text.WrittenAlike .utf8) (encode pairs) (encode others) := by
  rcases (encodePairs_alike alike).ends with ⟨fault, here, there⟩ | ⟨pieces, more, here, there, _⟩
  · unfold encode
    rw [here, there]
    exact .failed fault
  · have first : encode pairs = .ok (Text.join "&" pieces) := by
      unfold encode
      rw [here]
      rfl
    have second : encode others = .ok (Text.join "&" more) := by
      unfold encode
      rw [there]
      rfl
    rw [first, second]
    exact .done (Text.writtenAlike_of_accepts (accepts_of_mem_encode first) (accepts_of_mem_encode second))

end Form

namespace Base64

theorem val_character (n : Nat) : (character n).val < 0x80 := by
  by_cases small : n < 64
  · have all : ∀ n < 64, (character n).val < 0x80 := by decide
    exact all n small
  · unfold character
    rw [if_neg (by omega), if_neg (by omega), if_neg (by omega), if_neg (by omega)]
    decide

theorem val_of_mem_encode (octets : Bytes) : ∀ c ∈ encode octets, c.val < 0x80 := by
  have padding : (CodePoint.ofChar '=').val < 0x80 := by decide
  fun_induction encode octets with
  | case1 => exact List.forall_mem_nil _
  | case2 a => simp [val_character, padding]
  | case3 a b => simp [val_character, padding]
  | case4 a b c rest ih =>
    simp only [List.forall_mem_cons]
    exact ⟨val_character _, val_character _, val_character _, val_character _, ih⟩

end Base64

namespace TokenExchange

variable {config : ProviderConfig} {code other secret another : Text}

theorem formPairs_alike (alike : Form.ValueAlike "code" code other) (redirectUri : Option Text) :
    List.Forall₂ (WrittenPair .utf8) (formPairs code redirectUri) (formPairs other redirectUri) := by
  unfold formPairs
  rcases alike with rfl | ⟨_, ⟨full, scalar⟩, fullOther, scalarOther⟩
  · exact forall₂_written _ _
  · rw [List.isEmpty_eq_false_iff.2 full, List.isEmpty_eq_false_iff.2 fullOther, if_neg Bool.false_ne_true,
      if_neg Bool.false_ne_true]
    refine .cons (.refl _) (List.rel_append (forall₂_written _ _) (.cons ⟨rfl, ?_⟩ .nil))
    exact Text.writtenAlike_of_isScalar scalar scalarOther

variable (config) in
theorem credentials_alike (latin : IsLatin secret) (latinOther : IsLatin another) :
    EndAlike (fun _ _ => True) (credentials (config.withSecret secret)) (credentials (config.withSecret another)) :=
  Text.writtenAlike_append (by decide) latin latinOther

theorem basicAuthorization_alike (octets others : Bytes) :
    Text.WrittenAlike .ascii (Http.basicAuthorization octets) (Http.basicAuthorization others) := by
  have ascii (octets : Bytes) : ∀ c ∈ Http.basicAuthorization octets, Charset.ascii.accepts c = true :=
    List.forall_mem_append.2 ⟨by decide, fun c member => decide_eq_true (Base64.val_of_mem_encode octets c member)⟩
  exact Text.writtenAlike_of_accepts (ascii octets) (ascii others)

variable (config) in
theorem prepare_alike (alike : Form.ValueAlike "code" code other) (latin : IsLatin secret)
    (latinOther : IsLatin another) (redirectUri : Option Text) :
    EndAlike (fun form given => Text.WrittenAlike .utf8 form.1 given.1 ∧ Text.WrittenAlike .ascii form.2 given.2)
      (prepare (config.withSecret secret) (some code) redirectUri)
      (prepare (config.withSecret another) (some other) redirectUri) := by
  unfold prepare
  dsimp only
  rcases (Form.encode_alike (formPairs_alike alike redirectUri)).ends with
    ⟨fault, here, there⟩ | ⟨body, given, here, there, written⟩
  · rw [here, there]
    exact .failed _
  · rw [here, there]
    dsimp only
    rcases (credentials_alike config latin latinOther).ends with
      ⟨fault, here, there⟩ | ⟨octets, others, here, there, _⟩
    · rw [here, there]
      exact .failed _
    · rw [here, there]
      exact .done ⟨written, basicAuthorization_alike octets others⟩

theorem formHeaders_alike {authorization given : Text} (alike : Text.WrittenAlike .ascii authorization given) :
    List.Forall₂ (WrittenPair .ascii) (formHeaders authorization) (formHeaders given) :=
  .cons (.refl _) (.cons (.refl _) (.cons ⟨rfl, alike⟩ .nil))

end TokenExchange

theorem Text.writtenAlike_prepend {charset : Charset} {front t other : Text}
    (written : ∀ c ∈ front, charset.accepts c = true) (alike : WrittenAlike charset t other) :
    WrittenAlike charset (front ++ t) (front ++ other) := by
  have shifted (end' : Text) : (front ++ end').encode charset
      = ((end'.encode charset).map (front.flatMap charset.octets ++ ·)).mapError fun fault =>
          { fault with start := front.length + fault.start } := by
    unfold Text.encode
    rw [List.dropWhile_append_of_pos written, List.takeWhile_append_of_pos written, List.flatMap_append]
    dsimp only
    cases end'.dropWhile charset.accepts with
    | nil => rfl
    | cons refused rest =>
      rw [List.length_append]
      rfl
  unfold WrittenAlike at alike ⊢
  rw [shifted, shifted]
  exact (alike.map fun _ _ _ => trivial).mapError _

theorem UserInfo.headers_alike {accessToken given : Text} (alike : Text.WrittenAlike .ascii accessToken given) :
    List.Forall₂ (WrittenPair .ascii) (headers accessToken) (headers given) :=
  .cons (.refl _) (.cons ⟨rfl, Text.writtenAlike_prepend (by decide) alike⟩ .nil)

namespace Http

variable {headers others : Headers}

theorem checkHeaders_eq (alike : List.Forall₂ (WrittenPair .ascii) headers others) :
    checkHeaders headers = checkHeaders others := by
  induction alike with
  | nil => rfl
  | @cons header other headers others first rest ih =>
    obtain ⟨name, value⟩ := header
    obtain ⟨_, given⟩ := other
    obtain ⟨rfl, written⟩ := first
    unfold checkHeaders
    dsimp only
    rcases EndAlike.ends written with ⟨fault, here, there⟩ | ⟨_, _, here, there, _⟩
    · rw [here, there]
    · rw [here, there, ih]

theorem Headers.has_eq_any (headers : Headers) (name : Text) :
    headers.has name = headers.any fun header => decide (header.1.lower = name.lower) := by
  unfold has get?
  cases found : headers.filter fun header => decide (header.1.lower = name.lower) with
  | nil => exact (List.any_eq_false.2 (List.filter_eq_nil_iff.1 found)).symm
  | cons first rest =>
    have member : first ∈ headers.filter fun header => decide (header.1.lower = name.lower) :=
      found ▸ List.mem_cons_self
    obtain ⟨given, named⟩ := List.mem_filter.1 member
    exact (List.any_eq_true.2 ⟨first, given, named⟩).symm

theorem Headers.has_eq (alike : List.Forall₂ (WrittenPair .ascii) headers others) (name : Text) :
    headers.has name = others.has name := by
  rw [has_eq_any, has_eq_any]
  induction alike with
  | nil => rfl
  | cons first rest ih => rw [List.any_cons, List.any_cons, ih, first.1]

theorem checkHost_eq (alike : List.Forall₂ (WrittenPair .ascii) headers others) (url : RequestUrl) :
    checkHost url headers = checkHost url others := by
  unfold checkHost
  rw [Headers.has_eq alike]

theorem authorize_alike (url : RequestUrl) (headers others : Headers) :
    EndAlike (fun _ _ => True) (authorize url headers) (authorize url others) := by
  unfold authorize
  cases url.credentials? with
  | none => exact .done trivial
  | some pair =>
    obtain ⟨name, password⟩ := pair
    dsimp only
    cases name.encode .utf8 with
    | error fault => exact .failed fault
    | ok name =>
      cases password.encode .utf8 with
      | error fault => exact .failed fault
      | ok password => exact .done trivial

theorem prepare_alike {content given : Text} (method url : Text)
    (alike : List.Forall₂ (WrittenPair .ascii) headers others) (written : Text.WrittenAlike .utf8 content given) :
    EndAlike (fun request other => request.method = method.capitals ∧ other.method = method.capitals
        ∧ request.url = other.url)
      (prepare method url headers content) (prepare method url others given) := by
  unfold prepare
  cases RequestUrl.forRequest url with
  | error fault => exact .failed _
  | ok target =>
    dsimp only
    rw [checkHeaders_eq alike, checkHost_eq alike]
    cases checkHeaders others with
    | error fault => exact .failed _
    | ok _ =>
      dsimp only
      rcases EndAlike.ends written with ⟨fault, here, there⟩ | ⟨body, _, here, there, _⟩
      · rw [here, there]
        exact .failed _
      · rw [here, there]
        dsimp only
        cases checkHost target others with
        | error fault => exact .failed _
        | ok _ =>
          dsimp only
          rcases (authorize_alike target (mergeHeaders headers) (mergeHeaders others)).ends with
            ⟨fault, here, there⟩ | ⟨_, _, here, there, _⟩
          · rw [here, there]
            exact .failed _
          · rw [here, there]
            exact .done ⟨rfl, rfl, rfl⟩

end Http

end OidcLogin
