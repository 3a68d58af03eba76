import OidcLogin.Proofs.Client.Credentials
import OidcLogin.Proofs.Client.Failures
import OidcLogin.Proofs.Text.Base64
import OidcLogin.Proofs.Text.Cuts

namespace OidcLogin

open Program

def Text.ofLatin (octets : Bytes) : Text := octets.map fun b => CodePoint.ofNat b.toNat

def Text.IsLatin (t : Text) : Prop := ∀ c ∈ t, c.val < 0x100

instance (t : Text) : Decidable t.IsLatin := inferInstanceAs (Decidable (∀ c ∈ t, c.val < 0x100))

section Latin

variable {t : Text}

theorem Text.encode_latin (latin : t.IsLatin) :
    t.encode .latin1 = .ok (t.map fun c => UInt8.ofNat c.val) := by
  refine Text.encode_eq_ok.2 ⟨fun c member => decide_eq_true (latin c member), ?_⟩
  rw [List.map_eq_flatMap]
  rfl

theorem Text.ofLatin_octets (latin : t.IsLatin) : Text.ofLatin (t.map fun c => UInt8.ofNat c.val) = t := by
  unfold Text.ofLatin
  rw [List.map_map]
  refine (List.map_congr_left fun c member => ?_).trans (List.map_id t)
  have small : c.val < UInt8.size := latin c member
  change CodePoint.ofNat (UInt8.ofNat c.val).toNat = c
  rw [UInt8.toNat_ofNat_of_lt' small, CodePoint.ofNat_val]

end Latin

def Sample.named (clientId : Text) : ProviderConfig := { config with clientId := clientId }

namespace TokenExchange

variable {config : ProviderConfig}

theorem not_beyondLatin_iff : ¬ BeyondLatin config ↔ config.clientId.IsLatin ∧ config.clientSecret.IsLatin := by
  unfold BeyondLatin Text.IsLatin
  simp only [← List.forall_mem_append, not_exists, not_and, not_le]

theorem applicationOctets_eq (config : ProviderConfig) :
    applicationOctets config
      = config.clientId.map (fun c => UInt8.ofNat c.val) ++ 0x3A :: config.clientSecret.map fun c => UInt8.ofNat c.val := by
  unfold applicationOctets
  rw [List.map_append, List.map_cons]
  rfl

theorem ofLatin_applicationOctets (latin : ¬ BeyondLatin config) :
    Text.ofLatin (applicationOctets config)
      = config.clientId ++ CodePoint.ofChar ':' :: config.clientSecret := by
  obtain ⟨name, secret⟩ := not_beyondLatin_iff.1 latin
  refine Text.ofLatin_octets fun c member => ?_
  rcases List.mem_append.1 member with inName | member
  · exact name c inName
  · rcases List.mem_cons.1 member with rfl | inSecret
    · decide
    · exact secret c inSecret

theorem exchange_of_unwritable {client : HttpClient} {code redirectUri : Text} (beyond : BeyondLatin config) :
    ∃ failed, exchange config client (some code) (some redirectUri) = .done (.error failed)
      ∧ failed.kind = .unicodeEncode := by
  rcases prepare_cases config code redirectUri with ⟨_, _, _, latin⟩ | ⟨⟨failed, refused, kind⟩, _⟩
  · exact absurd beyond latin
  · refine ⟨failed, ?_, kind⟩
    unfold exchange
    rw [refused]

-- The authorization of an exchange is Base64 of name, colon and secret, which the provider can take apart exactly if
-- the name has no colon.  An application that Latin-1 cannot write fails before anything is asked for.
theorem credentials_are_recoverable (config : ProviderConfig) (client : HttpClient) (code redirectUri : Text) :
    (config.clientId.IsLatin ∧ config.clientSecret.IsLatin →
      ∃ name secret written, config.clientId.encode .latin1 = .ok name ∧ config.clientSecret.encode .latin1 = .ok secret
        ∧ Base64.Writes (name ++ 0x3A :: secret) written ∧ Base64.decode written = name ++ 0x3A :: secret
        ∧ (code.IsScalar → redirectUri.IsScalar →
            ∃ body, prepare config (some code) (some redirectUri) = .ok (body, "Basic " ++ written))
        ∧ (∀ history result, Runs (exchange config client (some code) (some redirectUri)) history result →
            ∀ exchange ∈ history, exchange.1.Sends fun request => ∃ body,
              Http.prepare "POST" config.tokenEndpoint (formHeaders ("Basic " ++ written)) body = .ok request)
        ∧ ((Text.ofLatin (Base64.decode written)).cutFirst? (CodePoint.ofChar ':')
              = some (config.clientId, config.clientSecret)
            ↔ CodePoint.ofChar ':' ∉ config.clientId))
      ∧ ((∃ c ∈ config.clientId ++ config.clientSecret, 0xFF < c.val) →
          ∃ failed, exchange config client (some code) (some redirectUri) = .done (.error failed)
            ∧ failed.kind = .unicodeEncode) := by
  constructor
  · intro latin
    have within := not_beyondLatin_iff.2 latin
    have octets := applicationOctets_eq config
    refine ⟨_, _, Base64.encode (applicationOctets config), Text.encode_latin latin.1, Text.encode_latin latin.2,
      octets ▸ Base64.writes_iff.2 rfl, octets ▸ Base64.decode_encode _, ?_, ?_, ?_⟩
    · intro codeScalar redirectScalar
      rcases prepare_cases config code redirectUri with ⟨⟨⟨body, authorization⟩, form⟩, _⟩ | ⟨_, unwritable⟩
      · obtain rfl := authorization_of_prepare form
        exact ⟨body, form⟩
      · exact absurd ⟨codeScalar, redirectScalar, within⟩ unwritable
    · intro history result runs
      refine ((asks_exchange fun body authorization request form made => ?_).of_runs runs).1
      obtain rfl := authorization_of_prepare form
      exact ⟨body, made⟩
    · rw [Base64.decode_encode, ofLatin_applicationOctets within, Text.cutFirst?_eq_some]
      exact and_iff_right rfl
  · exact exchange_of_unwritable

theorem credentials_are_recoverable_of_names :
    (∃ body written, prepare (Sample.named "cid") (some "abc") (some Sample.config.callbackUrl)
          = .ok (body, "Basic " ++ written)
        ∧ (Text.ofLatin (Base64.decode written)).cutFirst? (CodePoint.ofChar ':')
          = some (("cid" : Text), ("secret" : Text)))
      ∧ (∃ body written, prepare (Sample.named "a:b") (some "abc") (some Sample.config.callbackUrl)
            = .ok (body, "Basic " ++ written)
          ∧ (Text.ofLatin (Base64.decode written)).cutFirst? (CodePoint.ofChar ':')
            ≠ some (("a:b" : Text), ("secret" : Text)))
      ∧ ∃ failed, exchange (Sample.named "€") .given (some "abc") (some Sample.config.callbackUrl) = .done (.error failed)
          ∧ failed.kind = .unicodeEncode := by
  have scalar : Text.IsScalar "abc" ∧ Text.IsScalar Sample.config.callbackUrl := by decide
  refine ⟨?_, ?_, ?_⟩
  · obtain ⟨_, _, written, _, _, _, _, form, _, reads⟩ :=
      (credentials_are_recoverable (Sample.named "cid") .given "abc" Sample.config.callbackUrl).1 (by decide)
    obtain ⟨body, prepared⟩ := form scalar.1 scalar.2
    exact ⟨body, written, prepared, reads.2 (by decide)⟩
  · obtain ⟨_, _, written, _, _, _, _, form, _, reads⟩ :=
      (credentials_are_recoverable (Sample.named "a:b") .given "abc" Sample.config.callbackUrl).1 (by decide)
    obtain ⟨body, prepared⟩ := form scalar.1 scalar.2
    exact ⟨body, written, prepared, fun same => reads.1 same (by decide)⟩
  · exact (credentials_are_recoverable (Sample.named "€") .given "abc" Sample.config.callbackUrl).2 (by decide)

end TokenExchange

end OidcLogin
