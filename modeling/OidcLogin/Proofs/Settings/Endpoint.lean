import OidcLogin.Proofs.Provider.Resolution

namespace OidcLogin

namespace Url

def IsPortPart (port : Text) : Prop := port = [] ∨ port.head? = some (CodePoint.ofChar ':')

-- A host as it is written with a port: a name before the first colon, or an address in brackets.  The second bracket
-- may be missing, if one stands in the user information.
inductive Locates : Text → Text → Prop
  | name {host port : Text} (free : CodePoint.ofChar ':' ∉ host) (bare : CodePoint.ofChar '[' ∉ host ++ port)
      (ends : IsPortPart port) : Locates (host ++ port) host
  | address {host rest : Text} (closed : CodePoint.ofChar ']' ∉ host)
      (ends : rest = [] ∨ ∃ port, rest = CodePoint.ofChar ']' :: port ∧ IsPortPart port) :
      Locates (CodePoint.ofChar '[' :: (host ++ rest)) host

-- The host of an authority, which may come after user information; this ends with the last `@`.
inductive HasHost : Text → Text → Prop
  | alone {location host : Text} (unmarked : CodePoint.ofChar '@' ∉ location) (located : Locates location host) :
      HasHost location host
  | user {user location host : Text} (unmarked : CodePoint.ofChar '@' ∉ location) (located : Locates location host) :
      HasHost (user ++ CodePoint.ofChar '@' :: location) host

def locationOf (authority : Text) : Text :=
  ((authority.cutLast? (CodePoint.ofChar '@')).map (·.2)).getD authority

def hostIn (location : Text) : Text :=
  match location.cutFirst? (CodePoint.ofChar '[') with
  | none => (cutAt ':' location).1
  | some (_, bracketed) => (cutAt ']' bracketed).1

def hostOf (authority : Text) : Text := hostIn (locationOf authority)

section Host

variable {authority location host other port : Text} {mark : Char}

theorem cutAt_fst_append (free : CodePoint.ofChar mark ∉ host)
    (ends : port = [] ∨ port.head? = some (CodePoint.ofChar mark)) : (cutAt mark (host ++ port)).1 = host := by
  rcases ends with rfl | marked
  · have whole := cutAt_marked free []
    exact congrArg Prod.fst whole
  · obtain ⟨rest, rfl⟩ := List.head?_eq_some_iff.1 marked
    unfold cutAt
    rw [Text.cutFirst?_eq_some.2 ⟨rfl, free⟩]
    rfl

theorem cutAt_append (mark : Char) (t : Text) :
    ∃ rest, t = (cutAt mark t).1 ++ rest ∧ (rest = [] ∨ rest = CodePoint.ofChar mark :: (cutAt mark t).2) := by
  unfold cutAt
  cases cut : t.cutFirst? (CodePoint.ofChar mark) with
  | none => exact ⟨[], (List.append_nil t).symm, .inl rfl⟩
  | some halves => exact ⟨_, (Text.cutFirst?_eq_some.1 cut).1, .inr rfl⟩

theorem Locates.hostIn_eq (locates : Locates location host) : hostIn location = host := by
  unfold hostIn
  cases locates with
  | name free bare ends =>
    rw [Text.cutFirst?_eq_none.2 bare]
    exact cutAt_fst_append free ends
  | address closed ends =>
    rw [Text.cutFirst?_cons_self]
    refine cutAt_fst_append closed ?_
    rcases ends with empty | ⟨port, rfl, _⟩
    · exact .inl empty
    · exact .inr rfl

theorem HasHost.hostOf_eq (has : HasHost authority host) : hostOf authority = host := by
  unfold hostOf locationOf
  cases has with
  | alone unmarked located =>
    rw [Text.cutLast?_eq_none unmarked]
    exact located.hostIn_eq
  | user unmarked located =>
    rw [Text.cutLast?_append unmarked]
    exact located.hostIn_eq

theorem HasHost.unique (has : HasHost authority host) (another : HasHost authority other) : host = other :=
  has.hostOf_eq.symm.trans another.hostOf_eq

theorem hasHost_of_locates (located : Locates (locationOf authority) host) : HasHost authority host := by
  by_cases marked : CodePoint.ofChar '@' ∈ authority
  · obtain ⟨user, location, rfl, unmarked⟩ := Text.exists_last_cut marked
    unfold locationOf at located
    rw [Text.cutLast?_append unmarked] at located
    exact .user unmarked located
  · unfold locationOf at located
    rw [Text.cutLast?_eq_none marked] at located
    exact .alone marked located

theorem mem_of_mem_locationOf {c : CodePoint} (member : c ∈ locationOf authority) : c ∈ authority := by
  by_cases marked : CodePoint.ofChar '@' ∈ authority
  · obtain ⟨user, location, rfl, unmarked⟩ := Text.exists_last_cut marked
    unfold locationOf at member
    rw [Text.cutLast?_append unmarked] at member
    exact List.mem_append_right _ (List.mem_cons_of_mem _ member)
  · unfold locationOf at member
    rwa [Text.cutLast?_eq_none marked] at member

-- Brackets that were checked begin the location, and only a port comes after them.
theorem bracketed_of_checkBrackets (checked : checkBrackets authority = .ok ())
    (bracketed : CodePoint.ofChar '[' ∈ locationOf authority) :
    ∃ after, locationOf authority = CodePoint.ofChar '[' :: after ∧ IsPortPart (cutAt ']' after).2 := by
  have opens : authority.contains (CodePoint.ofChar '[') = true :=
    List.contains_iff_mem.2 (mem_of_mem_locationOf bracketed)
  unfold checkBrackets at checked
  dsimp only at checked
  rw [opens] at checked
  split at checked
  · cases checked
  · rw [Bool.not_true, if_neg Bool.false_ne_true] at checked
    change (match (locationOf authority).cutFirst? (CodePoint.ofChar '[') with
      | none => _
      | some (before, after) => _) = _ at checked
    cases cut : (locationOf authority).cutFirst? (CodePoint.ofChar '[') with
    | none => exact absurd bracketed (Text.cutFirst?_eq_none.1 cut)
    | some halves =>
      obtain ⟨before, after⟩ := halves
      obtain ⟨joined, _⟩ := Text.cutFirst?_eq_some.1 cut
      rw [cut] at checked
      dsimp only at checked
      split at checked
      · cases checked
      · rename_i first
        split at checked
        · cases checked
        · rename_i last
          have empty : before = [] := by simpa using first
          refine ⟨after, by rw [joined, empty, List.nil_append], ?_⟩
          by_cases none : (cutAt ']' after).2 = []
          · exact .inl none
          · exact .inr (by simpa [none] using last)

theorem hasHost_of_checkBrackets (checked : checkBrackets authority = .ok ()) :
    HasHost authority (hostOf authority) := by
  apply hasHost_of_locates
  unfold hostOf hostIn
  by_cases bracketed : CodePoint.ofChar '[' ∈ locationOf authority
  · obtain ⟨after, whole, port⟩ := bracketed_of_checkBrackets checked bracketed
    obtain ⟨rest, joined, ends⟩ := cutAt_append ']' after
    rw [whole, Text.cutFirst?_cons_self]
    dsimp only
    nth_rewrite 1 [joined]
    exact .address (cutAt_free ']' after) (ends.imp_right fun closing => ⟨_, closing, port⟩)
  · obtain ⟨rest, joined, ends⟩ := cutAt_append ':' (locationOf authority)
    rw [Text.cutFirst?_eq_none.2 bracketed]
    dsimp only
    nth_rewrite 1 [joined]
    refine .name (cutAt_free ':' _) (joined ▸ bracketed) (ends.imp_right fun closing => ?_)
    rw [closing]
    rfl

theorem checkBrackets_of_split {t : Text} {parts : Parts} (split : Url.split t = .ok parts) :
    checkBrackets parts.authority = .ok () := by
  rw [(split_eq_ok split).2]
  unfold Url.split splitAs at split
  dsimp only at split
  split at split
  · cases split
  · assumption

end Host

def Parts.Allowed (parts : Parts) (allowHttp : Bool) : Prop :=
  parts.scheme = "https" ∨ parts.scheme = "http" ∧ allowHttp = true

end Url

def IsWebAddress (allowHttp : Bool) (url : Text) : Prop :=
  ∃ parts host, Url.split url = .ok parts ∧ parts.Allowed allowHttp ∧ Url.HasHost parts.authority host ∧ host ≠ []

-- An address of the web whose authority is there, but is nothing besides a user and a port.
def LacksHost (allowHttp : Bool) (url : Text) : Prop :=
  ∃ parts, Url.split url = .ok parts ∧ parts.Allowed allowHttp ∧ parts.authority ≠ [] ∧ Url.HasHost parts.authority []

def SettingFault.setting : SettingFault → Text
  | .missing name | .malformed name _ _ | .plainHttp name _ => name

section Endpoint

variable {name url : Text} {value : Option Text} {allowHttp : Bool} {fault : SettingFault}

theorem accepts_iff : Accepts allowHttp url ↔ IsWebAddress allowHttp url ∨ LacksHost allowHttp url := by
  constructor
  · rintro ⟨parts, split, scheme, full⟩
    have has := Url.hasHost_of_checkBrackets (Url.checkBrackets_of_split split)
    by_cases host : Url.hostOf parts.authority = []
    · exact .inr ⟨parts, split, scheme, full, host ▸ has⟩
    · exact .inl ⟨parts, _, split, scheme, has, host⟩
  · rintro (⟨parts, host, split, scheme, has, full⟩ | ⟨parts, split, scheme, full, _⟩)
    · refine ⟨parts, split, scheme, fun empty => full ?_⟩
      rw [← has.hostOf_eq, empty]
      rfl
    · exact ⟨parts, split, scheme, full⟩

theorem not_isWebAddress_of_lacksHost (lacks : LacksHost allowHttp url) : ¬ IsWebAddress allowHttp url := by
  rintro ⟨parts, host, split, _, has, full⟩
  obtain ⟨others, again, _, _, none⟩ := lacks
  cases split.symm.trans again
  exact full (has.unique none)

-- How the check refuses a value.
inductive Refuses (name : Text) (allowHttp : Bool) : Option Text → SettingFault → Prop
  | absent : Refuses name allowHttp none (.missing name)
  | empty : Refuses name allowHttp (some []) (.missing name)
  | unread {url : Text} {fault : Url.SplitFault} (unread : Url.split url = .error fault) :
      Refuses name allowHttp (some url) (.malformed name url true)
  | foreign {url : Text} {parts : Url.Parts} (split : Url.split url = .ok parts) (foreign : ¬ parts.Accepted true) :
      Refuses name allowHttp (some url) (.malformed name url false)
  | plain {url : Text} {parts : Url.Parts} (split : Url.split url = .ok parts) (http : parts.scheme = "http") :
      Refuses name allowHttp (some url) (.plainHttp name url)

theorem refuses_of_checkEndpoint (refused : checkEndpoint name value allowHttp = .error fault) :
    Refuses name allowHttp value fault := by
  unfold checkEndpoint at refused
  split at refused
  · cases refused
    exact .absent
  · cases refused
    exact .empty
  · split at refused
    · rename_i unread
      cases refused
      exact .unread unread
    · rename_i parts split
      split at refused
      · rename_i unknown
        cases refused
        exact .foreign split fun accepted => Bool.false_ne_true ((accepted_iff.1 accepted).1.symm.trans unknown)
      · split at refused
        · rename_i policy
          cases refused
          exact .plain split (by simpa using (Bool.and_eq_true_iff.1 policy).1)
        · cases refused

theorem Refuses.setting (refuses : Refuses name allowHttp value fault) : fault.setting = name := by
  cases refuses with
  | _ => rfl

theorem refused_iff (name : Text) (value : Option Text) (allowHttp : Bool) :
    (∃ fault, checkEndpoint name value allowHttp = .error fault)
      ↔ ¬ ∃ url, value = some url ∧ Accepts allowHttp url := by
  constructor
  · rintro ⟨fault, refused⟩ ⟨url, given, accepts⟩
    cases refused.symm.trans (checkEndpoint_eq_ok.2 ⟨given, accepts⟩)
  · intro unaccepted
    cases checked : checkEndpoint name value allowHttp with
    | ok url => exact absurd ⟨url, checkEndpoint_eq_ok.1 checked⟩ unaccepted
    | error fault => exact ⟨fault, rfl⟩

theorem Refuses.plainHttp_of_accepts (refuses : Refuses name false (some url) fault) (accepts : Accepts true url) :
    (∃ parts, Url.split url = .ok parts ∧ parts.scheme = "http") ∧ fault = .plainHttp name url := by
  have full := accepts.ne_nil
  obtain ⟨parts, split, accepted⟩ := accepts
  cases refuses with
  | empty => exact absurd rfl full
  | unread unread => cases unread.symm.trans split
  | foreign again foreign =>
    cases again.symm.trans split
    exact absurd accepted foreign
  | plain again http => exact ⟨⟨_, again, http⟩, rfl⟩

-- An address with a host is let through, and so is an authority that names none; everything else is a fault of the
-- setting.
theorem checkEndpoint_decides (name : Text) (value : Option Text) (allowHttp : Bool) :
    (∀ url, checkEndpoint name value allowHttp = .ok url
        ↔ value = some url ∧ (IsWebAddress allowHttp url ∨ LacksHost allowHttp url))
      ∧ (∀ url, LacksHost allowHttp url → ¬ IsWebAddress allowHttp url)
      ∧ ((∃ fault, checkEndpoint name value allowHttp = .error fault ∧ (Failure.setting fault).kind = .configuration
            ∧ fault.setting = name)
          ↔ ¬ ∃ url, value = some url ∧ (IsWebAddress allowHttp url ∨ LacksHost allowHttp url))
      ∧ ∀ url fault, checkEndpoint name (some url) false = .error fault → checkEndpoint name (some url) true = .ok url →
          (∃ parts, Url.split url = .ok parts ∧ parts.scheme = "http") ∧ fault = .plainHttp name url := by
  have decides : ∀ url, checkEndpoint name value allowHttp = .ok url
      ↔ value = some url ∧ (IsWebAddress allowHttp url ∨ LacksHost allowHttp url) :=
    fun url => checkEndpoint_eq_ok.trans (and_congr_right fun _ => accepts_iff)
  have refuses : (∃ fault, checkEndpoint name value allowHttp = .error fault)
      ↔ ¬ ∃ url, value = some url ∧ (IsWebAddress allowHttp url ∨ LacksHost allowHttp url) := by
    simp only [refused_iff, accepts_iff]
  refine ⟨decides, fun url => not_isWebAddress_of_lacksHost, ?_, fun url fault refused accepted => ?_⟩
  · constructor
    · rintro ⟨fault, refused, _⟩
      exact refuses.1 ⟨fault, refused⟩
    · intro unaccepted
      obtain ⟨fault, refused⟩ := refuses.2 unaccepted
      exact ⟨fault, refused, rfl, (refuses_of_checkEndpoint refused).setting⟩
  · exact (refuses_of_checkEndpoint refused).plainHttp_of_accepts (checkEndpoint_eq_ok.1 accepted).2

-- A port alone is an authority.
theorem lacksHost_of_port : LacksHost false "https://:443" :=
  ⟨_, rfl, .inl rfl, by decide,
    .alone (by decide) (@Url.Locates.name [] ":443" (by decide) (by decide) (.inr rfl))⟩

theorem accepts_port_without_host :
    checkEndpoint "issuer_url" (some "https://:443") false = .ok "https://:443" ∧ ¬ IsWebAddress false "https://:443" :=
  ⟨checkEndpoint_eq_ok.2 ⟨rfl, accepts_iff.2 (.inr lacksHost_of_port)⟩, not_isWebAddress_of_lacksHost lacksHost_of_port⟩

theorem checkEndpoint_decides_of_internal :
    (LacksHost false "https://:443" ∧ ¬ IsWebAddress false "https://:443")
      ∧ ∃ fault, checkEndpoint "issuer_url" (some "http://idp.internal") false = .error fault
          ∧ checkEndpoint "issuer_url" (some "http://idp.internal") true = .ok "http://idp.internal"
          ∧ fault = .plainHttp "issuer_url" "http://idp.internal" := by
  obtain ⟨_, disjoint, _, policy⟩ := checkEndpoint_decides "issuer_url" (some "http://idp.internal") false
  refine ⟨⟨lacksHost_of_port, disjoint _ lacksHost_of_port⟩, _, rfl, rfl, ?_⟩
  exact (policy _ _ rfl rfl).2

end Endpoint

end OidcLogin
