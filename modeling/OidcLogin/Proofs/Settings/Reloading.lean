import Mathlib.Data.List.Basic
import Mathlib.Data.List.Nodup
import OidcLogin.Proofs.Json.Writable
import OidcLogin.Proofs.Settings.Normal
import OidcLogin.Proofs.Text.Numerals

namespace OidcLogin

namespace Members

variable {members : Members} {name : Text} {value : Json}

theorem get?_of_mem (distinct : (members.map Prod.fst).Nodup) (member : (name, value) ∈ members) :
    members.get? name = some value := by
  obtain ⟨before, after, rfl⟩ := List.append_of_mem member
  refine List.lookup_eq_some_iff.2 ⟨before, after, rfl, fun pair earlier => ?_⟩
  rw [List.map_append, List.map_cons, List.nodup_middle, List.nodup_cons] at distinct
  have before' : pair.1 ∈ before.map Prod.fst := List.mem_map_of_mem earlier
  have elsewhere : name ≠ pair.1 := fun same => distinct.1 (List.mem_append_left _ (same ▸ before'))
  simpa using elsewhere

theorem put_of_not_mem (unnamed : name ∉ members.map Prod.fst) :
    members.put name value = members ++ [(name, value)] := by
  induction members with
  | nil => rfl
  | cons first rest ih =>
    obtain ⟨other, old⟩ := first
    have different : other ≠ name := fun same => unnamed (same ▸ List.mem_cons_self)
    rw [put, if_neg different, ih fun later => unnamed (List.mem_cons_of_mem _ later), List.cons_append]

theorem foldl_put (before : Members) (distinct : ((before ++ members).map Prod.fst).Nodup) :
    members.foldl (fun members pair => members.put pair.1 pair.2) before = before ++ members := by
  induction members generalizing before with
  | nil => exact (List.append_nil before).symm
  | cons first rest ih =>
    have fresh : first.1 ∉ before.map Prod.fst := by
      rw [List.map_append, List.map_cons, List.nodup_middle, List.nodup_cons] at distinct
      exact fun earlier => distinct.1 (List.mem_append_left _ earlier)
    rw [List.foldl_cons, put_of_not_mem fresh, ih (before ++ [first]) (by simpa using distinct)]
    simp

end Members

def Shown.value : Shown → Json
  | .plain value => value
  | .secret t => .text t

def ShownFields.values (fields : ShownFields) : Members := fields.map fun field => (field.1, field.2.value)

namespace Settings

variable {s : Settings} {members : Members} {keywords : Members} {environment : List (Text × Text)}
  {given? : Option Text} {given w : Text}

-- The fields with their values, as settings are loaded from them.
def values (s : Settings) : Members := s.shown.values

theorem names_values (s : Settings) : s.values.map Prod.fst = fieldNames := rfl

theorem nodup_fieldNames : fieldNames.Nodup := by
  unfold fieldNames
  repeat rw [Text.ofString_ofList]
  decide +kernel

theorem fieldOf?_of_mem : ∀ name ∈ fieldNames, fieldOf? name = some name := by
  unfold fieldOf? fieldNames
  repeat rw [Text.ofString_ofList]
  decide +kernel

theorem name_mem_of_mem {pair : Text × Json} (member : pair ∈ s.values) : pair.1 ∈ fieldNames := by
  rw [← names_values s]
  exact List.mem_map_of_mem member

theorem distinct_values (s : Settings) : (s.values.map Prod.fst).Nodup := by
  rw [names_values]
  exact nodup_fieldNames

theorem merge_values (s : Settings) : merge s.values [] = s.values := by
  have named : ∀ pair ∈ s.values, (fieldOf? pair.1).getD pair.1 = pair.1 := fun pair member => by
    rw [fieldOf?_of_mem _ (name_mem_of_mem member), Option.getD_some]
  calc merge s.values []
      = s.values.foldl (fun members pair => Members.put members pair.1 pair.2) [] :=
        List.foldl_ext _ _ _ fun members pair member => by dsimp only; rw [named pair member]
    _ = s.values := Members.foldl_put [] s.distinct_values

theorem withDefault_values {α : Type} {name : Text} {default a : α} {read : Reader α} (field : Shown)
    (member : (name, field) ∈ s.shown) (again : read ⟨name, none⟩ field.value = .ok a) :
    s.values.withDefault name default read = .ok a := by
  have valued : (name, field.value) ∈ s.values := List.mem_map.2 ⟨_, member, rfl⟩
  unfold Members.withDefault
  rw [Members.get?_of_mem s.distinct_values valued]
  exact again

structure IsTrimmed (s : Settings) : Prop where
  issuerUrl : ∀ t, s.issuerUrl = some t → t.IsTrimmed
  authUrl : ∀ t, s.authUrl = some t → t.IsTrimmed
  tokenUrl : ∀ t, s.tokenUrl = some t → t.IsTrimmed
  userinfoUrl : ∀ t, s.userinfoUrl = some t → t.IsTrimmed
  adminGroup : ∀ t, s.adminGroup = some t → t.IsTrimmed
  allowGroup : ∀ t, s.allowGroup = some t → t.IsTrimmed
  groupsClaimName : s.groupsClaimName.IsTrimmed

theorem withDefault_claimName {t : Text}
    (read : members.withDefault "groups_claim_name" (Text.ofString "groups") claimName = .ok t) : t.IsTrimmed := by
  unfold Members.withDefault at read
  split at read
  · cases read
    exact Text.trimmed?_eq_self.1 (by decide)
  · obtain ⟨given, _, named⟩ := Checked.andThen_eq_ok.1 read
    split at named
    · rename_i name trimmed
      cases named
      exact Text.isTrimmed_of_trimmed? trimmed
    · cases named

theorem withDefault_timeout {x : Binary64}
    (read : members.withDefault "http_timeout" defaultTimeout timeout = .ok x) : x.isPositive = true := by
  unfold Members.withDefault at read
  split at read
  · cases read
    decide
  · obtain ⟨y, _, positive⟩ := Checked.andThen_eq_ok.1 read
    split at positive
    · rename_i holds
      cases positive
      exact holds
    · cases positive

theorem Reads.isTrimmed (reads : Reads members given? s) : s.IsTrimmed where
  issuerUrl := withDefault_trimmedText reads.issuerUrl
  authUrl := withDefault_trimmedText reads.authUrl
  tokenUrl := withDefault_trimmedText reads.tokenUrl
  userinfoUrl := withDefault_trimmedText reads.userinfoUrl
  adminGroup := withDefault_trimmedText reads.adminGroup
  allowGroup := withDefault_trimmedText reads.allowGroup
  groupsClaimName := withDefault_claimName reads.groupsClaimName

theorem optionalText_again (place : Place) (t? : Option Text) :
    Reader.optional Reader.text place (Shown.optionalText t?).value = .ok t? := by
  cases t? with
  | none | some _ => rfl

theorem optionalSecret_again (place : Place) (t? : Option Text) :
    Reader.optional Reader.text place (Shown.optionalSecret t?).value = .ok t? := by
  cases t? with
  | none | some _ => rfl

theorem trimmedText_again {t? : Option Text} (trimmed : ∀ t, t? = some t → t.IsTrimmed) (place : Place) :
    trimmedText place (Shown.optionalText t?).value = .ok t? := by
  cases t? with
  | none => rfl
  | some t => exact congrArg Checked.ok (Text.trimmed?_eq_self.2 (trimmed t rfl))

theorem claimName_again {t : Text} (trimmed : t.IsTrimmed) (place : Place) :
    claimName place (Shown.text t).value = .ok t :=
  Checked.andThen_eq_ok.2 ⟨t, rfl, by rw [Text.trimmed?_eq_self.2 trimmed]⟩

theorem timeout_again {x : Binary64} (positive : x.isPositive = true) (place : Place) :
    timeout place (Shown.plain (.float x)).value = .ok x :=
  if_pos positive

theorem given_values (s : Settings) :
    s.values.withDefault "web_url" none trimmedText = .ok s.webUrl.trimmed? :=
  withDefault_values (.text s.webUrl) (by simp [shown]) rfl

theorem webPort_values (s : Settings) : s.values.withDefault "web_port" defaultPort Reader.int = .ok s.webPort :=
  withDefault_values (.plain (.int s.webPort)) (by simp [shown]) rfl

-- An address that trims to nothing is derived again, and then the port has to be written.
def CanDerive (s : Settings) : Prop := s.webUrl.trimmed? = none → (Json.int s.webPort).isWritable = true

theorem canDerive_of_reads {again : Settings} (reads : Reads s.values given? again) : s.CanDerive := by
  intro blank
  have given : given? = s.webUrl.trimmed? := Checked.ok.inj (reads.given.symm.trans s.given_values)
  have port : again.webPort = s.webPort := Checked.ok.inj (reads.webPort.symm.trans s.webPort_values)
  exact port ▸ reads.writable (given.trans blank)

theorem Reads.again (reads : Reads members given? s) (canDerive : s.CanDerive) :
    Reads s.values s.webUrl.trimmed? { s with webUrl := unslashed (s.webUrl.trimmed?.getD (derivedWebUrl s.webAddress s.webPort)) } where
  force := withDefault_values (.bool s.force) (by simp [shown]) rfl
  clientId := withDefault_values _ (by simp [shown]) (optionalText_again _ _)
  clientSecret := withDefault_values _ (by simp [shown]) (optionalSecret_again _ _)
  given := s.given_values
  webUrl := rfl
  writable := canDerive
  webAddress := withDefault_values _ (by simp [shown]) (optionalText_again _ _)
  webPort := s.webPort_values
  issuerUrl := withDefault_values _ (by simp [shown]) (trimmedText_again reads.isTrimmed.issuerUrl _)
  authUrl := withDefault_values _ (by simp [shown]) (trimmedText_again reads.isTrimmed.authUrl _)
  tokenUrl := withDefault_values _ (by simp [shown]) (trimmedText_again reads.isTrimmed.tokenUrl _)
  userinfoUrl := withDefault_values _ (by simp [shown]) (trimmedText_again reads.isTrimmed.userinfoUrl _)
  adminGroup := withDefault_values _ (by simp [shown]) (trimmedText_again reads.isTrimmed.adminGroup _)
  allowGroup := withDefault_values _ (by simp [shown]) (trimmedText_again reads.isTrimmed.allowGroup _)
  groupsClaimName := withDefault_values _ (by simp [shown]) (claimName_again reads.isTrimmed.groupsClaimName _)
  httpTimeout := withDefault_values _ (by simp [shown]) (timeout_again (withDefault_timeout reads.httpTimeout) _)
  unsafeLocalDev := withDefault_values (.bool s.unsafeLocalDev) (by simp [shown]) rfl
  restrictPrivateNetworks := withDefault_values (.bool s.restrictPrivateNetworks) (by simp [shown]) rfl
  known := rfl

theorem unslashed_append {slashes : Text} (all : ∀ c ∈ slashes, c = CodePoint.ofChar '/') (t : Text) :
    unslashed (t ++ slashes) = unslashed t :=
  Text.trimEnd_append_of_all fun c member => by simp [all c member]

theorem unslashed_eq_self {t : Text} (last : t.getLast? ≠ some (CodePoint.ofChar '/')) : unslashed t = t := by
  refine Text.trimEnd_eq_self fun c found => ?_
  have other : c ≠ CodePoint.ofChar '/' := fun same => last (same ▸ found)
  simpa using other

theorem exists_slashes (t : Text) :
    ∃ slashes, t = unslashed t ++ slashes ∧ ∀ c ∈ slashes, c = CodePoint.ofChar '/' := by
  obtain ⟨slashes, cut, all⟩ := Text.trimEnd_append (· = CodePoint.ofChar '/') t
  exact ⟨slashes, cut, fun c member => by simpa using all c member⟩

theorem first_unslashed {t : Text} (shows : t.IsTrimmed) :
    ∀ c, (unslashed t).head? = some c → c.isBlank = false := by
  intro c first
  obtain ⟨slashes, cut, _⟩ := exists_slashes t
  refine shows.first c ?_
  rw [cut, List.head?_append, first]
  rfl

theorem isBlank_of_isDigit {c : CodePoint} (digit : c.isDigit = true) : c.isBlank = false := by
  simp only [CodePoint.isDigit, Bool.and_eq_true, decide_eq_true_eq] at digit
  simp only [CodePoint.isBlank, CodePoint.isWhiteSpace, Bool.or_eq_false_iff, Bool.and_eq_false_iff,
    decide_eq_false_iff_not, beq_eq_false_iff_ne]
  omega

theorem ofInt_ne_nil (n : Int) : Text.ofInt n ≠ [] := by
  unfold Text.ofInt
  split
  · exact List.cons_ne_nil _ _
  · exact Text.ofNat_ne_nil _

theorem last_derivedWebUrl {address : Option Text} {port : Int} {c : CodePoint}
    (last : (derivedWebUrl address port).getLast? = some c) : c = CodePoint.ofChar '-' ∨ c.isDigit = true := by
  unfold derivedWebUrl at last
  rw [List.getLast?_append_of_ne_nil _ (ofInt_ne_nil port)] at last
  exact Text.mem_ofInt (List.mem_of_getLast? last)

theorem derivedWebUrl_isTrimmed (address : Option Text) (port : Int) : (derivedWebUrl address port).IsTrimmed where
  full := by simp [derivedWebUrl, ofInt_ne_nil]
  first c first := by
    have letter : some (CodePoint.ofChar 'h') = some c := first
    cases letter
    decide
  last c last := by
    rcases last_derivedWebUrl last with rfl | digit
    · decide
    · exact isBlank_of_isDigit digit

theorem unslashed_derivedWebUrl (address : Option Text) (port : Int) :
    unslashed (derivedWebUrl address port) = derivedWebUrl address port := by
  refine unslashed_eq_self fun last => ?_
  rcases last_derivedWebUrl last with impossible | impossible
  · exact absurd impossible (by decide)
  · exact absurd impossible (by decide)

-- Before the slashes at the end of a text, blanks after them aside, stands a blank or nothing.  It is the end once
-- the slashes are gone.
def HidesEnd (t : Text) : Prop :=
  ∃ front slashes after, t = front ++ slashes ++ after ∧ slashes ≠ []
    ∧ (∀ c ∈ slashes, c = CodePoint.ofChar '/') ∧ (∀ c ∈ after, c.isBlank = true)
    ∧ ∀ c, front.getLast? = some c → c.isBlank = true

theorem trimmed?_of_slashes {front slashes after : Text} (slashed : slashes ≠ [])
    (all : ∀ c ∈ slashes, c = CodePoint.ofChar '/') (blank : ∀ c ∈ after, c.isBlank = true) :
    (front ++ slashes ++ after).trimmed? = some (front.dropWhile CodePoint.isBlank ++ slashes) := by
  have shows : ∀ c ∈ slashes, c.isBlank = false := fun c member => all c member ▸ by decide
  refine Text.trimmed?_eq_some.2
    ⟨⟨⟨front.takeWhile CodePoint.isBlank, after, ?_, ?_, blank⟩, ?_, ?_⟩, by simp [slashed]⟩
  · rw [← List.append_assoc (front.takeWhile _), List.takeWhile_append_dropWhile]
  · exact fun c member => List.mem_takeWhile_imp member
  · intro c first
    have stopped := List.head?_dropWhile_not CodePoint.isBlank front
    cases rest : front.dropWhile CodePoint.isBlank with
    | nil =>
      rw [rest, List.nil_append] at first
      exact shows c (List.mem_of_mem_head? first)
    | cons d later =>
      rw [rest] at first stopped
      cases first
      simpa using stopped
  · intro c last
    rw [List.getLast?_append_of_ne_nil _ slashed] at last
    exact shows c (List.mem_of_getLast? last)

theorem hidesEnd_iff (trimmed : given.trimmed? = some w) : HidesEnd given ↔ ¬ (unslashed w).IsTrimmed := by
  constructor
  · rintro ⟨front, slashes, after, rfl, slashed, all, blank, hidden⟩ shows
    rw [trimmed?_of_slashes slashed all blank] at trimmed
    cases trimmed
    -- what is left of the front ends like the whole of it
    have ends : ∀ c, (front.dropWhile CodePoint.isBlank).getLast? = some c → c.isBlank = true := by
      intro c last
      refine hidden c ?_
      rw [← List.takeWhile_append_dropWhile (p := CodePoint.isBlank) (l := front), List.getLast?_append, last]
      rfl
    have kept : unslashed (front.dropWhile CodePoint.isBlank) = front.dropWhile CodePoint.isBlank :=
      unslashed_eq_self fun last => absurd (ends _ last) (by decide)
    rw [unslashed_append all, kept] at shows
    have last := List.getLast?_eq_some_getLast shows.full
    exact absurd (ends _ last) (by simp [shows.last _ last])
  · intro hidden
    obtain ⟨⟨⟨before, after, rfl, leading, trailing⟩, first, last⟩, full⟩ := Text.trimmed?_eq_some.1 trimmed
    obtain ⟨slashes, cut, all⟩ := exists_slashes w
    have slashed : slashes ≠ [] := by
      rintro rfl
      rw [List.append_nil] at cut
      exact hidden (cut ▸ ⟨full, first, last⟩)
    refine ⟨before ++ unslashed w, slashes, after, ?_, slashed, all, trailing, ?_⟩
    · rw [List.append_assoc before (unslashed w), ← cut]
    · intro c ending
      cases rest : unslashed w with
      | nil =>
        rw [rest, List.append_nil] at ending
        exact leading c (List.mem_of_getLast? ending)
      | cons d later =>
        by_contra shown
        rw [rest, List.getLast?_append_of_ne_nil _ (List.cons_ne_nil d later)] at ending
        have head := first_unslashed (Text.isTrimmed_of_trimmed? trimmed)
        rw [rest] at head hidden
        refine hidden ⟨List.cons_ne_nil d later, head, fun e last => ?_⟩
        cases ending.symm.trans last
        simpa using shown

theorem unslashed_again (s : Settings) (noSlash : s.webUrl.getLast? ≠ some (CodePoint.ofChar '/')) :
    unslashed (s.webUrl.trimmed?.getD (derivedWebUrl s.webAddress s.webPort)) = s.webUrl ↔ s.webUrl.IsTrimmed := by
  constructor
  · intro same
    cases trimmed : s.webUrl.trimmed? with
    | none =>
      rw [trimmed, Option.getD_none, unslashed_derivedWebUrl] at same
      exact same ▸ derivedWebUrl_isTrimmed _ _
    | some kept =>
      -- nothing of the address has gone, neither by trimming nor with the slashes
      rw [trimmed, Option.getD_some] at same
      obtain ⟨⟨⟨before, after, cut, _, _⟩, _, _⟩, _⟩ := Text.trimmed?_eq_some.1 trimmed
      obtain ⟨slashes, whole, _⟩ := exists_slashes kept
      have length := congrArg List.length cut
      have other := congrArg List.length whole
      rw [same] at other
      simp only [List.length_append] at length other
      have nothing : before = [] ∧ after = [] :=
        ⟨List.eq_nil_of_length_eq_zero (by omega), List.eq_nil_of_length_eq_zero (by omega)⟩
      rw [nothing.1, nothing.2, List.nil_append, List.append_nil] at cut
      exact cut ▸ Text.isTrimmed_of_trimmed? trimmed
  · intro shows
    rw [Text.trimmed?_eq_self.2 shows, Option.getD_some, unslashed_eq_self noSlash]

theorem trimmed?_of_hidesEnd (hidden : HidesEnd given) : given.trimmed? ≠ none := by
  obtain ⟨front, slashes, after, rfl, slashed, all, blank, _⟩ := hidden
  rw [trimmed?_of_slashes slashed all blank]
  exact Option.some_ne_none _

theorem Reads.given_isTrimmed (reads : Reads members given? s) :
    (given?.getD (derivedWebUrl s.webAddress s.webPort)).IsTrimmed := by
  cases given? with
  | none => exact derivedWebUrl_isTrimmed _ _
  | some t => exact withDefault_trimmedText reads.given t rfl

theorem Reads.webUrl_isTrimmed_iff (reads : Reads members given? s) :
    s.webUrl.IsTrimmed ↔ ¬ ∃ given, members.get? "web_url" = some (.text given) ∧ HidesEnd given := by
  have derived := derivedWebUrl_isTrimmed s.webAddress s.webPort
  rw [← unslashed_derivedWebUrl] at derived
  have read := reads.given
  unfold Members.withDefault at read
  rw [reads.webUrl]
  cases found : members.get? "web_url" with
  | none =>
    rw [found] at read
    cases read
    exact iff_of_true derived (by simp)
  | some value =>
    rw [found] at read
    obtain ⟨t?, optional, rfl⟩ := Checked.map_eq_ok.1 (read : _ <$> _ = _)
    cases value with
    | null =>
      cases optional
      exact iff_of_true derived (by simp)
    | text given =>
      cases optional
      have same : (∃ other, some (Json.text given) = some (.text other) ∧ HidesEnd other) ↔ HidesEnd given := by
        simp
      rw [same]
      cases trimmed : given.trimmed? with
      | none =>
        rw [Option.bind_some, trimmed]
        exact iff_of_true derived fun hidden => trimmed?_of_hidesEnd hidden trimmed
      | some w =>
        rw [Option.bind_some, trimmed, hidesEnd_iff trimmed, not_not]
        rfl
    | bool _ | int _ | float _ | list _ | object _ => cases optional

theorem trimmed?_eq_none_iff {t : Text} (first : ∀ c, t.head? = some c → c.isBlank = false) :
    t.trimmed? = none ↔ t = [] := by
  rw [Text.trimmed?_eq_none]
  cases t with
  | nil => exact iff_of_true rfl rfl
  | cons c rest =>
    have shows := first c rfl
    simp [Text.isBlank, shows]

-- Settings that were loaded are loaded again as they are, but for an address of the web application whose end is
-- hidden behind slashes.  Only if nothing is left of it, and the port has too many digits, they are not loaded at all.
theorem load_again (loaded : load keywords environment = .ok s) :
    s.IsTrimmed ∧ (∀ c, s.webUrl.head? = some c → c.isBlank = false)
      ∧ s.webUrl.getLast? ≠ some (CodePoint.ofChar '/')
      ∧ ((∃ again, load s.values [] = .ok again) ↔ (s.webUrl = [] → s.webPort.natAbs < 10 ^ 4300))
      ∧ (∀ again, load s.values [] = .ok again → again = { s with webUrl := again.webUrl })
      ∧ (load s.values [] = .ok s ↔ s.webUrl.IsTrimmed)
      ∧ (s.webUrl.IsTrimmed
        ↔ ¬ ∃ given, (merge keywords environment).get? "web_url" = some (.text given) ∧ HidesEnd given) := by
  obtain ⟨given?, reads⟩ := load_eq_ok.1 loaded
  have first : ∀ c, s.webUrl.head? = some c → c.isBlank = false := reads.webUrl ▸ first_unslashed reads.given_isTrimmed
  have noSlash : s.webUrl.getLast? ≠ some (CodePoint.ofChar '/') := reads.webUrl ▸ getLast?_unslashed _
  have canDerive {again : Settings} (reloaded : load s.values [] = .ok again) : s.CanDerive := by
    obtain ⟨_, other⟩ := load_eq_ok.1 reloaded
    rw [merge_values] at other
    exact canDerive_of_reads other
  have reload (derives : s.CanDerive) := load_eq_ok.2 ⟨_, s.merge_values.symm ▸ reads.again derives⟩
  refine ⟨reads.isTrimmed, first, noSlash, ?_, ?_, ?_, reads.webUrl_isTrimmed_iff⟩
  · rw [← trimmed?_eq_none_iff first, ← Json.isWritable_int_iff]
    constructor
    · rintro ⟨again, reloaded⟩
      exact canDerive reloaded
    · intro derives
      exact ⟨_, reload derives⟩
  · intro again reloaded
    cases (reload (canDerive reloaded)).symm.trans reloaded
    rfl
  · rw [← unslashed_again s noSlash]
    constructor
    · intro same
      exact congrArg Settings.webUrl (Except.ok.inj ((reload (canDerive same)).symm.trans same))
    · intro same
      have shows := (unslashed_again s noSlash).1 same
      have derives : s.CanDerive := fun blank => absurd ((trimmed?_eq_none_iff first).1 blank) shows.full
      rw [reload derives, same]

def ofWebUrl (webUrl : Text) : Settings where
  force := false
  clientId := none
  clientSecret := none
  webUrl := webUrl
  webAddress := none
  webPort := defaultPort
  issuerUrl := none
  authUrl := none
  tokenUrl := none
  userinfoUrl := none
  adminGroup := none
  allowGroup := none
  groupsClaimName := "groups"
  httpTimeout := defaultTimeout
  unsafeLocalDev := false
  restrictPrivateNetworks := false

theorem load_again_of_slashes :
    load [("web_url", .text " https://a.example/x// ")] [("COREASON_OPENID_ADMIN_GROUP", " admins ")]
        = .ok { ofWebUrl "https://a.example/x" with adminGroup := some "admins" }
      ∧ load (values { ofWebUrl "https://a.example/x" with adminGroup := some "admins" }) []
        = .ok { ofWebUrl "https://a.example/x" with adminGroup := some "admins" } := by
  have loaded : load [("web_url", .text " https://a.example/x// ")] [("COREASON_OPENID_ADMIN_GROUP", " admins ")]
      = .ok { ofWebUrl "https://a.example/x" with adminGroup := some "admins" } := by
    unfold ofWebUrl
    repeat rw [Text.ofString_ofList]
    exact except_eq_ok_of_toOption (by decide +kernel)
  obtain ⟨_, _, _, _, _, same, _⟩ := load_again loaded
  exact ⟨loaded, same.2 (by unfold ofWebUrl; decide)⟩

-- Behind the slash that goes, a blank is left, and behind slashes alone nothing: loaded again, the one loses its
-- blank and a slash more, and the other is derived anew.
theorem end_hidden_by_slashes :
    load [("web_url", .text "https://a/ /")] [] = .ok (ofWebUrl "https://a/ ")
      ∧ load (ofWebUrl "https://a/ ").values [] = .ok (ofWebUrl "https://a")
      ∧ load [("web_url", .text " / ")] [] = .ok (ofWebUrl "")
      ∧ load (ofWebUrl "").values [] = .ok (ofWebUrl "http://localhost:8082")
      ∧ ofWebUrl "https://a/ " ≠ ofWebUrl "https://a" ∧ ofWebUrl "" ≠ ofWebUrl "http://localhost:8082" := by
  unfold ofWebUrl
  repeat rw [Text.ofString_ofList]
  refine ⟨?_, ?_, ?_, ?_, ?_, ?_⟩
  · exact except_eq_ok_of_toOption (by decide +kernel)
  · exact except_eq_ok_of_toOption (by decide +kernel)
  · exact except_eq_ok_of_toOption (by decide +kernel)
  · exact except_eq_ok_of_toOption (by decide +kernel)
  · decide
  · decide

end Settings

end OidcLogin
