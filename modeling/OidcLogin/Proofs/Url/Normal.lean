import OidcLogin.Proofs.Address.Writing
import OidcLogin.Proofs.HostName.Ascii
import OidcLogin.Proofs.Url.Escaping

namespace OidcLogin.RequestUrl

variable {u v : RequestUrl} {w : Written} {host? : Option Text} {t host : Text} {a : Address}

inductive IsBuilt : RequestUrl → Prop
  | read {t : Text} {u : RequestUrl} (read : RequestUrl.read t = .ok u) : IsBuilt u
  | assembled {w : Written} {host? : Option Text} {u : RequestUrl} (made : w.assemble host? = .ok u) : IsBuilt u

def HasName (u : RequestUrl) : Prop := ∀ c ∈ u.host, isBareInHost c = true

structure IsNormal (u : RequestUrl) : Prop where
  scheme : u.scheme.lower = u.scheme
  clear : control? u.scheme = none
  userInfo : ∀ c ∈ u.userInfo, isBareInUserInfo c = true
  host : (Address.read? u.host).isSome = true ∨ u.HasName
  port : ∀ port ∈ u.port, (Text.ofNat port.natAbs).length ≤ Text.maxDigits
  path : ∀ c ∈ u.path, isBareInPath c = true
  undotted : (!u.scheme.isEmpty || u.hasAuthority) = true → IsUndotted u.path
  query : ∀ t ∈ u.query, ∀ c ∈ t, isBareInQuery c = true
  fragment : ∀ t ∈ u.fragment, ∀ c ∈ t, isBareInFragment c = true

theorem readHost_eq_ok (read : readHost t = .ok host) :
    (Address.read? host).isSome = true ∨ ∀ c ∈ host, isBareInHost c = true := by
  unfold readHost at read
  split at read
  · cases read
    exact .inr nofun
  · split at read
    · split at read
      · rename_i octets
        cases read
        obtain ⟨value, found⟩ := Option.isSome_iff_exists.1 octets
        left
        unfold Address.read?
        rw [found]
        rfl
      · cases read
    · split at read
      · dsimp only at read
        split at read
        · rename_i groups
          cases read
          left
          unfold Address.read?
          split
          · rfl
          · exact groups
        · cases read
      · split at read
        · exact .inr (bare_of_escapePart isPart_host read)
        · split at read
          · rename_i written
            cases read
            refine .inr fun c member => ?_
            rcases HostName.mem_toAscii written c member with (alphanumeric | rfl) | rfl
            · exact isPart_host.alphanumeric c alphanumeric
            · rfl
            · rfl
          · cases read

theorem readPort_eq_ok {scheme : Text} {port? : Option Int} (read : readPort scheme t = .ok port?) :
    ∀ port ∈ port?, (Text.ofNat port.natAbs).length ≤ Text.maxDigits := by
  unfold readPort at read
  split at read
  · cases read
    exact nofun
  · split at read
    · cases read
    · rename_i number
      cases read
      intro port same
      split at same
      · cases same
      · cases same
        exact Text.length_of_toWhole? number

theorem lower_lower (t : Text) : t.lower.lower = t.lower := by
  have once : ∀ c : CodePoint, c.toLower.toLower = c.toLower := by
    intro c
    by_cases upper : c.isUpper = true
    · have range := upper
      simp only [CodePoint.isUpper, Bool.and_eq_true, decide_eq_true_eq] at range
      have lowered : c.toLower = CodePoint.ofNat (c.val + 0x20) := if_pos upper
      have notUpper : (CodePoint.ofNat (c.val + 0x20)).isUpper = false := by
        rw [CodePoint.isUpper, CodePoint.val_ofNat (by omega)]
        simp only [Bool.and_eq_false_iff, decide_eq_false_iff_not]
        omega
      rw [lowered, CodePoint.toLower, notUpper]
      rfl
    · have kept : c.toLower = c := if_neg upper
      rw [kept, kept]
  unfold Text.lower
  rw [List.map_map]
  exact List.map_congr_left fun c _ => once c

theorem control?_lower (clear : control? t = none) : control? t.lower = none := by
  rw [control?_eq_none] at clear ⊢
  intro c member
  obtain ⟨d, inside, rfl⟩ := List.mem_map.1 member
  have visible := clear d inside
  unfold CodePoint.toLower
  split
  · rename_i upper
    simp only [CodePoint.isUpper, Bool.and_eq_true, decide_eq_true_eq] at upper
    simp only [CodePoint.isControl, Bool.or_eq_false_iff, decide_eq_false_iff_not]
    rw [CodePoint.val_ofNat (by omega)]
    omega
  · exact visible

theorem isEmpty_lower (t : Text) : t.lower.isEmpty = t.isEmpty := List.isEmpty_map

theorem Written.Normalizes.isNormal (normal : w.Normalizes host? u) (clear : control? w.scheme = none) :
    u.IsNormal where
  scheme := by rw [normal.scheme, lower_lower]
  clear := by
    rw [normal.scheme]
    exact control?_lower clear
  userInfo := bare_of_escapePart isPart_userInfo normal.userInfo
  host := readHost_eq_ok normal.host
  port := readPort_eq_ok normal.port
  path := bare_of_escapePart isPart_path normal.path
  undotted := by
    intro placed
    have written := normal.path
    rw [normal.scheme, isEmpty_lower] at placed
    rw [if_pos placed] at written
    exact isUndotted_of_escapePart isPart_path (by decide) (isUndotted_removeDotSegments _) written
  query := bare_of_escapeOptional isPart_query normal.query
  fragment := bare_of_escapeOptional isPart_fragment normal.fragment

theorem control?_of_subset {other : Text} (clear : control? t = none) (inside : ∀ c ∈ other, c ∈ t) :
    control? other = none := by
  rw [control?_eq_none] at clear ⊢
  exact fun c member => clear c (inside c member)

theorem mem_splitScheme {c : CodePoint} (member : c ∈ (splitScheme t).1) : c ∈ t := by
  unfold splitScheme at member
  split at member
  · cases member
  · rename_i scheme rest cut
    dsimp only at member
    split at member
    · rw [(Text.cutFirst?_eq_some.1 cut).1]
      exact List.mem_append_left _ member
    · cases member

theorem checkPart_eq_ok {part : UrlPart} : checkPart part t = .ok () ↔ t.length ≤ maxLength ∧ control? t = none := by
  unfold checkPart
  split
  · rename_i long
    constructor
    · intro passed
      cases passed
    · intro given
      exact absurd given.1 (Nat.not_le_of_lt long)
  · rename_i short
    split
    · rename_i found
      rw [found]
      exact ⟨nofun, nofun⟩
    · rename_i none
      rw [none]
      exact ⟨fun _ => ⟨Nat.le_of_not_lt short, rfl⟩, fun _ => rfl⟩

theorem Written.assemble_eq_ok :
    w.assemble host? = .ok u
      ↔ (∀ t ∈ [w.scheme, w.authority, w.path, w.query.getD [], w.fragment.getD [], host?.getD []],
          t.length ≤ maxLength ∧ control? t = none)
        ∧ w.Normalizes host? u := by
  unfold Written.assemble
  simp only [except_bind_eq_ok, Written.normalize_eq_ok, List.forall_mem_cons]
  constructor
  · intro made
    obtain ⟨_, scheme, _, authority, _, path, _, query, _, fragment, _, host, normal⟩ := made
    exact ⟨⟨checkPart_eq_ok.1 scheme, checkPart_eq_ok.1 authority, checkPart_eq_ok.1 path, checkPart_eq_ok.1 query,
      checkPart_eq_ok.1 fragment, checkPart_eq_ok.1 host, nofun⟩, normal⟩
  · intro given
    obtain ⟨⟨scheme, authority, path, query, fragment, host, _⟩, normal⟩ := given
    exact ⟨(), checkPart_eq_ok.2 scheme, (), checkPart_eq_ok.2 authority, (), checkPart_eq_ok.2 path,
      (), checkPart_eq_ok.2 query, (), checkPart_eq_ok.2 fragment, (), checkPart_eq_ok.2 host, normal⟩

theorem IsBuilt.isNormal (built : u.IsBuilt) : u.IsNormal := by
  cases built with
  | read read =>
    obtain ⟨clear, normal⟩ := read_eq_ok read
    refine (Written.normalize_eq_ok.1 normal).isNormal (control?_of_subset clear fun c member => ?_)
    rw [Written.scheme_ofText] at member
    exact (List.takeWhile_prefix _).subset (mem_splitScheme member)
  | assembled made =>
    obtain ⟨checked, normal⟩ := Written.assemble_eq_ok.1 made
    exact normal.isNormal (checked _ List.mem_cons_self).2

def portText (u : RequestUrl) : Text := (u.port.map Text.ofInt).getD []

def portPart (u : RequestUrl) : Text := match u.port with | none => [] | some port => ":" ++ Text.ofInt port

theorem portPart_cases (u : RequestUrl) :
    u.portPart = [] ∧ u.portText = [] ∨ u.portPart = CodePoint.ofChar ':' :: u.portText := by
  unfold portPart portText
  cases u.port with
  | none => exact .inl ⟨rfl, rfl⟩
  | some port => exact .inr rfl

theorem mem_portPart {c : CodePoint} (member : c ∈ u.portPart) :
    c = CodePoint.ofChar ':' ∨ c = CodePoint.ofChar '-' ∨ c.isDigit = true := by
  unfold portPart at member
  cases port : u.port with
  | none =>
    rw [port] at member
    cases member
  | some p =>
    rw [port] at member
    rcases List.mem_cons.1 member with colon | digit
    · exact .inl colon
    · exact .inr (Text.mem_ofInt digit)

theorem location_of_name (named : u.HasName) : u.location = u.host ++ u.portPart := by
  have plain : u.host.contains (CodePoint.ofChar ':') = false := by
    rw [← Bool.not_eq_true, List.contains_iff_mem]
    exact fun colon => absurd (named _ colon) (by decide)
  unfold location bracketed
  rw [plain]
  rfl

theorem splitAuthority_location {userInfo : Text} (named : u.HasName)
    (cut : (Text.cutLast? (CodePoint.ofChar '@') t).getD ([], t) = (userInfo, u.location)) :
    splitAuthority t = (userInfo, u.host, u.portText) := by
  have unbracketed : u.location.head? ≠ some (CodePoint.ofChar '[') := by
    rw [location_of_name named]
    cases name : u.host with
    | nil =>
      rcases u.portPart_cases with ⟨none, _⟩ | colon
      · rw [none]
        exact nofun
      · rw [colon, List.nil_append, List.head?_cons]
        exact fun same => absurd (Option.some.inj same) (by decide)
    | cons c rest =>
      have bare := named c (by rw [name]; exact List.mem_cons_self)
      intro same
      cases same
      exact absurd bare (by decide)
  have kept : ∀ c ∈ u.host, (c != CodePoint.ofChar ':') = true := by
    intro c member
    rw [bne_iff_ne]
    rintro rfl
    exact absurd (named _ member) (by decide)
  have taken : u.location.takeWhile (· != CodePoint.ofChar ':') = u.host := by
    rw [location_of_name named, List.takeWhile_append_of_pos kept]
    rcases u.portPart_cases with ⟨none, _⟩ | colon
    · rw [none, List.takeWhile_nil, List.append_nil]
    · rw [colon, List.takeWhile_cons_of_neg (by decide), List.append_nil]
  have left : u.location.dropWhile (· != CodePoint.ofChar ':') = u.portPart := by
    rw [location_of_name named, List.dropWhile_append_of_pos kept]
    rcases u.portPart_cases with ⟨none, _⟩ | colon
    · rw [none, List.dropWhile_nil]
    · rw [colon, List.dropWhile_cons_of_neg (by decide)]
  unfold splitAuthority
  rw [cut]
  dsimp only
  rw [if_neg unbracketed]
  dsimp only
  rw [taken, left]
  rcases u.portPart_cases with ⟨none, empty⟩ | colon
  · rw [none, empty]
    rfl
  · rw [colon]
    rfl

theorem splitAuthority_authority (named : u.HasName) :
    splitAuthority u.authority = (u.userInfo, u.host, u.portText) := by
  have unmarked : CodePoint.ofChar '@' ∉ u.location := by
    rw [location_of_name named]
    intro member
    rcases List.mem_append.1 member with name | port
    · exact absurd (named _ name) (by decide)
    · rcases mem_portPart port with colon | minus | digit
      · exact absurd colon (by decide)
      · exact absurd minus (by decide)
      · exact absurd digit (by decide)
  apply splitAuthority_location named
  unfold authority
  cases user : u.userInfo with
  | nil =>
    change (Text.cutLast? (CodePoint.ofChar '@') u.location).getD ([], u.location) = _
    rw [Text.cutLast?_eq_none unmarked]
    rfl
  | cons c rest =>
    have whole : (if (c :: rest).isEmpty then [] else (c :: rest) ++ [CodePoint.ofChar '@']) ++ u.location
        = (c :: rest) ++ CodePoint.ofChar '@' :: u.location := by simp
    rw [whole, Text.cutLast?_append unmarked]
    rfl

theorem readPort_portText (scheme : Text) (normal : u.IsNormal) :
    readPort scheme u.portText = .ok (u.port.filter fun port => defaultPorts.lookup scheme != some port) := by
  unfold portText
  cases port : u.port with
  | none => rfl
  | some p =>
    have full : (Text.ofInt p).isEmpty = false := by
      unfold Text.ofInt
      split
      · rfl
      · simpa using Text.ofNat_ne_nil p.natAbs
    have number := Text.toWhole?_ofInt (normal.port p port)
    change readPort scheme (Text.ofInt p) = _
    unfold readPort
    rw [full, number]
    dsimp only
    rw [if_neg Bool.false_ne_true, Option.filter_some]
    by_cases same : defaultPorts.lookup scheme = some p
    · rw [if_pos same, same]
      simp
    · rw [if_neg same]
      simp [same]

theorem readHost_v4 {value : Nat} (small : value < 2 ^ 32) :
    readHost (bracketed (Address.v4 value).toText) = .ok (Address.v4 value).toText := by
  have read := Address.readV4?_toText small
  have full : (Address.v4 value).toText.isEmpty = false := by
    rw [← Bool.not_eq_true, List.isEmpty_iff]
    intro empty
    rw [empty] at read
    cases read
  have uncoloned : (Address.v4 value).toText.contains (CodePoint.ofChar ':') = false := by
    rw [← Bool.not_eq_true, List.contains_iff_mem]
    intro colon
    rcases Address.mem_v4_toText colon with dot | digit
    · exact absurd dot (by decide)
    · exact absurd digit (by decide)
  have looks : looksLikeVersionFour (Address.v4 value).toText = true := by
    unfold looksLikeVersionFour
    rw [Address.splitOn_octets]
    refine Bool.and_eq_true_iff.2 ⟨rfl, List.all_eq_true.2 fun piece isPiece => ?_⟩
    obtain ⟨n, _, rfl⟩ := Address.mem_octetsOf isPiece
    have some : (Text.ofNat n).isEmpty = false := by simpa using Text.ofNat_ne_nil n
    rw [some]
    exact List.all_eq_true.2 fun c member => Text.isDigit_of_mem_ofNat member
  unfold bracketed readHost
  rw [uncoloned, Bool.false_and, if_neg Bool.false_ne_true, full, looks, read]
  rfl

theorem readHost_v6 {value : Nat} (small : value < 2 ^ 128) :
    readHost (bracketed (Address.v6 value none).toText) = .ok (Address.v6 value none).toText := by
  have read := Address.readV6?_toText small
  have zoneless : (Address.v6 value none).Zoneless := nofun
  have undotted := Address.undotted_of_v6 value
  have colon : CodePoint.ofChar ':' ∈ (Address.v6 value none).toText := by
    rw [Address.v6_toText]
    exact Address.colon_mem_groupsText (Address.length_groupsOf value)
  have unopened : Text.startsWith (Address.v6 value none).toText "[" = false := by
    rw [← Bool.not_eq_true]
    intro opened
    obtain ⟨rest, whole⟩ := List.isPrefixOf_iff_prefix.1 opened
    have inside : CodePoint.ofChar '[' ∈ (Address.v6 value none).toText := by
      rw [← whole]
      exact List.mem_cons_self
    exact absurd (Address.isMark_of_mem_toText zoneless inside) (by decide)
  generalize (Address.v6 value none).toText = t at read undotted colon unopened ⊢
  have made : bracketed t = CodePoint.ofChar '[' :: (t ++ [CodePoint.ofChar ']']) := by
    unfold bracketed
    rw [List.contains_iff_mem.2 colon, unopened]
    rfl
  have looksNot : looksLikeVersionFour (CodePoint.ofChar '[' :: (t ++ [CodePoint.ofChar ']'])) = false := by
    have whole : Text.splitOn (· = CodePoint.ofChar '.') (CodePoint.ofChar '[' :: (t ++ [CodePoint.ofChar ']']))
        = [CodePoint.ofChar '[' :: (t ++ [CodePoint.ofChar ']'])] := by
      apply Text.splitOn_of_free
      intro c member
      refine decide_eq_false fun dot => ?_
      subst dot
      rcases List.mem_cons.1 member with mark | member
      · exact absurd mark (by decide)
      · rcases List.mem_append.1 member with inside | mark
        · exact undotted inside
        · exact absurd (List.mem_singleton.1 mark) (by decide)
    unfold looksLikeVersionFour
    rw [whole]
    rfl
  have looks : looksLikeVersionSix (CodePoint.ofChar '[' :: (t ++ [CodePoint.ofChar ']'])) = true := by
    unfold looksLikeVersionSix
    rw [← List.cons_append, List.getLast?_concat]
    simp
  have inner : ((CodePoint.ofChar '[' :: (t ++ [CodePoint.ofChar ']'])).drop 1).dropLast = t := by
    rw [List.drop_one, List.tail_cons, List.dropLast_concat]
  unfold readHost
  rw [made, List.isEmpty_cons, if_neg Bool.false_ne_true, looksNot, if_neg Bool.false_ne_true, looks, if_pos rfl]
  dsimp only
  rw [inner, read]
  rfl

theorem readHost_toText (range : a.InRange) (zoneless : a.Zoneless) : readHost (bracketed a.toText) = .ok a.toText := by
  rcases zoneless.cases with ⟨value, rfl⟩ | ⟨value, rfl⟩
  · exact readHost_v4 range
  · exact readHost_v6 range

theorem mem_bracketed {c : CodePoint} (member : c ∈ bracketed t) :
    c = CodePoint.ofChar '[' ∨ c = CodePoint.ofChar ']' ∨ c ∈ t := by
  unfold bracketed at member
  split at member
  · rcases List.mem_append.1 member with before | last
    · exact (List.mem_cons.1 before).imp_right .inr
    · exact .inr (.inl (List.mem_singleton.1 last))
  · exact .inr (.inr member)

theorem length_bracketed_le (t : Text) : (bracketed t).length ≤ t.length + 2 := by
  unfold bracketed
  split
  · simp [Text.ofString]
  · omega

theorem isVisible_of_isMark {c : CodePoint} (mark : Address.IsMark c) : isVisible c = true := by
  rcases mark with hex | rfl | rfl
  · exact isVisible_of_isUnreserved (isUnreserved_of_isAlphanumeric (CodePoint.isAlphanumeric_of_hexValue? hex))
  · rfl
  · rfl

theorem isVisible_of_mem_bracketed {c : CodePoint} (zoneless : a.Zoneless) (member : c ∈ bracketed a.toText) :
    isVisible c = true := by
  rcases mem_bracketed member with rfl | rfl | inside
  · rfl
  · rfl
  · exact isVisible_of_isMark (Address.isMark_of_mem_toText zoneless inside)

theorem isVisible_of_mem_authority {c : CodePoint} (normal : u.IsNormal) (named : u.HasName)
    (member : c ∈ u.authority) : isVisible c = true := by
  unfold authority at member
  rw [location_of_name named] at member
  rcases List.mem_append.1 member with user | place
  · split at user
    · cases user
    · rcases List.mem_append.1 user with inside | mark
      · exact isPart_userInfo.visible c (normal.userInfo c inside)
      · rw [List.mem_singleton.1 mark]
        rfl
  · rcases List.mem_append.1 place with name | port
    · exact isPart_host.visible c (named c name)
    · rcases mem_portPart port with rfl | rfl | digit
      · rfl
      · rfl
      · exact isVisible_of_isMark (.of_isDigit digit)

-- What can be put together again: no part is too long, and the path begins with a slash.
structure Fits (u : RequestUrl) : Prop where
  short : ∀ t ∈ [u.scheme, u.authority, u.path, u.query.getD [], u.fragment.getD []], t.length ≤ maxLength
  rooted : u.path = [] ∨ u.path.startsWith "/" = true

-- The URL with an address for its host: a port that need not be written goes, and so do the dot segments that
-- are kept where there is neither scheme nor authority.
def moved (u : RequestUrl) (a : Address) : RequestUrl :=
  { u with
    host := a.toText
    port := u.port.filter fun port => defaultPorts.lookup u.scheme != some port
    path := if !u.scheme.isEmpty || u.hasAuthority then u.path else removeDotSegments u.path }

theorem checkPath_eq_ok (hasScheme : Bool) {path : Text} :
    checkPath hasScheme true path = .ok () ↔ path = [] ∨ path.startsWith "/" = true := by
  unfold checkPath
  cases path with
  | nil => simp [Text.startsWith, Text.ofString]
  | cons c rest =>
    cases rooted : Text.startsWith (c :: rest) "/" with
    | true => simp
    | false => simp

theorem IsNormal.removeDotSegments_path (normal : u.IsNormal) : removeDotSegments u.path = (u.moved a).path := by
  unfold moved
  dsimp only
  split
  · rename_i placed
    exact removeDotSegments_of_isUndotted (normal.undotted placed)
  · rfl

theorem hasAuthority_of_host (range : a.InRange) (zoneless : a.Zoneless) (same : v.host = a.toText) :
    v.hasAuthority = true := by
  have full : a.toText.isEmpty = false := by simpa using Address.toText_ne_nil range zoneless
  unfold hasAuthority
  rw [same, full]
  simp

theorem normalizes_moved (normal : u.IsNormal) (named : u.HasName) (range : a.InRange)
    (zoneless : a.Zoneless) (rooted : u.path = [] ∨ u.path.startsWith "/" = true) :
    u.written.Normalizes (some (bracketed a.toText)) (u.moved a) where
  scheme := normal.scheme.symm
  userInfo := by
    change escapePart isBareInUserInfo (splitAuthority u.authority).1 = _
    rw [splitAuthority_authority named]
    exact escapePart_of_bare isPart_userInfo normal.userInfo
  host := readHost_toText range zoneless
  port := by
    change readPort u.scheme (splitAuthority u.authority).2.2 = _
    rw [splitAuthority_authority named]
    exact readPort_portText u.scheme normal
  checked := by
    rw [hasAuthority_of_host range zoneless rfl]
    exact (checkPath_eq_ok _).2 rooted
  path := by
    rw [hasAuthority_of_host range zoneless rfl, Bool.or_true, if_pos rfl]
    change escapePart isBareInPath (removeDotSegments u.path) = _
    rw [escapePart_of_bare isPart_path, normal.removeDotSegments_path]
    intro c member
    rcases mem_removeDotSegments member with rfl | inside
    · decide
    · exact normal.path c inside
  query := escapeOptional_of_bare isPart_query normal.query
  fragment := escapeOptional_of_bare isPart_fragment normal.fragment

theorem rooted_of_normalizes (range : a.InRange) (zoneless : a.Zoneless)
    (normal : w.Normalizes (some (bracketed a.toText)) v) : w.path = [] ∨ w.path.startsWith "/" = true := by
  have host := Except.ok.inj (normal.host.symm.trans (readHost_toText range zoneless))
  have checked := normal.checked
  rw [hasAuthority_of_host range zoneless host] at checked
  exact (checkPath_eq_ok _).1 checked

theorem Written.Normalizes.unique (normal : w.Normalizes host? u) (again : w.Normalizes host? v) : u = v :=
  Except.ok.inj ((Written.normalize_eq_ok.2 normal).symm.trans (Written.normalize_eq_ok.2 again))

theorem IsNormal.control?_parts (normal : u.IsNormal) (named : u.HasName) :
    ∀ t ∈ [u.scheme, u.authority, u.path, u.query.getD [], u.fragment.getD []], control? t = none := by
  have optional {t? : Option Text} (part : ∀ t ∈ t?, control? t = none) : control? (t?.getD []) = none := by
    cases t? with
    | none => rfl
    | some t => exact part t rfl
  simp only [List.forall_mem_cons]
  exact ⟨normal.clear, control?_of_visible fun c => isVisible_of_mem_authority normal named,
    control?_of_bare isPart_path normal.path,
    optional fun t same => control?_of_bare isPart_query (normal.query t same),
    optional fun t same => control?_of_bare isPart_fragment (normal.fragment t same), nofun⟩

theorem withHost_eq_ok (normal : u.IsNormal) (named : u.HasName) (range : a.InRange)
    (zoneless : a.Zoneless) : u.withHost a.toText = .ok v ↔ u.Fits ∧ v = u.moved a := by
  have short : (bracketed a.toText).length ≤ maxLength :=
    calc (bracketed a.toText).length
      _ ≤ a.toText.length + 2 := length_bracketed_le _
      _ ≤ 45 + 2 := Nat.add_le_add_right (Address.length_toText_le zoneless) 2
      _ ≤ maxLength := by decide
  have clear : control? (bracketed a.toText) = none :=
    control?_of_visible fun c => isVisible_of_mem_bracketed zoneless
  unfold withHost
  rw [Written.assemble_eq_ok]
  constructor
  · intro given
    obtain ⟨checked, normalizes⟩ := given
    have rooted : u.path = [] ∨ u.path.startsWith "/" = true := rooted_of_normalizes range zoneless normalizes
    have same := normalizes.unique (normalizes_moved normal named range zoneless rooted)
    have lengths : ∀ t ∈ [u.scheme, u.authority, u.path, u.query.getD [], u.fragment.getD []], t.length ≤ maxLength :=
      fun t member => (checked t (List.mem_append_left [bracketed a.toText] member)).1
    exact ⟨⟨lengths, rooted⟩, same⟩
  · intro given
    obtain ⟨fits, rfl⟩ := given
    refine ⟨fun t member => ?_, normalizes_moved normal named range zoneless fits.rooted⟩
    have parts : t ∈ [u.scheme, u.authority, u.path, u.query.getD [], u.fragment.getD []] ++ [bracketed a.toText] :=
      member
    rcases List.mem_append.1 parts with own | host
    · exact ⟨fits.short t own, normal.control?_parts named t own⟩
    · rw [List.mem_singleton.1 host]
      exact ⟨short, clear⟩

theorem unmarked_of_address (address : (Address.read? host).isSome = true) :
    host.startsWith HostName.asciiMark = false := by
  obtain ⟨a, read⟩ := Option.isSome_iff_exists.1 address
  rw [← Bool.not_eq_true]
  intro marked
  obtain ⟨rest, rfl⟩ := List.isPrefixOf_iff_prefix.1 marked
  exact absurd ((Address.read?_eq_some read).2 (CodePoint.ofChar 'x') List.mem_cons_self) (by decide)

theorem host_of_address (name : u.hostName = .ok host) (literal : Address.read? host = some a) : u.host = host := by
  unfold hostName at name
  split at name
  · rename_i marked
    rw [HostName.read?_of_toLetters name marked] at literal
    cases literal
  · exact Except.ok.inj name

theorem IsNormal.hasName (normal : u.IsNormal) (name : u.hostName = .ok host) (named : Address.read? host = none) :
    u.HasName := by
  rcases normal.host with address | bare
  · unfold hostName at name
    rw [unmarked_of_address address, if_neg Bool.false_ne_true] at name
    cases name
    rw [named] at address
    cases address
  · exact bare

end OidcLogin.RequestUrl
