import OidcLogin.Text.Quoted

namespace OidcLogin

inductive Address
  | v4 (value : Nat)
  | v6 (value : Nat) (zone : Option Text)
deriving DecidableEq

namespace Address

def readOctet? (t : Text) : Option Nat :=
  if t.isEmpty || !t.all CodePoint.isDigit || 3 < t.length then none
  else if 1 < t.length ∧ t.head? = some (CodePoint.ofChar '0') then none
  else
    let value := Text.digitsValue t
    if value ≤ 255 then some value else none

def readV4? (t : Text) : Option Nat :=
  match t.splitOn (· = CodePoint.ofChar '.') with
  | [a, b, c, d] => do
    let a ← readOctet? a
    let b ← readOctet? b
    let c ← readOctet? c
    let d ← readOctet? d
    pure (((a * 256 + b) * 256 + c) * 256 + d)
  | _ => none

def readGroup? (t : Text) : Option Nat :=
  if t.isEmpty ∨ 4 < t.length then none else Text.hexValue? t

-- The groups' values, a version 4 address at the end giving two of them.  An empty text stands for a
-- group that is not there.
def readGroups? : List Text → Option (List (Option Nat))
  | [] => some []
  | [last] =>
    if last.contains (CodePoint.ofChar '.') then
      (readV4? last).map fun value => [some (value / 65536), some (value % 65536)]
    else if last.isEmpty then some [none]
    else (readGroup? last).map fun value => [some value]
  | group :: rest =>
    if group.isEmpty then (readGroups? rest).map (none :: ·)
    else do
      let value ← readGroup? group
      let values ← readGroups? rest
      pure (some value :: values)

def groupsValue (groups : List Nat) : Nat := groups.foldl (fun n group => 65536 * n + group) 0

-- The eight groups, when the omitted run of zeros is filled in.  The groups before an omission at the
-- front, and after one at the end, are the empty text twice.
def fillGroups? (groups : List (Option Nat)) : Option (List Nat) :=
  let before := groups.takeWhile (·.isSome)
  match groups.dropWhile (·.isSome) with
  | [] => if groups.length = 8 then groups.mapM id else none
  | _ :: after =>
    -- an omission inside has one empty text, one at an end has one more there
    let front? : Option (List (Option Nat) × List (Option Nat)) :=
      if before.isEmpty then
        match after with
        | none :: after => some ([], after)
        | _ => none
      else some (before, after)
    match front? with
    | none => none
    | some (_, []) => none
    | some (front, back) =>
      let back := if back = [none] then [] else back
      if back.all (·.isSome) && front.length + back.length < 8 then
        (front ++ List.replicate (8 - (front.length + back.length)) (some 0) ++ back).mapM id
      else none

def readV6Value? (t : Text) : Option Nat :=
  let parts := t.splitOn (· = CodePoint.ofChar ':')
  if parts.length < 3 then none
  else do
    let groups ← readGroups? parts
    let filled ← fillGroups? groups
    pure (groupsValue filled)

def readV6? (t : Text) : Option Address :=
  if t.contains (CodePoint.ofChar '/') then none
  else
    match t.cutFirst? (CodePoint.ofChar '%') with
    | none => (readV6Value? t).map (.v6 · none)
    | some (address, zone) =>
      if zone.isEmpty || zone.contains (CodePoint.ofChar '%') then none
      else (readV6Value? address).map (.v6 · (some zone))

def read? (t : Text) : Option Address :=
  match readV4? t with
  | some value => some (.v4 value)
  | none => readV6? t

def notAddressMessage (t : Text) : Text :=
  t.quoted ++ " does not appear to be an IPv4 or IPv6 address"

def groupsOf (value : Nat) : List Nat :=
  (List.range 8).map fun i => value / Nat.pow 65536 (7 - i) % 65536

def groupText (n : Nat) : Text := (Nat.toDigits 16 n).map CodePoint.ofChar

-- The first of the longest runs of zero groups, as its start and length.
def longestZeroRun (groups : List Nat) : Nat × Nat :=
  let lengths := (List.range groups.length).map fun i =>
    (i, ((groups.drop i).takeWhile (· = 0)).length)
  lengths.foldl (fun best run => if best.2 < run.2 then run else best) (0, 0)

-- The groups with colons between them; the first longest run of two or more zero groups is left
-- out.
def groupsText (groups : List Nat) : Text :=
  let texts := groups.map groupText
  let (start, length) := longestZeroRun groups
  if length < 2 then Text.join ":" texts
  else Text.join ":" (texts.take start) ++ "::" ++ Text.join ":" (texts.drop (start + length))

def toText : Address → Text
  | .v4 value =>
    Text.join "." ((List.range 4).map fun i => Text.ofNat (value / Nat.pow 256 (3 - i) % 256))
  | .v6 value zone =>
    groupsText (groupsOf value) ++ (match zone with | none => [] | some zone => "%" ++ zone)

end Address

end OidcLogin
