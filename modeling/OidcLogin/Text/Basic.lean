import OidcLogin.Text.CodePoint

namespace OidcLogin

abbrev Text := List CodePoint

namespace Text

def ofString (s : String) : Text := s.toList.map CodePoint.ofChar

instance : Coe String Text := ⟨ofString⟩

def ofNat (n : Nat) : Text := ofString n.repr

def ofInt (n : Int) : Text :=
  if n < 0 then CodePoint.ofChar '-' :: ofNat n.natAbs else ofNat n.natAbs

def lower (t : Text) : Text := t.map CodePoint.toLower
def upper (t : Text) : Text := t.map CodePoint.toUpper

def IsScalar (t : Text) : Prop := ∀ c ∈ t, c.IsScalar

instance (t : Text) : Decidable t.IsScalar := inferInstanceAs (Decidable (∀ c ∈ t, c.IsScalar))

def isAscii (t : Text) : Bool := t.all CodePoint.isAscii

def trimStart (p : CodePoint → Bool) (t : Text) : Text := t.dropWhile p
def trimEnd (p : CodePoint → Bool) (t : Text) : Text := (t.reverse.dropWhile p).reverse
def trimBoth (p : CodePoint → Bool) (t : Text) : Text := trimEnd p (trimStart p t)

def startsWith (t start : Text) : Bool := start.isPrefixOf t

def cutFirst? (sep : CodePoint) (t : Text) : Option (Text × Text) :=
  match t.dropWhile (· != sep) with
  | [] => none
  | _ :: after => some (t.takeWhile (· != sep), after)

def cutLast? (sep : CodePoint) (t : Text) : Option (Text × Text) :=
  (cutFirst? sep t.reverse).map fun (after, before) => (before.reverse, after.reverse)

def splitOn (p : CodePoint → Bool) (t : Text) : List Text :=
  t.foldr
    (fun c pieces =>
      if p c then [] :: pieces
      else match pieces with
        | [] => [[c]]
        | piece :: rest => (c :: piece) :: rest)
    [[]]

def join (sep : Text) : List Text → Text
  | [] => []
  | piece :: rest => piece ++ (rest.map (sep ++ ·)).flatten

-- Every occurrence of `old` (not empty), from the left, replaced by `new`.
def replace (t old new : Text) : Text :=
  go t.length t
where
  go : Nat → Text → Text
    | 0, t => t
    | _ + 1, [] => []
    | steps + 1, c :: rest =>
      if !old.isEmpty && old.isPrefixOf (c :: rest) then
        new ++ go steps ((c :: rest).drop old.length)
      else c :: go steps rest

def digitsValue (t : Text) : Nat := t.foldl (fun n c => 10 * n + (c.val - 0x30)) 0

-- Like `digitsValue`, to base sixteen; none when some character is no hexadecimal digit.
def hexValue? (t : Text) : Option Nat :=
  t.foldl (fun n? c => n?.bind fun n => c.hexValue?.map (16 * n + ·)) (some 0)

-- A literal is its characters, and evaluating their list needs no octets.
theorem ofString_ofList (characters : List Char) : ofString (.ofList characters) = characters.map CodePoint.ofChar := by
  simp [ofString]

theorem join_singleton (sep t : Text) : join sep [t] = t := by
  simp [join]

end Text

end OidcLogin
