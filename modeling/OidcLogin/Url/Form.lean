import OidcLogin.Text.Utf8

namespace OidcLogin.Form

abbrev Pairs := List (Text × Text)

def isPlain (c : CodePoint) : Bool :=
  c.isAlphanumeric || c = '_' || c = '.' || c = '-' || c = '~'

def upperHex (n : Nat) : CodePoint := (CodePoint.ofChar (Nat.digitChar n)).toUpper

def percent (b : UInt8) : Text := ['%', upperHex (b.toNat / 16), upperHex (b.toNat % 16)]

def encodeOctet (b : UInt8) : Text :=
  let c := CodePoint.ofNat b.toNat
  if isPlain c then [c] else if c = ' ' then ['+'] else percent b

def encodeText (t : Text) : Except EncodeFault Text :=
  (t.encode .utf8).map fun octets => octets.flatMap encodeOctet

def encodePair (name value : Text) : Except EncodeFault Text :=
  match encodeText name with
  | .error fault => .error fault
  | .ok name =>
    match encodeText value with
    | .error fault => .error fault
    | .ok value => .ok (name ++ CodePoint.ofChar '=' :: value)

def encodePairs : Pairs → Except EncodeFault (List Text)
  | [] => .ok []
  | (name, value) :: rest =>
    match encodePair name value with
    | .error fault => .error fault
    | .ok piece => (encodePairs rest).map (piece :: ·)

def encode (pairs : Pairs) : Except EncodeFault Text :=
  (encodePairs pairs).map (Text.join "&")

-- Escapes decoded, with the octets that ASCII characters and escapes give read as UTF-8 between the
-- other characters.  `octets` are those not yet read, the last one first.
def unescape (octets : Bytes) : Text → Text
  | [] => Utf8.decodeLossy octets.reverse
  | c :: rest =>
    if c.isAscii then
      if c = '%' then
        match rest with
        | high :: low :: after =>
          match high.hexValue?, low.hexValue? with
          | some a, some b => unescape (UInt8.ofNat (16 * a + b) :: octets) after
          | _, _ => unescape (0x25 :: octets) (high :: low :: after)
        | other => unescape (0x25 :: octets) other
      else unescape (UInt8.ofNat c.val :: octets) rest
    else Utf8.decodeLossy octets.reverse ++ c :: unescape [] rest
termination_by rest => rest.length
decreasing_by all_goals simp_all <;> omega

def decodePercent (t : Text) : Text := unescape [] t

def decodeText (t : Text) : Text :=
  unescape [] (t.map fun c => if c = CodePoint.ofChar '+' then CodePoint.ofChar ' ' else c)

-- The pair of a piece between ampersands.  A blank value counts only if `keepBlank`.
def decodePiece? (keepBlank : Bool) (piece : Text) : Option (Text × Text) :=
  if piece.isEmpty then none
  else
    match piece.cutFirst? (CodePoint.ofChar '=') with
    | none => if keepBlank then some (decodeText piece, []) else none
    | some (name, value) =>
      if value.isEmpty && !keepBlank then none else some (decodeText name, decodeText value)

def decode (keepBlank : Bool) (query : Text) : Pairs :=
  (query.splitOn (· = CodePoint.ofChar '&')).filterMap (decodePiece? keepBlank)

def last? (pairs : Pairs) (name : Text) : Option Text := pairs.reverse.lookup name

end OidcLogin.Form
