import OidcLogin.Text.Basic

namespace OidcLogin

namespace CodePoint

def isWhiteSpace (c : CodePoint) : Bool :=
  (0x09 ≤ c.val && c.val ≤ 0x0D) || c.val == 0x20 || c.val == 0x85 || c.val == 0xA0
    || c.val == 0x1680 || (0x2000 ≤ c.val && c.val ≤ 0x200A) || c.val == 0x2028 || c.val == 0x2029
    || c.val == 0x202F || c.val == 0x205F || c.val == 0x3000

def isBlank (c : CodePoint) : Bool := c.isWhiteSpace || (0x1C ≤ c.val && c.val ≤ 0x1F)

end CodePoint

namespace Text

def trim (t : Text) : Text := t.trimBoth CodePoint.isBlank

def isBlank (t : Text) : Bool := t.all CodePoint.isBlank

def trimmed? (t : Text) : Option Text :=
  match t.trim with
  | [] => none
  | kept => some kept

end Text

end OidcLogin
