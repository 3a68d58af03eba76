import OidcLogin.Text.Basic
import OidcLogin.Text.Printable

namespace OidcLogin.Text

def hexDigits : Nat → Nat → Text
  | 0, _ => []
  | width + 1, n =>
    hexDigits width (n / 16) ++ [CodePoint.ofChar (Nat.digitChar (n % 16))]

-- A hidden code point as `\xNN`, `\uNNNN` or `\UNNNNNNNN`, whichever is the first wide enough.
def hexEscape (c : CodePoint) : Text :=
  if c.val < 0x100 then "\\x" ++ hexDigits 2 c.val
  else if c.val < 0x10000 then "\\u" ++ hexDigits 4 c.val
  else "\\U" ++ hexDigits 8 c.val

def escaped (quote : CodePoint) (c : CodePoint) : Text :=
  if c = quote || c = '\\' then ['\\', c]
  else if c = '\t' then "\\t"
  else if c = '\n' then "\\n"
  else if c = '\r' then "\\r"
  else if c.isPrintable then [c]
  else hexEscape c

def quoteFor (t : Text) : CodePoint :=
  if t.contains (CodePoint.ofChar '\'') && !t.contains (CodePoint.ofChar '"') then '"' else '\''

def quoted (t : Text) : Text :=
  quoteFor t :: (t.flatMap (escaped (quoteFor t)) ++ [quoteFor t])

end OidcLogin.Text
