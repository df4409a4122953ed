import OrderDesk.Text.Printable

-- Quoted text, as messages show strings. The quote is single unless the text holds single quotes and no double
-- quote; the quote in use and the backslash are escaped, and so is what cannot be shown.
namespace OrderDesk.Text

def hexDigit (n : Nat) : Char := (Nat.digitChar n)

-- The last `width` hexadecimal digits.
def hexText (width n : Nat) : List Char :=
  (List.range width).reverse.map fun place => hexDigit (n >>> (4 * place) % 16)

def escapeHidden (c : Char) : List Char :=
  let n := c.toNat
  if n < 0x100 then '\\' :: 'x' :: hexText 2 n
  else if n < 0x10000 then '\\' :: 'u' :: hexText 4 n
  else '\\' :: 'U' :: hexText 8 n

def escapeQuoted (quote c : Char) : List Char :=
  if c == quote || c == '\\' then ['\\',c]
  else if c == '\n' then ['\\','n']
  else if c == '\r' then ['\\','r']
  else if c == '\t' then ['\\','t']
  else if isPrintable c then [c]
  else escapeHidden c

def quoteOf (text : List Char) : Char :=
  if text.contains '\'' && !text.contains '"' then '"' else '\''

def quoted (text : String) : String :=
  let chars := text.toList
  let quote := quoteOf chars
  String.ofList (quote :: chars.flatMap (escapeQuoted quote) ++ [quote])

end OrderDesk.Text
