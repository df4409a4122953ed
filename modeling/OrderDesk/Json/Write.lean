import OrderDesk.Json.Basic
import OrderDesk.Numeric.Decimal
import OrderDesk.Text.Quoted

-- Texts of JSON values: `compact` on one line, `pretty` with two blanks a level, both in ASCII; `display` is
-- the text shown in messages, and `quoted` the same with strings in quotes.
namespace OrderDesk

namespace Json

def unicodeEscape (n : Nat) : List Char := '\\' :: 'u' :: Text.hexText 4 n

-- Characters past the basic plane are written as two halves.
def escapeChar (c : Char) : List Char :=
  let n := c.toNat
  if c == '"' then ['\\','"']
  else if c == '\\' then ['\\','\\']
  else if c == '\n' then ['\\','n']
  else if c == '\r' then ['\\','r']
  else if c == '\t' then ['\\','t']
  else if n == 8 then ['\\','b']
  else if n == 12 then ['\\','f']
  else if 32 ≤ n && n < 127 then [c]
  else if n < 0x10000 then unicodeEscape n
  else unicodeEscape (0xD800 + (n - 0x10000) / 0x400) ++ unicodeEscape (0xDC00 + (n - 0x10000) % 0x400)

def stringText (s : String) : String :=
  String.ofList ('"' :: s.toList.flatMap escapeChar ++ ['"'])

def floatLiteral : Binary64 → String
  | .nan => "NaN"
  | .infinite false => "Infinity"
  | .infinite true => "-Infinity"
  | x => Decimal.exact x

mutual
def compact : Json → String
  | null => "null"
  | bool b => if b then "true" else "false"
  | int n => toString n
  | float x => floatLiteral x
  | str s => stringText s
  | arr items => "[" ++ compactItems items ++ "]"
  | obj fields => "\x7b" ++ compactFields fields ++ "\x7d"

def compactItems : List Json → String
  | [] => ""
  | [v] => v.compact
  | v :: rest => v.compact ++ ", " ++ compactItems rest

def compactFields : List (String × Json) → String
  | [] => ""
  | [(k,v)] => stringText k ++ ": " ++ v.compact
  | (k,v) :: rest => stringText k ++ ": " ++ v.compact ++ ", " ++ compactFields rest
end

def newline (level : Nat) : String := "\n" ++ String.ofList (List.replicate (2 * level) ' ')

mutual
def prettyAt (level : Nat) : Json → String
  | arr [] => "[]"
  | obj [] => "\x7b\x7d"
  | arr items => "[" ++ prettyItems (level + 1) items ++ newline level ++ "]"
  | obj fields => "\x7b" ++ prettyFields (level + 1) fields ++ newline level ++ "\x7d"
  | v => v.compact

def prettyItems (level : Nat) : List Json → String
  | [] => ""
  | [v] => newline level ++ v.prettyAt level
  | v :: rest => newline level ++ v.prettyAt level ++ "," ++ prettyItems level rest

def prettyFields (level : Nat) : List (String × Json) → String
  | [] => ""
  | [(k,v)] => newline level ++ stringText k ++ ": " ++ v.prettyAt level
  | (k,v) :: rest => newline level ++ stringText k ++ ": " ++ v.prettyAt level ++ "," ++ prettyFields level rest
end

def pretty (v : Json) : String := v.prettyAt 0

mutual
def quoted : Json → String
  | null => "None"
  | bool b => if b then "True" else "False"
  | int n => toString n
  | float x => Decimal.exact x
  | str s => Text.quoted s
  | arr items => "[" ++ quotedItems items ++ "]"
  | obj fields => "\x7b" ++ quotedFields fields ++ "\x7d"

def quotedItems : List Json → String
  | [] => ""
  | [v] => v.quoted
  | v :: rest => v.quoted ++ ", " ++ quotedItems rest

def quotedFields : List (String × Json) → String
  | [] => ""
  | [(k,v)] => Text.quoted k ++ ": " ++ v.quoted
  | (k,v) :: rest => Text.quoted k ++ ": " ++ v.quoted ++ ", " ++ quotedFields rest
end

def display : Json → String
  | str s => s
  | v => v.quoted

mutual
-- No integer has more than so many digits.
def within (digits : Nat) : Json → Bool
  | int n => n.natAbs < 10 ^ digits
  | arr items => withinItems digits items
  | obj fields => withinFields digits fields
  | _ => true

def withinItems (digits : Nat) : List Json → Bool
  | [] => true
  | v :: rest => v.within digits && withinItems digits rest

def withinFields (digits : Nat) : List (String × Json) → Bool
  | [] => true
  | (_,v) :: rest => v.within digits && withinFields digits rest
end

end Json
end OrderDesk
