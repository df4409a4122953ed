import OrderDesk.Json.Basic
import OrderDesk.Text.Numerals

-- Reading JSON text. `NaN` and the infinities are read as floats, integers have any size, a number with a point
-- or an exponent is a float. A refusal tells what was expected and where. The interpreter refuses integers of
-- more digits than it prints; here they are read, and values nested to any depth.
namespace OrderDesk

structure JsonError where
  problem : String
  position : Nat
deriving DecidableEq

-- Lines and columns count from one, characters from zero.
def JsonError.message (e : JsonError) (text : String) : String :=
  let before := text.toList.take e.position
  let line := before.count '\n' + 1
  let column := (before.reverse.takeWhile (· != '\n')).length + 1
  s!"{e.problem}: line {line} column {column} (char {e.position})"

namespace Json
namespace Reader

-- The characters left, and how many are behind.
structure Rest where
  chars : List Char
  position : Nat

def fail (problem : String) (position : Nat) : Except JsonError α := .error ⟨problem,position⟩

def isWhite (c : Char) : Bool := c == ' ' || c == '\t' || c == '\n' || c == '\r'

def skipWhite : List Char → Nat → Rest
  | c :: cs,n => if isWhite c then skipWhite cs (n + 1) else ⟨c :: cs,n⟩
  | [],n => ⟨[],n⟩

def hexValue? (c : Char) : Option Nat :=
  if '0' ≤ c && c ≤ '9' then some (c.toNat - '0'.toNat)
  else if 'a' ≤ c && c ≤ 'f' then some (c.toNat - 'a'.toNat + 10)
  else if 'A' ≤ c && c ≤ 'F' then some (c.toNat - 'A'.toNat + 10)
  else none

def hex4? : List Char → Option Nat
  | [a,b,c,d] => do
    let a ← hexValue? a
    let b ← hexValue? b
    let c ← hexValue? c
    let d ← hexValue? d
    pure (a * 4096 + b * 256 + c * 16 + d)
  | _ => none

def simpleEscape? : Char → Option Char
  | '"' => some '"'
  | '\\' => some '\\'
  | '/' => some '/'
  | 'b' => some (Char.ofNat 8)
  | 'f' => some (Char.ofNat 12)
  | 'n' => some '\n'
  | 'r' => some '\r'
  | 't' => some '\t'
  | _ => none

-- Half of a character past the basic plane stands for no character.
def codeChar (n : Nat) : Char := if 0xD800 ≤ n && n < 0xE000 then Char.ofNat 0xFFFD else Char.ofNat n

-- A second half directly after a first one, and the first one's place in the pair.
def lowHalf? : List Char → Option Nat
  | '\\' :: 'u' :: a :: b :: c :: d :: _ :: _ =>
    (hex4? [a,b,c,d]).bind fun n => if 0xDC00 ≤ n && n < 0xE000 then some n else none
  | _ => none

-- Text up to the closing quote; `start` is the place of the opening one.
def stringBody (start : Nat) : Nat → List Char → Nat → List Char → Except JsonError (String × Rest)
  | 0,_,_,_ => fail "Unterminated string starting at" start
  | fuel + 1,chars,n,read =>
    match chars with
    | [] => fail "Unterminated string starting at" start
    | '"' :: cs => .ok (String.ofList read.reverse,⟨cs,n + 1⟩)
    | '\\' :: [] => fail "Unterminated string starting at" start
    | '\\' :: 'u' :: cs =>
      if cs.length < 5 then fail "Invalid \\uXXXX escape" (n + 1)
      else match hex4? (cs.take 4) with
        | none => fail "Invalid \\uXXXX escape" (n + 1)
        | some high =>
          let after := cs.drop 4
          if 0xD800 ≤ high && high < 0xDC00 then
            match lowHalf? after with
            | some low =>
              stringBody start fuel (after.drop 6) (n + 12)
                (Char.ofNat (0x10000 + (high - 0xD800) * 0x400 + (low - 0xDC00)) :: read)
            | none => stringBody start fuel after (n + 6) (codeChar high :: read)
          else stringBody start fuel after (n + 6) (codeChar high :: read)
    | '\\' :: c :: cs =>
      match simpleEscape? c with
      | some c => stringBody start fuel cs (n + 2) (c :: read)
      | none => fail "Invalid \\escape" n
    | c :: cs =>
      if c.toNat < 32 then fail "Invalid control character at" n
      else stringBody start fuel cs (n + 1) (c :: read)

def stringAt (start : Nat) (chars : List Char) : Except JsonError (String × Rest) :=
  stringBody start (chars.length + 1) chars (start + 1) []

-- Digits after a point, when there is at least one.
def fractionOf : List Char → List Char × List Char
  | '.' :: cs =>
    let digits := cs.takeWhile Text.isAsciiDigit
    if digits.isEmpty then ([],'.' :: cs) else ('.' :: digits,cs.drop digits.length)
  | cs => ([],cs)

def exponentOf : List Char → List Char × List Char
  | [] => ([],[])
  | e :: cs =>
    if e == 'e' || e == 'E' then
      let (sign,rest) := match cs with
        | '+' :: rest => (['+'],rest)
        | '-' :: rest => (['-'],rest)
        | rest => ([],rest)
      let digits := rest.takeWhile Text.isAsciiDigit
      if digits.isEmpty then ([],e :: cs) else (e :: sign ++ digits,rest.drop digits.length)
    else ([],e :: cs)

def numberAt? (chars : List Char) (n : Nat) : Option (Json × Rest) :=
  let (sign,body) := match chars with
    | '-' :: cs => (['-'],cs)
    | cs => ([],cs)
  let whole := match body with
    | '0' :: _ => ['0']
    | cs => cs.takeWhile Text.isAsciiDigit
  if whole.isEmpty then none
  else
    let (fraction,rest) := fractionOf (body.drop whole.length)
    let (exponent,rest) := exponentOf rest
    let text := sign ++ whole ++ fraction ++ exponent
    let value :=
      if fraction.isEmpty && exponent.isEmpty then
        int (if sign.isEmpty then (Text.natOf whole : Int) else -(Text.natOf whole : Int))
      else float ((Text.plainFloat? text).getD 0)
    some (value,⟨rest,n + text.length⟩)

def literals : List (List Char × Json) :=
  [("null".toList,null),("true".toList,bool true),("false".toList,bool false),("NaN".toList,float .nan),
   ("Infinity".toList,float (.infinite false)),("-Infinity".toList,float (.infinite true))]

def literalAt? (chars : List Char) (n : Nat) : Option (Json × Rest) :=
  (literals.find? fun entry => entry.1.isPrefixOf chars).map fun entry =>
    (entry.2,⟨chars.drop entry.1.length,n + entry.1.length⟩)

mutual
def valueAt : Nat → List Char → Nat → Except JsonError (Json × Rest)
  | 0,_,n => fail "Expecting value" n
  | fuel + 1,chars,n =>
    match chars with
    | '"' :: cs => (stringAt n cs).map fun (s,rest) => (str s,rest)
    | '[' :: cs =>
      let rest := skipWhite cs (n + 1)
      match rest.chars with
      | ']' :: cs => .ok (arr [],⟨cs,rest.position + 1⟩)
      | _ => itemsAt fuel rest.chars rest.position []
    | '\x7b' :: cs =>
      let rest := skipWhite cs (n + 1)
      match rest.chars with
      | '\x7d' :: cs => .ok (obj [],⟨cs,rest.position + 1⟩)
      | _ => fieldsAt fuel rest.chars rest.position []
    | chars =>
      match literalAt? chars n with
      | some found => .ok found
      | none => match numberAt? chars n with
        | some found => .ok found
        | none => fail "Expecting value" n

def itemsAt : Nat → List Char → Nat → List Json → Except JsonError (Json × Rest)
  | 0,_,n,_ => fail "Expecting value" n
  | fuel + 1,chars,n,items => do
    let (item,after) ← valueAt fuel chars n
    let rest := skipWhite after.chars after.position
    match rest.chars with
    | ']' :: cs => .ok (arr (item :: items).reverse,⟨cs,rest.position + 1⟩)
    | ',' :: cs =>
      let next := skipWhite cs (rest.position + 1)
      itemsAt fuel next.chars next.position (item :: items)
    | _ => fail "Expecting ',' delimiter" rest.position

def fieldsAt : Nat → List Char → Nat → List (String × Json) → Except JsonError (Json × Rest)
  | 0,_,n,_ => fail "Expecting property name enclosed in double quotes" n
  | fuel + 1,chars,n,fields =>
    match chars with
    | '"' :: cs => do
      let (key,after) ← stringAt n cs
      let colon := skipWhite after.chars after.position
      match colon.chars with
      | ':' :: cs =>
        let start := skipWhite cs (colon.position + 1)
        let (value,after) ← valueAt fuel start.chars start.position
        let rest := skipWhite after.chars after.position
        match rest.chars with
        | '\x7d' :: cs => .ok (obj (Fields.ofList ((key,value) :: fields).reverse),⟨cs,rest.position + 1⟩)
        | ',' :: cs =>
          let next := skipWhite cs (rest.position + 1)
          fieldsAt fuel next.chars next.position ((key,value) :: fields)
        | _ => fail "Expecting ',' delimiter" rest.position
      | _ => fail "Expecting ':' delimiter" colon.position
    | _ => fail "Expecting property name enclosed in double quotes" n
end

end Reader

def read (text : String) : Except JsonError Json :=
  let chars := text.toList
  if chars.head? == some (Char.ofNat 0xFEFF) then
    .error ⟨"Unexpected UTF-8 BOM (decode using utf-8-sig)",0⟩
  else do
    let start := Reader.skipWhite chars 0
    let (value,after) ← Reader.valueAt (2 * chars.length + 2) start.chars start.position
    let rest := Reader.skipWhite after.chars after.position
    if rest.chars.isEmpty then pure value else .error ⟨"Extra data",rest.position⟩

end Json
end OrderDesk
