import OrderDesk.Journal.Entry
import OrderDesk.Text.Numerals
import OrderDesk.Text.Quoted
import OrderDesk.Text.Split

-- Hosts, and why nothing can be sent to one. A host in square brackets is a numeric address of eight groups, or
-- names a later version of such addresses; and no host may be taken for something else when it is written in
-- plain characters.
namespace OrderDesk.Host

def isHexDigit (c : Char) : Bool := Text.isAsciiDigit c || ('a' ≤ c && c ≤ 'f') || ('A' ≤ c && c ≤ 'F')

-- A number up to 255, without zeros in front.
def isOctet (text : List Char) : Bool :=
  !text.isEmpty && text.all Text.isAsciiDigit && text.length ≤ 3 && (text == ['0'] || text.head? != some '0') &&
    Text.natOf text ≤ 255

-- Four octets with dots between them.
def isQuad (text : List Char) : Bool :=
  let octets := Text.splitChars '.' text
  octets.length == 4 && octets.all isOctet

def isGroup (text : List Char) : Bool := !text.isEmpty && text.length ≤ 4 && text.all isHexDigit

-- How many groups stand here, with colons between them. Four octets stand for the last two groups of an address.
def groups? (ending : Bool) (text : List Char) : Option Nat :=
  let parts := Text.splitChars ':' text
  if text.isEmpty then some 0
  else if parts.all isGroup then some parts.length
  else if ending && parts.dropLast.all isGroup && parts.getLast?.any isQuad then some (parts.length + 1)
  else none

-- What stands before and after the first two colons in a row.
def splitGap : List Char → Option (List Char × List Char)
  | ':' :: ':' :: rest => some ([],rest)
  | c :: rest => (splitGap rest).map fun (before,after) => (c :: before,after)
  | [] => none

-- Eight groups. One gap stands for those that are left out.
def isGrouped (text : List Char) : Bool :=
  match splitGap text with
  | none => groups? true text == some 8
  | some (before,after) =>
    match groups? false before,groups? true after with
    | some first,some last => first + last ≤ 7
    | _,_ => false

-- Groups, and the zone they are valid in where one is named.
def isNumeric (text : List Char) : Bool :=
  match Text.splitChars '%' text with
  | [address] => isGrouped address
  | [address,zone] => !zone.isEmpty && isGrouped address
  | _ => false

-- A version in hexadecimal digits and an address of that version, with a dot between them.
def isVersioned (text : List Char) : Bool :=
  match text.takeWhile isHexDigit,text.dropWhile isHexDigit with
  | _ :: _,'.' :: _ :: _ => true
  | _,_ => false

def bracketProblem? (text : List Char) : Option String :=
  match text with
  | 'v' :: rest => if isVersioned rest then none else some "IPvFuture address is invalid"
  | _ =>
    if isQuad text then some "An IPv4 address cannot be in brackets"
    else if isNumeric text then none
    else some (Text.quoted (String.ofList text) ++ " does not appear to be an IPv4 or IPv6 address")

-- What stands in the first brackets.
def bracketed? (host : List Char) : Option (List Char) :=
  if host.contains '[' && host.contains ']' then
    some (((host.dropWhile (· != '[')).drop 1).takeWhile (· != ']'))
  else none

-- Characters that become a slash, a question mark, a number sign, an at sign or a colon when written in plain characters.
def signForms : List Nat := [
  0x2047,0x2048,0x2049,0x2100,0x2101,0x2105,0x2106,0x2a74,0xfe13,0xfe16,0xfe55,0xfe56,0xfe5f,0xfe6b,
  0xff03,0xff0f,0xff1a,0xff1f,0xff20]

def problem? (host : List Char) : Option Failure :=
  let refused := fun (text : String) => some (Failure.mk "ValueError" text)
  if host.contains '[' != host.contains ']' then refused "Invalid IPv6 URL"
  else match (bracketed? host).bind bracketProblem? with
    | some text => refused text
    | none =>
      if host.any fun c => signForms.contains c.toNat then
        refused ("netloc '" ++ String.ofList host ++ "' contains invalid characters under NFKC normalization")
      else none

end OrderDesk.Host
