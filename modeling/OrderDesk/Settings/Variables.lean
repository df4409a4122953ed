import OrderDesk.Settings.Basic
import OrderDesk.Text.Blank
import OrderDesk.Text.Split

-- Files of environment variables. A binding is a name, an equals sign and a value; a quoted value may go on
-- over several lines. Values may name other variables in braces after a dollar sign. A line that is no binding
-- is passed over, and what the environment has already is kept.
namespace OrderDesk
namespace Variables

-- A name without an equals sign has no value, and still hides no other.
structure Binding where
  name : String
  value : Option (List Char)

def isLineEnd (c : Char) : Bool := c == '\n' || c == '\r'

def isGap (c : Char) : Bool := Text.isBlank c && !isLineEnd c

def skipGaps (text : List Char) : List Char := text.dropWhile isGap

def skipLine (text : List Char) : List Char := (text.dropWhile (!isLineEnd ·)).drop 1

-- The place of the closing quote: the first one without a backslash before it, else the last one.
def closing? (quote : Char) (previous : Char) : List Char → Option Nat
  | [] => none
  | c :: rest =>
    let later := (closing? quote c rest).map (· + 1)
    if c != quote then later
    else if previous == '\\' then some (later.getD 0)
    else some 0

def plainEscapes : List (Char × Char) := [('\\','\\'),('\'','\'')]

def fullEscapes : List (Char × Char) :=
  plainEscapes ++ [('"','"'),('a',Char.ofNat 7),('b',Char.ofNat 8),('f',Char.ofNat 12),('n','\n'),('r','\r'),
    ('t','\t'),('v',Char.ofNat 11)]

def unescaped (escapes : List (Char × Char)) : List Char → List Char
  | '\\' :: c :: rest =>
    match escapes.find? fun escape => escape.1 == c with
    | some (_,meant) => meant :: unescaped escapes rest
    | none => '\\' :: c :: unescaped escapes rest
  | c :: rest => c :: unescaped escapes rest
  | [] => []

def quoted? (quote : Char) (escapes : List (Char × Char)) (text : List Char) : Option (List Char × List Char) :=
  (closing? quote quote text).map fun n => (unescaped escapes (text.take n),text.drop (n + 1))

-- A comment begins at a number sign behind a blank.
def uncommented (blank : Bool) : List Char → List Char
  | [] => []
  | c :: rest => if c == '#' && blank then [] else c :: uncommented (Text.isBlank c) rest

def bareValue (line : List Char) : List Char := ((uncommented false line).reverse.dropWhile Text.isBlank).reverse

def value? (text : List Char) : Option (List Char × List Char) :=
  match text with
  | '\'' :: rest => quoted? '\'' plainEscapes rest
  | '"' :: rest => quoted? '"' fullEscapes rest
  | text => some (bareValue (text.takeWhile (!isLineEnd ·)),text.dropWhile (!isLineEnd ·))

def withoutExport (text : List Char) : List Char :=
  if text.take 6 == "export".toList && (text.drop 6).head?.any isGap then skipGaps (text.drop 6) else text

def isNameEnd (c : Char) : Bool := c == '=' || c == '#' || Text.isBlank c

def name? (text : List Char) : Option (String × List Char) :=
  let (name,rest) := match text with
    | '\'' :: rest =>
      let name := rest.takeWhile (· != '\'')
      (if name.length < rest.length then name else [],rest.drop (name.length + 1))
    | text => (text.takeWhile (!isNameEnd ·),text.dropWhile (!isNameEnd ·))
  if name.isEmpty then none else some (String.ofList name,rest)

-- Nothing but a comment may stand behind a binding.
def atLineEnd (text : List Char) : Bool :=
  match skipGaps text with
  | [] => true
  | c :: _ => isLineEnd c || c == '#'

-- The binding at the beginning of a text, if there is one, and the text from the next line on.
def binding (text : List Char) : Option Binding × List Char :=
  match name? (withoutExport text) with
  | none => (none,skipLine text)
  | some (name,rest) =>
    match skipGaps rest with
    | '=' :: rest =>
      let rest := skipGaps rest
      match value? rest with
      | none => (none,skipLine rest)
      | some (value,rest) => (if atLineEnd rest then some ⟨name,some value⟩ else none,skipLine rest)
    | rest => (if atLineEnd rest then some ⟨name,none⟩ else none,skipLine rest)

-- A binding is at least one character long.
def bindings : Nat → List Char → List Binding
  | 0,_ => []
  | rounds + 1,text =>
    match text.dropWhile Text.isBlank with
    | [] => []
    | text =>
      let (found,rest) := binding text
      found.toList ++ bindings rounds rest

-- A name in braces, and the text that stands for it when it is unknown; then the text behind the braces.
def reference? (text : List Char) : Option (String × List Char × List Char) :=
  let name := text.takeWhile fun c => c != '\x7d' && c != ':'
  let default := match text.drop name.length with
    | ':' :: '-' :: rest => rest.takeWhile (· != '\x7d')
    | _ => []
  match text.drop name.length with
  | '\x7d' :: rest => some (String.ofList name,[],rest)
  | ':' :: '-' :: rest => match rest.drop default.length with
    | '\x7d' :: rest => some (String.ofList name,default,rest)
    | _ => none
  | _ => none

abbrev Known := List (String × Option String)

def meaning (known : Known) (name : String) (default : List Char) : List Char :=
  match known.find? fun entry => entry.1 == name with
  | some (_,value) => (value.getD "").toList
  | none => default

-- Each round reads at least one character.
def expanded (known : Known) : Nat → List Char → List Char
  | 0,text => text
  | _ + 1,[] => []
  | rounds + 1,'$' :: '\x7b' :: rest =>
    match reference? rest with
    | some (name,default,rest) => meaning known name default ++ expanded known rounds rest
    | none => '$' :: expanded known rounds ('\x7b' :: rest)
  | rounds + 1,c :: rest => c :: expanded known rounds rest

-- One more variable. The environment comes first among the known values, the last binding of a name after it.
def assign (outer : Environment) (own : Known) (b : Binding) : Known :=
  let known := outer.map (fun entry => (entry.1,some entry.2)) ++ own
  let value := b.value.map fun text => String.ofList (expanded known (text.length + 1) text)
  (own.filter fun old => old.1 != b.name) ++ [(b.name,value)]

-- The environment with the variables of a file that it does not have.
def read (text : String) (outer : Environment) : Environment :=
  let own := (bindings (text.length + 1) (Text.withNewlines text.toList)).foldl (assign outer) []
  let valued := own.filterMap fun entry => entry.2.map fun value => (entry.1,value)
  outer ++ valued.filter fun entry => !outer.any fun known => known.1 == entry.1

end Variables
end OrderDesk
