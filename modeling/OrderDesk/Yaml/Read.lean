import OrderDesk.Fault
import OrderDesk.Json.Read
import OrderDesk.Yaml.Scalar

-- Reading YAML: block mappings and sequences by their columns, flow collections, quoted and plain scalars,
-- comments. JSON is nearly always YAML too. Anchors, tags and block texts are refused.
namespace OrderDesk

-- A document. Keys are scalars, and need not be texts.
inductive Yaml where
  | scalar (v : Json)
  | list (items : List Yaml)
  | map (entries : List (Json × Yaml))

instance : Inhabited Yaml := ⟨.scalar .null⟩

namespace Yaml

mutual
-- Entries whose keys are no texts are left out.
def toJson : Yaml → Json
  | scalar v => v
  | list items => .arr (itemsJson items)
  | map entries => .obj (Fields.ofList (entriesJson entries))

def itemsJson : List Yaml → List Json
  | [] => []
  | v :: rest => v.toJson :: itemsJson rest

def entriesJson : List (Json × Yaml) → List (String × Json)
  | [] => []
  | (.str key,v) :: rest => (key,v.toJson) :: entriesJson rest
  | (_,_) :: rest => entriesJson rest
end

def textKeys : Yaml → Bool
  | map entries => entries.all fun entry => entry.1.str?.isSome
  | _ => true

namespace Reader

-- The characters left, and the column of the next one.
structure Spot where
  rest : List Char
  column : Nat

abbrev Step (α : Type) := Except Fault (α × Spot)

def badToken : Fault := .raised "ScannerError" "unexpected character"

def badStructure : Fault := .raised "ParserError" "unexpected token"

def Spot.after (s : Spot) (n : Nat) : Spot := ⟨s.rest.drop n,s.column + n⟩

def isEnd (rest : List Char) : Bool :=
  match rest with
  | [] => true
  | c :: _ => c == ' ' || c == '\t' || c == '\n' || c == '\r'

-- Blanks, line ends and comments in front of the next token.
def skipFrom (comment : Bool) : List Char → Nat → Spot
  | [],n => ⟨[],n⟩
  | c :: rest,n =>
    if c == '\n' || c == '\r' then skipFrom false rest 0
    else if comment || c == ' ' then skipFrom comment rest (n + 1)
    else if c == '#' then skipFrom true rest (n + 1)
    else ⟨c :: rest,n⟩

def Spot.skip (s : Spot) : Spot := skipFrom false s.rest s.column

def skipBlanks (s : Spot) : Spot := s.after (s.rest.takeWhile (· == ' ')).length

-- Where a walk over some characters leads.
def Spot.over (s : Spot) : Nat → Spot
  | 0 => s
  | n + 1 =>
    match s.rest with
    | [] => s
    | c :: rest => (⟨rest,if c == '\n' then 0 else s.column + 1⟩ : Spot).over n

-- One line end inside a scalar is a blank, more are one line end less.
def folded (space : List Char) : List Char :=
  match space.count '\n' with
  | 0 => space
  | 1 => [' ']
  | lines => List.replicate (lines - 1) '\n'

def isSpace (c : Char) : Bool := c == ' ' || c == '\t' || c == '\n'

def singleQuoted : Nat → List Char → Except Fault (List Char × List Char)
  | 0,_ | _,[] => .error badToken
  | fuel + 1,c :: rest =>
    if c == '\'' then
      match rest with
      | '\'' :: rest => (singleQuoted fuel rest).map fun (text,rest) => ('\'' :: text,rest)
      | rest => .ok ([],rest)
    else if isSpace c then
      let space := (c :: rest).takeWhile isSpace
      (singleQuoted fuel ((c :: rest).drop space.length)).map fun (text,rest) => (folded space ++ text,rest)
    else (singleQuoted fuel rest).map fun (text,rest) => (c :: text,rest)

def namedEscapes : List (Char × Nat) :=
  [('0',0),('a',7),('b',8),('t',9),('\t',9),('n',10),('v',11),('f',12),('r',13),('e',27),(' ',32),
   ('"',34),('\\',92),('/',47),('N',0x85),('_',0xA0),('L',0x2028),('P',0x2029)]

def codeLengths : List (Char × Nat) := [('x',2),('u',4),('U',8)]

def codeOf? (digits : List Char) : Option Nat :=
  digits.foldl (fun total c => total.bind fun n => (Json.Reader.hexValue? c).map (n * 16 + ·)) (some 0)

def escape (chars : List Char) : Except Fault (List Char × List Char) :=
  match chars with
  | [] => .error badToken
  | '\n' :: rest => .ok ([],rest.dropWhile isSpace)
  | c :: rest =>
    match namedEscapes.find? fun entry => entry.1 == c,codeLengths.find? fun entry => entry.1 == c with
    | some (_,code),_ => .ok ([Char.ofNat code],rest)
    | none,some (_,length) =>
      match if rest.length < length then none else codeOf? (rest.take length) with
      | some code => .ok ([Json.Reader.codeChar code],rest.drop length)
      | none => .error badToken
    | none,none => .error badToken

def doubleQuoted : Nat → List Char → Except Fault (List Char × List Char)
  | 0,_ | _,[] => .error badToken
  | fuel + 1,c :: rest =>
    if c == '"' then .ok ([],rest)
    else if c == '\\' then do
      let (text,rest) ← escape rest
      let (more,rest) ← doubleQuoted fuel rest
      pure (text ++ more,rest)
    else if isSpace c then
      let space := (c :: rest).takeWhile isSpace
      (doubleQuoted fuel ((c :: rest).drop space.length)).map fun (text,rest) => (folded space ++ text,rest)
    else (doubleQuoted fuel rest).map fun (text,rest) => (c :: text,rest)

def quoted? (s : Spot) : Option (Step Json) :=
  let finish := fun ((text,rest) : List Char × List Char) => (Json.str (String.ofList text),s.over (s.rest.length - rest.length))
  match s.rest with
  | '\'' :: rest => some ((singleQuoted (rest.length + 1) rest).map finish)
  | '"' :: rest => some ((doubleQuoted (rest.length + 1) rest).map finish)
  | _ => none

def flowMarks : List Char := [',','[',']','\x7b','\x7d']

-- Characters that begin something else than a plain scalar.
def marks : List Char :=
  ['-','?',':',',','[',']','\x7b','\x7d','#','&','*','!','|','>','\'','"','%','@','\x60']

def startsPlain (flow : Bool) (rest : List Char) : Bool :=
  match rest with
  | [] => false
  | c :: more =>
    if isEnd rest then false
    else if !marks.contains c then true
    else !isEnd more && (c == '-' || (!flow && (c == '?' || c == ':')))

def isStop (flow : Bool) (c : Char) : Bool := flow && (flowMarks.contains c || c == '?')

-- A colon ends a key when a blank follows, inside flow collections also when a mark does.
def colonEnds (flow : Bool) (rest : List Char) : Bool :=
  isEnd rest || (flow && match rest with
    | c :: _ => flowMarks.contains c
    | [] => false)

-- The words of a plain scalar on one line; `blanks` are those before the next word.
def plainFrom (flow : Bool) (blanks : List Char) : List Char → List Char
  | [] => []
  | c :: rest =>
    if c == '\n' || c == '\r' || c == '\t' then []
    else if c == ' ' then plainFrom flow (' ' :: blanks) rest
    else if (c == '#' && !blanks.isEmpty) || isStop flow c || (c == ':' && colonEnds flow rest) then []
    else blanks ++ c :: plainFrom flow [] rest

def plainText (flow : Bool) (s : Spot) : List Char × Spot :=
  let text := plainFrom flow [] s.rest
  (text,s.after text.length)

-- A colon that ends a key, and where its value may begin.
def colon? (flow : Bool) (s : Spot) : Option Spot :=
  match s.rest with
  | ':' :: rest => if colonEnds flow rest || flow then some (s.after 1) else none
  | _ => none

def isEntry (s : Spot) : Bool :=
  match s.rest with
  | '-' :: rest => isEnd rest
  | _ => false

def key? (s : Spot) : Option (Json × Spot) :=
  match quoted? s with
  | some (.ok (key,t)) => (colon? false (skipBlanks t)).map fun t => (key,t)
  | some (.error _) => none
  | none =>
    if startsPlain false s.rest then
      let (text,t) := plainText false s
      (colon? false (skipBlanks t)).map fun t => (plainValue text,t)
    else none

-- The value of a plain scalar; a date has to be one.
def plainScalar (text : List Char) : Except Fault Yaml :=
  match (momentParts? text).bind momentProblem? with
  | some problem => .error (.badValue problem)
  | none => .ok (.scalar (plainValue text))

-- Flow collections. Every call reads a token first, so the number of characters bounds the calls.
mutual
def flowNode : Nat → Spot → Step Yaml
  | 0,_ => .error badStructure
  | fuel + 1,s =>
    match quoted? s with
    | some step => step.map fun (v,t) => (.scalar v,t)
    | none =>
      match s.rest with
      | '[' :: _ => (flowItems fuel (s.after 1).skip []).map fun (items,t) => (.list items,t)
      | '\x7b' :: _ => (flowEntries fuel (s.after 1).skip []).map fun (entries,t) => (.map entries,t)
      | rest =>
        if startsPlain true rest then
          let (text,t) := plainText true s
          (plainScalar text).map fun v => (v,t)
        else match rest with
          | [] => .error badStructure
          | c :: _ => .error (if flowMarks.contains c then badStructure else badToken)

def flowItems : Nat → Spot → List Yaml → Step (List Yaml)
  | 0,_,_ => .error badStructure
  | fuel + 1,s,read =>
    match s.rest with
    | ']' :: _ => .ok (read.reverse,s.after 1)
    | _ =>
      match flowNode fuel s with
      | .error fault => .error fault
      | .ok (v,t) =>
        let t := t.skip
        match t.rest with
        | ',' :: _ => flowItems fuel (t.after 1).skip (v :: read)
        | ']' :: _ => .ok ((v :: read).reverse,t.after 1)
        | _ => .error badStructure

def flowEntries : Nat → Spot → List (Json × Yaml) → Step (List (Json × Yaml))
  | 0,_,_ => .error badStructure
  | fuel + 1,s,read =>
    match s.rest with
    | '\x7d' :: _ => .ok (read.reverse,s.after 1)
    | _ =>
      match flowNode fuel s with
      | .error fault => .error fault
      | .ok (.scalar key,t) =>
        let found : Step Yaml := match colon? true t.skip with
          | some t =>
            let t := t.skip
            match t.rest with
            | ',' :: _ | '\x7d' :: _ => .ok (default,t)
            | _ => flowNode fuel t
          | none => .ok (default,t)
        match found with
        | .error fault => .error fault
        | .ok (v,t) =>
          let t := t.skip
          match t.rest with
          | ',' :: _ => flowEntries fuel (t.after 1).skip ((key,v) :: read)
          | '\x7d' :: _ => .ok (((key,v) :: read).reverse,t.after 1)
          | _ => .error badStructure
      | .ok _ => .error (.raised "ConstructorError" "found unhashable key")
end

-- Whether a spot lies further in than a column; at the outermost level everything does.
def within (parent : Option Nat) (s : Spot) : Bool :=
  !s.rest.isEmpty && match parent with
    | none => true
    | some column => column < s.column

-- The further lines of a plain scalar.
def continued (parent : Option Nat) : Nat → List Char → Spot → Step (List Char)
  | 0,text,s => .ok (text,s)
  | fuel + 1,text,s =>
    let space := s.rest.takeWhile isSpace
    let t := s.over space.length
    if space.contains '\n' && within parent t && startsPlain false t.rest then
      let (more,u) := plainText false t
      if (colon? false (skipBlanks u)).isSome then .error badToken
      else continued parent fuel (text ++ folded space ++ more) u
    else .ok (text,s)

-- A scalar or flow collection that stands where a value may stand.
def inlineNode (fuel : Nat) (parent : Option Nat) (s : Spot) : Step Yaml :=
  if isEntry s then .error badToken
  else match quoted? s with
    | some step => step.map fun (v,t) => (.scalar v,t)
    | none =>
      match s.rest with
      | '[' :: _ | '\x7b' :: _ => flowNode fuel s
      | _ =>
        if startsPlain false s.rest then
          let (text,t) := plainText false s
          if (colon? false (skipBlanks t)).isSome then .error badToken
          else match continued parent fuel text t with
            | .error fault => .error fault
            | .ok (text,t) => (plainScalar text).map fun v => (v,t)
        else .error badToken

def isLineEnd (s : Spot) : Bool :=
  match s.rest with
  | [] => true
  | c :: _ => c == '\n' || c == '\r' || c == '#'

-- Blocks. Every call reads a token, or hands over to a call that does.
mutual
def blockNode : Nat → Option Nat → Spot → Step Yaml
  | 0,_,_ => .error badStructure
  | fuel + 1,parent,s =>
    if isEntry s then (blockItems fuel s.column s []).map fun (items,t) => (.list items,t)
    else if (key? s).isSome then (blockEntries fuel s.column s []).map fun (entries,t) => (.map entries,t)
    else inlineNode fuel parent s

def blockItems : Nat → Nat → Spot → List Yaml → Step (List Yaml)
  | 0,_,_,_ => .error badStructure
  | fuel + 1,column,s,read =>
    let first := skipBlanks (s.after 1)
    let found : Step Yaml :=
      if isLineEnd first && !within (some column) first.skip then .ok (default,first)
      else blockNode fuel (some column) first.skip
    match found with
    | .error fault => .error fault
    | .ok (v,t) =>
      let t := t.skip
      if t.column == column && isEntry t then blockItems fuel column t (v :: read)
      else if within (some column) t then .error badStructure
      else .ok ((v :: read).reverse,t)

def blockEntries : Nat → Nat → Spot → List (Json × Yaml) → Step (List (Json × Yaml))
  | 0,_,_,_ => .error badStructure
  | fuel + 1,column,s,read =>
    match key? s with
    | none => .error badToken
    | some (key,after) =>
      let first := skipBlanks after
      let next := first.skip
      let found : Step Yaml :=
        if !isLineEnd first then inlineNode fuel (some column) first
        else if within (some column) next then blockNode fuel (some column) next
        else if next.column == column && isEntry next then
          (blockItems fuel column next []).map fun (items,t) => (.list items,t)
        else .ok (default,next)
      match found with
      | .error fault => .error fault
      | .ok (v,t) =>
        let t := t.skip
        let read := (key,v) :: read
        if t.rest.isEmpty || t.column < column then .ok (read.reverse,t)
        else if t.column == column && !isEntry t then blockEntries fuel column t read
        else .error badStructure
end

-- A document may be announced by three hyphens.
def start (s : Spot) : Spot :=
  match s.rest with
  | '-' :: '-' :: '-' :: rest => if isEnd rest then (s.after 3).skip else s
  | _ => s

-- Three points on a line end a document.
def isEndMark (line : List Char) : Bool :=
  match line with
  | '.' :: '.' :: '.' :: rest => isEnd rest
  | _ => false

def untilEndMark (text : List Char) : List Char :=
  ['\n'].intercalate ((Text.splitChars '\n' text).takeWhile fun line => !isEndMark line)

-- Control characters other than the tab and line ends cannot be read.
def isReadable (c : Char) : Bool :=
  let n := c.toNat
  n == 9 || n == 10 || n == 13 || (32 ≤ n && n ≤ 126) || n == 0x85 || (0xA0 ≤ n && n ≤ 0xFFFD) || 0x10000 ≤ n

def withoutMark (text : List Char) : List Char := if text.head? == some (Char.ofNat 0xFEFF) then text.drop 1 else text

end Reader

-- The value of a document; an empty one is null.
def read (text : String) : Except Fault Yaml :=
  let chars := Text.withNewlines text.toList
  if !chars.all Reader.isReadable then .error (.raised "ReaderError" "special characters are not allowed")
  else
    let s := Reader.start (Reader.Spot.skip ⟨Reader.untilEndMark (Reader.withoutMark chars),0⟩)
    if s.rest.isEmpty then .ok default
    else match Reader.blockNode (3 * text.length + 3) none s with
      | .error fault => .error fault
      | .ok (v,t) => if t.skip.rest.isEmpty then .ok v else .error Reader.badStructure

end Yaml
end OrderDesk
