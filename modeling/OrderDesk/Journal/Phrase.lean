import OrderDesk.Json.Shown

-- Phrases with slots. A percent sign starts a slot, and two stand for one: flags, a width, a precision and the
-- letter of a form. Slots take the arguments in turn, or by name where the only argument is an object; every
-- argument has to be taken.
namespace OrderDesk
namespace Phrase

structure Spec where
  left : Bool
  plus : Bool
  blank : Bool
  zeros : Bool
  marked : Bool
  width : Nat
  precision : Option Nat

def Spec.bare : Spec := ⟨false,false,false,false,false,0,none⟩

-- A text in parts: the sign or mark in front stays in front of filling zeros.
structure Shown where
  front : List Char
  body : List Char
  numeric : Bool

def Spec.fit (s : Spec) (shown : Shown) : List Char :=
  let missing := s.width - (shown.front.length + shown.body.length)
  if s.left then shown.front ++ shown.body ++ List.replicate missing ' '
  else if s.zeros && shown.numeric then shown.front ++ List.replicate missing '0' ++ shown.body
  else List.replicate missing ' ' ++ shown.front ++ shown.body

def Spec.sign (s : Spec) (negative : Bool) : List Char :=
  if negative then ['-'] else if s.plus then ['+'] else if s.blank then [' '] else []

def Spec.words (s : Spec) (text : String) : Shown :=
  ⟨[],match s.precision with
    | some most => text.toList.take most
    | none => text.toList,false⟩

def Spec.whole (s : Spec) (base : Nat) (mark : List Char) (n : Int) : Shown :=
  let digits := Nat.toDigits base n.natAbs
  ⟨s.sign (decide (n < 0)) ++ (if s.marked then mark else []),
    List.replicate ((s.precision.getD 0) - digits.length) '0' ++ digits,true⟩

def pointed (s : Spec) (whole fraction : List Char) : List Char :=
  if fraction.isEmpty && !s.marked then whole else whole ++ '.' :: fraction

def fixedDigits (s : Spec) (quanta places : Nat) : List Char :=
  let digits := Decimal.digitsOf (Binary64.roundDiv (quanta * 10 ^ places) Binary64.scale)
  let padded := Decimal.zeros (places + 1 - digits.length) ++ digits
  pointed s (padded.take (padded.length - places)) (padded.drop (padded.length - places))

def scientificDigits (s : Spec) (quanta places : Nat) : List Char :=
  if quanta = 0 then pointed s ['0'] (Decimal.zeros places) ++ "e+00".toList
  else
    let value := Decimal.rounded quanta (places + 1)
    let digits := value.digits ++ Decimal.zeros (places + 1 - value.digits.length)
    pointed s (digits.take 1) (digits.drop 1) ++ (Decimal.exponentText (value.point - 1)).toList

-- All the digits of a precision, also the zeros at the end.
def markedDigits (quanta count : Nat) : List Char :=
  if quanta = 0 then '0' :: '.' :: Decimal.zeros (count - 1)
  else
    let value := Decimal.rounded quanta count
    let digits := value.digits ++ Decimal.zeros (count - value.digits.length)
    let exponent := value.point - 1
    if exponent < -4 ∨ (count : Int) ≤ exponent then
      digits.take 1 ++ '.' :: digits.drop 1 ++ (Decimal.exponentText exponent).toList
    else if 0 < value.point then digits.take value.point.toNat ++ '.' :: digits.drop value.point.toNat
    else '0' :: '.' :: Decimal.zeros (-value.point).toNat ++ digits

def generalDigits (s : Spec) (quanta places : Nat) : List Char :=
  let count := max places 1
  if s.marked then markedDigits quanta count
  else if quanta = 0 then ['0']
  else ((⟨-4,count,"",""⟩ : Decimal.Layout).write (Decimal.rounded quanta count)).toList

def upperIf (upper : Bool) (text : List Char) : List Char := if upper then text.map Char.toUpper else text

def Spec.real (s : Spec) (form : Char) (x : Binary64) : Shown :=
  let places := s.precision.getD 6
  let upper := form.isUpper
  match x with
  | .nan => ⟨s.sign false,upperIf upper "nan".toList,true⟩
  | .infinite negative => ⟨s.sign negative,upperIf upper "inf".toList,true⟩
  | .finite negative quanta _ =>
    let digits := match form.toLower with
      | 'f' => fixedDigits s quanta places
      | 'e' => scientificDigits s quanta places
      | _ => generalDigits s quanta places
    ⟨s.sign negative,upperIf upper digits,true⟩

def asciiText (text : String) : String :=
  String.ofList (text.toList.flatMap fun c => if c.toNat < 128 then [c] else Text.escapeHidden c)

-- The integer of a number; fractions are cut off.
def wholeOf (v : Json) : Except Fault Int :=
  match v.countable? with
  | some (.int n) => .ok n
  | some (.float .nan) => .error (.badValue "cannot convert float NaN to integer")
  | some (.float (.infinite _)) => .error .overflow
  | some (.float (.finite negative quanta _)) => .ok (Binary64.signed negative (quanta / Binary64.scale))
  | none => .error .wrongKind

-- Only integers have digits in other bases.
def exactWhole (v : Json) : Except Fault Int :=
  match v.countable? with
  | some (.int n) => .ok n
  | _ => .error .wrongKind

def realOf (v : Json) : Except Fault Binary64 :=
  match v.countable? with
  | some x => match x.toFloat? with
    | some x => .ok x
    | none => .error .overflow
  | none => .error .wrongKind

def letterOf : Json → Except Fault String
  | .str s => if s.length = 1 then .ok s else .error .wrongKind
  | v => do
    let n ← exactWhole v
    if 0 ≤ n ∧ n < 0x110000 then pure (String.singleton (Char.ofNat n.toNat)) else throw .overflow

-- The text of one argument, if the letter names a form.
def shown? (s : Spec) (form : Char) (v : Json) : Option (Except Fault Shown) :=
  match form with
  | 's' => some (v.shown.map s.words)
  | 'r' => some (v.shownQuoted.map s.words)
  | 'a' => some (v.shownQuoted.map fun text => s.words (asciiText text))
  | 'c' => some ((letterOf v).map ({s with precision := none}).words)
  | 'd' | 'i' | 'u' => some do
    let n ← wholeOf v
    -- The digits are those of its text, where it has one.
    let _ ← (Json.int n).shown
    pure (s.whole 10 [] n)
  | 'x' => some ((exactWhole v).map (s.whole 16 ['0','x']))
  | 'o' => some ((exactWhole v).map (s.whole 8 ['0','o']))
  | 'X' => some ((exactWhole v).map fun n =>
    let shown := s.whole 16 ['0','X'] n
    {shown with body := shown.body.map Char.toUpper})
  | 'f' | 'F' | 'e' | 'E' | 'g' | 'G' => some ((realOf v).map (s.real form))
  | _ => none

structure Pending where
  rest : List Char
  args : List Json
  named : Option Fields

def take (p : Pending) : Except Fault (Json × Pending) :=
  match p.args with
  | v :: args => .ok (v,{p with args})
  | [] => .error .wrongKind

def flagged (s : Spec) : List Char → Spec × List Char
  | '-' :: rest => flagged {s with left := true} rest
  | '+' :: rest => flagged {s with plus := true} rest
  | ' ' :: rest => flagged {s with blank := true} rest
  | '0' :: rest => flagged {s with zeros := true} rest
  | '#' :: rest => flagged {s with marked := true} rest
  | rest => (s,rest)

-- A number that is written, or given by an argument, up to a limit.
def size (name : String) (limit : Nat) (p : Pending) : Except Fault (Int × Pending) :=
  match p.rest with
  | '*' :: rest => do
    let (v,p) ← take {p with rest}
    let n ← exactWhole v
    if n.natAbs < limit then pure (n,p) else throw .overflow
  | rest =>
    let n := (rest.takeWhile Char.isDigit).foldl (fun n d => n * 10 + (d.toNat - '0'.toNat)) 0
    if n < limit then .ok (n,{p with rest := rest.dropWhile Char.isDigit}) else .error (.badValue (name ++ " too big"))

def sized (s : Spec) (p : Pending) : Except Fault (Spec × Pending) := do
  let (width,p) ← size "width" (2 ^ 63) p
  let s := {s with left := s.left || decide (width < 0),width := width.natAbs}
  match p.rest with
  | '.' :: rest => do
    let (precision,p) ← size "precision" (2 ^ 31) {p with rest}
    pure ({s with precision := some precision.toNat},p)
  | _ => pure (s,p)

def skipSize : List Char → List Char
  | c :: rest => if c == 'h' || c == 'l' || c == 'L' then rest else c :: rest
  | [] => []

-- A name in parentheses, which may be nested.
def nameOf : Nat → List Char → Option (List Char × List Char)
  | _,[] => none
  | depth,c :: rest =>
    if c == ')' then
      match depth with
      | 0 => some ([],rest)
      | depth + 1 => (nameOf depth rest).map fun (name,rest) => (c :: name,rest)
    else (nameOf (if c == '(' then depth + 1 else depth) rest).map fun (name,rest) => (c :: name,rest)

def named (p : Pending) : Except Fault Pending :=
  match p.rest with
  | '(' :: rest =>
    match p.named with
    | none => .error .wrongKind
    | some fields =>
      match nameOf 0 rest with
      | none => .error (.badValue "incomplete format key")
      | some (name,rest) =>
        match Fields.get? (String.ofList name) fields with
        | some v => .ok {p with rest,args := [v]}
        | none => .error (.missingKey (String.ofList name))
  | _ => .ok p

def unknownForm (form : Char) (place : Nat) : Fault :=
  let n := form.toNat
  let seen := if 31 ≤ n && n ≤ 126 then form else '?'
  .badValue (s!"unsupported format character '{seen}' (0x" ++ String.ofList (Nat.toDigits 16 n) ++ s!") at index {place}")

def slot (length : Nat) (p : Pending) : Except Fault (List Char × Pending) := do
  let p ← named p
  let (s,rest) := flagged .bare p.rest
  let (s,p) ← sized s {p with rest}
  match skipSize p.rest with
  | [] => throw (.badValue "incomplete format")
  | form :: rest => do
    let (v,p) ← take {p with rest}
    match shown? s form v with
    | some shown => pure (s.fit (← shown),p)
    | none => throw (unknownForm form (length - rest.length - 1))

-- Every round reads at least one character, so as many rounds as characters are enough.
def fillFrom (length : Nat) : Nat → Pending → Except Fault (List Char)
  | 0,_ => .ok []
  | rounds + 1,p =>
    match p.rest with
    | [] => if p.args.isEmpty || p.named.isSome then .ok [] else .error .wrongKind
    | '%' :: '%' :: rest => (fillFrom length rounds {p with rest}).map ('%' :: ·)
    | '%' :: rest => do
      let (text,p) ← slot length {p with rest}
      pure (text ++ (← fillFrom length rounds p))
    | c :: rest => (fillFrom length rounds {p with rest}).map (c :: ·)

-- Without arguments a phrase is a text like any other.
def fill (phrase : String) (args : List Json) : Except Fault String :=
  let chars := phrase.toList
  let fields := match args with
    | [.obj (field :: fields)] => some (field :: fields)
    | _ => none
  if args.isEmpty then .ok phrase
  else (fillFrom chars.length (chars.length + 1) ⟨chars,args,fields⟩).map String.ofList

end Phrase
end OrderDesk
