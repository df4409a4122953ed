-- The words of a command line: options and plain words. A long option takes its value after an equals sign or
-- as the next word; a short one as the rest of its word or as the next word. Two dashes end the options. A word
-- that looks like an option and is none makes the whole line unreadable.
namespace OrderDesk

structure CommandOption where
  name : String
  letter : Option Char
  -- An option without a value is a switch.
  valued : Bool

-- Given options in their order, switches with an empty value, and the plain words.
structure Words where
  given : List (String × String)
  plain : List String
deriving DecidableEq

namespace Words

-- The options in one word, and the name of one whose value is the next word.
structure Taken where
  given : List (String × String)
  waiting : Option String

def isOption (word : String) : Bool :=
  match word.toList with
  | '-' :: _ :: _ => true
  | _ => false

def cluster (options : List CommandOption) : List Char → Option Taken
  | [] => some ⟨[],none⟩
  | c :: rest =>
    match options.find? fun o => o.letter == some c with
    | none => none
    | some o =>
      if o.valued then
        if rest.isEmpty then some ⟨[],some o.name⟩ else some ⟨[(o.name,String.ofList rest)],none⟩
      else (cluster options rest).map fun more => ⟨(o.name,"") :: more.given,more.waiting⟩

def long (options : List CommandOption) (body : List Char) : Option Taken :=
  let name := body.takeWhile (· != '=')
  match options.find? fun o => o.name.toList == name,body.drop name.length with
  | none,_ => none
  | some o,'=' :: value => if o.valued then some ⟨[(o.name,String.ofList value)],none⟩ else none
  | some o,_ => if o.valued then some ⟨[],some o.name⟩ else some ⟨[(o.name,"")],none⟩

def taken (options : List CommandOption) (word : String) : Option Taken :=
  match word.toList with
  | '-' :: '-' :: body => long options body
  | _ :: letters => cluster options letters
  | [] => none

def addGiven (given : List (String × String)) (w : Words) : Words := {w with given := given ++ w.given}

def addPlain (word : String) (w : Words) : Words := {w with plain := word :: w.plain}

-- Options may stand anywhere, or only before the first plain word.
def read (options : List CommandOption) (anywhere : Bool) : List String → Option Words
  | [] => some ⟨[],[]⟩
  | word :: rest =>
    if word = "--" then some ⟨[],rest⟩
    else if isOption word then
      match taken options word with
      | none => none
      | some ⟨given,none⟩ => (read options anywhere rest).map (addGiven given)
      | some ⟨given,some name⟩ =>
        match rest with
        | [] => none
        | value :: rest => (read options anywhere rest).map (addGiven (given ++ [(name,value)]))
    else if anywhere then (read options anywhere rest).map (addPlain word)
    else some ⟨[],word :: rest⟩

def has (name : String) (w : Words) : Bool := w.given.any fun option => option.1 == name

def values (name : String) (w : Words) : List String := (w.given.filter fun option => option.1 == name).map (·.2)

-- The value of an option that counts once is the last one given.
def value? (name : String) (w : Words) : Option String := (w.values name).getLast?

def valueOr (name default : String) (w : Words) : String := (w.value? name).getD default

end Words
end OrderDesk
