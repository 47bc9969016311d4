import Balancing.Document

namespace Balancing.Toml

def isBlank (c : Char) : Bool := c = ' ' || c = '\t'

def skipBlanks (cs : List Char) : List Char := cs.dropWhile isBlank

def isPlain (c : Char) : Bool :=
  let n := c.toNat
  n = 9 || (0x20 ≤ n && n ≤ 0x7E) || 0x80 ≤ n

def lineBreak? : List Char → Option (List Char)
  | '\n' :: rest => some rest
  | '\r' :: '\n' :: rest => some rest
  | _ => none

def lineEnd? (cs : List Char) : Option (List Char) :=
  let rest := match skipBlanks cs with
    | '#' :: rest => rest.dropWhile isPlain
    | rest => rest
  if rest.isEmpty then some [] else lineBreak? rest

def skipLines (inComment : Bool) : List Char → Option (List Char)
  | [] => some []
  | '\n' :: rest => skipLines false rest
  | '\r' :: '\n' :: rest => skipLines false rest
  | c :: rest =>
    if inComment then (if isPlain c then skipLines true rest else none)
    else if c = '#' then skipLines true rest
    else if isBlank c then skipLines false rest
    else some (c :: rest)

def quote : Char := '\x22'
def apostrophe : Char := '\x27'

-- The character with the number that `width` hexadecimal digits give.
def codePoint? (width : Nat) (cs : List Char) : Option (Char × List Char) := do
  let digits ← (cs.take width).mapM Text.hexDigit?
  let n := digits.foldl (fun value d => 16 * value + d) 0
  if digits.length = width ∧ n.isValidChar then some (Char.ofNat n, cs.drop width) else none

def escape? : Reader Char
  | 'b' :: rest => some ('\x08', rest)
  | 't' :: rest => some ('\t', rest)
  | 'n' :: rest => some ('\n', rest)
  | 'f' :: rest => some ('\x0c', rest)
  | 'r' :: rest => some ('\r', rest)
  | '\"' :: rest => some ('\"', rest)
  | '\\' :: rest => some ('\\', rest)
  | 'u' :: rest => codePoint? 4 rest
  | 'U' :: rest => codePoint? 8 rest
  | _ => none

-- `fuel` is the length of the text; `done` holds the characters so far, the last one first.
def basicBody (fuel : Nat) (done : List Char) (cs : List Char) : Option (String × List Char) :=
  match fuel, cs with
  | fuel + 1, c :: rest =>
    if c = quote then some (String.ofList done.reverse, rest)
    else if c = '\\' then
      match escape? rest with
      | some (c, rest) => basicBody fuel (c :: done) rest
      | none => none
    else if isPlain c then basicBody fuel (c :: done) rest
    else none
  | _, _ => none

def basicString? (cs : List Char) : Option (String × List Char) :=
  basicBody (cs.length + 1) [] cs

def literalString? (cs : List Char) : Option (String × List Char) :=
  let body := cs.takeWhile fun c => c != apostrophe && isPlain c
  match cs.drop body.length with
  | c :: rest => if c = apostrophe then some (String.ofList body, rest) else none
  | [] => none

-- What follows a line break that a backslash takes out.
-- Blanks before the break are dropped with it, and so are all blanks and breaks after it.
def skipFold (cs : List Char) : Option (List Char) :=
  match lineBreak? (skipBlanks cs) with
  | none => none
  | some rest => some (blanksAndBreaks rest)
where
  blanksAndBreaks : List Char → List Char
    | '\r' :: '\n' :: rest => blanksAndBreaks rest
    | c :: rest => if c = '\n' || isBlank c then blanksAndBreaks rest else c :: rest
    | [] => []

-- The marks at the front: how many of them are contents, whether the string ends, and the rest.
-- Three marks end the string; one or two more right before them belong to it.
def marks (mark : Char) (cs : List Char) : Nat × Bool × List Char :=
  let run := (cs.takeWhile (· = mark)).length
  if run < 3 then (run, false, cs.drop run)
  else
    let extra := min (run - 3) 2
    (extra, true, cs.drop (3 + extra))

-- The rest of a string of several lines; breaks become line feeds.
def longBody (mark : Char) (escapes : Bool) (fuel : Nat) (done : List Char) (cs : List Char) :
    Option (String × List Char) :=
  match fuel, cs with
  | fuel + 1, c :: rest =>
    if c = mark then
      let (extra, ends, rest) := marks mark cs
      let done := List.replicate extra mark ++ done
      if ends then some (String.ofList done.reverse, rest)
      else longBody mark escapes fuel done rest
    else if escapes && c = '\\' then
      match skipFold rest with
      | some rest => longBody mark escapes fuel done rest
      | none =>
        match escape? rest with
        | some (c, rest) => longBody mark escapes fuel (c :: done) rest
        | none => none
    else
      match lineBreak? cs with
      | some rest => longBody mark escapes fuel ('\n' :: done) rest
      | none => if isPlain c then longBody mark escapes fuel (c :: done) rest else none
  | _, _ => none

-- A string of several lines after its opening marks; a break right after them is dropped.
def longString? (mark : Char) (escapes : Bool) (cs : List Char) : Option (String × List Char) :=
  let body := (lineBreak? cs).getD cs
  longBody mark escapes (body.length + 1) [] body

def string? : Reader String
  | '\x22' :: '\x22' :: '\x22' :: rest => longString? quote true rest
  | '\x22' :: rest => basicString? rest
  | '\x27' :: '\x27' :: '\x27' :: rest => longString? apostrophe false rest
  | '\x27' :: rest => literalString? rest
  | _ => none

def isBareKeyChar (c : Char) : Bool := c.isAlphanum || c = '-' || c = '_'

def simpleKey? : Reader String
  | '\x22' :: rest => basicString? rest
  | '\x27' :: rest => literalString? rest
  | cs =>
    let name := cs.takeWhile isBareKeyChar
    if name.isEmpty then none else some (String.ofList name, cs.drop name.length)

def keyParts (fuel : Nat) (cs : List Char) : Option (List String × List Char) :=
  match fuel with
  | 0 => none
  | fuel + 1 =>
    match simpleKey? (skipBlanks cs) with
    | none => none
    | some (part, rest) =>
      match skipBlanks rest with
      | '.' :: rest => (keyParts fuel rest).map fun (parts, rest) => (part :: parts, rest)
      | rest => some ([part], rest)

-- Keys and values may nest this deep.
def deepest : Nat := 79

def key? (cs : List Char) : Option (List String × List Char) :=
  match keyParts (cs.length + 1) cs with
  | some (parts, rest) => if parts.length ≤ deepest then some (parts, rest) else none
  | none => none

def digits? (isDigit : Char → Bool) (cs : List Char) : Option (List Char × List Char) :=
  match cs with
  | c :: rest => if isDigit c then (more rest).map fun (ds, rest) => (c :: ds, rest) else none
  | [] => none
where
  more : List Char → Option (List Char × List Char)
    | '_' :: c :: rest =>
      if isDigit c then (more rest).map fun (ds, rest) => (c :: ds, rest) else none
    | '_' :: [] => none
    | c :: rest =>
      if isDigit c then (more rest).map fun (ds, rest) => (c :: ds, rest) else some ([], c :: rest)
    | [] => some ([], [])

def integer? (i : Int) : Option Value :=
  if -9223372036854775808 ≤ i ∧ i ≤ 9223372036854775807 then some (.integer i) else none

def based? (base : Nat) (cs : List Char) : Option (Value × List Char) := do
  let inBase := fun c => match Text.hexDigit? c with
    | some d => decide (d < base)
    | none => false
  let (ds, rest) ← digits? inBase cs
  let n := (ds.filterMap Text.hexDigit?).foldl (fun value d => base * value + d) 0
  return (← integer? n, rest)

-- A decimal above every finite number is refused; one below them is minus infinity.
def decimal? (cs : List Char) : Option (Value × List Char) := do
  let (negative, rest) := Decimal.plusOrMinus cs
  let (d, rest) ← Decimal.read? (digits? Char.isDigit) negative rest
  if d.isWhole then return (← integer? (Decimal.signed negative d.size), rest)
  else if d.toBinary = .infinite false then none
  else return (.number d.toBinary, rest)

def special? (cs : List Char) : Option (Value × List Char) :=
  match Decimal.plusOrMinus cs with
  | (negative, 'i' :: 'n' :: 'f' :: rest) => some (.number (.infinite negative), rest)
  | (_, 'n' :: 'a' :: 'n' :: rest) => some (.number .nan, rest)
  | _ => none

def number? : Reader Value
  | '0' :: 'x' :: rest => based? 16 rest
  | '0' :: 'o' :: rest => based? 8 rest
  | '0' :: 'b' :: rest => based? 2 rest
  | cs => (special? cs).or (decimal? cs)

-- Exactly `width` digits with a value from `low` to `high`.
def field? (width low high : Nat) (cs : List Char) : Option (Nat × List Char) :=
  let ds := cs.take width
  let n := Text.digitsValue ds
  if ds.length = width && ds.all Char.isDigit && low ≤ n && n ≤ high then some (n, cs.drop width)
  else none

def char? (wanted : Char) : List Char → Option (List Char)
  | c :: rest => if c = wanted then some rest else none
  | [] => none

def daysIn (year month : Nat) : Nat :=
  if month = 2 then
    (if year % 4 = 0 && (year % 100 != 0 || year % 400 = 0) then 29 else 28)
  else if month = 4 || month = 6 || month = 9 || month = 11 then 30
  else 31

def date? (cs : List Char) : Option (List Char) := do
  let (year, rest) ← field? 4 0 9999 cs
  let rest ← char? '-' rest
  let (month, rest) ← field? 2 1 12 rest
  let rest ← char? '-' rest
  let (_, rest) ← field? 2 1 (daysIn year month) rest
  return rest

-- A leap second is allowed in every minute.
def time? (cs : List Char) : Option (List Char) := do
  let (_, rest) ← field? 2 0 23 cs
  let rest ← char? ':' rest
  let (_, rest) ← field? 2 0 59 rest
  let rest ← char? ':' rest
  let (_, rest) ← field? 2 0 60 rest
  match rest with
  | '.' :: rest =>
    let ds := rest.takeWhile Char.isDigit
    if ds.isEmpty then none else return rest.drop ds.length
  | rest => return rest

def offset? (cs : List Char) : Option (List Char) :=
  match cs with
  | c :: rest =>
    if c = 'Z' || c = 'z' then some rest
    else if c = '+' || c = '-' then do
      let (_, rest) ← field? 2 0 23 rest
      let rest ← char? ':' rest
      let (_, rest) ← field? 2 0 59 rest
      return rest
    else some cs
  | [] => some cs

def moment? (cs : List Char) : Option (List Char) :=
  match date? cs with
  | none => time? cs
  | some rest =>
    match rest with
    | c :: afterMark =>
      if c = 'T' || c = 't' || c = ' ' then
        match time? afterMark with
        | some rest => offset? rest
        | none => some rest
      else some rest
    | [] => some rest

end Balancing.Toml
