import Questionnaire.Binary64.Reader
import Questionnaire.Toml.Basic

/-!
Reading settings files.

Readers take the characters that are left and give back what they read and the rest. A flaw is placed
by the number of characters that are left at it, as long as the whole text is not at hand.
-/

namespace Questionnaire.Toml

/-- A flaw, and the characters from it on. -/
structure Fault where
  flaw : Flaw
  rest : List Char
deriving DecidableEq, Repr, Inhabited

abbrev Reading (α : Type) := Except Fault (α × List Char)

def isBlank (c : Char) : Bool := c == ' ' || c == '\t'

def skipBlanks (cs : List Char) : List Char := cs.dropWhile isBlank

/-- A character that a name can hold without quotes. -/
def isNameChar (c : Char) : Bool := c.isAlphanum || c == '_' || c == '-'

def isLineEnd (c : Char) : Bool := c == '\n' || c == '\r'

def lineBreak? : List Char → Option (List Char)
  | '\n' :: rest => some rest
  | '\r' :: '\n' :: rest => some rest
  | _ => none

def skipComment (cs : List Char) : List Char :=
  match cs with
  | '#' :: rest => rest.dropWhile fun c => !isLineEnd c
  | cs => cs

/-- The next line, behind blanks and a comment, after a part of a line. -/
def readLineEnd (part : Option Part) (cs : List Char) : Except Fault (List Char) :=
  let cs := skipBlanks cs
  match skipComment cs with
  | [] => .ok []
  | rest =>
    match lineBreak? rest with
    | some next => .ok next
    | none => .error ⟨.noLineEnd part, cs⟩

def skipSpace : Nat → List Char → List Char
  | 0, cs => cs
  | fuel + 1, cs =>
    let cs := skipComment (skipBlanks cs)
    match lineBreak? cs with
    | some next => skipSpace fuel next
    | none => cs

/-! ### Strings -/

/-- The character of an escape, given in so many hexadecimal digits. -/
def readCodePoint (count : Nat) (cs : List Char) : Reading Char :=
  let ds := cs.take count
  let value? := ds.foldlM (fun n c =>
    if c.isDigit then some (n * 16 + (c.toNat - 48))
    else if 'a' ≤ c ∧ c ≤ 'f' then some (n * 16 + (c.toNat - 87))
    else if 'A' ≤ c ∧ c ≤ 'F' then some (n * 16 + (c.toNat - 55))
    else none) 0
  match value? with
  | some n =>
    if ds.length = count ∧ n.isValidChar then .ok (Char.ofNat n, cs.drop count)
    else .error ⟨.badEscape, cs⟩
  | none => .error ⟨.badEscape, cs⟩

def readEscape (cs : List Char) : Reading Char :=
  match cs with
  | 'b' :: rest => .ok ('\x08', rest)
  | 'f' :: rest => .ok ('\x0c', rest)
  | 'n' :: rest => .ok ('\n', rest)
  | 'r' :: rest => .ok ('\r', rest)
  | 't' :: rest => .ok ('\t', rest)
  | '"' :: rest => .ok ('"', rest)
  | '\\' :: rest => .ok ('\\', rest)
  | 'u' :: rest => readCodePoint 4 rest
  | 'U' :: rest => readCodePoint 8 rest
  | _ => .error ⟨.badEscape, cs⟩

def readBasic (done : List Char) : Nat → List Char → Reading String
  | _, [] => .error ⟨.broken (some .basicString) [], []⟩
  | 0, cs => .error ⟨.broken (some .basicString) [], cs⟩
  | fuel + 1, c :: rest =>
    if c = '"' then .ok (String.ofList done.reverse, rest)
    else if c = '\\' then
      match readEscape rest with
      | .error e => .error e
      | .ok (x, rest) => readBasic (x :: done) fuel rest
    else if c != '\t' && (c.toNat < 32 || c.toNat == 127) then .error ⟨.broken (some .basicString) [], c :: rest⟩
    else readBasic (c :: done) fuel rest

def readLiteral (done : List Char) : List Char → Reading String
  | [] => .error ⟨.broken (some .literalString) [], []⟩
  | c :: rest =>
    if c = '\'' then .ok (String.ofList done.reverse, rest)
    else if c != '\t' && (c.toNat < 32 || c.toNat == 127) then
      .error ⟨.broken (some .literalString) [], c :: rest⟩
    else readLiteral (c :: done) rest

def readLongBasic (done : List Char) : Nat → List Char → Reading String
  | _, [] => .error ⟨.broken (some .longBasicString) [], []⟩
  | 0, cs => .error ⟨.broken (some .longBasicString) [], cs⟩
  | fuel + 1, c :: rest =>
    match c, rest with
    | '"', '"' :: '"' :: '"' :: '"' :: rest => .ok (String.ofList ('"' :: '"' :: done).reverse, rest)
    | '"', '"' :: '"' :: '"' :: rest => .ok (String.ofList ('"' :: done).reverse, rest)
    | '"', '"' :: '"' :: rest => .ok (String.ofList done.reverse, rest)
    | '\\', rest =>
      match lineBreak? (skipBlanks rest) with
      | some next =>
        readLongBasic done fuel (next.dropWhile fun c => isBlank c || isLineEnd c)
      | none =>
        match readEscape rest with
        | .error e => .error e
        | .ok (x, rest) => readLongBasic (x :: done) fuel rest
    | c, rest => readLongBasic (c :: done) fuel rest

def readLongLiteral (done : List Char) : List Char → Reading String
  | '\'' :: '\'' :: '\'' :: '\'' :: '\'' :: rest =>
    .ok (String.ofList ('\'' :: '\'' :: done).reverse, rest)
  | '\'' :: '\'' :: '\'' :: '\'' :: rest => .ok (String.ofList ('\'' :: done).reverse, rest)
  | '\'' :: '\'' :: '\'' :: rest => .ok (String.ofList done.reverse, rest)
  | [] => .error ⟨.broken (some .longLiteralString) [], []⟩
  | c :: rest => readLongLiteral (c :: done) rest

def readString (cs : List Char) : Reading String :=
  match cs with
  | '"' :: '"' :: '"' :: rest =>
    readLongBasic [] rest.length ((lineBreak? rest).getD rest)
  | '"' :: rest => readBasic [] rest.length rest
  | '\'' :: '\'' :: '\'' :: rest => readLongLiteral [] ((lineBreak? rest).getD rest)
  | '\'' :: rest => readLiteral [] rest
  | cs => .error ⟨.noValue, cs⟩

/-! ### Names -/

def readName (cs : List Char) : Reading String :=
  match cs with
  | '"' :: rest => readBasic [] rest.length rest
  | '\'' :: rest => readLiteral [] rest
  | cs =>
    let name := cs.takeWhile isNameChar
    if name.isEmpty then .error ⟨.broken (some .key) [], cs⟩
    else .ok (String.ofList name, cs.drop name.length)

/-- Further names behind dots. A dot without a name behind it is left. -/
def skipNames : Nat → List Char → List Char × Bool
  | 0, cs => (cs, false)
  | fuel + 1, cs =>
    match skipBlanks cs with
    | '.' :: rest =>
      match readName (skipBlanks rest) with
      | .ok (_, rest) => ((skipNames fuel rest).1, true)
      | .error _ => (skipBlanks cs, false)
    | rest => (rest, false)

/-- The first of names with dots between them, as it stands in the text. -/
structure Key where
  name : String
  /-- The characters from the name on. -/
  start : List Char
  /-- The characters behind the name. -/
  finish : List Char
  dotted : Bool

def readKey (cs : List Char) : Except Fault (Key × List Char) := do
  let start := skipBlanks cs
  let (name, finish) ← readName start
  let (rest, dotted) := skipNames finish.length finish
  return (⟨name, start, finish, dotted⟩, rest)

/-! ### Numbers -/

/-- The digits in front, with underscores between them; fails behind an underscore without a digit. -/
def readDigits (isDigit : Char → Bool) (part : Part) (done : List Char) :
    List Char → Reading (List Char)
  | [] => .ok (done.reverse, [])
  | c :: rest =>
    if isDigit c then readDigits isDigit part (c :: done) rest
    else if c = '_' ∧ !done.isEmpty then
      match rest with
      | d :: others =>
        if isDigit d then readDigits isDigit part (d :: done) others
        else .error ⟨.broken (some part) [.digit], rest⟩
      | [] => .error ⟨.broken (some part) [.digit], []⟩
    else .ok (done.reverse, c :: rest)

/-- The digits of a decimal number in front. After a zero no digits follow. -/
def readDecimal (cs : List Char) : Reading (List Char) :=
  match cs with
  | '0' :: rest => .ok (['0'], rest)
  | cs => readDigits Char.isDigit .integer [] cs

def digitsValue (base : Nat) (ds : List Char) : Nat :=
  ds.foldl (fun n c =>
    n * base + (if c.isDigit then c.toNat - 48 else if 'a' ≤ c then c.toNat - 87 else c.toNat - 55)) 0

/-- A whole number of 64 bits; `start` is where it stands. -/
def bounded (start : List Char) (n : Int) : Except Fault Value :=
  if n < -(twoTo 63 : Int) then .error ⟨.numberTooSmall, start⟩
  else if n < twoTo 63 then .ok (.integer n)
  else .error ⟨.numberTooLarge, start⟩

def readBased (part : Part) (base : Nat) (isDigit : Char → Bool) (start cs : List Char) :
    Except Fault (Value × List Char) := do
  let (ds, rest) ← readDigits isDigit part [] cs
  if ds.isEmpty then throw ⟨.broken (some part) [], cs⟩
  return (← bounded start (digitsValue base ds), rest)

def isHexDigit (c : Char) : Bool :=
  c.isDigit || ('a' ≤ c && c ≤ 'f') || ('A' ≤ c && c ≤ 'F')

def readExponent (cs : List Char) : Reading (List Char) :=
  match cs with
  | e :: rest =>
    if e = 'e' ∨ e = 'E' then
      let (sign, rest) : List Char × List Char := match rest with
        | '+' :: rest => (['+'], rest)
        | '-' :: rest => (['-'], rest)
        | rest => ([], rest)
      match readDigits Char.isDigit .float [] rest with
      | .error e => .error e
      | .ok ([], _) => .error ⟨.broken (some .float) [], rest⟩
      | .ok (ds, rest) => .ok ('e' :: (sign ++ ds), rest)
    else .ok ([], cs)
  | [] => .ok ([], [])

def readFraction (cs : List Char) : Reading (List Char) :=
  match cs with
  | '.' :: rest =>
    match readDigits Char.isDigit .float [] rest with
    | .error e => .error e
    | .ok ([], _) => .error ⟨.broken (some .float) [.digit], rest⟩
    | .ok (ds, rest) => .ok ('.' :: ds, rest)
  | cs => .ok ([], cs)

/-- A number in base ten behind its sign: a whole number, unless it has places or an exponent. -/
def readNumber (negative : Bool) (start cs : List Char) :
    Except Fault (Value × List Char) := do
  let (whole, rest) ← readDecimal cs
  if whole.isEmpty then throw ⟨.broken (some .integer) [], cs⟩
  let (fraction, rest) ← readFraction rest
  let (exponent, rest) ← readExponent rest
  if fraction.isEmpty && exponent.isEmpty then
    let n : Int := digitsValue 10 whole
    return (← bounded start (if negative then -n else n), rest)
  else
    let x := (Binary64.read? (whole ++ fraction ++ exponent)).getD (.zero false)
    if x = .infinite false then throw ⟨.broken (some .float) [], start⟩
    return (.float (x.withSign negative), rest)

def atDateTime (cs : List Char) : Bool :=
  let digits := (cs.takeWhile Char.isDigit).length
  (digits == 4 && (cs.drop 4).head? == some '-') || (digits == 2 && (cs.drop 2).head? == some ':')

def readNumeric (cs : List Char) : Reading Value :=
  match cs with
  | '0' :: 'x' :: rest => readBased .hexadecimal 16 isHexDigit cs rest
  | '0' :: 'o' :: rest => readBased .octal 8 (fun c => '0' ≤ c && c ≤ '7') cs rest
  | '0' :: 'b' :: rest => readBased .binary 2 (fun c => c == '0' || c == '1') cs rest
  | '+' :: 'i' :: 'n' :: 'f' :: rest => .ok (.float (.infinite false), rest)
  | '-' :: 'i' :: 'n' :: 'f' :: rest => .ok (.float (.infinite true), rest)
  | '+' :: 'n' :: 'a' :: 'n' :: rest => .ok (.float .notANumber, rest)
  | '-' :: 'n' :: 'a' :: 'n' :: rest => .ok (.float .notANumber, rest)
  | '+' :: rest => readNumber false cs rest
  | '-' :: rest => readNumber true cs rest
  | cs =>
    if atDateTime cs then
      .ok (.dateTime, cs.dropWhile fun c => c.isDigit || "-:.+TtZz".toList.contains c)
    else readNumber false cs cs

/-! ### Values -/

def readWord (word : List Char) (value : Value) (cs : List Char) : Reading Value :=
  match Text.strip? word cs with
  | some rest => .ok (value, rest)
  | none => .error ⟨.broken none [], cs⟩

def noArrayEnd : Flaw := .broken (some .array) [.mark "]"]

mutual

def readValue : Nat → List Char → Reading Value
  | 0, cs => .error ⟨.noValue, cs⟩
  | fuel + 1, cs =>
    match cs with
    | '"' :: _ | '\'' :: _ => (readString cs).map fun (s, rest) => (.string s, rest)
    | '[' :: rest => (readItems fuel (skipSpace rest.length rest)).map fun rest => (.array, rest)
    | '\x7b' :: rest =>
      match skipBlanks rest with
      | '\x7d' :: rest => .ok (.table, rest)
      | rest => (readPairs fuel rest).map fun rest => (.table, rest)
    | 't' :: _ => readWord "true".toList (.boolean true) cs
    | 'f' :: _ => readWord "false".toList (.boolean false) cs
    | 'i' :: _ => readWord "inf".toList (.float (.infinite false)) cs
    | 'n' :: _ => readWord "nan".toList (.float .notANumber) cs
    | c :: _ =>
      if c.isDigit || c == '+' || c == '-' then readNumeric cs
      else if c = '_' then .error ⟨.broken (some .integer) [.leadingDigit], cs⟩
      else if c = '.' then .error ⟨.broken (some .float) [.leadingDigit], cs⟩
      else .error ⟨.noValue, cs⟩
    | [] => .error ⟨.broken none [], []⟩

def readItems : Nat → List Char → Except Fault (List Char)
  | 0, cs => .error ⟨noArrayEnd, cs⟩
  | fuel + 1, cs =>
    match cs with
    | ']' :: rest => .ok rest
    | cs =>
      match readValue fuel cs with
      | .error e => .error (if e.flaw = .noValue ∨ e.rest.isEmpty then ⟨noArrayEnd, e.rest⟩ else e)
      | .ok (_, rest) =>
        match skipSpace rest.length rest with
        | ',' :: rest => readItems fuel (skipSpace rest.length rest)
        | ']' :: rest => .ok rest
        | rest => .error ⟨noArrayEnd, rest⟩

def readPairs : Nat → List Char → Except Fault (List Char)
  | 0, cs => .error ⟨.broken (some .inlineTable) [.mark "\x7d"], cs⟩
  | fuel + 1, cs => do
    let (_, rest) ← readKey cs
    match rest with
    | '=' :: rest =>
      let (_, rest) ← readValue fuel (skipBlanks rest)
      match skipBlanks rest with
      | ',' :: rest => readPairs fuel rest
      | '\x7d' :: rest => return rest
      | rest => throw ⟨.broken (some .inlineTable) [.mark "\x7d"], rest⟩
    | rest => throw ⟨.noEquals, rest⟩

end

/-! ### Texts -/

/-- A name and a value with the characters from their starts and ends on. -/
structure Item where
  key : Key
  value : Value
  start : List Char
  finish : List Char

def readPair (cs : List Char) : Except Fault (Item × List Char) := do
  let (key, rest) ← readKey cs
  match rest with
  | '=' :: rest =>
    let start := skipBlanks rest
    let (value, finish) ← readValue (start.length + 1) start
    let rest ← readLineEnd none finish
    return (⟨key, if key.dotted then .table else value, start, finish⟩, rest)
  | rest => throw ⟨.noEquals, rest⟩

def noHeaderEnd (close : String) : Flaw := .broken (some .tableHeader) [.mark ".", .mark close]

def readHeader (cs : List Char) : Except Fault (Item × List Char) := do
  let (key, finish) ← match cs with
    | '[' :: '[' :: rest =>
      let (key, rest) ← readKey rest
      match rest with
      | ']' :: ']' :: rest => pure (key, rest)
      | rest => throw ⟨noHeaderEnd "]]", rest⟩
    | cs =>
      let (key, rest) ← readKey (cs.drop 1)
      match rest with
      | ']' :: rest => pure (key, rest)
      | rest => throw ⟨noHeaderEnd "]", rest⟩
  let rest ← readLineEnd (some .tableHeader) finish
  return (⟨key, .table, cs, finish⟩, rest)

/-- The part of a text between two places, given by what follows them. -/
def spanOf (size : Nat) (start finish : List Char) : Span :=
  ⟨size - Text.byteLength start, size - Text.byteLength finish⟩

def Item.entry (size : Nat) (i : Item) : Entry :=
  ⟨i.key.name, spanOf size i.key.start i.key.finish, i.value, spanOf size i.start i.finish⟩

/-- Adds an item to the entries read so far. Parts of one table may be given in several places; a
value is given once. -/
def addItem (size : Nat) (entries : List Entry) (place : List Char) (i : Item) :
    Except Fault (List Entry) :=
  match entries.find? (·.name == i.key.name) with
  | none => .ok (entries ++ [i.entry size])
  | some other =>
    if other.value = .table ∧ i.value = .table then .ok entries
    else .error ⟨.duplicateKey i.key.name, place⟩

/-- Reads the lines of a text; `inside` tells that they belong to a table. -/
def readLines (size : Nat) : Nat → (inside : Bool) → (entries : List Entry) → List Char →
    Except Fault (List Entry)
  | 0, _, entries, _ => .ok entries
  | fuel + 1, inside, entries, cs =>
    match skipSpace cs.length cs with
    | [] => .ok entries
    | '[' :: rest => do
      let (i, next) ← readHeader ('[' :: rest)
      readLines size fuel true (← addItem size entries ('[' :: rest) i) next
    | cs => do
      let (i, next) ← readPair cs
      if inside then readLines size fuel inside entries next
      else readLines size fuel inside (← addItem size entries cs i) next

def Fault.span (size : Nat) (f : Fault) : Span :=
  let start := size - Text.byteLength f.rest
  ⟨start, start + Text.byteLength (f.rest.take 1)⟩

def read (text : String) : Except Error (List Entry) :=
  let cs := text.toList
  let size := Text.byteLength cs
  let body := match cs with
    | '\ufeff' :: rest => rest
    | cs => cs
  (readLines size (body.length + 1) false [] body).mapError fun f => ⟨.form f.flaw, f.span size⟩

end Questionnaire.Toml
