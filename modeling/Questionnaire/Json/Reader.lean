import Questionnaire.Json.Basic
import Questionnaire.Binary64.Reader
import Questionnaire.Text.Search

/-!
Reading JSON documents.

A reader takes the characters that are left and gives a value with the rest. A fault names its
cause and how many bytes were left when it was noticed, from which the line and column follow.
-/

namespace Questionnaire.Json

inductive Flaw
  | endInList
  | endInObject
  | endInString
  | endInValue
  | expectedColon
  | expectedCommaOrBracket
  | expectedCommaOrBrace
  | expectedWord
  | expectedValue
  | badEscape
  | badNumber
  | numberRange
  | controlCharacter
  | keyNotString
  | loneSurrogate
  | trailingComma
  | trailingCharacters
  | endOfEscape
  | tooDeep
deriving DecidableEq, Repr

def Flaw.message : Flaw → String
  | endInList => "EOF while parsing a list"
  | endInObject => "EOF while parsing an object"
  | endInString => "EOF while parsing a string"
  | endInValue => "EOF while parsing a value"
  | expectedColon => "expected `:`"
  | expectedCommaOrBracket => "expected `,` or `]`"
  | expectedCommaOrBrace => "expected `,` or `\x7d`"
  | expectedWord => "expected ident"
  | expectedValue => "expected value"
  | badEscape => "invalid escape"
  | badNumber => "invalid number"
  | numberRange => "number out of range"
  | controlCharacter => "control character (\\u0000-\\u001F) found while parsing a string"
  | keyNotString => "key must be a string"
  | loneSurrogate => "lone leading surrogate in hex escape"
  | trailingComma => "trailing comma"
  | trailingCharacters => "trailing characters"
  | endOfEscape => "unexpected end of hex escape"
  | tooDeep => "recursion limit exceeded"

/-- A flaw and the number of bytes left where it was noticed. -/
structure Fault where
  flaw : Flaw
  left : Nat
deriving DecidableEq, Repr

abbrev Reading (α : Type) := Except Fault (α × List Char)

/-- A flaw noticed after the characters read so far. -/
def faultAt (rest : List Char) (flaw : Flaw) : Fault := ⟨flaw, Text.byteLength rest⟩

/-- A flaw in the next character, which counts as read as far as its first byte. -/
def faultAhead (rest : List Char) (flaw : Flaw) : Fault := ⟨flaw, Text.byteLength rest - 1⟩

def isBlank (c : Char) : Bool := c == ' ' || c == '\n' || c == '\t' || c == '\r'

def skipBlanks (cs : List Char) : List Char := cs.dropWhile isBlank

/-- Reads the rest of a word whose first letter has been read. -/
def readWord : List Char → List Char → Except Fault (List Char)
  | [], cs => .ok cs
  | _ :: _, [] => .error (faultAt [] .endInValue)
  | w :: ws, c :: cs =>
    if c = w then readWord ws cs else .error (faultAhead (c :: cs) .expectedWord)

/-! ### Numbers -/

/-- Digits of a number are taken into its significand while it stays below this. -/
def significandLimit : Nat := twoTo 64

/-- The number of `± significand * 10 ^ exponent`; `rest` is what follows it. -/
def scaled (negative : Bool) (significand : Nat) (exponent : Int) (rest : List Char) :
    Reading Number :=
  match Binary64.quick? negative significand exponent with
  | some x => .ok (.binary x, rest)
  | none => .error (faultAt rest .numberRange)

def readExponentDigits (negative : Bool) (significand : Nat) (start : Int) (up : Bool) :
    Nat → List Char → Reading Number
  | value, [] => scaled negative significand (if up then start + value else start - value) []
  | value, c :: cs =>
    if c.isDigit then
      let grown := value * 10 + (c.toNat - 48)
      if twoTo 31 ≤ grown then
        if significand != 0 && up then .error (faultAt cs .numberRange)
        else .ok (.binary (Binary64.zero negative), cs.dropWhile Char.isDigit)
      else readExponentDigits negative significand start up grown cs
    else scaled negative significand (if up then start + value else start - value) (c :: cs)

def readExponent (negative : Bool) (significand : Nat) (start : Int) (cs : List Char) :
    Reading Number :=
  let (up, cs) := match cs with
    | '+' :: rest => (true, rest)
    | '-' :: rest => (false, rest)
    | rest => (true, rest)
  match cs with
  | [] => .error (faultAt [] .endInValue)
  | c :: rest =>
    if c.isDigit then readExponentDigits negative significand start up (c.toNat - 48) rest
    else .error (faultAhead (c :: rest) .badNumber)

/-- Reads what may follow the digits of a number: an exponent. -/
def readAfterDigits (negative : Bool) (significand : Nat) (exponent : Int) (cs : List Char) :
    Reading Number :=
  match cs with
  | 'e' :: rest => readExponent negative significand exponent rest
  | 'E' :: rest => readExponent negative significand exponent rest
  | _ => scaled negative significand exponent cs

/-- Reads the digits after a point. Digits beyond the significand's limit are passed over. -/
def readFraction (negative : Bool) (start : Int) :
    (significand places : Nat) → List Char → Reading Number
  | _, 0, [] => .error (faultAt [] .endInValue)
  | significand, places, [] => readAfterDigits negative significand (start - places) []
  | significand, places, c :: cs =>
    if c.isDigit then
      let grown := significand * 10 + (c.toNat - 48)
      if significandLimit ≤ grown then
        readAfterDigits negative significand (start - places) (cs.dropWhile Char.isDigit)
      else readFraction negative start grown (places + 1) cs
    else if places = 0 then .error (faultAhead (c :: cs) .badNumber)
    else readAfterDigits negative significand (start - places) (c :: cs)

/-- Reads digits that no longer fit the significand: each adds a power of ten. -/
def readExcess (negative : Bool) (significand : Nat) : Nat → List Char → Reading Number
  | extra, [] => scaled negative significand extra []
  | extra, c :: cs =>
    if c.isDigit then readExcess negative significand (extra + 1) cs
    else if c = '.' then readFraction negative extra significand 0 cs
    else readAfterDigits negative significand extra (c :: cs)

/-- A number without a point or an exponent. Minus zero and numbers that do not fit 64 bits are
binary. -/
def wholeNumber (negative : Bool) (significand : Nat) : Number :=
  if !negative then .whole significand
  else if significand = 0 ∨ twoTo 63 < significand then
    .binary ((Binary64.ofNat significand).withSign true)
  else .whole (-significand)

def readDigits (negative : Bool) : Nat → List Char → Reading Number
  | significand, [] => .ok (wholeNumber negative significand, [])
  | significand, c :: cs =>
    if c.isDigit then
      let grown := significand * 10 + (c.toNat - 48)
      if significandLimit ≤ grown then readExcess negative significand 0 (c :: cs)
      else readDigits negative grown cs
    else if c = '.' then readFraction negative 0 significand 0 cs
    else if c = 'e' ∨ c = 'E' then readExponent negative significand 0 cs
    else .ok (wholeNumber negative significand, c :: cs)

/-- Reads a number after its sign. A zero is not followed by another digit. -/
def readNumber (negative : Bool) : List Char → Reading Number
  | [] => .error (faultAt [] .endInValue)
  | c :: cs =>
    if !c.isDigit then .error (faultAhead (c :: cs) .badNumber)
    else if c = '0' then
      match cs with
      | d :: _ => if d.isDigit then .error (faultAhead cs .badNumber) else readDigits negative 0 cs
      | [] => readDigits negative 0 []
    else readDigits negative (c.toNat - 48) cs

/-! ### Strings -/

def hexValue? (c : Char) : Option Nat :=
  if c.isDigit then some (c.toNat - 48)
  else if 'a' ≤ c ∧ c ≤ 'f' then some (c.toNat - 87)
  else if 'A' ≤ c ∧ c ≤ 'F' then some (c.toNat - 55)
  else none

def readHex (cs : List Char) : Reading Nat :=
  if Text.byteLength cs < 4 then .error (faultAt [] .endInString)
  else
    match cs with
    | a :: b :: c :: d :: rest =>
      match hexValue? a, hexValue? b, hexValue? c, hexValue? d with
      | some a, some b, some c, some d => .ok (((a * 16 + b) * 16 + c) * 16 + d, rest)
      | _, _, _, _ => .error ⟨.badEscape, Text.byteLength cs - 4⟩
    | _ => .error ⟨.badEscape, Text.byteLength cs - 4⟩

/-- Reads a character by its number; two surrogates make one character. -/
def readCodePoint (cs : List Char) : Except Fault (Char × List Char) := do
  let (n, rest) ← readHex cs
  if 0xDC00 ≤ n ∧ n ≤ 0xDFFF then throw (faultAt rest .loneSurrogate)
  else if n < 0xD800 ∨ 0xDBFF < n then return (Char.ofNat n, rest)
  else
    match rest with
    | [] => throw (faultAt [] .endInString)
    | '\\' :: rest =>
      match rest with
      | [] => throw (faultAt [] .endInString)
      | 'u' :: rest =>
        let (low, rest) ← readHex rest
        if low < 0xDC00 ∨ 0xDFFF < low then throw (faultAt rest .loneSurrogate)
        else return (Char.ofNat (0x10000 + (n - 0xD800) * 0x400 + (low - 0xDC00)), rest)
      | _ :: _ => throw (faultAhead rest .endOfEscape)
    | _ :: _ => throw (faultAhead rest .endOfEscape)

def readEscape : List Char → Reading Char
  | [] => .error (faultAt [] .endInString)
  | c :: rest =>
    if c = '"' ∨ c = '\\' ∨ c = '/' then .ok (c, rest)
    else if c = 'b' then .ok ('\x08', rest)
    else if c = 'f' then .ok ('\x0c', rest)
    else if c = 'n' then .ok ('\n', rest)
    else if c = 'r' then .ok ('\r', rest)
    else if c = 't' then .ok ('\t', rest)
    else if c = 'u' then readCodePoint rest
    else .error (faultAhead (c :: rest) .badEscape)

/-- Reads the rest of a string after its opening quote; `done` holds its characters in reverse. -/
def readString : Nat → List Char → List Char → Except Fault (String × List Char)
  | 0, _, cs => .error (faultAt cs .endInString)
  | _ + 1, _, [] => .error (faultAt [] .endInString)
  | fuel + 1, done, c :: cs =>
    if c = '"' then .ok (String.ofList done.reverse, cs)
    else if c = '\\' then do
      let (d, rest) ← readEscape cs
      readString fuel (d :: done) rest
    else if c.toNat < 32 then .error (faultAt cs .controlCharacter)
    else readString fuel (c :: done) cs

/-! ### Values -/

/-- Moves to the next item of a list: nothing at its end. -/
def nextItem (first : Bool) (cs : List Char) : Except Fault (Option (List Char)) :=
  match skipBlanks cs with
  | [] => .error (faultAhead [] .endInList)
  | ']' :: _ => .ok none
  | c :: rest =>
    if first then .ok (some (c :: rest))
    else if c = ',' then
      match skipBlanks rest with
      | [] => .error (faultAhead [] .endInValue)
      | ']' :: rest => .error (faultAhead (']' :: rest) .trailingComma)
      | next => .ok (some next)
    else .error (faultAhead (c :: rest) .expectedCommaOrBracket)

/-- Moves to the opening quote of the next key of an object: nothing at its end. -/
def nextKey (first : Bool) (cs : List Char) : Except Fault (Option (List Char)) :=
  match skipBlanks cs with
  | [] => .error (faultAhead [] .endInObject)
  | '\x7d' :: _ => .ok none
  | c :: rest =>
    if first then
      if c = '"' then .ok (some (c :: rest)) else .error (faultAhead (c :: rest) .keyNotString)
    else if c = ',' then
      match skipBlanks rest with
      | [] => .error (faultAhead [] .endInValue)
      | '"' :: rest => .ok (some ('"' :: rest))
      | '\x7d' :: rest => .error (faultAhead ('\x7d' :: rest) .trailingComma)
      | next => .error (faultAhead next .keyNotString)
    else .error (faultAhead (c :: rest) .expectedCommaOrBrace)

mutual

/-- Reads a value that has at most `depth` levels of nesting. -/
def readValue : Nat → Nat → List Char → Reading Json
  | 0, _, cs => .error (faultAhead cs .expectedValue)
  | fuel + 1, depth, cs =>
    match skipBlanks cs with
    | [] => .error (faultAhead [] .endInValue)
    | c :: rest =>
      if c = 'n' then (readWord ['u', 'l', 'l'] rest).map fun rest => (null, rest)
      else if c = 't' then (readWord ['r', 'u', 'e'] rest).map fun rest => (bool true, rest)
      else if c = 'f' then (readWord ['a', 'l', 's', 'e'] rest).map fun rest => (bool false, rest)
      else if c = '-' then (readNumber true rest).map fun (n, rest) => (number n, rest)
      else if c.isDigit then (readNumber false (c :: rest)).map fun (n, rest) => (number n, rest)
      else if c = '"' then
        (readString (rest.length + 1) [] rest).map fun (s, rest) => (string s, rest)
      else if c = '[' then
        if depth ≤ 1 then .error (faultAhead (c :: rest) .tooDeep)
        else readItems fuel (depth - 1) true [] rest
      else if c = '\x7b' then
        if depth ≤ 1 then .error (faultAhead (c :: rest) .tooDeep)
        else readMembers fuel (depth - 1) true [] rest
      else .error (faultAhead (c :: rest) .expectedValue)

/-- Reads items up to the closing bracket; `done` holds the items before them in reverse. -/
def readItems : Nat → Nat → Bool → List Json → List Char → Reading Json
  | 0, _, _, _, cs => .error (faultAhead cs .expectedValue)
  | fuel + 1, depth, first, done, cs =>
    match nextItem first cs with
    | .error fault => .error fault
    | .ok none => .ok (array done.reverse, (skipBlanks cs).drop 1)
    | .ok (some next) =>
      match readValue fuel depth next with
      | .error fault => .error fault
      | .ok (item, rest) => readItems fuel depth false (item :: done) rest

/-- Reads members up to the closing brace; `done` holds the members before them in reverse. -/
def readMembers : Nat → Nat → Bool → List (String × Json) → List Char → Reading Json
  | 0, _, _, _, cs => .error (faultAhead cs .expectedValue)
  | fuel + 1, depth, first, done, cs =>
    match nextKey first cs with
    | .error fault => .error fault
    | .ok none => .ok (ofMembers done.reverse, (skipBlanks cs).drop 1)
    | .ok (some next) =>
      match readString next.length [] (next.drop 1) with
      | .error fault => .error fault
      | .ok (key, rest) =>
        match skipBlanks rest with
        | [] => .error (faultAhead [] .endInObject)
        | ':' :: rest =>
          match readValue fuel depth rest with
          | .error fault => .error fault
          | .ok (value, rest) => readMembers fuel depth false ((key, value) :: done) rest
        | other => .error (faultAhead other .expectedColon)

end

def depthLimit : Nat := 128

structure SyntaxError where
  flaw : Flaw
  line : Nat
  column : Nat
deriving DecidableEq, Repr

def SyntaxError.message (e : SyntaxError) : String :=
  e.flaw.message ++ " at line " ++ toString e.line ++ " column " ++ toString e.column

/-- Line and column, in bytes, after the first `n` bytes of a text. -/
def place : List Char → Nat → (line column : Nat) → Nat × Nat
  | [], n, line, column => (line, column + n)
  | c :: cs, n, line, column =>
    if n < c.utf8Size then (line, column + n)
    else if c = '\n' then place cs (n - 1) (line + 1) 0
    else place cs (n - c.utf8Size) line (column + c.utf8Size)

def Fault.locate (text : List Char) (fault : Fault) : SyntaxError :=
  let (line, column) := place text (Text.byteLength text - fault.left) 1 0
  ⟨fault.flaw, line, column⟩

def ofText (s : String) : Except SyntaxError Json :=
  let cs := s.toList
  match readValue (2 * cs.length + 2) depthLimit cs with
  | .error fault => .error (fault.locate cs)
  | .ok (j, rest) =>
    match skipBlanks rest with
    | [] => .ok j
    | rest => .error ((faultAhead rest .trailingCharacters).locate cs)

end Questionnaire.Json
