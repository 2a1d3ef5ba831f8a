import Questionnaire.Yaml.Cursor
import Questionnaire.Yaml.Value

/-!
YAML values as text.

Collections are written in blocks, indented by two; the items of a sequence stand as deep as the key
in front of them. A text is written plainly if it reads back as the same text, or else in quotes; a
text of several lines is a literal block.
-/

namespace Questionnaire.Yaml

/-! ### Styles -/

namespace ScalarText

def isPrintable (c : Char) : Bool :=
  let n := c.toNat
  n == 10 || (32 ≤ n && n ≤ 126) || (0xA0 ≤ n && n ≤ 0xFFFD && n != 0xFEFF) || 0x10000 ≤ n

/-- Characters that no plain scalar begins with. -/
def firstIndicators : List Char := "#,[]\x7b\x7d&*!|>'\"%@\x60".toList

def followedByBlank (cs : List Char) : Bool := atBlankOrEnd cs

/-- Whether the characters could be taken for something else than a plain scalar; `before` is the
character in front of them. -/
def hasIndicator : (before : Option Char) → List Char → Bool
  | _, [] => false
  | before, c :: cs =>
    (c == ':' && followedByBlank cs) ||
      (c == '#' && before.any fun b => isBlank b || isBreak b) || hasIndicator (some c) cs

def looksSpecial (cs : List Char) : Bool :=
  match cs with
  | [] => false
  | c :: rest =>
    firstIndicators.contains c || ((c == '?' || c == '-') && followedByBlank rest) ||
      cs.take 3 == ['-', '-', '-'] || cs.take 3 == ['.', '.', '.'] || hasIndicator none cs

def hasSpaceBreak : List Char → Bool
  | a :: b :: rest => (a == ' ' && isBreak b) || hasSpaceBreak (b :: rest)
  | _ => false

def hasBreakSpace : List Char → Bool
  | a :: b :: rest => (isBreak a && b == ' ') || hasBreakSpace (b :: rest)
  | _ => false

def atEnds (p : Char → Bool) (cs : List Char) : Bool := cs.head?.any p || cs.getLast?.any p

def needsEscapes (cs : List Char) : Bool := hasSpaceBreak cs || cs.any fun c => !isPrintable c

def plainAllowed (cs : List Char) : Bool :=
  !(needsEscapes cs || cs.any isBreak || atEnds (· == ' ') cs || looksSpecial cs)

def singleAllowed (cs : List Char) : Bool := !(needsEscapes cs || hasBreakSpace cs)

def literalAllowed (cs : List Char) : Bool :=
  !cs.isEmpty && !(needsEscapes cs || cs.getLast? == some ' ')

/-- Whether the text, written plainly, would stand for something else. -/
def isAmbiguous (s : String) : Bool :=
  match Scalar.resolvePlain s with
  | .string _ => Scalar.isPaddedDigits s.toList
  | _ => true

def style (s : String) : ScalarStyle :=
  let cs := s.toList
  let single := if singleAllowed cs then ScalarStyle.singleQuoted else .doubleQuoted
  if cs.contains '\n' then if literalAllowed cs then .literal else .doubleQuoted
  else if isAmbiguous s || !plainAllowed cs then single
  else .plain

/-! ### Writing scalars -/

def pad (n : Nat) : List Char := List.replicate n ' '

/-- The characters with the lines after each line break indented; `broken` tells that one has just
been written. -/
def indentLines (indent : Nat) : (broken : Bool) → List Char → List Char
  | _, [] => []
  | broken, c :: cs =>
    if isBreak c then c :: indentLines indent true cs
    else (if broken then pad indent else []) ++ c :: indentLines indent false cs

def singleQuoted (indent : Nat) (cs : List Char) : List Char :=
  let body := indentLines indent false (cs.flatMap fun c => if c = '\'' then ['\'', '\''] else [c])
  let closing := if cs.getLast?.any isBreak then pad indent else []
  '\'' :: (body ++ closing ++ ['\''])

/-- The letter that stands for a character after a backslash. -/
def escapeLetter? (c : Char) : Option Char :=
  match c with
  | '\x00' => some '0'
  | '\x07' => some 'a'
  | '\x08' => some 'b'
  | '\t' => some 't'
  | '\n' => some 'n'
  | '\x0b' => some 'v'
  | '\x0c' => some 'f'
  | '\r' => some 'r'
  | '\x1b' => some 'e'
  | '"' => some '"'
  | '\\' => some '\\'
  | '\x85' => some 'N'
  | '\xa0' => some '_'
  | '\u2028' => some 'L'
  | '\u2029' => some 'P'
  | _ => none

def escapeChar (c : Char) : List Char :=
  if isPrintable c && !isBreak c && c != '"' && c != '\\' then [c]
  else
    match escapeLetter? c with
    | some letter => ['\\', letter]
    | none =>
      let n := c.toNat
      if n ≤ 0xFF then '\\' :: 'x' :: Text.hexDigits true 2 n
      else if n ≤ 0xFFFF then '\\' :: 'u' :: Text.hexDigits true 4 n
      else '\\' :: 'U' :: Text.hexDigits true 8 n

def doubleQuoted (cs : List Char) : List Char := '"' :: (cs.flatMap escapeChar ++ ['"'])

/-- What stands behind the indicator of a literal block: the indentation if the text begins with a
blank line or a space, and what becomes of the line breaks at its end. -/
def hints (cs : List Char) : List Char :=
  let indentation := if cs.head?.any fun c => c == ' ' || isBreak c then ['2'] else []
  let chomping :=
    match cs.reverse with
    | [] => ['-']
    | last :: others =>
      if !isBreak last then ['-']
      else if others.head?.all isBreak then ['+']
      else []
  indentation ++ chomping

def literal (indent : Nat) (cs : List Char) : List Char :=
  let body := indentLines indent true cs
  '|' :: (hints cs ++ '\n' :: if cs.getLast? == some '\n' then body.dropLast else body)

def write (indent : Nat) (style : ScalarStyle) (cs : List Char) : List Char :=
  match style with
  | .plain => cs
  | .singleQuoted => singleQuoted indent cs
  | .doubleQuoted => doubleQuoted cs
  | .literal | .folded => literal indent cs

def chars (indent : Nat) (s : String) : List Char := write indent (style s) s.toList

end ScalarText

/-! ### Writing values -/

namespace Value

def scalarChars (indent : Nat) : Value → List Char
  | null => ['n', 'u', 'l', 'l']
  | bool true => ['t', 'r', 'u', 'e']
  | bool false => ['f', 'a', 'l', 's', 'e']
  | integer n => (toString n).toList
  | float x => x.yamlText.toList
  | string s => ScalarText.chars indent s
  | sequence _ => ['[', ']']
  | mapping _ => ['\x7b', '\x7d']
  | tagged _ _ => []

/-- Whether a key can stand in front of its colon on one line. -/
def isSimpleKey : Value → Bool
  | string s => !s.toList.any isBreak && s.utf8ByteSize ≤ 128
  | sequence items => items.isEmpty
  | mapping entries => entries.isEmpty
  | tagged _ _ => false
  | _ => true

def tagChar (c : Char) : List Char :=
  if isNameChar c || ";/?:@&=+$,_.~*'()[]!".toList.contains c then [c]
  else (String.ofList [c]).toUTF8.toList.flatMap fun octet =>
    '%' :: Text.hexDigits true 2 octet.toNat

/-- A tag as it is written, behind a mark. A mark that its name begins with is not repeated. -/
def tagChars (tag : String) : List Char :=
  match tag.toList with
  | '!' :: c :: rest => '!' :: (c :: rest).flatMap tagChar
  | name => '!' :: name.flatMap tagChar

structure Place where
  sequenceIndent : Nat
  mappingIndent : Nat
  scalarIndent : Nat
  /-- Whether a collection begins on a line of its own. -/
  ownLine : Bool

/-- The place behind a dash, a question mark or the colon of a long key. -/
def Place.compact (indent : Nat) : Place := ⟨indent, indent, indent, false⟩

/-- The place behind the colon of a short key that stands `indent` deep. -/
def Place.afterKey (indent : Nat) : Place := ⟨indent, indent + 2, indent + 2, true⟩

def Place.root : Place := ⟨0, 0, 2, false⟩

def tagLead (tag : List Char) : List Char := if tag.isEmpty then [] else ' ' :: tag

/-- What stands in front of the first line of a collection that begins `indent` deep. A tag ends the
line. -/
def opening (place : Place) (tag : List Char) (indent : Nat) : List Char :=
  tagLead tag ++
    if place.ownLine || !tag.isEmpty then '\n' :: ScalarText.pad indent else [' ']

mutual

/-- A value at its place, with the space or line break in front of it; `tag` is the tag it stands
under. -/
def nodeChars (place : Place) (tag : List Char) : Value → List Char
  | tagged name value => nodeChars place (tagChars name) value
  | sequence (item :: items) =>
    opening place tag place.sequenceIndent ++ '-' ::
      (nodeChars (.compact (place.sequenceIndent + 2)) [] item ++
        itemsChars place.sequenceIndent items)
  | mapping (entry :: entries) =>
    opening place tag place.mappingIndent ++ entryChars place.mappingIndent entry ++
      entriesChars place.mappingIndent entries
  | value => tagLead tag ++ ' ' :: scalarChars place.scalarIndent value

def itemsChars (indent : Nat) : List Value → List Char
  | [] => []
  | item :: rest =>
    '\n' :: (ScalarText.pad indent ++ '-' ::
      (nodeChars (.compact (indent + 2)) [] item ++ itemsChars indent rest))

def entriesChars (indent : Nat) : List (Value × Value) → List Char
  | [] => []
  | entry :: rest =>
    '\n' :: (ScalarText.pad indent ++ entryChars indent entry ++ entriesChars indent rest)

/-- A key, a colon and a value. A long key has a line of its own. -/
def entryChars (indent : Nat) : Value × Value → List Char
  | (key, value) =>
    if key.isSimpleKey then
      scalarChars (indent + 2) key ++ ':' :: nodeChars (.afterKey indent) [] value
    else
      '?' :: (nodeChars (.compact (indent + 2)) [] key ++
        '\n' :: (ScalarText.pad indent ++ ':' :: nodeChars (.compact (indent + 2)) [] value))

end

mutual

/-- Whether a tag stands directly inside another tag somewhere. -/
def hasDoubleTag : Value → Bool
  | tagged _ (tagged _ _) => true
  | tagged _ value => hasDoubleTag value
  | sequence items => itemsHaveDoubleTag items
  | mapping entries => entriesHaveDoubleTag entries
  | _ => false

def itemsHaveDoubleTag : List Value → Bool
  | [] => false
  | item :: rest => hasDoubleTag item || itemsHaveDoubleTag rest

def entriesHaveDoubleTag : List (Value × Value) → Bool
  | [] => false
  | (key, value) :: rest => hasDoubleTag key || hasDoubleTag value || entriesHaveDoubleTag rest

end

/-- The text of a value. A tag inside a tag has none. -/
def toText? (value : Value) : Option String :=
  if value.hasDoubleTag then none
  else some (String.ofList ((nodeChars .root [] value).drop 1 ++ ['\n']))

end Value

end Questionnaire.Yaml
