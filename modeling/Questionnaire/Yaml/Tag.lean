import Questionnaire.Yaml.QuotedScalar

/-!
Reading directives, anchors, references and tags.
-/

namespace Questionnaire.Yaml

namespace Tag

/-- A character of a tag; commas and brackets only where nothing else can follow. -/
def isUriChar (full : Bool) (c : Char) : Bool :=
  isNameChar c || ";/?:@&=+$.!~*'()".toList.contains c ||
    (full && (c == ',' || c == '[' || c == ']'))

/-- How many octets the character of a leading octet has, and the bits that belong to it. -/
def leading? (octet : Nat) : Option (Nat × Nat) :=
  if octet < 0x80 then some (1, octet)
  else if 0xC0 ≤ octet ∧ octet < 0xE0 then some (2, octet - 0xC0)
  else if 0xE0 ≤ octet ∧ octet < 0xF0 then some (3, octet - 0xE0)
  else if 0xF0 ≤ octet ∧ octet < 0xF8 then some (4, octet - 0xF0)
  else none

def readOctet (context : Context) (start : Mark) (c : Cursor) : Except FormError (Nat × Cursor) :=
  match c.rest with
  | '%' :: a :: b :: _ =>
    match QuotedScalar.hexValue? a, QuotedScalar.hexValue? b with
    | some x, some y => .ok (x * 16 + y, c.skip 3)
    | _, _ => c.failIn context start .uriEscape
  | _ => c.failIn context start .uriEscape

def readTrailing (context : Context) (start : Mark) :
    (count value : Nat) → Cursor → Except FormError (Nat × Cursor)
  | 0, value, c => .ok (value, c)
  | count + 1, value, c =>
    match readOctet context start c with
    | .error e => .error e
    | .ok (octet, next) =>
      if 0x80 ≤ octet ∧ octet < 0xC0 then
        readTrailing context start count (value * 64 + (octet - 0x80)) next
      else c.failIn context start .trailingOctet

def readEscapes (context : Context) (start : Mark) (c : Cursor) :
    Except FormError (Char × Cursor) := do
  let (octet, next) ← readOctet context start c
  match leading? octet with
  | none => c.failIn context start .leadingOctet
  | some (width, value) =>
    let (value, next) ← readTrailing context start (width - 1) value next
    return (Char.ofNat value, next)

/-- Reads the characters of a tag; `done` holds those before in reverse. -/
def readUri (full : Bool) (context : Context) (start : Mark) :
    Nat → (done : List Char) → Cursor → Except FormError (List Char × Cursor)
  | 0, done, c => .ok (done.reverse, c)
  | fuel + 1, done, c =>
    match c.rest with
    | [] => .ok (done.reverse, c)
    | x :: _ =>
      if x = '%' then
        match readEscapes context start c with
        | .error e => .error e
        | .ok (y, c) => readUri full context start fuel (y :: done) c
      else if isUriChar full x then readUri full context start fuel (x :: done) (c.skip 1)
      else .ok (done.reverse, c)

/-- Reads a tag after a handle. A handle that turned out to be the start of the tag itself goes in
front, without its exclamation mark. -/
def readSuffix (full directive : Bool) (head : List Char) (start : Mark) (c : Cursor) :
    Except FormError (List Char × Cursor) := do
  let context := if directive then Context.tagDirectiveUri else .tagUri
  let (cs, next) ← readUri full context start (c.rest.length + 1) [] c
  if cs.isEmpty && head.isEmpty then next.failIn context start .noUri
  else return (head.drop 1 ++ cs, next)

/-- Reads a handle: exclamation marks around a name. Without the second mark it is the start of a
tag, which a directive cannot have. -/
def readHandle (directive : Bool) (start : Mark) (c : Cursor) :
    Except FormError (List Char × Cursor) :=
  match c.rest with
  | '!' :: rest =>
    let name := rest.takeWhile isNameChar
    let next := c.skip (1 + name.length)
    if startsWith '!' next.rest then .ok ('!' :: (name ++ ['!']), next.skip 1)
    else if directive && !name.isEmpty then next.failIn .tagDirectivePart start .exclamation
    else .ok ('!' :: name, next)
  | _ => c.failIn (if directive then .tagDirectiveHandle else .tag) start .exclamation

def readParts (start : Mark) (c : Cursor) : Except FormError (List Char × List Char × Cursor) := do
  match c.rest with
  | '!' :: '<' :: _ =>
    let (suffix, c) ← readSuffix true false [] start (c.skip 2)
    if startsWith '>' c.rest then return ([], suffix, c.skip 1)
    else c.failIn .tag start .closingAngle
  | _ =>
    let (handle, c) ← readHandle false start c
    if 2 ≤ handle.length ∧ handle.getLast? = some '!' then
      let (suffix, c) ← readSuffix false false [] start c
      return (handle, suffix, c)
    else
      let (suffix, c) ← readSuffix false false handle start c
      return if suffix.isEmpty then ([], ['!'], c) else (['!'], suffix, c)

def scan (flow : Bool) (c : Cursor) : Except FormError (Token × Cursor) := do
  let start := c.mark
  let (handle, suffix, c) ← readParts start c
  if !(flow && startsWith ',' c.rest) && !atBlankOrEnd c.rest then
    c.failIn .tag start .whitespaceOrLineBreak
  return (⟨.tag (String.ofList handle) (String.ofList suffix), start, c.mark⟩, c)

end Tag

namespace Anchor

/-- Reads the name of an anchor or a reference, whose mark is the next character. -/
def scan (kind : String → TokenKind) (context : Context) (c : Cursor) :
    Except FormError (Token × Cursor) :=
  let start := c.mark
  let c := c.skip 1
  let name := c.rest.takeWhile isNameChar
  let next := c.skip name.length
  let ended := atBlankOrEnd next.rest ||
    (next.rest.head?.any fun x => "?:,]\x7d%@\x60".toList.contains x)
  if name.isEmpty || !ended then next.failIn context start .alphanumeric
  else .ok (⟨kind (String.ofList name), start, next.mark⟩, next)

end Anchor

namespace Directive

def readNumber (start : Mark) (c : Cursor) : Except FormError (Nat × Cursor) :=
  let digits := c.rest.takeWhile Char.isDigit
  if digits.isEmpty then c.failIn .versionDirective start .noVersionNumber
  else if 9 < digits.length then (c.skip 9).failIn .versionDirective start .longVersion
  else .ok (digits.foldl (fun n d => n * 10 + (d.toNat - 48)) 0, c.skip digits.length)

def readVersion (start : Mark) (c : Cursor) : Except FormError (TokenKind × Cursor) := do
  let (major, c) ← readNumber start c.skipBlanks
  if !startsWith '.' c.rest then c.failIn .versionDirective start .digitOrPoint
  let (minor, c) ← readNumber start (c.skip 1)
  return (.versionDirective major minor, c)

def readTag (start : Mark) (c : Cursor) : Except FormError (TokenKind × Cursor) := do
  let (handle, c) ← Tag.readHandle true start c.skipBlanks
  if !atBlank c.rest then c.failIn .tagDirective start .whitespace
  let (uri, c) ← Tag.readSuffix true true [] start c.skipBlanks
  if !atBlankOrEnd c.rest then c.failIn .tagDirective start .whitespaceOrLineBreak
  return (.tagDirective (String.ofList handle) (String.ofList uri), c)

def scan (c : Cursor) : Except FormError (Token × Cursor) := do
  let start := c.mark
  let c := c.skip 1
  let name := c.rest.takeWhile isNameChar
  let c := c.skip name.length
  if name.isEmpty then c.failIn .directive start .noDirectiveName
  if !atBlankOrEnd c.rest then c.failIn .directive start .badDirectiveName
  let (kind, c) ←
    if String.ofList name = "YAML" then readVersion start c
    else if String.ofList name = "TAG" then readTag start c
    else c.failIn .directive start .unknownDirective
  let stop := c.mark
  let c := c.skipBlanks
  let c := if startsWith '#' c.rest then c.skipToBreak else c
  if !atBreakOrEnd c.rest then c.failIn .directive start .commentOrLineBreak
  return (⟨kind, start, stop⟩, c.skipLine)

end Directive

end Questionnaire.Yaml
