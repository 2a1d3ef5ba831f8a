import Questionnaire.Text.Search
import Questionnaire.Yaml.BlockScalar
import Questionnaire.Yaml.PlainScalar
import Questionnaire.Yaml.Tag

/-!
Splitting a YAML text into tokens.

Indentation opens and closes blocks, and a token may turn out to be a key only when the colon after
it is met: the tokens that open the mapping then go in front of it. So tokens wait in a queue while
the one at its head may still become a key. A key has to end on its line, within 1024 characters.
-/

namespace Questionnaire.Yaml

/-- A token that may turn out to be a key: whether nothing else can stand there, its number and its
place. -/
structure PossibleKey where
  required : Bool
  number : Nat
  mark : Mark
deriving DecidableEq, Repr, Inhabited

/-- The state of splitting: the text that is left, the tokens that wait, how many were taken, the
indentations of the open blocks, the possible key of each open flow collection and of the blocks
around them (innermost first). -/
structure TokenStream where
  cursor : Cursor
  queue : List Token
  taken : Nat
  indents : List Nat
  keyAllowed : Bool
  keys : List (Option PossibleKey)
  flow : Nat
  ended : Bool
deriving Repr

namespace TokenStream

def ofChars (cs : List Char) : TokenStream where
  cursor := ⟨cs, .start⟩
  queue := [⟨.streamStart, .start, .start⟩]
  taken := 0
  indents := []
  keyAllowed := true
  keys := [none]
  flow := 0
  ended := false

def mark (s : TokenStream) : Mark := s.cursor.mark

def enqueue (s : TokenStream) (t : Token) : TokenStream := { s with queue := s.queue ++ [t] }

def insertBefore (s : TokenStream) (number : Nat) (t : Token) : TokenStream :=
  let place := number - s.taken
  { s with queue := s.queue.take place ++ t :: s.queue.drop place }

/-! ### Keys -/

def missingColon {α : Type} (s : TokenStream) (key : PossibleKey) : Except FormError α :=
  s.cursor.failIn .simpleKey key.mark .missingColon

/-- Gives up a key that can no longer be one. -/
def dropKey (s : TokenStream) : Option PossibleKey → Except FormError (Option PossibleKey)
  | none => .ok none
  | some key =>
    if key.mark.line < s.mark.line || key.mark.index + 1024 < s.mark.index then
      if key.required then s.missingColon key else .ok none
    else .ok (some key)

/-- Gives up all keys that can no longer be one. -/
def dropStale (s : TokenStream) : Except FormError TokenStream :=
  (s.keys.mapM s.dropKey).map fun keys => { s with keys := keys }

def forgetKey (s : TokenStream) : Except FormError TokenStream :=
  match s.keys with
  | some key :: keys => if key.required then s.missingColon key else .ok { s with keys := none :: keys }
  | _ => .ok s

/-- Takes down that the next token may be a key. -/
def saveKey (s : TokenStream) : Except FormError TokenStream :=
  if s.keyAllowed then
    let required := s.flow == 0 && s.indents.head? == some s.mark.column
    s.forgetKey.map fun t =>
      { t with keys := some ⟨required, s.taken + s.queue.length, s.mark⟩ :: t.keys.drop 1 }
  else .ok s

def allowKey (s : TokenStream) (allowed : Bool) : TokenStream := { s with keyAllowed := allowed }

/-! ### Blocks -/

/-- Opens a block if the column is deeper than the blocks around. -/
def roll (s : TokenStream) (column : Nat) (number : Option Nat) (kind : TokenKind) (mark : Mark) :
    TokenStream :=
  if s.flow != 0 || s.indents.head?.any (column ≤ ·) then s
  else
    let s := { s with indents := column :: s.indents }
    let t : Token := ⟨kind, mark, mark⟩
    match number with
    | none => s.enqueue t
    | some n => s.insertBefore n t

/-- Closes the blocks that are deeper than the column; without a column, all of them. -/
def unroll (s : TokenStream) (column : Option Nat) : TokenStream :=
  if s.flow != 0 then s
  else
    let closing := s.indents.takeWhile fun indent => column.all (· < indent)
    { s with
      indents := s.indents.drop closing.length
      queue := s.queue ++ closing.map fun _ => ⟨.blockEnd, s.mark, s.mark⟩ }

/-! ### Single tokens -/

/-- Moves over `n` characters that make a token. -/
def mark? (s : TokenStream) (kind : TokenKind) (n : Nat) : TokenStream :=
  let next := s.cursor.skip n
  { s with cursor := next }.enqueue ⟨kind, s.mark, next.mark⟩

def accept (s : TokenStream) (r : Token × Cursor) : TokenStream :=
  { s with cursor := r.2 }.enqueue r.1

def fetchEnd (s : TokenStream) : Except FormError TokenStream := do
  let m := s.mark
  let m : Mark := if m.column = 0 then m else ⟨m.index, m.line + 1, 0⟩
  let s := { s with cursor := ⟨[], m⟩ }
  let s ← (s.unroll none).forgetKey
  return { (s.allowKey false).enqueue ⟨.streamEnd, m, m⟩ with ended := true }

def fetchDirective (s : TokenStream) : Except FormError TokenStream := do
  let s ← (s.unroll none).forgetKey
  return (s.allowKey false).accept (← Directive.scan s.cursor)

def fetchMarker (s : TokenStream) (kind : TokenKind) : Except FormError TokenStream := do
  let s ← (s.unroll none).forgetKey
  return (s.allowKey false).mark? kind 3

def fetchOpening (s : TokenStream) (kind : TokenKind) : Except FormError TokenStream := do
  let s ← s.saveKey
  return ({ s with keys := none :: s.keys, flow := s.flow + 1 }.allowKey true).mark? kind 1

def fetchClosing (s : TokenStream) (kind : TokenKind) : Except FormError TokenStream := do
  let s ← s.forgetKey
  let s := if s.flow = 0 then s else { s with keys := s.keys.drop 1, flow := s.flow - 1 }
  return (s.allowKey false).mark? kind 1

def fetchComma (s : TokenStream) : Except FormError TokenStream := do
  let s ← s.forgetKey
  return (s.allowKey true).mark? .flowEntry 1

def fetchDash (s : TokenStream) : Except FormError TokenStream := do
  if s.flow == 0 && !s.keyAllowed then s.cursor.fail .sequenceNotAllowed none
  let s ← (s.roll s.mark.column none .blockSequenceStart s.mark).forgetKey
  return (s.allowKey true).mark? .blockEntry 1

def fetchKey (s : TokenStream) : Except FormError TokenStream := do
  if s.flow == 0 && !s.keyAllowed then s.cursor.fail .keyNotAllowed none
  let s ← (s.roll s.mark.column none .blockMappingStart s.mark).forgetKey
  return (s.allowKey (s.flow == 0)).mark? .key 1

def fetchValue (s : TokenStream) : Except FormError TokenStream :=
  match s.keys with
  | some key :: keys =>
    let s := s.insertBefore key.number ⟨.key, key.mark, key.mark⟩
    let s := s.roll key.mark.column (some key.number) .blockMappingStart key.mark
    .ok (({ s with keys := none :: keys }.allowKey false).mark? .value 1)
  | _ =>
    if s.flow == 0 && !s.keyAllowed then s.cursor.fail .valueNotAllowed none
    else
      let s := s.roll s.mark.column none .blockMappingStart s.mark
      .ok ((s.allowKey (s.flow == 0)).mark? .value 1)

def fetchScanned (s : TokenStream) (scan : Cursor → Except FormError (Token × Cursor)) :
    Except FormError TokenStream := do
  let s ← s.saveKey
  return (s.allowKey false).accept (← scan s.cursor)

def fetchBlock (s : TokenStream) (literal : Bool) : Except FormError TokenStream := do
  let s ← s.forgetKey
  return (s.allowKey true).accept (← BlockScalar.scan literal s.indents.head? s.cursor)

/-- A plain scalar. A key may follow it when it ends after a line break. -/
def fetchPlain (s : TokenStream) : Except FormError TokenStream := do
  let s ← s.saveKey
  let indent := match s.indents with
    | n :: _ => n + 1
    | [] => 0
  let (t, broken, c) ← PlainScalar.scan (s.flow != 0) indent s.cursor
  return (s.allowKey broken).accept (t, c)

/-! ### Fetching -/

/-- Moves over blanks, comments and line breaks. Tabs are blanks where no key can begin. -/
def skipToToken : Nat → TokenStream → TokenStream
  | 0, s => s
  | fuel + 1, s =>
    let c := if s.mark.index = 0 ∧ s.cursor.rest.head? = some '\ufeff' then s.cursor.skip 1
      else s.cursor
    let c := c.skipWhile fun x => x == ' ' || ((s.flow != 0 || !s.keyAllowed) && x == '\t')
    let c := if startsWith '#' c.rest then c.skipToBreak else c
    if atBreak c.rest then
      skipToToken fuel { s with
        cursor := c.skipLine
        keyAllowed := s.keyAllowed || s.flow == 0 }
    else { s with cursor := c }

/-- Characters that begin something other than a plain scalar. -/
def indicators : List Char := "-?:,[]\x7b\x7d#&*!|>'\"%@\x60".toList

def startsPlain (flow : Bool) (c : Char) (cs : List Char) : Bool :=
  !(isBlank c || isBreak c || indicators.contains c) || (c == '-' && !atBlank cs) ||
    (!flow && (c == '?' || c == ':') && !atBlankOrEnd cs)

/-- Reads the token that begins here into the queue. -/
def fetchHere (s : TokenStream) : Except FormError TokenStream :=
  let flow := s.flow != 0
  match s.cursor.rest with
  | [] => s.fetchEnd
  | c :: cs =>
    if s.mark.column = 0 ∧ c = '%' then s.fetchDirective
    else if s.cursor.atDocumentMarker then
      s.fetchMarker (if c = '-' then .documentStart else .documentEnd)
    else if c = '[' then s.fetchOpening .flowSequenceStart
    else if c = '\x7b' then s.fetchOpening .flowMappingStart
    else if c = ']' then s.fetchClosing .flowSequenceEnd
    else if c = '\x7d' then s.fetchClosing .flowMappingEnd
    else if c = ',' then s.fetchComma
    else if c = '-' && atBlankOrEnd cs then s.fetchDash
    else if c = '?' && (flow || atBlankOrEnd cs) then s.fetchKey
    else if c = ':' && (flow || atBlankOrEnd cs) then s.fetchValue
    else if c = '*' then s.fetchScanned (Anchor.scan .reference .aliasName)
    else if c = '&' then s.fetchScanned (Anchor.scan .anchor .anchor)
    else if c = '!' then s.fetchScanned (Tag.scan flow)
    else if c = '|' && !flow then s.fetchBlock true
    else if c = '>' && !flow then s.fetchBlock false
    else if c = '\'' then s.fetchScanned (QuotedScalar.scan true)
    else if c = '"' then s.fetchScanned (QuotedScalar.scan false)
    else if startsPlain flow c cs then s.fetchPlain
    else s.cursor.failIn .nextToken s.mark .noToken

def fetch (s : TokenStream) : Except FormError TokenStream := do
  let s := skipToToken (s.cursor.rest.length + 1) s
  let s ← s.dropStale
  (s.unroll (some s.mark.column)).fetchHere

/-- Reads on until the head of the queue is settled. -/
def settle : Nat → TokenStream → Except FormError TokenStream
  | 0, s => .ok s
  | fuel + 1, s =>
    if s.queue.isEmpty then
      match s.fetch with
      | .error e => .error e
      | .ok s => settle fuel s
    else
      match s.dropStale with
      | .error e => .error e
      | .ok s =>
        if !s.ended && s.keys.any fun key => key.any (·.number == s.taken) then
          match s.fetch with
          | .error e => .error e
          | .ok s => settle fuel s
        else .ok s

def run : Nat → TokenStream → List Token × Option FormError
  | 0, _ => ([], none)
  | fuel + 1, s =>
    match s.settle (s.cursor.rest.length + 2) with
    | .error e => ([], some e)
    | .ok s =>
      match s.queue with
      | [] => ([], none)
      | t :: queue =>
        if t.kind = .streamEnd then ([t], none)
        else
          let (ts, error) := run fuel { s with queue := queue, taken := s.taken + 1 }
          (t :: ts, error)

end TokenStream

def isAllowed (c : Char) : Bool :=
  let n := c.toNat
  n == 9 || n == 10 || n == 13 || (32 ≤ n && n ≤ 126) || n == 0x85 ||
    (0xA0 ≤ n && n ≤ 0xFFFD) || 0x10000 ≤ n

/-- The tokens of a text, and the problem that ended them if there was one. A text with a character
that is not allowed has no tokens. -/
def tokens (cs : List Char) : List Token × Option FormError :=
  if cs.all isAllowed then TokenStream.run (4 * cs.length + 8) (.ofChars cs)
  else
    let offset := Text.byteLength (cs.takeWhile isAllowed)
    ([], some ⟨.controlCharacter, .start, none, offset⟩)

end Questionnaire.Yaml
