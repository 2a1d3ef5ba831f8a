/-!
Places in YAML documents, and why a text is not a YAML document.
-/

namespace Questionnaire.Yaml

/-- A place in a text: bytes before it, line breaks before it, characters since the last line break. -/
structure Mark where
  index : Nat
  line : Nat
  column : Nat
deriving DecidableEq, Repr, Inhabited

namespace Mark

def start : Mark := ⟨0, 0, 0⟩

/-- Whether a place is in the first column of the first line, where messages leave it out. -/
def isOrigin (m : Mark) : Bool := m.line == 0 && m.column == 0

def toText (m : Mark) : String :=
  "line " ++ toString (m.line + 1) ++ " column " ++ toString (m.column + 1)

end Mark

/-- What was being read when a problem came up. -/
inductive Context
  | simpleKey
  | nextToken
  | directive
  | versionDirective
  | tagDirective
  | tagDirectiveHandle
  | tagDirectivePart
  | tagDirectiveUri
  | anchor
  | aliasName
  | tag
  | tagUri
  | blockScalar
  | quotedScalar
  | quotedEscape
  | plainScalar
  | node
  | blockNode
  | flowNode
  | blockCollection
  | blockMapping
  | flowSequence
  | flowMapping
deriving DecidableEq, Repr, Inhabited

def Context.message : Context → String
  | simpleKey => "while scanning a simple key"
  | nextToken => "while scanning for the next token"
  | directive => "while scanning a directive"
  | versionDirective => "while scanning a %YAML directive"
  | tagDirective => "while scanning a %TAG directive"
  | tagDirectiveHandle => "while scanning a tag directive"
  | tagDirectivePart => "while parsing a tag directive"
  | tagDirectiveUri => "while parsing a %TAG directive"
  | anchor => "while scanning an anchor"
  | aliasName => "while scanning an alias"
  | tag => "while scanning a tag"
  | tagUri => "while parsing a tag"
  | blockScalar => "while scanning a block scalar"
  | quotedScalar => "while scanning a quoted scalar"
  | quotedEscape => "while parsing a quoted scalar"
  | plainScalar => "while scanning a plain scalar"
  | node => "while parsing a node"
  | blockNode => "while parsing a block node"
  | flowNode => "while parsing a flow node"
  | blockCollection => "while parsing a block collection"
  | blockMapping => "while parsing a block mapping"
  | flowSequence => "while parsing a flow sequence"
  | flowMapping => "while parsing a flow mapping"

inductive Problem
  | missingColon
  | noToken
  | sequenceNotAllowed
  | keyNotAllowed
  | valueNotAllowed
  | unknownDirective
  | noDirectiveName
  | badDirectiveName
  | commentOrLineBreak
  | longVersion
  | noVersionNumber
  | digitOrPoint
  | whitespace
  | whitespaceOrLineBreak
  | alphanumeric
  | closingAngle
  | exclamation
  | noUri
  | uriEscape
  | leadingOctet
  | trailingOctet
  | zeroIndentation
  | tabInIndentation
  | documentIndicator
  | endOfStream
  | unknownEscape
  | hexadecimal
  | badCodePoint
  | unexpectedColon
  | tabViolatesIndentation
  | documentStart
  | undefinedTagHandle
  | nodeContent
  | dash
  | key
  | commaOrBracket
  | commaOrBrace
  | duplicateVersion
  | incompatibleVersion
  | duplicateTag
  | controlCharacter
deriving DecidableEq, Repr, Inhabited

def Problem.message : Problem → String
  | missingColon => "could not find expected ':'"
  | noToken => "found character that cannot start any token"
  | sequenceNotAllowed => "block sequence entries are not allowed in this context"
  | keyNotAllowed => "mapping keys are not allowed in this context"
  | valueNotAllowed => "mapping values are not allowed in this context"
  | unknownDirective => "found unknown directive name"
  | noDirectiveName => "could not find expected directive name"
  | badDirectiveName => "found unexpected non-alphabetical character"
  | commentOrLineBreak => "did not find expected comment or line break"
  | longVersion => "found extremely long version number"
  | noVersionNumber => "did not find expected version number"
  | digitOrPoint => "did not find expected digit or '.' character"
  | whitespace => "did not find expected whitespace"
  | whitespaceOrLineBreak => "did not find expected whitespace or line break"
  | alphanumeric => "did not find expected alphabetic or numeric character"
  | closingAngle => "did not find the expected '>'"
  | exclamation => "did not find expected '!'"
  | noUri => "did not find expected tag URI"
  | uriEscape => "did not find URI escaped octet"
  | leadingOctet => "found an incorrect leading UTF-8 octet"
  | trailingOctet => "found an incorrect trailing UTF-8 octet"
  | zeroIndentation => "found an indentation indicator equal to 0"
  | tabInIndentation => "found a tab character where an indentation space is expected"
  | documentIndicator => "found unexpected document indicator"
  | endOfStream => "found unexpected end of stream"
  | unknownEscape => "found unknown escape character"
  | hexadecimal => "did not find expected hexdecimal number"
  | badCodePoint => "found invalid Unicode character escape code"
  | unexpectedColon => "found unexpected ':'"
  | tabViolatesIndentation => "found a tab character that violates indentation"
  | documentStart => "did not find expected <document start>"
  | undefinedTagHandle => "found undefined tag handle"
  | nodeContent => "did not find expected node content"
  | dash => "did not find expected '-' indicator"
  | key => "did not find expected key"
  | commaOrBracket => "did not find expected ',' or ']'"
  | commaOrBrace => "did not find expected ',' or '\x7d'"
  | duplicateVersion => "found duplicate %YAML directive"
  | incompatibleVersion => "found incompatible YAML document"
  | duplicateTag => "found duplicate %TAG directive"
  | controlCharacter => "control characters are not allowed"

/-- A problem of form: where it came up, and what was being read since where. A character that no
text may hold has an offset in bytes in place of a mark. -/
structure FormError where
  problem : Problem
  mark : Mark
  context : Option (Context × Mark)
  offset : Nat
deriving DecidableEq, Repr, Inhabited

/-- The wording of a problem of form. The place of the context is told only where it differs. -/
def FormError.message (e : FormError) : String :=
  e.problem.message ++
    (if !e.mark.isOrigin then " at " ++ e.mark.toText
      else if e.offset != 0 then " at position " ++ toString e.offset
      else "") ++
    match e.context with
    | none => ""
    | some (context, since) =>
      ", " ++ context.message ++
        if !since.isOrigin && (since.line != e.mark.line || since.column != e.mark.column) then
          " at " ++ since.toText
        else ""

end Questionnaire.Yaml
