import Questionnaire.Json.Basic
import Questionnaire.Text.Quoted

/-!
JSON values as text, compact or spread over indented lines.
-/

namespace Questionnaire.Json

def escapeChar (c : Char) : List Char :=
  if c = '"' then ['\\', '"']
  else if c = '\\' then ['\\', '\\']
  else if c = '\x08' then ['\\', 'b']
  else if c = '\x0c' then ['\\', 'f']
  else if c = '\n' then ['\\', 'n']
  else if c = '\r' then ['\\', 'r']
  else if c = '\t' then ['\\', 't']
  else if c.toNat < 32 then ['\\', 'u'] ++ Text.hexDigits false 4 c.toNat
  else [c]

def quotedChars (s : String) : List Char := '"' :: (s.toList.flatMap escapeChar ++ ['"'])

/-- The characters of a value other than an array or an object. -/
def scalarChars : Json → List Char
  | null => ['n', 'u', 'l', 'l']
  | bool true => ['t', 'r', 'u', 'e']
  | bool false => ['f', 'a', 'l', 's', 'e']
  | number n => n.toText.toList
  | string s => quotedChars s
  | _ => []

mutual

def chars : Json → List Char
  | array items => '[' :: (itemsChars items ++ [']'])
  | object members => '\x7b' :: (membersChars members ++ ['\x7d'])
  | j => scalarChars j

def itemsChars : List Json → List Char
  | [] => []
  | [j] => chars j
  | j :: rest => chars j ++ ',' :: itemsChars rest

def membersChars : List (String × Json) → List Char
  | [] => []
  | [(key, j)] => quotedChars key ++ ':' :: chars j
  | (key, j) :: rest => quotedChars key ++ ':' :: (chars j ++ ',' :: membersChars rest)

end

def toText (j : Json) : String := String.ofList j.chars

/-- A line break and the indentation of a depth. -/
def newLine (depth : Nat) : List Char := '\n' :: List.replicate (2 * depth) ' '

mutual

/-- The characters of a value whose items and members stand on lines of their own. -/
def prettyChars (depth : Nat) : Json → List Char
  | array [] => ['[', ']']
  | array items => '[' :: (prettyItems (depth + 1) items ++ newLine depth ++ [']'])
  | object [] => ['\x7b', '\x7d']
  | object members => '\x7b' :: (prettyMembers (depth + 1) members ++ newLine depth ++ ['\x7d'])
  | j => scalarChars j

def prettyItems (depth : Nat) : List Json → List Char
  | [] => []
  | [j] => newLine depth ++ prettyChars depth j
  | j :: rest => newLine depth ++ prettyChars depth j ++ ',' :: prettyItems depth rest

def prettyMembers (depth : Nat) : List (String × Json) → List Char
  | [] => []
  | [(key, j)] => newLine depth ++ quotedChars key ++ ':' :: ' ' :: prettyChars depth j
  | (key, j) :: rest =>
    newLine depth ++ quotedChars key ++ ':' :: ' ' ::
      (prettyChars depth j ++ ',' :: prettyMembers depth rest)

end

def toPretty (j : Json) : String := String.ofList (j.prettyChars 0)

end Questionnaire.Json
