import Questionnaire.Binary64.Shortest
import Questionnaire.Dictionary

/-!
JSON values.

A number is a whole number of 64 bits or a binary number; the two are kept apart, so `1` and `1.0`
are different values. The members of an object are a list: `ofMembers` gives it the order of its
keys, while objects built for printing keep the order they are written in.
-/

namespace Questionnaire

inductive Json.Number
  | whole (n : Int)
  | binary (x : Binary64)
deriving DecidableEq, Inhabited

inductive Json
  | null
  | bool (b : Bool)
  | number (n : Json.Number)
  | string (s : String)
  | array (items : List Json)
  | object (members : List (String × Json))
deriving Inhabited

namespace Json

def ofNat (n : Nat) : Json := number (.whole n)

def ofStrings (items : List String) : Json := array (items.map string)

def ofString? : Option String → Json
  | some s => string s
  | none => null

/-- The object with these members in the order of their keys; of two members with one key the later
one counts. -/
def ofMembers (members : List (String × Json)) : Json := object (Dictionary.ofList members)

def member? (key : String) : Json → Option Json
  | object members => Dictionary.get? key members
  | _ => none

/-- The value of a member, null when there is none. -/
def member (key : String) (j : Json) : Json := (j.member? key).getD null

def Number.toText : Number → String
  | whole n => toString n
  | binary x => x.jsonText

end Json

end Questionnaire
