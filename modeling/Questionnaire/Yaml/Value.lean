import Questionnaire.Yaml.Document
import Questionnaire.Yaml.Shape

/-!
YAML values.
-/

namespace Questionnaire.Yaml

inductive Value
  | null
  | bool (b : Bool)
  | integer (n : Int)
  | float (x : Binary64)
  | string (s : String)
  | sequence (items : List Value)
  | mapping (entries : List (Value × Value))
  | tagged (tag : String) (value : Value)
deriving Inhabited

namespace Value

def sameFloat : Binary64 → Binary64 → Bool
  | .finite _ 0 _, .finite _ 0 _ => true
  | a, b => a == b

mutual

/-- Whether two values are the same as keys. The order of entries does not matter. -/
def same : Value → Value → Bool
  | null, null => true
  | bool a, bool b => a == b
  | integer a, integer b => a == b
  | float a, float b => sameFloat a b
  | string a, string b => a == b
  | sequence a, sequence b => sameItems a b
  | mapping a, mapping b => a.length == b.length && sameEntries a b
  | tagged s a, tagged t b => s == t && same a b
  | _, _ => false

def sameItems : List Value → List Value → Bool
  | [], [] => true
  | a :: as, b :: bs => same a b && sameItems as bs
  | _, _ => false

def sameEntries : List (Value × Value) → List (Value × Value) → Bool
  | [], _ => true
  | (k, v) :: rest, others => others.any (fun (l, w) => same k l && same v w) && sameEntries rest others

end

def numberText? : Value → Option String
  | integer n => some (toString n)
  | float x => some x.yamlText
  | _ => none

def describeKey : Value → String
  | null => "with null key"
  | bool b => "with key `" ++ (if b then "true" else "false") ++ "`"
  | integer n => "with key " ++ toString n
  | float x => "with key " ++ x.yamlText
  | string s => "with key " ++ Text.quote s
  | _ => "in YAML map"

end Value

namespace Node

/-- The value of a scalar whose own tag, if it has one, is dealt with elsewhere. -/
def scalarValue (path : Path) (mark : Mark) (r : Except Shape.Mismatch Resolved) :
    Except Error Value :=
  match r with
  | .error m => mismatch path mark m
  | .ok .null => .ok .null
  | .ok (.bool b) => .ok (.bool b)
  | .ok (.integer n) => .ok (.integer n)
  | .ok (.wide n) => mismatch path mark (.invalidType (Resolved.wideFound n) "any YAML value")
  | .ok (.float x) => .ok (.float x)
  | .ok (.string s) => .ok (.string s)

def withTag (tag : Option String) (value : Except Error Value) : Except Error Value :=
  match Scalar.ownTag? tag with
  | none => value
  | some name => value.map (.tagged name)

mutual

def readValue (path : Path) : Node → Except Error Value
  | scalar s style tag mark =>
    withTag tag
      (scalarValue path mark
        (Scalar.resolve s style (if (Scalar.ownTag? tag).isSome then none else tag)))
  | sequence items tag mark =>
    withTag tag (locate path mark ((readValues path 0 items).map .sequence))
  | mapping entries tag mark =>
    withTag tag (locate path mark ((readValueEntries path [] entries).map .mapping))
  | anchored _ node => readValue path node
  | linked node => readValue path node
  | reference _ _ => .error .repetitionLimit
  | cut e => .error e

def readValues (path : Path) : Nat → List Node → Except Error (List Value)
  | _, [] => .ok []
  | index, node :: rest =>
    match readValue (.item path index) node with
    | .error e => .error e
    | .ok value => (readValues path (index + 1) rest).map (value :: ·)

/-- The values of the entries of a mapping, after those already `done`, which are in reverse. -/
def readValueEntries (path : Path) (done : List (Value × Value)) :
    List (Node × Node) → Except Error (List (Value × Value))
  | [] => .ok done.reverse
  | (key, value) :: rest =>
    match readValue path key with
    | .error e => .error e
    | .ok k =>
      if done.any fun (other, _) => other.same k then
        .error (.shape (.duplicateEntry k.describeKey) none)
      else
        match readValue (entryPath path key) value with
        | .error e => .error e
        | .ok v => readValueEntries path ((k, v) :: done) rest

end

end Node

def Value.ofText (text : String) : Except Error Value := Document.read (Node.readValue .root) text

end Questionnaire.Yaml
