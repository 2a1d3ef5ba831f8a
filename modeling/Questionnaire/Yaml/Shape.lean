import Questionnaire.AnswerType
import Questionnaire.Yaml.Node
import Questionnaire.Yaml.Scalar

/-!
Reading typed data out of YAML nodes.

A mismatch takes the place of the node that it is about, or, when it is about a record as a whole,
the place where the record begins.
-/

namespace Questionnaire.Yaml

inductive Path
  | root
  | item (parent : Path) (index : Nat)
  | entry (parent : Path) (key : String)
  | unknown (parent : Path)
deriving DecidableEq, Repr, Inhabited

def Path.toText : Path → String
  | root => "."
  | item parent index => parent.toText ++ "[" ++ toString index ++ "]"
  | entry root key => key
  | entry parent key => parent.toText ++ "." ++ key
  | unknown root => "?"
  | unknown parent => parent.toText ++ ".?"

abbrev NodeReader (α : Type) := Path → Node → Except Error α

namespace Node

/-- The node itself, when it stands where a reference stood. -/
def target : Node → Node
  | linked node => node.target
  | anchored _ node => node.target
  | node => node

def mark : Node → Mark
  | scalar _ _ _ m | sequence _ _ m | mapping _ _ m | reference _ m => m
  | anchored _ node | linked node => node.mark
  | cut e => e.mark?.getD .start

/-- Gives an error the place of a node, unless it has one. -/
def locate {α : Type} (path : Path) (mark : Mark) (r : Except Error α) : Except Error α :=
  r.mapError (Error.located mark path.toText)

def mismatch {α : Type} (path : Path) (mark : Mark) (m : Shape.Mismatch) : Except Error α :=
  .error (.shape m (some (mark, path.toText)))

def unfit {α : Type} (expected : String) (path : Path) : Node → Except Error α
  | scalar s style tag mark =>
    mismatch path mark (match Scalar.resolve s style tag with
      | .error m => m
      | .ok r => .invalidType r.describe expected)
  | sequence _ _ mark => mismatch path mark (.invalidType "sequence" expected)
  | mapping _ _ mark => mismatch path mark (.invalidType "map" expected)
  | anchored _ node => unfit expected path node
  | linked node => unfit expected path node
  | reference _ _ => .error .repetitionLimit
  | cut e => .error e

/-! ### Simple data -/

/-- The text of a scalar, whatever it stands for. -/
def readText (expected : String) : NodeReader String := fun path node =>
  match node.target with
  | scalar s _ _ _ => .ok s
  | node => node.unfit expected path

def readString : NodeReader String := readText "a string"

/-- Whether a node is the absence of data, where data may be absent. -/
def isAbsent (path : Path) (node : Node) : Except Error Bool :=
  match node.target with
  | scalar s .plain none _ => .ok (s == "" || Scalar.isNull s)
  | scalar s .plain (some tag) _ =>
    if tag = Scalar.coreTag "null" then
      if Scalar.isNull s then .ok true
      else .error (.shape (.invalidValue (Shape.stringFound s) "null") none)
    else .ok false
  | cut e => (unfit "" path (cut e) : Except Error Bool)
  | _ => .ok false

def readOptional {α : Type} (read : NodeReader α) : NodeReader (Option α) := fun path node => do
  if ← isAbsent path node then return none else return some (← read path node)

def readItems {α : Type} (read : NodeReader α) (path : Path) :
    Nat → List Node → Except Error (List α)
  | _, [] => .ok []
  | index, node :: rest => do
    let a ← read (.item path index) node
    let others ← readItems read path (index + 1) rest
    return a :: others

/-- A sequence; nothing at all is an empty one. -/
def readSequence {α : Type} (read : NodeReader α) : NodeReader (List α) := fun path node =>
  match node.target with
  | sequence items _ mark => locate path mark (readItems read path 0 items)
  | scalar "" .plain _ _ => .ok []
  | node => node.unfit "a sequence" path

/-- A variant without data: its name, or its name as a tag of nothing. -/
def readVariant {α : Type} (known : List String) (ofName? : String → Option α) : NodeReader α :=
  fun path node =>
    let find (name : String) (mark : Mark) : Except Error α :=
      match ofName? name with
      | some a => .ok a
      | none => mismatch path mark (.unknownVariant name known)
    match node.target with
    | scalar s style tag mark =>
      match Scalar.ownTag? tag with
      | none => find s mark
      | some name => do
        let a ← find name mark
        if style = .plain ∧ (s = "" ∨ Scalar.isNull s) then return a
        else mismatch path mark (.invalidValue (Shape.stringFound s) "null")
    | sequence _ tag mark => readTagged find "sequence" tag mark path
    | mapping _ tag mark => readTagged find "map" tag mark path
    | node => node.unfit "" path
where
  /-- A collection is no variant; with a tag of its own the tag is looked at first. -/
  readTagged (find : String → Mark → Except Error α) (found : String) (tag : Option String)
      (mark : Mark) (path : Path) : Except Error α :=
    match Scalar.ownTag? tag with
    | none => mismatch path mark (.invalidType found "a YAML tag starting with '!'")
    | some name => do
      let _ ← find name mark
      mismatch path mark (.invalidType found "unit")

def readAnswerType : NodeReader AnswerType :=
  readVariant AnswerType.allSpellings AnswerType.ofName?

/-! ### Mappings -/

def entryPath (path : Path) : Node → Path
  | scalar s _ _ _ => .entry path s
  | anchored _ node => entryPath path node
  | _ => .unknown path

/-- The entries of a mapping and where it begins; nothing at all is an empty one. -/
def readEntries (expected : String) (path : Path) (node : Node) :
    Except Error (List (Node × Node) × Mark) :=
  match node.target with
  | mapping entries _ mark => .ok (entries, mark)
  | scalar "" .plain _ mark => .ok ([], mark)
  | node => node.unfit expected path

def readFields {σ : Type} (names : List String) (read : String → σ → NodeReader σ) (path : Path) :
    (seen : List String) → σ → List (Node × Node) → Except Error (List String × σ)
  | seen, record, [] => .ok (seen, record)
  | seen, record, (key, value) :: rest => do
    let name ← readText "field identifier" path key
    if !names.contains name then
      mismatch path key.target.mark (.unknownField name names)
    if seen.contains name then throw (.shape (.duplicateField name) none)
    let record ← read name record (entryPath path key) value
    readFields names read path (name :: seen) record rest

/-- A record. `read` puts the value of a field in; the fields of `needed` must be given. -/
def readRecord {σ : Type} (record : String) (names needed : List String) (start : σ)
    (read : String → σ → NodeReader σ) : NodeReader σ := fun path node => do
  let (entries, mark) ← readEntries ("struct " ++ record) path node
  locate path mark do
    let (seen, result) ← readFields names read path [] start entries
    match needed.find? fun name => !seen.contains name with
    | some name => throw (.shape (.missingField name) none)
    | none => return result

/-- A mapping of texts, in the order of its keys; of two entries with one key the later one counts. -/
def readDictionary {α : Type} (insert : String → α → List (String × α) → List (String × α))
    (read : NodeReader α) : NodeReader (List (String × α)) := fun path node => do
  let (entries, mark) ← readEntries "a map" path node
  locate path mark do
    entries.foldlM (fun done (key, value) => do
      let name ← readString path key
      return insert name (← read (entryPath path key) value) done) []

end Node

end Questionnaire.Yaml
