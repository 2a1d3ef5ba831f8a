import Questionnaire.Dictionary
import Questionnaire.Script.Basic

/-!
Reading scripts from YAML.
-/

namespace Questionnaire

namespace Yaml.Node

mutual

/-- Refuses what no alternative can be read from: tags of a script's own and numbers that are too
wide. -/
def checkPlain (path : Path) : Node → Except Error Unit
  | scalar s style tag mark =>
    if (Scalar.ownTag? tag).isSome then mismatch path mark .taggedAlternative
    else
      match Scalar.resolve s style tag with
      | .error m => mismatch path mark m
      | .ok (.wide n) => mismatch path mark (.invalidType (Resolved.wideFound n) "any value")
      | .ok _ => .ok ()
  | sequence items tag mark =>
    if (Scalar.ownTag? tag).isSome then mismatch path mark .taggedAlternative
    else locate path mark (checkPlainItems path 0 items)
  | mapping entries tag mark =>
    if (Scalar.ownTag? tag).isSome then mismatch path mark .taggedAlternative
    else locate path mark (checkPlainEntries path entries)
  | anchored _ node => checkPlain path node
  | linked node => checkPlain path node
  | reference _ _ => .error .repetitionLimit
  | cut e => .error e

def checkPlainItems (path : Path) : Nat → List Node → Except Error Unit
  | _, [] => .ok ()
  | index, node :: rest =>
    match checkPlain (.item path index) node with
    | .error e => .error e
    | .ok () => checkPlainItems path (index + 1) rest

def checkPlainEntries (path : Path) : List (Node × Node) → Except Error Unit
  | [] => .ok ()
  | (key, value) :: rest =>
    match checkPlain path key with
    | .error e => .error e
    | .ok () =>
      match checkPlain (entryPath path key) value with
      | .error e => .error e
      | .ok () => checkPlainEntries path rest

end

def string? (node : Node) : Option String :=
  match node.target with
  | scalar s style tag _ =>
    match Scalar.resolve s style tag with
    | .ok (.string s) => some s
    | _ => none
  | _ => none

/-- Whether a key is that of a record's only field: its name, or 0. A key that is neither a text nor a
natural number is none of any record. -/
def isOnlyField? (name : String) (key : Node) : Option Bool :=
  match key.target with
  | scalar s style tag _ =>
    match Scalar.resolve s style tag with
    | .ok (.string s) => some (s == name)
    | .ok (.integer n) => if n < 0 then none else some (n == 0)
    | _ => none
  | _ => none

def onlyField? (name : String) : List (Node × Node) → Option (Option String)
  | [] => some none
  | (key, value) :: rest =>
    match isOnlyField? name key with
    | none => none
    | some false => onlyField? name rest
    | some true =>
      match value.string?, onlyField? name rest with
      | some s, some none => some (some s)
      | _, _ => none

end Yaml.Node

namespace Script

open Yaml.Node (readString readText readOptional readSequence readValue readRecord readDictionary
  readAnswerType)

def readTarget : Yaml.NodeReader Target := fun path node => do
  Yaml.Node.checkPlain path node
  let target : Option Target :=
    match node.string?, node.target with
    | some name, _ => some (.named name)
    | none, .mapping entries _ _ =>
      ((Yaml.Node.onlyField? "goto" entries).join.map .goto) <|>
        ((Yaml.Node.onlyField? "outcome" entries).join.map .outcome)
    | none, _ => none
  match target with
  | some target => return target
  | none => throw (.shape (.noAlternative "RawTarget") none)

def readConstant : Yaml.NodeReader Constant :=
  readRecord "RawConstant" ["name", "value"] ["name"] {} fun field c path node =>
    match field with
    | "name" => return { c with name := ← readString path node }
    | _ => return { c with value := ← readValue path node }

def readQuestion : Yaml.NodeReader Question :=
  readRecord "RawAsk" ["name", "type", "options", "description"] ["name"] {}
    fun field q path node =>
      match field with
      | "name" => return { q with name := ← readString path node }
      | "type" => return { q with type := ← readOptional readAnswerType path node }
      | "options" => return { q with options := ← readOptional (readSequence readValue) path node }
      | _ => return { q with description := ← readOptional readString path node }

def readCase : Yaml.NodeReader Case :=
  readRecord "RawCase" ["when", "formula"] ["formula"] {} fun field c path node =>
    match field with
    | "when" => return { c with guard := ← readOptional readValue path node }
    | _ => return { c with formula := ← readValue path node }

def readDerivation : Yaml.NodeReader Derivation :=
  readRecord "RawDerive" ["name", "type", "formula", "cases"] ["name"] {} fun field d path node =>
    match field with
    | "name" => return { d with name := ← readString path node }
    | "type" => return { d with type := ← readOptional readAnswerType path node }
    | "formula" => return { d with formula := ← readOptional readValue path node }
    | _ => return { d with cases := ← readOptional (readSequence readCase) path node }

def readGate : Yaml.NodeReader Gate :=
  readRecord "RawGate" ["when", "then", "else", "ask"] ["when"] {} fun field g path node =>
    match field with
    | "when" => return { g with condition := ← readValue path node }
    | "then" => return { g with onTrue := ← readOptional readTarget path node }
    | "else" => return { g with onFalse := ← readOptional readTarget path node }
    | _ => return { g with fallback := ← readOptional readString path node }

def readStep : Yaml.NodeReader Step :=
  readRecord "RawStep" ["id", "description", "choice", "ask", "derive", "gate", "next"] ["id"] {}
    fun field s path node =>
      match field with
      | "id" => return { s with id := ← readString path node }
      | "description" => return { s with description := ← readOptional readString path node }
      | "choice" => return { s with choice := ← readOptional (readSequence readValue) path node }
      | "ask" => return { s with questions := ← readOptional (readSequence readQuestion) path node }
      | "derive" => return { s with derivation := ← readOptional readDerivation path node }
      | "gate" => return { s with gate := ← readOptional readGate path node }
      | _ => return { s with next := ← readOptional readTarget path node }

def read : Yaml.NodeReader Script :=
  readRecord "RawScript" ["info", "constants", "steps"] [] {} fun field s path node =>
    match field with
    | "info" => return { s with info := ← readDictionary Dictionary.insert readValue path node }
    | "constants" => return { s with constants := ← readSequence readConstant path node }
    | _ => return { s with steps := ← readSequence readStep path node }

end Script

def Script.ofText (text : String) : Except Yaml.Error Script :=
  Yaml.Document.read (Script.read .root) text

end Questionnaire
