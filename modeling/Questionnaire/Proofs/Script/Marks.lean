import Questionnaire.Proofs.Yaml.Shapes
import Questionnaire.Script.Reader

/-!
The marks of the errors of a script.

Whatever keeps a text from being a script has a mark of that text, or none: `Script.settles_ofText`.
-/

namespace Questionnaire

open Yaml (Mark Path)

namespace Yaml.Node

variable {good : Mark → Prop}

mutual

theorem settles_checkPlain (path : Path) (node : Node) (h : node.At good) :
    Yaml.Marked good (checkPlain path node) := by
  cases node with
  | scalar s style tag mark =>
    refine settles_ite (fun _ => settles_mismatch h) fun _ => ?_
    split
    · exact settles_mismatch h
    · exact settles_mismatch h
    · exact trivial
  | sequence items tag mark =>
    refine settles_ite (fun _ => settles_mismatch h.1) fun _ => ?_
    exact settles_locate h.1 (settles_checkPlainItems path 0 h.2)
  | mapping entries tag mark =>
    refine settles_ite (fun _ => settles_mismatch h.1) fun _ => ?_
    exact settles_locate h.1 (settles_checkPlainEntries path h.2)
  | anchored id node => exact settles_checkPlain path node h
  | linked node => exact settles_checkPlain path node h
  | reference id mark => exact Error.at_repetitionLimit
  | cut e => exact h

theorem settles_checkPlainItems (path : Path) (index : Nat) {items : List Node} (h : ItemsAt good items) :
    Yaml.Marked good (checkPlainItems path index items) := by
  cases items with
  | nil => exact trivial
  | cons item rest =>
    have first := settles_checkPlain (.item path index) item h.1
    unfold checkPlainItems
    split
    · rename_i refused
      exact first.of_error refused
    · exact settles_checkPlainItems path (index + 1) h.2

theorem settles_checkPlainEntries (path : Path) {entries : List (Node × Node)} (h : EntriesAt good entries) :
    Yaml.Marked good (checkPlainEntries path entries) := by
  cases entries with
  | nil => exact trivial
  | cons entry rest =>
    obtain ⟨key, value⟩ := entry
    have name := settles_checkPlain path key h.1
    have content := settles_checkPlain (entryPath path key) value h.2.1
    unfold checkPlainEntries
    split
    · rename_i refused
      exact name.of_error refused
    · split
      · rename_i refused
        exact content.of_error refused
      · exact settles_checkPlainEntries path h.2.2

end

end Yaml.Node

namespace Script

open Yaml.Node

variable {good : Mark → Prop}

theorem heeds_readTarget : Heeds good readTarget := by
  intro path node h
  refine (settles_checkPlain path node h).bind fun _ _ => ?_
  dsimp only
  split
  · exact trivial
  · have unfit : (Yaml.Error.shape (.noAlternative "RawTarget") none).At good := Yaml.Error.at_of_none rfl
    exact unfit

theorem settles_field {α σ : Type} {read : Yaml.NodeReader α} (heeds : Heeds good read) {put : α → σ}
    {path : Path} {node : Yaml.Node} (h : node.At good) :
    Yaml.Marked good (return put (← read path node)) :=
  (heeds path node h).bind fun _ _ => trivial

section

variable (origin : good .start)
include origin

theorem heeds_readConstant : Heeds good readConstant := by
  refine heeds_readRecord origin fun field c path node h => ?_
  split
  · exact settles_field heeds_readString h
  · exact settles_field heeds_readValue h

theorem heeds_readQuestion : Heeds good readQuestion := by
  refine heeds_readRecord origin fun field q path node h => ?_
  split
  · exact settles_field heeds_readString h
  · exact settles_field heeds_readAnswerType.optional h
  · exact settles_field heeds_readValue.sequence.optional h
  · exact settles_field heeds_readString.optional h

theorem heeds_readCase : Heeds good readCase := by
  refine heeds_readRecord origin fun field c path node h => ?_
  split
  · exact settles_field heeds_readValue.optional h
  · exact settles_field heeds_readValue h

theorem heeds_readDerivation : Heeds good readDerivation := by
  refine heeds_readRecord origin fun field d path node h => ?_
  split
  · exact settles_field heeds_readString h
  · exact settles_field heeds_readAnswerType.optional h
  · exact settles_field heeds_readValue.optional h
  · exact settles_field (heeds_readCase origin).sequence.optional h

theorem heeds_readGate : Heeds good readGate := by
  refine heeds_readRecord origin fun field g path node h => ?_
  split
  · exact settles_field heeds_readValue h
  · exact settles_field heeds_readTarget.optional h
  · exact settles_field heeds_readTarget.optional h
  · exact settles_field heeds_readString.optional h

theorem heeds_readStep : Heeds good readStep := by
  refine heeds_readRecord origin fun field s path node h => ?_
  split
  · exact settles_field heeds_readString h
  · exact settles_field heeds_readString.optional h
  · exact settles_field heeds_readValue.sequence.optional h
  · exact settles_field (heeds_readQuestion origin).sequence.optional h
  · exact settles_field (heeds_readDerivation origin).optional h
  · exact settles_field (heeds_readGate origin).optional h
  · exact settles_field heeds_readTarget.optional h

theorem heeds_read : Heeds good read := by
  refine heeds_readRecord origin fun field s path node h => ?_
  split
  · exact settles_field (heeds_readDictionary heeds_readValue) h
  · exact settles_field (heeds_readConstant origin).sequence h
  · exact settles_field (heeds_readStep origin).sequence h

end

theorem settles_ofText (text : String) :
    Yaml.Marked (Mark.Of text.toList) (ofText text) := by
  have origin : Mark.start.Of text.toList := (Yaml.Cursor.of_start _).mark
  exact Yaml.Document.settles_read origin (Yaml.tokens_tells _) fun node h => heeds_read origin .root node h

end Script

end Questionnaire
