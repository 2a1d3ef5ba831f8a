import Questionnaire.Proofs.Model.Compile
import Questionnaire.Proofs.Script.Marks
import Questionnaire.Proofs.Source.Positions

/-!
Where the errors of a document are shown.

The range of such a defect begins at the byte of the error's mark, and its line is counted by newlines
there. So it is the line of the mark unless the text has other line breaks before, or the mark is the end of
a last line that is not ended: `Model.document_shown`.
-/

namespace Questionnaire

open Text (byteLength byteLength_append)

namespace Yaml

variable {text : List Char} {e : Error} {m : Mark}

/-- The end of a text whose last line is not ended, told as the beginning of the next line. -/
def Mark.PastEnd (text : List Char) (m : Mark) : Prop :=
  lastLine text ≠ [] ∧ m = ⟨byteLength text, lineBreaks text + 1, 0⟩

/-- A mark is the place behind so many bytes, or past the end. -/
theorem Mark.Of.exists_before (placed : m.Of text) : ∃ before rest, text = before ++ rest ∧
    byteLength before = m.index ∧
    (m = .behind before ∧ ¬m.PastEnd text ∨ before = text ∧ m.PastEnd text) := by
  obtain ⟨c, placed, rfl⟩ := placed
  cases placed with
  | @place before rest whole apart =>
    refine ⟨before, rest, whole, rfl, .inl ⟨rfl, ?_⟩⟩
    rintro ⟨-, same⟩
    obtain ⟨size, line, -⟩ := Mark.mk.inj same
    rw [whole, byteLength_append] at size
    have nothing : rest = [] := Text.byteLength_eq_zero.mp (by omega)
    rw [whole, nothing, List.append_nil] at line
    omega
  | pastEnd unended => exact ⟨text, [], (List.append_nil text).symm, rfl, .inr ⟨rfl, unended, rfl⟩⟩

/-- The message of an error tells its mark, the start of the text excepted. -/
theorem Error.message_tells (marked : e.mark? = some m) (told : m.isOrigin = false) :
    ∃ front back, e.message = front ++ (" at " ++ m.toText ++ back) := by
  have bare (message : e.message = if m.isOrigin then e.summary else e.summary ++ " at " ++ m.toText) :
      ∃ front back, e.message = front ++ (" at " ++ m.toText ++ back) := by
    refine ⟨e.summary, "", ?_⟩
    simp only [message, told, Bool.false_eq_true, if_false, String.append_assoc, String.append_empty]
  cases e with
  | form e =>
    obtain rfl := Option.some.inj marked
    obtain ⟨back, message⟩ : ∃ back, e.message =
        e.problem.message ++ (" at " ++ e.mark.toText) ++ back := by
      unfold FormError.message
      rw [told]
      exact ⟨_, rfl⟩
    exact ⟨e.problem.message, back, message.trans String.append_assoc⟩
  | unknownAnchor | depthLimit =>
    obtain rfl := Option.some.inj marked
    exact bare rfl
  | shape mismatch place =>
    obtain _ | ⟨mark, path⟩ := place
    · cases marked
    · obtain rfl := Option.some.inj marked
      exact bare rfl
  | repetitionLimit | severalDocuments => cases marked

end Yaml

namespace Model

/-- The mark of an error that keeps a text from being a script is the place that the defect shows, byte for
byte, and its message tells the line of the mark. The line of the range is the same exactly if newlines end
the lines before it and it is not past the end of the text. -/
theorem document_shown {text : String} {e : Yaml.Error} {m : Yaml.Mark}
    (rejected : Script.ofText text = .error e) (marked : e.mark? = some m) :
    ∃ before rest d, text.toList = before ++ rest ∧ byteLength before = m.index ∧
      ofText text = .error d ∧ d.cause = .document e ∧
      (m.isOrigin = false → ∃ front back, d.cause.message = front ++ (" at " ++ m.toText ++ back)) ∧
      d.range.start.index = m.index ∧ d.range.start.line = before.count '\n' + 1 ∧
      (d.range.start.line = m.line + 1 ↔
        Yaml.Newlined before ∧ ¬m.PastEnd text.toList) := by
  have placed : m.Of text.toList := (Script.settles_ofText text).of_error rejected m marked
  obtain ⟨before, rest, whole, index, told⟩ := placed.exists_before
  have failed : ofText text = .error ⟨.document e, (Source.ofText text).documentRange e⟩ := by
    unfold ofText
    rw [rejected]
  have start : ((Source.ofText text).documentRange e).start = (Source.ofText text).position m.index := by
    unfold Source.documentRange
    rw [marked]
    rfl
  have line : ((Source.ofText text).position m.index).line = before.count '\n' + 1 := by
    rw [← index]
    exact Source.position_line whole
  have inside : m.index ≤ (Source.ofText text).size := by
    rw [← index]
    show _ ≤ byteLength text.toList
    rw [whole, byteLength_append]
    exact Nat.le_add_right _ _
  refine ⟨before, rest, _, whole, index, failed, rfl, fun origin => ?_, ?_, ?_, ?_⟩
  · obtain ⟨front, back, message⟩ := e.message_tells marked origin
    refine ⟨"invalid script: " ++ front, back, ?_⟩
    show "invalid script: " ++ e.message = _
    rw [message]
    exact String.append_assoc.symm
  · rw [start, Source.position_index, Nat.min_eq_left inside]
  · rw [start, line]
  · rw [start, line]
    rcases told with ⟨same, inText⟩ | ⟨same, past⟩
    · have counted : m.line = before.count '\n' + Yaml.foreignBreaks before := by
        rw [same]
        rfl
      rw [← Yaml.foreignBreaks_eq_zero]
      simp only [counted, inText, not_false_iff, and_true]
      omega
    · have counted : m.line = before.count '\n' + Yaml.foreignBreaks before + 1 := by
        rw [past.2, same]
        rfl
      simp only [counted, past, not_true, and_false, iff_false]
      omega

def strayScript : String :=
  "steps:\n" ++ "  - id: a\n" ++ "    description: é🙂\n" ++ "    foo: 1\n"

def strayMark : Yaml.Mark := ⟨45, 3, 4⟩

def strayError : Yaml.Error :=
  .shape (.unknownField "foo" ["id", "description", "choice", "ask", "derive", "gate", "next"])
    (some (strayMark, "steps[0]"))

/-- An unknown field behind characters of more than one byte. -/
theorem document_shown_stray : Script.ofText strayScript = .error strayError ∧
    strayError.mark? = some strayMark ∧ ∃ d, ofText strayScript = .error d ∧
      d.range.start.index = 45 ∧ d.range.start.line = strayMark.line + 1 := by
  have written : strayScript = String.ofList _ :=
    literal_append (literal_append (literal_append rfl rfl) rfl) rfl
  have rejected : Script.ofText strayScript = .error strayError := by
    rw [Script.ofText_eq written]
    exact error_of_failure? (by decide +kernel)
  obtain ⟨before, rest, d, whole, size, failed, -, -, index, -, line⟩ := document_shown rejected rfl
  have newlined : Yaml.Newlined before := by
    have cut := Text.takeBytes?_append before rest
    have counted : (Text.takeBytes? 45 strayScript.toList).map Yaml.foreignBreaks = some 0 := by
      rw [written, String.toList_ofList]
      decide +kernel
    rw [size, ← whole] at cut
    rw [show Text.takeBytes? 45 strayScript.toList = some before from cut] at counted
    exact Yaml.foreignBreaks_eq_zero.mp (Option.some.inj counted)
  have inText : ¬strayMark.PastEnd strayScript.toList := fun past =>
    absurd (congrArg Yaml.Mark.column past.2) (by decide)
  exact ⟨rejected, rfl, d, failed, index, line.mpr ⟨newlined, inText⟩⟩

/-- A bracket that the text ends behind. -/
def unclosedError (m : Yaml.Mark) : Yaml.Error := .form ⟨.nodeContent, m, some (.flowNode, m), 0⟩

/-- A text that ends within its first line, and one whose lines end in carriage returns. -/
theorem line_not_told :
    (∃ e m d, Script.ofText "steps: [" = .error e ∧ e.mark? = some m ∧
      ofText "steps: [" = .error d ∧ m.line + 1 = 2 ∧ d.range.start.line = 1) ∧
    ∃ e m d, Script.ofText "steps:\r- id: a\r  ask: [\r" = .error e ∧ e.mark? = some m ∧
      ofText "steps:\r- id: a\r  ask: [\r" = .error d ∧ m.line + 1 = 4 ∧ d.range.start.line = 1 := by
  refine ⟨⟨unclosedError ⟨8, 1, 0⟩, ⟨8, 1, 0⟩,
    ⟨.document (unclosedError ⟨8, 1, 0⟩), ⟨⟨1, 9, 8⟩, ⟨1, 9, 8⟩⟩⟩, ?_, rfl, ?_, rfl, rfl⟩,
    unclosedError ⟨24, 3, 0⟩, ⟨24, 3, 0⟩,
    ⟨.document (unclosedError ⟨24, 3, 0⟩), ⟨⟨1, 25, 24⟩, ⟨1, 25, 24⟩⟩⟩, ?_, rfl, ?_, rfl, rfl⟩
  · rw [Script.ofText_eq rfl]
    exact error_of_failure? (by decide +kernel)
  · rw [Model.ofText_eq rfl]
    decide +kernel
  · rw [Script.ofText_eq rfl]
    exact error_of_failure? (by decide +kernel)
  · rw [Model.ofText_eq rfl]
    decide +kernel

end Model

end Questionnaire
