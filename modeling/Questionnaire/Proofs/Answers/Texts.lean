import Questionnaire.Proofs.Answers.Normalization

/-!
Answers to questions for a text.

Such an answer can be given as a member of an object, as an entry without a type, and as an entry that
declares a text. Only the last keeps every text as it is written: the other two read the text first
and then write what they read, which keeps it exactly if it is its own rendering.
-/

namespace Questionnaire

/-! ### Ways of giving a text -/

/-- A text under a name, as an answers object. -/
def textMember (name s : String) : Json := .object [(name, .string s)]

/-- A text under a name, as an entry without a type. -/
def untypedEntry (name s : String) : Json :=
  .array [.object [("name", .string name), ("value", .string s)]]

/-- A text under a name, as an entry that declares a text. -/
def typedEntry (name s : String) : Json :=
  .array [.object [("name", .string name), ("type", .string AnswerType.text.name),
    ("value", .string s)]]

/-- The value that a run knows under a name once it has taken answers. -/
def Model.Knows (m : Model) (strict : Bool) (answers : Json) (name : String) (v : Value) : Prop :=
  ∃ given known, ParameterStore.ofAnswers answers = .ok given ∧
    m.normalize strict given = .ok known ∧ known.value name = v

theorem Model.Knows.unique {m : Model} {strict : Bool} {answers : Json} {name : String} {v w : Value}
    (left : m.Knows strict answers name v) (right : m.Knows strict answers name w) : v = w := by
  obtain ⟨given, known, read, normal, rfl⟩ := left
  obtain ⟨given', known', read', normal', rfl⟩ := right
  cases read.symm.trans read'
  cases normal.symm.trans normal'
  rfl

theorem ofAnswers_textMember (name s : String) :
    ParameterStore.ofAnswers (textMember name s) = .ok (.ofList [.ofText name s]) := rfl

theorem ofAnswers_untypedEntry (name s : String) :
    ParameterStore.ofAnswers (untypedEntry name s) = .ok (.ofList [.ofText name s]) := rfl

theorem ofAnswers_typedEntry (name s : String) :
    ParameterStore.ofAnswers (typedEntry name s) = .ok (.ofList [.ofValue name (.text s)]) := rfl

/-! ### What is stored -/

theorem AskedParameter.accept_text {p : AskedParameter} {answer : Parameter}
    (isText : p.valueType = .text) (free : p.options = [])
    (given : answer.value.isUnknown = false) :
    p.accept answer = .ok (.text answer.value.toText) := by
  simp [accept, isText, free, Value.coerce?_text given]

namespace Model

variable {m : Model} {step : Step} {p : AskedParameter}

/-- A text question stores the rendering of the value that it is given. -/
theorem WellFormed.normalize_text (wellFormed : m.WellFormed) (present : step ∈ m.steps)
    (asked : p ∈ step.asked) (isText : p.valueType = .text) (free : p.options = []) (strict : Bool)
    {v : Value} (given : v.isUnknown = false) :
    ∃ known, m.normalize strict (.ofList [.ofValue p.name v]) = .ok known ∧
      known.value p.name = .text v.toText := by
  have taken := wellFormed.acceptAnswer_asked present asked strict .empty (.ofValue p.name v) rfl
    given
  rw [AskedParameter.accept_text isText free given] at taken
  have held : (ParameterStore.empty.insert (.ofValue p.name (.text v.toText))).value p.name =
      .text v.toText := ParameterStore.value_insert_self
  refine ⟨_, ?_, held⟩
  change m.acceptAnswers strict .empty [.ofValue p.name v] = _
  rw [acceptAnswers, taken]
  rfl

theorem WellFormed.knows_typedEntry (wellFormed : m.WellFormed) (present : step ∈ m.steps)
    (asked : p ∈ step.asked) (isText : p.valueType = .text) (free : p.options = []) (strict : Bool)
    (s : String) : m.Knows strict (typedEntry p.name s) p.name (.text s) := by
  obtain ⟨known, taken, value⟩ :=
    wellFormed.normalize_text present asked isText free strict (v := .text s) rfl
  exact ⟨_, known, ofAnswers_typedEntry p.name s, taken, value⟩

theorem WellFormed.knows_textMember (wellFormed : m.WellFormed) (present : step ∈ m.steps)
    (asked : p ∈ step.asked) (isText : p.valueType = .text) (free : p.options = []) (strict : Bool)
    (s : String) :
    m.Knows strict (textMember p.name s) p.name (.text (Value.ofText s).toText) := by
  obtain ⟨known, taken, value⟩ :=
    wellFormed.normalize_text present asked isText free strict (Value.ofText_isUnknown s)
  exact ⟨_, known, ofAnswers_textMember p.name s, taken, value⟩

/-- Members of an object and entries without a type are taken alike. -/
theorem knows_untypedEntry {name s : String} {v : Value} {strict : Bool} :
    m.Knows strict (untypedEntry name s) name v ↔ m.Knows strict (textMember name s) name v := by
  simp only [Knows, ofAnswers_textMember, ofAnswers_untypedEntry]

theorem WellFormed.knows_textMember_iff (wellFormed : m.WellFormed) (present : step ∈ m.steps)
    (asked : p ∈ step.asked) (isText : p.valueType = .text) (free : p.options = []) (strict : Bool)
    (s : String) :
    m.Knows strict (textMember p.name s) p.name (.text s) ↔ (Value.ofText s).toText = s := by
  have rendered := wellFormed.knows_textMember present asked isText free strict s
  constructor
  · intro verbatim
    exact Value.text.inj (rendered.unique verbatim)
  · intro own
    rwa [own] at rendered

/-- Of the three ways to give a text, the one that declares it keeps every text as it is written. The
others know the rendering of what the text reads as, and so keep just those texts that are renderings
of themselves. -/
theorem text_verbatim_iff {text : String} (compiled : Model.ofText text = .ok m)
    (present : step ∈ m.steps) (asked : p ∈ step.asked) (isText : p.valueType = .text)
    (free : p.options = []) (strict : Bool) (s : String) :
    m.Knows strict (typedEntry p.name s) p.name (.text s) ∧
      m.Knows strict (textMember p.name s) p.name (.text (Value.ofText s).toText) ∧
      m.Knows strict (untypedEntry p.name s) p.name (.text (Value.ofText s).toText) ∧
      (m.Knows strict (textMember p.name s) p.name (.text s) ↔ (Value.ofText s).toText = s) ∧
      (m.Knows strict (untypedEntry p.name s) p.name (.text s) ↔ (Value.ofText s).toText = s) := by
  have wellFormed := wellFormed_of_text compiled
  have rendered := wellFormed.knows_textMember present asked isText free strict s
  have kept := wellFormed.knows_textMember_iff present asked isText free strict s
  exact ⟨wellFormed.knows_typedEntry present asked isText free strict s, rendered,
    knows_untypedEntry.mpr rendered, kept, knows_untypedEntry.trans kept⟩

/-! ### A number as a text -/

/-- A script with one question, for the number of a house. -/
def houseScript : String :=
  "steps:\n  - id: adres\n    ask:\n      - \x7b name: nummer, type: String \x7d\n"

def houseNumber : AskedParameter := ⟨"nummer", .text, .text, [], ""⟩

def houseStep : Step :=
  ⟨"adres", "", .question [houseNumber] .all, .finish none, ⟨⟨2, 5, 11⟩, ⟨2, 14, 20⟩⟩⟩

def houseModel : Model := ⟨[], .empty, [houseStep], [⟨"nummer", .question 0, .text⟩]⟩

theorem ofText_houseScript : Model.ofText houseScript = .ok houseModel := by
  have written : houseScript = String.ofList _ := rfl
  rw [Model.ofText_eq written]
  exact ok_of_toOption (by decide +kernel)

theorem text_verbatim_house :
    Model.ofText houseScript = .ok houseModel ∧ houseStep ∈ houseModel.steps ∧
      houseNumber ∈ houseStep.asked ∧ houseNumber.valueType = .text ∧ houseNumber.options = [] ∧
      houseModel.Knows true (typedEntry "nummer" "01234") "nummer" (.text "01234") ∧
      houseModel.Knows true (textMember "nummer" "01234") "nummer" (.text "1234") := by
  have here : houseStep ∈ houseModel.steps := List.mem_singleton.mpr rfl
  have asked : houseNumber ∈ houseStep.asked := List.mem_singleton.mpr rfl
  obtain ⟨typed, member, _⟩ :=
    text_verbatim_iff ofText_houseScript here asked rfl rfl true "01234"
  have rendering : (Value.ofText "01234").toText = "1234" := by decide
  rw [rendering] at member
  exact ⟨ofText_houseScript, here, asked, rfl, rfl, typed, member⟩

/-- Texts that read as a number, a truth value or a span lose their spelling in an answers object. -/
theorem leading_zero_lost :
    Model.ofText houseScript = .ok houseModel ∧ houseStep ∈ houseModel.steps ∧
      houseNumber ∈ houseStep.asked ∧ houseNumber.valueType = .text ∧ houseNumber.options = [] ∧
      ∀ s ∈ ["01234", "1,50", "ja", "02:30"],
        ¬houseModel.Knows false (textMember "nummer" s) "nummer" (.text s) := by
  have here : houseStep ∈ houseModel.steps := List.mem_singleton.mpr rfl
  have asked : houseNumber ∈ houseStep.asked := List.mem_singleton.mpr rfl
  refine ⟨ofText_houseScript, here, asked, rfl, rfl, ?_⟩
  intro s member verbatim
  have own := ((wellFormed_of_text ofText_houseScript).knows_textMember_iff here asked rfl rfl false
    s).mp verbatim
  have others : ∀ s ∈ ["01234", "1,50", "ja", "02:30"], (Value.ofText s).toText ≠ s := by
    decide
  exact others s member own

end Model

end Questionnaire
