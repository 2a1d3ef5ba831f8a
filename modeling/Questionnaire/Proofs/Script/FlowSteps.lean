import Questionnaire.Proofs.Decimal.Digits
import Questionnaire.Proofs.Yaml.Nodes
import Questionnaire.Proofs.Yaml.Transitions
import Questionnaire.Script.Reader

/-!
Scripts whose steps stand on one line each, in flow style.

Every step offers one option, which is named after the number of the step. Whatever words the ids are, such
a text is the script that it looks like: `read_flowScript`.
-/

namespace Questionnaire

def flowLine (number : Nat) (id : String) : String :=
  "  - \x7b id: " ++ id ++ ", choice: [o" ++ toString number ++ "] \x7d\n"

/-- The lines of steps that are numbered on from the first. -/
def flowLines (number : Nat) : List String → String
  | [] => ""
  | id :: ids => flowLine number id ++ flowLines (number + 1) ids

/-- The script of the steps with such ids. -/
def flowScript (ids : List String) : String := "steps:\n" ++ flowLines 1 ids

def flowOption (number : Nat) : String := "o" ++ toString number

/-- What the line of a step says. -/
def flowStep (number : Nat) (id : String) : Script.Step :=
  { id := id, choice := some [.string (flowOption number)] }

def flowSteps (number : Nat) : List String → List Script.Step
  | [] => []
  | id :: ids => flowStep number id :: flowSteps (number + 1) ids

open Yaml (Node Mark IsWord isWordChar TokenKind)

variable {n : Nat} {id : String} {ids : List String}

/-! ### Characters -/

/-- The text behind a line, from its line break on, when more such lines follow. -/
def flowRest (number : Nat) : List String → List Char
  | [] => ['\n']
  | id :: ids => ['\n', ' ', ' ', '-', ' ', '\x7b', ' ', 'i', 'd', ':', ' '] ++ (id.toList ++
      ([',', ' ', 'c', 'h', 'o', 'i', 'c', 'e', ':', ' ', '['] ++ ('o' :: Decimal.digits number ++
        ([']', ' ', '\x7d'] ++ flowRest (number + 1) ids))))

theorem toList_flowLines (n : Nat) (ids : List String) : '\n' :: (flowLines n ids).toList = flowRest n ids := by
  induction ids generalizing n with
  | nil => rfl
  | cons id ids ih =>
    rw [flowRest, ← ih]
    simp [flowLines, flowLine, String.toList_append, toString, Nat.repr, Decimal.digits]

theorem toList_flowScript (ids : List String) :
    (flowScript ids).toList = ['s', 't', 'e', 'p', 's', ':'] ++ flowRest 1 ids := by
  rw [← toList_flowLines]
  simp [flowScript, String.toList_append]

theorem toList_flowOption (n : Nat) : (flowOption n).toList = 'o' :: Decimal.digits n := by
  simp [flowOption, String.toList_append, toString, Nat.repr, Decimal.digits]

theorem isWord_flowOption (n : Nat) : IsWord ('o' :: Decimal.digits n) := by
  refine ⟨List.cons_ne_nil _ _, List.forall_mem_cons.mpr ⟨rfl, fun c member => ?_⟩⟩
  have digit : c.isDigit = true := Decimal.isDigits_digits n c member
  simp [isWordChar, digit]

/-! ### Tokens -/

def flowLineKinds (number : Nat) (id : String) : List TokenKind :=
  [.blockEntry, .flowMappingStart, .key, .scalar "id" .plain, .value, .scalar id .plain, .flowEntry, .key,
    .scalar "choice" .plain, .value, .flowSequenceStart, .scalar (flowOption number) .plain, .flowSequenceEnd,
    .flowMappingEnd]

def flowKinds (number : Nat) : List String → List TokenKind
  | [] => []
  | id :: ids => flowLineKinds number id ++ flowKinds (number + 1) ids

namespace Yaml.TokenStream

variable {kinds kinds' : List TokenKind} {indents indents' : List Nat} {s : TokenStream} {rest : List Char}

/-- What follows the opening brace of a line. -/
theorem Stands.reads_fields (word : IsWord id.toList)
    (stands : Stands ([' ', 'i', 'd', ':', ' '] ++ (id.toList ++
      ([',', ' ', 'c', 'h', 'o', 'i', 'c', 'e', ':', ' ', '['] ++ ('o' :: Decimal.digits n ++
        ([']', ' ', '\x7d'] ++ rest))))) (kinds ++ [.blockEntry, .flowMappingStart]) indents 1 true s) :
    s.Leads (Stands rest (kinds ++ flowLineKinds n id) indents 0 false) := by
  have key : IsWord ['i', 'd'] := by decide
  have option_key : IsWord ['c', 'h', 'o', 'i', 'c', 'e'] := by decide
  refine (stands.reads_key (n := 1) (w := ['i', 'd']) key rfl (by decide)).trans fun s stands => ?_
  refine (stands.reads_word (n := 1) word rfl).trans fun s stands => ?_
  refine (stands.reads_comma (n := 0)).trans fun s stands => ?_
  refine (stands.reads_key (n := 1) (w := ['c', 'h', 'o', 'i', 'c', 'e']) option_key rfl (by decide)).trans
    fun s stands => ?_
  refine (stands.reads_opening_bracket (n := 1)).trans fun s stands => ?_
  refine (stands.reads_word (n := 0) (isWord_flowOption n) rfl).trans fun s stands => ?_
  refine (stands.reads_closing_bracket (n := 0)).trans fun s stands => ?_
  refine (stands.reads_closing_brace (n := 1)).trans fun s stands => ?_
  refine ⟨s, .refl s, ?_⟩
  have id_text : String.ofList id.toList = id := String.ofList_toList
  have option_text : String.ofList ('o' :: Decimal.digits n) = flowOption n := by
    rw [← toList_flowOption, String.ofList_toList]
  simp only [id_text, option_text, List.append_assoc] at stands
  exact stands

/-- The lines of steps, when the block of steps is open. -/
theorem Stands.reads_lines (words : ∀ id ∈ ids, IsWord id.toList)
    (stands : Stands (flowRest n ids) kinds (2 :: indents) 0 false s) :
    s.Leads (Stands ['\n'] (kinds ++ flowKinds n ids) (2 :: indents) 0 false) := by
  induction ids generalizing n s kinds with
  | nil =>
    rw [flowKinds, List.append_nil]
    exact ⟨s, .refl s, stands⟩
  | cons id ids ih =>
    obtain ⟨word, others⟩ := List.forall_mem_cons.mp words
    have item := Stands.reads_item (n := 2) stands (forall_mem_some.mpr (Nat.le_refl 2))
      fun t here column => by
        rw [column]
        exact here.roll_next
    refine (item.trans fun t stands => stands.reads_fields word).trans fun t stands => ?_
    rw [flowKinds, ← List.append_assoc]
    exact ih others stands

theorem Stands.reads_block {outer : Nat} (words : ∀ id ∈ ids, IsWord id.toList) (filled : ids ≠ [])
    (shallow : outer < 2) (stands : Stands (flowRest n ids) kinds [outer] 0 false s) :
    s.Leads (Stands ['\n'] (kinds ++ .blockSequenceStart :: flowKinds n ids) [2, outer] 0 false) := by
  obtain ⟨id, ids, rfl⟩ := List.exists_cons_of_ne_nil filled
  obtain ⟨word, others⟩ := List.forall_mem_cons.mp words
  have item := Stands.reads_item (n := 2) stands (forall_mem_some.mpr (Nat.le_of_lt shallow))
    fun t here column => by
      rw [column]
      exact here.roll_first (forall_mem_some.mpr shallow)
  refine (item.trans fun t stands => stands.reads_fields word).trans fun t stands => ?_
  have later := stands.reads_lines others
  simp only [List.append_assoc] at later
  exact later

end Yaml.TokenStream

def flowScriptKinds (ids : List String) : List TokenKind :=
  [.blockMappingStart, .key, .scalar "steps" .plain, .value, .blockSequenceStart] ++ flowKinds 1 ids ++
    [.blockEnd, .blockEnd, .streamEnd]

theorem length_flowKinds (n : Nat) (ids : List String) : (flowKinds n ids).length = 14 * ids.length := by
  induction ids generalizing n with
  | nil => rfl
  | cons id ids ih =>
    rw [flowKinds, List.length_append, ih, List.length_cons]
    simp only [flowLineKinds, List.length_cons, List.length_nil]
    omega

theorem length_flowRest (n : Nat) (ids : List String) : 14 * ids.length < (flowRest n ids).length := by
  induction ids generalizing n with
  | nil => exact Nat.zero_lt_one
  | cons id ids ih =>
    have later := ih (n + 1)
    simp only [flowRest, List.length_append, List.length_cons, List.length_nil]
    omega

theorem streamEnd_not_mem_flowKinds (n : Nat) (ids : List String) : .streamEnd ∉ flowKinds n ids := by
  induction ids generalizing n with
  | nil => exact List.not_mem_nil
  | cons id ids ih =>
    rw [flowKinds, List.mem_append, not_or]
    exact ⟨by simp [flowLineKinds], ih (n + 1)⟩

theorem allowed_word {w : List Char} (word : IsWord w) : w.all Yaml.isAllowed = true :=
  List.all_eq_true.mpr fun c member => Yaml.isAllowed_of_word (word.2 c member)

theorem allowed_flowRest (words : ∀ id ∈ ids, IsWord id.toList) :
    (flowRest n ids).all Yaml.isAllowed = true := by
  induction ids generalizing n with
  | nil => rfl
  | cons id ids ih =>
    obtain ⟨word, others⟩ := List.forall_mem_cons.mp words
    rw [flowRest, List.all_append, List.all_append, List.all_append, List.all_append, List.all_append,
      allowed_word word, allowed_word (isWord_flowOption n), ih others]
    rfl

theorem tokens_flowScript (words : ∀ id ∈ ids, IsWord id.toList) (filled : ids ≠ []) :
    ∃ ts, Yaml.tokens (flowScript ids).toList = (ts, none) ∧
      ts.map (·.kind) = .streamStart :: flowScriptKinds ids := by
  rw [toList_flowScript]
  have allowed : (['s', 't', 'e', 'p', 's', ':'] ++ flowRest 1 ids).all Yaml.isAllowed = true := by
    rw [List.all_append, allowed_flowRest words]
    rfl
  obtain ⟨rest, ahead⟩ : ∃ rest, flowRest 1 ids = '\n' :: rest := by
    cases ids <;> exact ⟨_, rfl⟩
  have start := Yaml.TokenStream.stands_ofChars (['s', 't', 'e', 'p', 's', ':'] ++ flowRest 1 ids)
  have key : IsWord ['s', 't', 'e', 'p', 's'] := by decide
  rw [ahead] at start
  have first := start.reads_first_key (w := ['s', 't', 'e', 'p', 's']) key rfl (by decide)
  rw [← ahead] at first
  obtain ⟨s, reads, stands⟩ := first.trans fun t stands => stands.reads_block words filled Nat.zero_lt_two
  have open_before : .streamEnd ∉ [TokenKind.streamStart] ++ [.blockMappingStart, .key,
      .scalar (String.ofList ['s', 't', 'e', 'p', 's']) .plain, .value] ++
      .blockSequenceStart :: flowKinds 1 ids := by
    simp [streamEnd_not_mem_flowKinds]
  obtain ⟨u, last, complete, kinds⟩ := stands.reads_end open_before
  have steps : String.ofList ['s', 't', 'e', 'p', 's'] = "steps" := rfl
  refine ⟨u.queue, Yaml.tokens_of_reads allowed (reads.trans last) complete ?_,
    by simpa [steps, flowScriptKinds] using kinds⟩
  have counted := congrArg List.length kinds
  have long := length_flowRest 1 ids
  simp only [List.length_map, List.length_append, List.length_cons, List.length_nil, length_flowKinds,
    List.length_replicate] at counted ⊢
  omega

/-! ### Nodes -/

inductive FlowNodes : Nat → List String → List Node → Prop
  | nil {n : Nat} : FlowNodes n [] []
  | cons {n : Nat} {id : String} {ids : List String} {nodes : List Node} (m₁ m₂ m₃ m₄ m₅ m₆ : Mark)
      (later : FlowNodes (n + 1) ids nodes) :
      FlowNodes n (id :: ids)
        (.mapping [(.scalar "id" .plain none m₁, .scalar id .plain none m₂),
          (.scalar "choice" .plain none m₃,
            .sequence [.scalar (flowOption n) .plain none m₄] none m₅)] none m₆ :: nodes)

namespace Yaml.Reader

variable {r : Reader} {kinds : List TokenKind}

theorem Faces.readNode_line (faces : Faces (flowLineKinds n id ++ kinds) r) (fuel : Nat) :
    ∃ m₁ m₂ m₃ m₄ m₅ m₆ s, readNode true false (fuel + 9) r.advance =
      (.mapping [(.scalar "id" .plain none m₁, .scalar id .plain none m₂),
        (.scalar "choice" .plain none m₃,
          .sequence [.scalar (flowOption n) .plain none m₄] none m₅)] none m₆,
        .ok s) ∧ Faces kinds s := by
  have key_inside (content : String) :
      TokenKind.scalar content .plain ∉ [TokenKind.value, .flowEntry, .flowMappingEnd] := by simp
  have value_inside : TokenKind.scalar id .plain ∉ [TokenKind.flowEntry, .flowMappingEnd] := by simp
  have brace := faces.advance
  have entry := brace.advance
  obtain ⟨m₁, id_key⟩ := entry.advance.readUnless_scalar false (fuel + 5) (key_inside "id")
  have colon := entry.advance.advance
  obtain ⟨m₂, id_value⟩ := colon.readFlowValue_scalar (fuel + 4) value_inside
  have comma := colon.advance.advance
  obtain ⟨m₃, choice_key⟩ := comma.advance.advance.readUnless_scalar false (fuel + 4) (key_inside "choice")
  have colon' := comma.advance.advance.advance
  have bracket := colon'.advance
  have option := bracket.advance
  obtain ⟨m₄, option_read⟩ := option.readNode_scalar false false (fuel + 1)
  have closing := option.advance
  obtain ⟨m₅, options⟩ : ∃ m, readNode false false (fuel + 4) _ =
      (.sequence [.scalar (flowOption n) .plain none m₄] none m, .ok _) :=
    bracket.readNode_flowSequence fun start =>
      option.readFlowItems_first (by simp) option_read closing.readFlowItems_end
  have choice_value := (colon'.readFlowValue [.flowEntry, .flowMappingEnd] (fuel + 5)).trans
    ((bracket.readUnless (by simp)).trans options)
  have last := closing.advance
  obtain ⟨m₆, read⟩ : ∃ m, readNode true false (fuel + 9) _ = (.mapping _ none m, .ok _) :=
    brace.readNode_flowMapping fun start => entry.readFlowEntries_first (id_key none) id_value
      (comma.readFlowEntries_next (choice_key none) choice_value last.readFlowEntries_end)
  exact ⟨m₁, m₂, m₃, m₄, m₅, m₆, _, read, last.advance⟩

theorem Faces.readBlockItems_lines (faces : Faces (flowKinds n ids ++ .blockEnd :: kinds) r) (fuel : Nat) :
    ∃ nodes s, (∀ start, readBlockItems start (fuel + ids.length + 10) r = (nodes, .ok s)) ∧
      FlowNodes n ids nodes ∧ Faces kinds s := by
  induction ids generalizing n r with
  | nil => exact ⟨[], _, fun _ => Faces.readBlockItems_end faces, .nil, Faces.advance faces⟩
  | cons id ids ih =>
    rw [flowKinds, List.append_assoc] at faces
    obtain ⟨m₁, m₂, m₃, m₄, m₅, m₆, s, read, next⟩ := faces.readNode_line (fuel + ids.length + 1)
    obtain ⟨nodes, t, later, made, last⟩ := ih next
    refine ⟨_, t, fun start => ?_, made.cons m₁ m₂ m₃ m₄ m₅ m₆, last⟩
    exact Faces.readBlockItems_entry faces (by decide) read (later start)

theorem Faces.readRoot_lines (faces : Faces (flowScriptKinds ids) r) :
    ∃ m₁ m₂ m₃ nodes s, r.readRoot =
      (.mapping [(.scalar "steps" .plain none m₁, .sequence nodes none m₂)] none m₃, .ok s) ∧
      FlowNodes 1 ids nodes ∧ Faces [.streamEnd] s := by
  obtain ⟨fuel, enough⟩ : ∃ fuel, 4 * r.tokens.length + 8 = fuel + ids.length + 10 + 4 := by
    have counted := congrArg List.length faces
    simp only [flowScriptKinds, List.length_map, List.length_append, List.length_cons, List.length_nil,
      length_flowKinds] at counted
    exact ⟨4 * r.tokens.length + 8 - (ids.length + 14), by omega⟩
  obtain ⟨t, peek, kind⟩ := faces.peek
  have handled : Faces (flowScriptKinds ids) { r with handles := defaultHandles } := faces
  have root : r.readRoot =
      readNode true false (fuel + ids.length + 10 + 4) { r with handles := defaultHandles } := by
    unfold readRoot
    simp only [peek, kind, enough]
  have inside (kind : TokenKind) (other : kind ≠ .key ∧ kind ≠ .value ∧ kind ≠ .blockEnd) :
      kind ∉ [TokenKind.key, .value, .blockEnd] := by simp [other]
  have entry := handled.advance
  obtain ⟨m₁, key⟩ := entry.advance.readUnless_scalar true (fuel + ids.length + 10)
    (inside (.scalar "steps" .plain) (by simp))
  have colon := entry.advance.advance
  have block := colon.advance
  have items : Faces (flowKinds 1 ids ++ [.blockEnd, .blockEnd, .streamEnd]) _ := block.advance
  obtain ⟨nodes, s, items, made, last⟩ := items.readBlockItems_lines fuel
  obtain ⟨m₂, steps⟩ :
      ∃ m, readNode true true (fuel + ids.length + 10 + 1) _ = (.sequence nodes none m, .ok s) :=
    block.readNode_blockSequence items
  obtain ⟨m₃, read⟩ :
      ∃ m, readNode true false (fuel + ids.length + 10 + 4) _ = (.mapping _ none m, .ok _) :=
    handled.readNode_blockMapping fun start => entry.readBlockEntries_key (fun place => key place) colon
      (fun place => (block.readUnless (inside .blockSequenceStart (by decide))).trans steps)
      last.readBlockEntries_end
  exact ⟨m₁, m₂, m₃, nodes, _, root.trans read, made, last.advance⟩

end Yaml.Reader

theorem FlowNodes.unlinked {depth : Nat} {nodes : List Node} (made : FlowNodes n ids nodes) :
    ∀ node ∈ nodes, node.Unlinked (depth + 2) := by
  induction made with
  | nil => exact List.forall_mem_nil _
  | @cons k _ _ _ m₁ m₂ m₃ m₄ m₅ m₆ _ ih =>
    refine List.forall_mem_cons.mpr ⟨Node.unlinked_mapping ?_, ih⟩
    have options : Node.Unlinked (depth + 1) (.sequence [.scalar (flowOption k) .plain none m₄] none m₅) :=
      Node.unlinked_sequence (List.forall_mem_singleton.mpr Node.unlinked_scalar)
    exact List.forall_mem_cons.mpr ⟨⟨Node.unlinked_scalar, Node.unlinked_scalar⟩,
      List.forall_mem_singleton.mpr ⟨Node.unlinked_scalar, options⟩⟩

theorem document_flowScript (words : ∀ id ∈ ids, IsWord id.toList) (filled : ids ≠ []) :
    ∃ m₁ m₂ m₃ nodes, FlowNodes 1 ids nodes ∧ Yaml.Document.ofChars (flowScript ids).toList =
      ⟨.mapping [(.scalar "steps" .plain none m₁, .sequence nodes none m₂)] none m₃, none, false⟩ := by
  obtain ⟨ts, tokens, kinds⟩ := tokens_flowScript words filled
  have faces : Yaml.Reader.Faces (flowScriptKinds ids) ⟨ts.drop 1, none, [], []⟩ := by
    show (ts.drop 1).map (·.kind) = _
    rw [List.map_drop, kinds]
    rfl
  obtain ⟨m₁, m₂, m₃, nodes, r, root, made, last⟩ := faces.readRoot_lines
  have linked : Node.link (.mapping [(.scalar "steps" .plain none m₁, .sequence nodes none m₂)] none m₃) =
      .mapping [(.scalar "steps" .plain none m₁, .sequence nodes none m₂)] none m₃ :=
    Node.link_eq (Node.unlinked_mapping (List.forall_mem_singleton.mpr
      ⟨Node.unlinked_scalar, Node.unlinked_sequence made.unlinked⟩))
  refine ⟨m₁, m₂, m₃, nodes, made, ?_⟩
  obtain ⟨t, peek, kind⟩ := last.peek
  unfold Yaml.Document.ofChars
  simp only [tokens, root, peek, last.skipEnds (by decide), kind, linked]
  rfl

/-! ### The script -/

/-- The name of an option is a text, not another kind of scalar. -/
theorem resolvePlain_flowOption (n : Nat) :
    Yaml.Scalar.resolvePlain (flowOption n) = .string (flowOption n) := by
  have chars := toList_flowOption n
  have other (word : String) (begins : word.toList.head? ≠ some 'o') : flowOption n ≠ word := by
    rintro rfl
    rw [chars] at begins
    exact begins rfl
  have texts (words : List String) (begins : ∀ word ∈ words, word.toList.head? ≠ some 'o') :
      words.contains (flowOption n) = false := by
    rw [List.contains_eq_mem, decide_eq_false_iff_not]
    exact fun member => other _ (begins _ member) rfl
  have absent : Yaml.Scalar.isNull (flowOption n) = false := texts _ (by decide)
  have truth : Yaml.Scalar.bool? (flowOption n) = none := by
    unfold Yaml.Scalar.bool?
    rw [texts ["true", "True", "TRUE"] (by decide), texts ["false", "False", "FALSE"] (by decide)]
    rfl
  have whole : Yaml.Scalar.integer? ('o' :: Decimal.digits n) = none := rfl
  have same : String.ofList ('o' :: Decimal.digits n) = flowOption n := by rw [← chars, String.ofList_toList]
  have number : Yaml.Scalar.float? ('o' :: Decimal.digits n) = none := by
    have unsigned : Yaml.Scalar.float? ('o' :: Decimal.digits n) =
        if [".inf", ".Inf", ".INF"].contains (String.ofList ('o' :: Decimal.digits n)) then some (.infinite false)
        else if ["-.inf", "-.Inf", "-.INF"].contains (String.ofList ('o' :: Decimal.digits n)) then
          some (.infinite true)
        else if [".nan", ".NaN", ".NAN"].contains (String.ofList ('o' :: Decimal.digits n)) then some .notANumber
        else none := rfl
    rw [unsigned, same, texts [".inf", ".Inf", ".INF"] (by decide), texts ["-.inf", "-.Inf", "-.INF"] (by decide),
      texts [".nan", ".NaN", ".NAN"] (by decide)]
    rfl
  unfold Yaml.Scalar.resolvePlain
  rw [if_neg (by simp [absent, other ""]), truth, chars, whole, number]
  rfl

theorem readStep_line {n : Nat} {id : String} {m₁ m₂ m₃ m₄ m₅ m₆ : Mark} (path : Yaml.Path) :
    Script.readStep path (.mapping [(.scalar "id" .plain none m₁, .scalar id .plain none m₂),
      (.scalar "choice" .plain none m₃,
        .sequence [.scalar (flowOption n) .plain none m₄] none m₅)] none m₆) =
      .ok (flowStep n id) := by
  have value (path : Yaml.Path) (m : Mark) :
      Node.readValue path (.scalar (flowOption n) .plain none m) = .ok (.string (flowOption n)) := by
    simp only [Node.readValue, Node.withTag, Yaml.Scalar.ownTag?, Yaml.Scalar.resolve, resolvePlain_flowOption]
    rfl
  have options (path : Yaml.Path) : Node.readOptional (Node.readSequence Node.readValue) path
      (.sequence [.scalar (flowOption n) .plain none m₄] none m₅) = .ok (some [.string (flowOption n)]) := by
    simp only [Node.readOptional, Node.isAbsent, Node.target, Node.readSequence, Node.readItems, value]
    rfl
  simp [Script.readStep, Node.readRecord, Node.readEntries, Node.readFields, Node.readText, Node.readString,
    Node.target, Node.locate, options, Bind.bind, Except.bind, pure, Except.pure, Except.mapError]
  rfl

theorem FlowNodes.readItems {nodes : List Node} (made : FlowNodes n ids nodes) (path : Yaml.Path) (index : Nat) :
    Node.readItems Script.readStep path index nodes = .ok (flowSteps n ids) := by
  induction made generalizing index with
  | nil => rfl
  | cons m₁ m₂ m₃ m₄ m₅ m₆ _ ih =>
    unfold Node.readItems
    rw [readStep_line, ih]
    rfl

/-- A script of steps in flow style says what it looks like. -/
theorem read_flowScript (words : ∀ id ∈ ids, IsWord id.toList) (filled : ids ≠ []) :
    Script.ofText (flowScript ids) = .ok { steps := flowSteps 1 ids } := by
  obtain ⟨m₁, m₂, m₃, nodes, made, document⟩ := document_flowScript words filled
  have steps (path : Yaml.Path) : Node.readSequence Script.readStep path (.sequence nodes none m₂) =
      .ok (flowSteps 1 ids) := by
    simp only [Node.readSequence, Node.target, made.readItems]
    rfl
  have root :
      Script.read .root (.mapping [(.scalar "steps" .plain none m₁, .sequence nodes none m₂)] none m₃) =
        .ok { steps := flowSteps 1 ids } := by
    simp [Script.read, Node.readRecord, Node.readEntries, Node.readFields, Node.readText, Node.target, Node.locate,
      steps, Bind.bind, Except.bind, pure, Except.pure, Except.mapError]
  unfold Script.ofText Yaml.Document.read
  simp only [document, root]
  rfl

end Questionnaire
