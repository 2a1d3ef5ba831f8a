import Questionnaire.Proofs.Model.FlowSteps
import Questionnaire.Proofs.Source.Positions

/-!
Where the steps of a script of choices are found.

No line of such a script begins with an id, so every step is looked for as a word, from the end of the word
that was found for the step before it on. The first line behind that which holds the word is the line of the
step, unless the rest of the line before holds it too: `Places.lines_chain`. So the lines of the steps are their
own just if no id comes up in what is left of the line before it.
-/

namespace Questionnaire

open Text

variable {s : Source} {id : String} {ids : List String} {n : Nat} {before tail rest : List Char}

/-! ### Ids of letters -/

def isIdChar (c : Char) : Bool := c == '_' || c.isLower

/-- An id of small letters and underscores. -/
structure IsPlainId (id : String) : Prop where
  filled : id.toList ≠ []
  letters : ∀ c ∈ id.toList, isIdChar c = true

instance (id : String) : Decidable (IsPlainId id) :=
  decidable_of_iff ((!id.toList.isEmpty && id.toList.all isIdChar) = true) (by
    rw [Bool.and_eq_true, Bool.not_eq_true', List.isEmpty_eq_false_iff, List.all_eq_true]
    exact ⟨fun ⟨filled, letters⟩ => ⟨filled, letters⟩, fun plain => ⟨plain.filled, plain.letters⟩⟩)

namespace IsPlainId

theorem absent (plain : IsPlainId id) {c : Char} (other : isIdChar c = false) : c ∉ id.toList := by
  intro member
  rw [plain.letters c member] at other
  cases other

theorem toNat_bounds {c : Char} (letter : isIdChar c = true) : 95 ≤ c.toNat ∧ c.toNat ≤ 122 := by
  simp only [isIdChar, Bool.or_eq_true, beq_iff_eq] at letter
  rcases letter with rfl | lower
  · decide
  · have range := Yaml.toNat_of_isLower lower
    omega

theorem not_blank (plain : IsPlainId id) : isBlankText id = false := by
  obtain ⟨c, cs, whole⟩ := List.exists_cons_of_ne_nil plain.filled
  have bounds := toNat_bounds (plain.letters c (whole ▸ List.mem_cons_self))
  have solid : isBlank c = false := by
    simp only [isBlank, Bool.or_eq_false_iff, Bool.and_eq_false_iff, beq_eq_false_iff_ne, decide_eq_false_iff_not]
    omega
  rw [isBlankText, whole, List.all_cons, solid, Bool.false_and]

theorem isWord (plain : IsPlainId id) : Yaml.IsWord id.toList := by
  refine ⟨plain.filled, fun c member => ?_⟩
  have letter := plain.letters c member
  simp only [isIdChar, Bool.or_eq_true, beq_iff_eq] at letter
  rcases letter with rfl | lower
  · rfl
  · simp [Yaml.isWordChar, lower]

theorem eq_nil_of_infix_digits (plain : ∀ c ∈ rest, isIdChar c = true) (within : rest <:+: Decimal.digits n) :
    rest = [] := by
  refine List.eq_nil_iff_forall_not_mem.mpr fun c member => ?_
  have bounds := toNat_bounds (plain c member)
  have digit : c.isDigit = true := Decimal.isDigits_digits n c (within.mem member)
  have range := Yaml.toNat_of_isDigit digit
  omega

end IsPlainId

/-! ### Lines -/

/-- What stands before the id of a step on its line. -/
def flowLead : List Char := [' ', ' ', '-', ' ', '\x7b', ' ', 'i', 'd', ':', ' ']

/-- What stands behind it. -/
def flowChoice (number : Nat) : List Char :=
  [',', ' ', 'c', 'h', 'o', 'i', 'c', 'e', ':', ' ', '['] ++ ('o' :: Decimal.digits number ++ [']', ' ', '\x7d'])

theorem flowRest_cons : flowRest n (id :: ids) =
    '\n' :: (flowLead ++ (id.toList ++ (flowChoice n ++ flowRest (n + 1) ids))) := by
  simp [flowRest, flowLead, flowChoice]

/-- What is left between an id that was found in the key and the end of the id itself. -/
def behindKey (id : String) : List Char :=
  if id = "i" then ['d', ':', ' ', 'i']
  else if id = "d" then [':', ' ', 'd']
  else if id = "id" then [':', ' ', 'i', 'd']
  else []

/-- What is left of the line of a step behind the place where its id comes up first. -/
def flowTail (number : Nat) (id : String) : List Char := behindKey id ++ flowChoice number

theorem newline_not_mem_flowChoice (n : Nat) : '\n' ∉ flowChoice n := by
  have digits : '\n' ∉ Decimal.digits n := fun member => by cases Decimal.isDigits_digits n _ member
  simp [flowChoice, digits]

theorem newline_not_mem_flowTail (n : Nat) (id : String) : '\n' ∉ flowTail n id := by
  have key : '\n' ∉ behindKey id := by
    unfold behindKey
    split_ifs <;> decide
  rw [flowTail, List.mem_append, not_or]
  exact ⟨key, newline_not_mem_flowChoice n⟩

/-- No line begins with the id of a step. -/
theorem no_id_flowRest (plain : ∀ id ∈ ids, IsPlainId id) {first : List Char} (solid : '\n' ∉ first)
    (unmarked : strip? ['i', 'd', ':'] (Source.skipDashes first) = none) :
    ∀ line ∈ splitAll '\n' (first ++ flowRest n ids),
      strip? ['i', 'd', ':'] (Source.skipDashes line) = none := by
  induction ids generalizing n first with
  | nil =>
    rw [flowRest, splitAll_append solid]
    exact List.forall_mem_cons.mpr ⟨unmarked, List.forall_mem_singleton.mpr rfl⟩
  | cons id ids ih =>
    obtain ⟨here, others⟩ := List.forall_mem_cons.mp plain
    rw [flowRest_cons, splitAll_append solid]
    refine List.forall_mem_cons.mpr ⟨unmarked, ?_⟩
    have whole : flowLead ++ (id.toList ++ (flowChoice n ++ flowRest (n + 1) ids)) =
        flowLead ++ (id.toList ++ flowChoice n) ++ flowRest (n + 1) ids := by simp only [List.append_assoc]
    rw [whole]
    refine ih others ?_ rfl
    simp only [List.mem_append, not_or]
    exact ⟨by decide, here.absent rfl, newline_not_mem_flowChoice n⟩

/-! ### Words on a line -/

namespace IsPlainId

theorem infix_flowChoice (plain : IsPlainId id) :
    id.toList <:+: flowChoice n ↔ id.toList <:+: "choice".toList := by
  have apart : flowChoice n = [] ++ ',' :: ([] ++ ' ' :: ("choice".toList ++ ':' :: ([] ++ ' ' ::
      ([] ++ '[' :: ('o' :: Decimal.digits n ++ ']' :: ([] ++ ' ' :: ([] ++ '\x7d' :: []))))))) := rfl
  have option (within : id.toList <:+: 'o' :: Decimal.digits n) : id.toList <:+: "choice".toList := by
    rcases List.infix_cons_iff.mp within with begins | later
    · obtain ⟨c, cs, whole⟩ := List.exists_cons_of_ne_nil plain.filled
      have letters := plain.letters
      rw [whole] at begins letters ⊢
      obtain ⟨rfl, digits⟩ := List.cons_prefix_cons.mp begins
      obtain rfl := eq_nil_of_infix_digits (List.forall_mem_cons.mp letters).2 digits.isInfix
      decide
    · exact absurd (eq_nil_of_infix_digits plain.letters later) plain.filled
  rw [apart]
  simp only [infix_append_cons (plain.absent (c := ',') rfl), infix_append_cons (plain.absent (c := ' ') rfl),
    infix_append_cons (plain.absent (c := ':') rfl), infix_append_cons (plain.absent (c := '[') rfl),
    infix_append_cons (plain.absent (c := ']') rfl), infix_append_cons (plain.absent (c := '\x7d') rfl),
    List.infix_nil, plain.filled, false_or, or_false]
  exact or_iff_left_of_imp option

theorem infix_letter (plain : IsPlainId id) {c : Char} : id.toList <:+: [c] ↔ id.toList = [c] := by
  rw [List.infix_singleton_iff, or_iff_right plain.filled]

theorem infix_key (plain : IsPlainId id) : id.toList <:+: ['i', 'd'] ↔ id = "i" ∨ id = "d" ∨ id = "id" := by
  have text (word : String) : id = word ↔ id.toList = word.toList := String.toList_inj.symm
  rw [text, text, text]
  simp only [List.infix_cons_iff, List.prefix_cons_iff, List.infix_nil, List.prefix_nil, plain.filled, false_or,
    or_false, and_or_left, exists_or, exists_eq_right, ↓existsAndEq, and_true]
  rw [or_right_comm, or_assoc]
  rfl

theorem infix_flowLead (plain : IsPlainId id) :
    id.toList <:+: flowLead ↔ id = "i" ∨ id = "d" ∨ id = "id" := by
  have apart : flowLead = [] ++ ' ' :: ([] ++ ' ' :: ([] ++ '-' :: ([] ++ ' ' :: ([] ++ '\x7b' :: ([] ++ ' ' ::
      (['i', 'd'] ++ ':' :: ([] ++ ' ' :: []))))))) := rfl
  rw [apart, ← plain.infix_key]
  simp only [infix_append_cons (plain.absent (c := ' ') rfl), infix_append_cons (plain.absent (c := '-') rfl),
    infix_append_cons (plain.absent (c := '\x7b') rfl), infix_append_cons (plain.absent (c := ':') rfl),
    List.infix_nil, plain.filled, false_or, or_false]

/-- On its own line an id is found, in the key or behind it. -/
theorem splitAt?_flowLead (plain : IsPlainId id) (rest : List Char) :
    ∃ first, splitAt? id.toList (flowLead ++ (id.toList ++ rest)) = some (first, behindKey id ++ rest) ∧
      '\n' ∉ first := by
  by_cases key : id.toList <:+: flowLead
  · rcases plain.infix_flowLead.mp key with rfl | rfl | rfl
    · exact ⟨[' ', ' ', '-', ' ', '\x7b', ' '], rfl, by decide⟩
    · exact ⟨[' ', ' ', '-', ' ', '\x7b', ' ', 'i'], rfl, by decide⟩
    · exact ⟨[' ', ' ', '-', ' ', '\x7b', ' '], rfl, by decide⟩
  · refine ⟨flowLead, ?_, by decide⟩
    have lead (cs : List Char) : flowLead ++ cs = "  - \x7b id:".toList ++ ' ' :: cs := rfl
    have before : ¬ id.toList <:+: "  - \x7b id:".toList := fun within =>
      key (within.trans (List.prefix_append _ [' ']).isInfix)
    have nothing : behindKey id = [] := by
      rw [plain.infix_flowLead, not_or, not_or] at key
      rw [behindKey, if_neg key.1, if_neg key.2.1, if_neg key.2.2]
    rw [lead, splitAt?_append_cons (plain.absent rfl) before, splitAt?_self, nothing]
    rfl

/-- Behind the line of another step it is found on its own line, unless it comes up in the rest of that
line. -/
theorem splitAt?_flowRest (plain : IsPlainId id) (solid : '\n' ∉ tail) (apart : ¬ id.toList <:+: tail) :
    ∃ first, splitAt? id.toList (tail ++ flowRest n (id :: ids)) =
      some (first, flowTail n id ++ flowRest (n + 1) ids) ∧ first.count '\n' = 1 := by
  obtain ⟨first, found, single⟩ := plain.splitAt?_flowLead (flowChoice n ++ flowRest (n + 1) ids)
  refine ⟨tail ++ '\n' :: first, ?_, ?_⟩
  · rw [flowRest_cons, splitAt?_append_cons (plain.absent rfl) apart, found, flowTail, List.append_assoc]
    rfl
  · rw [List.count_append, List.count_cons_self, List.count_eq_zero.mpr solid, List.count_eq_zero.mpr single]

end IsPlainId

/-- The rest of the line of the first step, behind the place that was found for it, has the id of the
second. -/
def FlowHides (a b : String) : Prop := b.toList <:+: "choice".toList ∨ b = "d" ∧ (a = "i" ∨ a = "id")

instance (a b : String) : Decidable (FlowHides a b) := by unfold FlowHides; infer_instance

theorem IsPlainId.infix_behindKey {a b : String} (plain : IsPlainId b) (other : b ≠ a)
    (within : b.toList <:+: behindKey a) : FlowHides a b := by
  have colon : ':' ∉ b.toList := plain.absent rfl
  have blank : ' ' ∉ b.toList := plain.absent rfl
  have text (word : String) : b.toList = word.toList ↔ b = word := String.toList_inj
  unfold behindKey at within
  split_ifs at within with i d key
  · have apart : ['d', ':', ' ', 'i'] = ['d'] ++ ':' :: ([] ++ ' ' :: ['i']) := rfl
    rw [apart, infix_append_cons colon, infix_append_cons blank, plain.infix_letter, List.infix_nil,
      plain.infix_letter] at within
    rcases within with same | nothing | same
    · exact .inr ⟨(text "d").mp same, .inl i⟩
    · exact absurd nothing plain.filled
    · exact absurd (((text "i").mp same).trans i.symm) other
  · have apart : [':', ' ', 'd'] = [] ++ ':' :: ([] ++ ' ' :: ['d']) := rfl
    rw [apart, infix_append_cons colon, infix_append_cons blank, List.infix_nil, plain.infix_letter] at within
    rcases within with nothing | nothing | same
    · exact absurd nothing plain.filled
    · exact absurd nothing plain.filled
    · exact absurd (((text "d").mp same).trans d.symm) other
  · have apart : [':', ' ', 'i', 'd'] = [] ++ ':' :: ([] ++ ' ' :: ['i', 'd']) := rfl
    rw [apart, infix_append_cons colon, infix_append_cons blank, List.infix_nil, plain.infix_key] at within
    rcases within with nothing | nothing | rfl | rfl | rfl
    · exact absurd nothing plain.filled
    · exact absurd nothing plain.filled
    · exact .inl (by decide)
    · exact .inr ⟨rfl, .inr key⟩
    · exact absurd key.symm other
  · exact absurd (List.infix_nil.mp within) plain.filled

theorem IsPlainId.infix_flowTail {a b : String} (plain : IsPlainId b) (other : b ≠ a) :
    b.toList <:+: flowTail n a ↔ FlowHides a b := by
  have text (word : String) : b = word ↔ b.toList = word.toList := String.toList_inj.symm
  have parts : b.toList <:+: flowTail n a ↔ b.toList <:+: behindKey a ∨ b.toList <:+: "choice".toList := by
    have rest := plain.infix_flowChoice (n := n)
    rw [← List.nil_append (flowChoice n)] at rest
    unfold flowTail
    unfold flowChoice at rest ⊢
    simp only [List.cons_append, infix_append_cons (plain.absent (c := ',') rfl), List.infix_nil, plain.filled,
      false_or] at rest ⊢
    rw [rest]
  rw [parts]
  constructor
  · rintro (key | word)
    · exact plain.infix_behindKey other key
    · exact .inl word
  · rintro (word | ⟨rfl, rfl | rfl⟩)
    · exact .inr word
    · exact .inl (by decide)
    · exact .inl (by decide)

namespace Places

variable {a : String}

theorem locateAll_cons {place start : Nat} (plain : IsPlainId id) (unmarked : s.locate? "id" id start = none)
    (found : s.find? id start = some place) :
    locateAll s start (id :: ids) = place :: locateAll s (place + byteLength id.toList) ids := by
  have filled : byteLength id.toList ≠ 0 := fun nothing => plain.filled (byteLength_eq_zero.mp nothing)
  have size : max 1 id.utf8ByteSize = byteLength id.toList := by
    rw [← byteLength_toList]
    omega
  rw [locateAll, unmarked, found, size]
  rfl

/-- A step whose id comes up in the rest of the line of another is found there. -/
theorem line_hidden (plain : IsPlainId id) (unmarked : ∀ start, s.locate? "id" id start = none)
    (solid : '\n' ∉ tail) (whole : s.chars = before ++ (tail ++ rest)) (within : id.toList <:+: tail)
    (ids : List String) :
    ∃ place next, locateAll s (byteLength before) (id :: ids) = place :: locateAll s next ids ∧
      (s.position place).line = before.count '\n' + 1 := by
  obtain ⟨first, after, cut, early⟩ := exists_splitAt?_of_infix within rest
  have found : s.find? id (byteLength before) = some (byteLength (before ++ first)) := by
    rw [Source.find?_between whole, cut]
    rfl
  have same : s.chars = (before ++ first) ++ (id.toList ++ after) := by
    rw [whole, splitAt?_eq_some cut]
    simp only [List.append_assoc]
  have here : first.count '\n' = 0 := List.count_eq_zero.mpr fun member => solid (early.mem member)
  refine ⟨_, _, locateAll_cons plain (unmarked _) found, ?_⟩
  rw [Source.position_line same, List.count_append, here]

/-- Any other step is found on the line behind it. -/
theorem line_open (plain : IsPlainId id) (unmarked : ∀ start, s.locate? "id" id start = none)
    (solid : '\n' ∉ tail) (whole : s.chars = before ++ (tail ++ flowRest n (id :: ids)))
    (apart : ¬ id.toList <:+: tail) :
    ∃ place passed,
      locateAll s (byteLength before) (id :: ids) = place :: locateAll s (byteLength passed) ids ∧
      (s.position place).line = before.count '\n' + 2 ∧ passed.count '\n' = before.count '\n' + 1 ∧
      s.chars = passed ++ (flowTail n id ++ flowRest (n + 1) ids) := by
  obtain ⟨first, cut, single⟩ := plain.splitAt?_flowRest solid apart
  have found : s.find? id (byteLength before) = some (byteLength (before ++ first)) := by
    rw [Source.find?_between whole, cut]
    rfl
  have same : s.chars = (before ++ first) ++ (id.toList ++ (flowTail n id ++ flowRest (n + 1) ids)) := by
    rw [whole, splitAt?_eq_some cut]
    simp only [List.append_assoc]
  have breaks : (before ++ first).count '\n' = before.count '\n' + 1 := by rw [List.count_append, single]
  refine ⟨byteLength (before ++ first), before ++ first ++ id.toList, ?_, ?_, ?_, ?_⟩
  · rw [locateAll_cons plain (unmarked _) found, byteLength_append _ id.toList]
  · rw [Source.position_line same, breaks]
  · rw [List.count_append, breaks, List.count_eq_zero.mpr (plain.absent rfl)]
  · rw [same, List.append_assoc _ id.toList]

def lines (s : Source) (start : Nat) (ids : List String) : List Nat :=
  (locateAll s start ids).map fun place => (s.position place).line

/-- A step is found on its own line just if its id does not come up in the rest of the line before. -/
theorem lines_cons {later : Prop} (plain : IsPlainId id) (unmarked : ∀ id start, s.locate? "id" id start = none)
    (solid : '\n' ∉ tail) (whole : s.chars = before ++ (tail ++ flowRest n (id :: ids)))
    (ih : ∀ passed, s.chars = passed ++ (flowTail n id ++ flowRest (n + 1) ids) →
      (lines s (byteLength passed) ids = List.range' (passed.count '\n' + 2) ids.length ↔ later)) :
    lines s (byteLength before) (id :: ids) = List.range' (before.count '\n' + 2) (ids.length + 1) ↔
      ¬ id.toList <:+: tail ∧ later := by
  rw [List.range'_succ]
  by_cases within : id.toList <:+: tail
  · -- Where the search goes on from a place that is too early does not matter: one line is wrong already.
    obtain ⟨place, next, found, line⟩ := line_hidden plain (unmarked id) solid whole within ids
    rw [lines, found, List.map_cons, line]
    refine iff_of_false (fun same => ?_) fun apart => apart.1 within
    have equal := (List.cons.inj same).1
    omega
  · obtain ⟨place, passed, found, line, breaks, left⟩ := line_open plain (unmarked id) solid whole within
    have rest := ih passed left
    rw [breaks, lines] at rest
    rw [lines, found, List.map_cons, line, List.cons_inj_right, rest, and_iff_right within]

/-- So the steps behind a step are found on their own lines just if no line hides the id of the next. -/
theorem lines_chain (plain : ∀ b ∈ ids, IsPlainId b) (unmarked : ∀ id start, s.locate? "id" id start = none)
    (distinct : (a :: ids).Nodup) (whole : s.chars = before ++ (flowTail n a ++ flowRest (n + 1) ids)) :
    lines s (byteLength before) ids = List.range' (before.count '\n' + 2) ids.length ↔
      (a :: ids).IsChain fun a b => ¬ FlowHides a b := by
  induction ids generalizing a n before with
  | nil => exact iff_of_true rfl (.singleton a)
  | cons b ids ih =>
    obtain ⟨here, others⟩ := List.forall_mem_cons.mp plain
    obtain ⟨fresh, distinct⟩ := List.nodup_cons.mp distinct
    have other : b ≠ a := fun same => fresh (same ▸ List.mem_cons_self)
    rw [List.isChain_cons_cons, ← here.infix_flowTail other]
    exact lines_cons here unmarked (newline_not_mem_flowTail n a) whole fun passed left => ih others distinct left

theorem length_locateAll (s : Source) (start : Nat) (ids : List String) :
    (locateAll s start ids).length = ids.length := by
  induction ids generalizing start with
  | nil => rfl
  | cons id ids ih => exact congrArg (· + 1) (ih _)

end Places

theorem lines_flowBuilt {places : Places} {total : Nat} {done left : List Nat} (cut : places.steps = done ++ left)
    (enough : left.length = ids.length) : (flowBuilt places total done.length ids).map (·.range.start.line) =
      left.map fun place => (places.source.position place).line := by
  induction ids generalizing done left with
  | nil => rw [List.length_eq_zero_iff.mp enough, flowBuilt, List.map_nil, List.map_nil]
  | cons id ids ih =>
    obtain ⟨place, left, rfl⟩ := List.exists_cons_of_length_eq_add_one enough
    have here : places.offset done.length = place := by simp [Places.offset, cut]
    have behind : places.steps = (done ++ [place]) ++ left := by rw [cut, List.append_assoc, List.singleton_append]
    have later := ih behind (Nat.succ.inj enough)
    rw [List.length_append] at later
    rw [flowBuilt, List.map_cons, List.map_cons]
    refine List.cons_eq_cons.mpr ⟨?_, later⟩
    rw [Places.line, here]
    rfl

theorem length_flowBuilt {places : Places} {total index : Nat} :
    (flowBuilt places total index ids).length = ids.length := by
  induction ids generalizing index with
  | nil => rfl
  | cons id ids ih => exact congrArg (· + 1) ih

theorem ids_flowBuilt {places : Places} {total index : Nat} :
    (flowBuilt places total index ids).map (·.id) = ids := by
  induction ids generalizing index with
  | nil => rfl
  | cons id ids ih => exact congrArg (id :: ·) ih

/-! ### The script -/

theorem chars_flowScript (ids : List String) :
    (Source.ofText (flowScript ids)).chars = ['s', 't', 'e', 'p', 's', ':'] ++ flowRest 1 ids :=
  toList_flowScript ids

theorem locate?_flowScript (plain : ∀ id ∈ ids, IsPlainId id) (id : String) (start : Nat) :
    (Source.ofText (flowScript ids)).locate? "id" id start = none := by
  refine Source.locate?_eq_none ?_
  rw [chars_flowScript]
  exact no_id_flowRest plain (by decide) rfl

theorem find?_flowScript (ids : List String) : (Source.ofText (flowScript ids)).find? "steps:" 0 = some 0 := by
  have whole := chars_flowScript ids
  rw [← List.nil_append (_ ++ flowRest 1 ids)] at whole
  have found : (Source.ofText (flowScript ids)).find? "steps:" 0 = _ := Source.find?_between whole
  rw [show "steps:".toList = ['s', 't', 'e', 'p', 's', ':'] from rfl, splitAt?_self] at found
  exact found

theorem lines_flowScript (plain : ∀ id ∈ ids, IsPlainId id) (distinct : ids.Nodup) :
    Places.lines (.ofText (flowScript ids)) 0 ids = List.range' 2 ids.length ↔
      (∀ id ∈ ids.head?, ¬ id.toList <:+: "steps".toList) ∧ ids.IsChain fun a b => ¬ FlowHides a b := by
  have unmarked := locate?_flowScript plain
  have whole := chars_flowScript ids
  rw [← List.nil_append (_ ++ flowRest 1 ids)] at whole
  generalize Source.ofText (flowScript ids) = s at unmarked whole ⊢
  cases ids with
  | nil => exact iff_of_true rfl ⟨nofun, .nil⟩
  | cons id ids =>
    obtain ⟨here, others⟩ := List.forall_mem_cons.mp plain
    have title : id.toList <:+: ['s', 't', 'e', 'p', 's', ':'] ↔ id.toList <:+: "steps".toList := by
      have parts : ['s', 't', 'e', 'p', 's', ':'] = "steps".toList ++ ':' :: [] := rfl
      rw [parts, infix_append_cons (here.absent rfl), List.infix_nil, or_iff_left here.filled]
    have first := Places.lines_cons here unmarked (by decide) whole fun passed left =>
      Places.lines_chain others unmarked distinct left
    rw [title] at first
    simpa using first

theorem lines_flowSteps (total : Nat) :
    (flowBuilt (.ofSteps (.ofText (flowScript ids)) (flowSteps 1 ids)) total 0 ids).map (·.range.start.line) =
      Places.lines (.ofText (flowScript ids)) 0 ids := by
  have places : (Places.ofSteps (.ofText (flowScript ids)) (flowSteps 1 ids)).steps =
      [] ++ Places.locateAll (.ofText (flowScript ids)) 0 ids := by
    rw [Places.ofSteps, find?_flowScript, ids_flowSteps]
    rfl
  exact lines_flowBuilt places (Places.length_locateAll _ _ _)

theorem lines_iff {steps : List Step} : steps.map (·.range.start.line) = List.range' 2 steps.length ↔
    ∀ k step, steps[k]? = some step → step.range.start.line = k + 2 := by
  simp [List.ext_getElem_iff, List.getElem?_eq_some_iff, Nat.add_comm]

/-- The steps of a script of choices, one on each line, are found on their own lines just if no id comes up
earlier: in the word `steps` for the first of them, and for each other one in what is left of the line before
it, that is in the word `choice` or in the rest of a key `id` that was taken for the id of that line. -/
theorem Model.flow_steps_placed_iff (filled : ids ≠ []) (plain : ∀ id ∈ ids, IsPlainId id)
    (distinct : ids.Nodup) (free : ∀ id ∈ ids, id ≠ "next" ∧ id ≠ "end") :
    ∃ m, Model.ofText (flowScript ids) = .ok m ∧ m.steps.map (·.id) = ids ∧
      ((∀ k step, m.steps[k]? = some step → step.range.start.line = k + 2) ↔
        (∀ id ∈ ids.head?, ¬ id.toList <:+: "steps".toList) ∧ ids.IsChain fun a b => ¬ FlowHides a b) := by
  have proper : ∀ id ∈ ids, isBlankText id = false ∧ id ∉ reservedIds := fun id member =>
    ⟨(plain id member).not_blank, by simp [reservedIds, free id member]⟩
  obtain ⟨m, compiled, steps⟩ := Model.ofScript_flowSteps (.ofText (flowScript ids)) filled distinct proper
  have read := read_flowScript (fun id member => (plain id member).isWord) filled
  refine ⟨m, ?_, ?_, ?_⟩
  · unfold Model.ofText
    simp only [read]
    exact compiled
  · rw [steps, ids_flowBuilt]
  · rw [← lines_flowScript plain distinct, steps]
    rw [← lines_iff, lines_flowSteps, length_flowBuilt]

/-- Two ids are found in the key of their own line, and each step on its own line all the same. -/
theorem Model.flow_steps_placed_short : ∃ m, Model.ofText (flowScript ["i", "dag", "id", "soort"]) = .ok m ∧
    m.steps.map (·.id) = ["i", "dag", "id", "soort"] ∧
    ∀ k step, m.steps[k]? = some step → step.range.start.line = k + 2 := by
  have plain : ∀ id ∈ ["i", "dag", "id", "soort"], IsPlainId id := by decide
  obtain ⟨m, compiled, named, placed⟩ := Model.flow_steps_placed_iff (by decide) plain (by decide) (by decide)
  exact ⟨m, compiled, named, placed.mpr ⟨by decide, by decide⟩⟩

/-- The id `c` is found in the word `choice` on the line of `a`. -/
theorem Model.id_found_in_keyword : (∀ id ∈ ["a", "c"], IsPlainId id) ∧
    ∃ m, Model.ofText (flowScript ["a", "c"]) = .ok m ∧ m.steps.map (·.id) = ["a", "c"] ∧
      m.steps.map (·.range.start) = [⟨2, 11, 17⟩, ⟨2, 14, 20⟩] := by
  have written : flowScript ["a", "c"] =
      String.ofList (['s', 't', 'e', 'p', 's', ':'] ++ flowRest 1 ["a", "c"]) := by
    rw [← toList_flowScript, String.ofList_toList]
  obtain ⟨m, made, same⟩ : ∃ m,
      Model.ofChars (['s', 't', 'e', 'p', 's', ':'] ++ flowRest 1 ["a", "c"]) = .ok m ∧
      (m.steps.map (·.id), m.steps.map (·.range.start)) = (["a", "c"], [⟨2, 11, 17⟩, ⟨2, 14, 20⟩]) :=
    ok_of_map_toOption (by decide +kernel)
  exact ⟨by decide, m, (Model.ofText_eq written).trans made, congrArg Prod.fst same, congrArg Prod.snd same⟩

end Questionnaire
