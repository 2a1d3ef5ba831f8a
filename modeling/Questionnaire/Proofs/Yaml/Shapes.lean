import Questionnaire.Proofs.Yaml.Documents
import Questionnaire.Yaml.Shape
import Questionnaire.Yaml.Value

/-!
The marks of mismatches.

A reader of a node blames that node or one within it, so the mark of its error is a mark of the tree:
`Node.Heeds`. Readers that are put together of such readers are such readers.
-/

namespace Questionnaire.Yaml.Node

variable {α β σ : Type} {good : Mark → Prop} {kept : α → Prop} {m : Mark} {path : Path} {node : Node}
  {read : NodeReader α}

/-- A reader whose errors have marks that it found in the node. -/
def Heeds (good : Mark → Prop) (read : NodeReader α) : Prop :=
  ∀ (path : Path) (node : Node), node.At good → Marked good (read path node)

theorem at_target (h : node.At good) : node.target.At good := by
  fun_induction target node with
  | case1 node ih => exact ih h
  | case2 id node ih => exact ih h
  | case3 => exact h

theorem good_mark (origin : good .start) (h : node.At good) : good node.mark := by
  fun_induction mark node with
  | case1 | case4 => exact h
  | case2 | case3 => exact h.1
  | case5 _ node ih | case6 node ih => exact ih h
  | case7 e =>
    cases marked : e.mark? with
    | none => exact origin
    | some m => exact h m marked

theorem settles_mismatch {mismatch : Shape.Mismatch} (h : good m) :
    Settles (Error.At good) kept (Node.mismatch path m mismatch) :=
  Error.at_of_some rfl h

theorem settles_locate {r : Except Error α} (h : good m) (settles : Settles (Error.At good) kept r) :
    Settles (Error.At good) kept (locate path m r) := by
  cases r with
  | ok a => exact settles
  | error e =>
    cases e with
    | shape mismatch place =>
      cases place with
      | none => exact Error.at_of_some rfl h
      | some place => exact settles
    | _ => exact settles

theorem settles_unfit {expected : String} (h : node.At good) :
    Settles (Error.At good) kept (node.unfit expected path : Except Error α) := by
  fun_induction unfit (α := α) expected path node with
  | case1 => exact settles_mismatch h
  | case2 | case3 => exact settles_mismatch h.1
  | case4 _ node ih | case5 node ih => exact ih h
  | case6 => exact Error.at_repetitionLimit
  | case7 e => exact h

/-! ### Simple data -/

theorem heeds_readText (expected : String) : Heeds good (readText expected) := by
  intro path node h
  have target := at_target h
  unfold readText
  split
  · exact trivial
  · exact settles_unfit target

theorem heeds_readString : Heeds good readString := heeds_readText _

theorem settles_isAbsent (h : node.At good) :
    Marked good (isAbsent path node) := by
  have target := at_target h
  unfold isAbsent
  split
  · exact trivial
  · refine settles_ite (fun _ => ?_) fun _ => trivial
    exact settles_ite (fun _ => trivial) fun _ => Error.at_of_none rfl
  · rename_i e cut
    rw [cut] at target
    exact target
  · exact trivial

theorem Heeds.optional (heeds : Heeds good read) : Heeds good (readOptional read) := by
  intro path node h
  refine (settles_isAbsent h).bind fun _ _ => ?_
  exact settles_ite (fun _ => trivial) fun _ => (heeds path node h).bind fun _ _ => trivial

theorem Heeds.items (heeds : Heeds good read) {items : List Node} (h : ∀ item ∈ items, item.At good)
    (index : Nat) : Marked good (readItems read path index items) := by
  induction items generalizing index with
  | nil => exact trivial
  | cons item rest ih =>
    obtain ⟨here, later⟩ := List.forall_mem_cons.mp h
    refine (heeds (.item path index) item here).bind fun _ _ => ?_
    exact (ih later (index + 1)).bind fun _ _ => trivial

theorem Heeds.sequence (heeds : Heeds good read) : Heeds good (readSequence read) := by
  intro path node h
  have target := at_target h
  unfold readSequence
  split
  · rename_i items tag mark found
    rw [found] at target
    exact settles_locate target.1 (heeds.items (itemsAt_iff.mp target.2) 0)
  · exact trivial
  · exact settles_unfit target

theorem settles_readTagged {find : String → Mark → Except Error α} {found : String} {tag : Option String}
    (finds : ∀ name, Marked good (find name m)) (h : good m) :
    Marked good (readVariant.readTagged find found tag m path) := by
  unfold readVariant.readTagged
  split
  · exact settles_mismatch h
  · exact (finds _).bind fun _ _ => settles_mismatch h

theorem heeds_readVariant (known : List String) (ofName? : String → Option α) :
    Heeds good (readVariant known ofName?) := by
  intro path node h
  have target := at_target h
  unfold readVariant
  extract_lets find
  have finds {mark : Mark} (h : good mark) (name : String) :
      Marked good (find name mark) := by
    unfold find
    split
    · exact trivial
    · exact settles_mismatch h
  split
  · rename_i s style tag mark given
    rw [given] at target
    split
    · exact finds target s
    · refine (finds target _).bind fun a _ => ?_
      exact settles_ite (fun _ => trivial) fun _ => settles_mismatch target
  · rename_i given
    rw [given] at target
    exact settles_readTagged (finds target.1) target.1
  · rename_i given
    rw [given] at target
    exact settles_readTagged (finds target.1) target.1
  · exact settles_unfit target

theorem heeds_readAnswerType : Heeds good readAnswerType := heeds_readVariant _ _

/-! ### Mappings -/

theorem settles_readEntries {expected : String} (h : node.At good) :
    Settles (Error.At good) (fun r => EntriesAt good r.1 ∧ good r.2) (readEntries expected path node) := by
  have target := at_target h
  unfold readEntries
  split
  · rename_i entries tag mark found
    rw [found] at target
    exact ⟨target.2, target.1⟩
  · rename_i found
    rw [found] at target
    exact ⟨trivial, target⟩
  · exact settles_unfit target

section

variable (origin : good .start)
include origin

theorem settles_readFields {names seen : List String} {read : String → σ → NodeReader σ}
    (heeds : ∀ name record, Heeds good (read name record)) {record : σ} {entries : List (Node × Node)}
    (h : EntriesAt good entries) :
    Marked good (readFields names read path seen record entries) := by
  induction entries generalizing seen record with
  | nil => exact trivial
  | cons entry rest ih =>
    obtain ⟨key, value⟩ := entry
    obtain ⟨key, value, rest⟩ := h
    refine (heeds_readText "field identifier" path _ key).bind fun name _ => ?_
    refine settles_refuse (Error.at_of_some rfl (good_mark origin (at_target key))) fun _ => ?_
    have twice : (Error.shape (.duplicateField name) none).At good := Error.at_of_none rfl
    refine settles_ite (fun _ => twice) fun _ => ?_
    exact (heeds name record _ _ value).bind fun _ _ => ih rest

theorem heeds_readRecord {type : String} {names needed : List String} {start : σ}
    {read : String → σ → NodeReader σ} (heeds : ∀ name record, Heeds good (read name record)) :
    Heeds good (readRecord type names needed start read) := by
  intro path node h
  refine (settles_readEntries h).bind fun r ⟨entries, mark⟩ => settles_locate mark ?_
  refine (settles_readFields origin heeds entries).bind fun _ _ => ?_
  dsimp only
  split
  · rename_i name _
    have missing : (Error.shape (.missingField name) none).At good := Error.at_of_none rfl
    exact missing
  · exact trivial

end

theorem heeds_readDictionary {insert : String → α → List (String × α) → List (String × α)}
    (heeds : Heeds good read) : Heeds good (readDictionary insert read) := by
  intro path node h
  refine (settles_readEntries h).bind fun r ⟨entries, mark⟩ => settles_locate mark ?_
  generalize r.1 = given at entries ⊢
  generalize [] = done
  induction given generalizing done with
  | nil => exact trivial
  | cons entry rest ih =>
    obtain ⟨key, value, rest⟩ := entries
    rw [List.foldlM_cons]
    have inserted : Marked good (do
        let name ← readString path entry.1
        return insert name (← read (entryPath path entry.1) entry.2) done) := by
      refine (heeds_readString path _ key).bind fun name _ => ?_
      exact (heeds (entryPath path entry.1) _ value).bind fun _ _ => trivial
    exact inserted.bind fun done _ => ih rest done

/-! ### Values -/

theorem settles_scalarValue {r : Except Shape.Mismatch Resolved} (h : good m) :
    Marked good (scalarValue path m r) := by
  unfold scalarValue
  split
  all_goals first | exact trivial | exact settles_mismatch h

theorem settles_withTag {tag : Option String} {value : Except Error Value}
    (settles : Marked good value) :
    Marked good (withTag tag value) := by
  unfold withTag
  split
  · exact settles
  · exact settles.map fun _ _ => trivial

mutual

theorem settles_readValue (path : Path) (node : Node) (h : node.At good) :
    Marked good (readValue path node) := by
  cases node with
  | scalar s style tag mark => exact settles_withTag (settles_scalarValue h)
  | sequence items tag mark =>
    have items := settles_readValues path 0 h.2
    exact settles_withTag (settles_locate h.1 (items.map fun _ _ => trivial))
  | mapping entries tag mark =>
    have entries := settles_readValueEntries path [] h.2
    exact settles_withTag (settles_locate h.1 (entries.map fun _ _ => trivial))
  | anchored id node => exact settles_readValue path node h
  | linked node => exact settles_readValue path node h
  | reference id mark => exact Error.at_repetitionLimit
  | cut e => exact h

theorem settles_readValues (path : Path) (index : Nat) {items : List Node} (h : ItemsAt good items) :
    Marked good (readValues path index items) := by
  cases items with
  | nil => exact trivial
  | cons item rest =>
    have first := settles_readValue (.item path index) item h.1
    have others := settles_readValues path (index + 1) h.2
    unfold readValues
    split
    · rename_i refused
      exact first.of_error refused
    · exact others.map fun _ _ => trivial

theorem settles_readValueEntries (path : Path) (done : List (Value × Value))
    {entries : List (Node × Node)} (h : EntriesAt good entries) :
    Marked good (readValueEntries path done entries) := by
  cases entries with
  | nil => exact trivial
  | cons entry rest =>
    obtain ⟨key, value⟩ := entry
    have name := settles_readValue path key h.1
    have content := settles_readValue (entryPath path key) value h.2.1
    unfold readValueEntries
    split
    · rename_i refused
      exact name.of_error refused
    · split
      · exact Error.at_of_none rfl
      · split
        · rename_i refused
          exact content.of_error refused
        · exact settles_readValueEntries path _ h.2.2

end

theorem heeds_readValue : Heeds good readValue := settles_readValue

end Questionnaire.Yaml.Node
