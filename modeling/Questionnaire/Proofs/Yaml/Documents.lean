import Questionnaire.Proofs.Yaml.Tokens
import Questionnaire.Yaml.Document

/-!
The marks of a document are marks of its tokens.

Nodes take their marks from the tokens they begin with, and so do the errors that end a document early.
Following references adds no mark of its own. What holds of the marks of the tokens therefore holds of every
mark in the tree: `Document.at_ofChars`.
-/

namespace Questionnaire.Yaml

variable {good : Mark → Prop} {m : Mark} {e : Error}

/-- An error without a mark, or with a good one. -/
def Error.At (good : Mark → Prop) (e : Error) : Prop := ∀ m ∈ e.mark?, good m

theorem Error.at_of_some (marked : e.mark? = some m) (h : good m) : e.At good := by
  rw [At, marked]
  exact forall_mem_some.mpr h

theorem Error.at_of_none (unmarked : e.mark? = none) : e.At good := by
  rw [At, unmarked]
  exact forall_mem_none

theorem Error.at_repetitionLimit : Error.repetitionLimit.At good := at_of_none rfl

/-- What is read of a node or a token, if an error has a good mark or none. -/
abbrev Marked {α : Type} (good : Mark → Prop) (read : Except Error α) : Prop :=
  Settles (Error.At good) (fun _ => True) read

namespace Node

mutual

/-- A node whose marks are good, and those of whatever is in it. -/
def At (good : Mark → Prop) : Node → Prop
  | scalar _ _ _ mark => good mark
  | sequence items _ mark => good mark ∧ ItemsAt good items
  | mapping entries _ mark => good mark ∧ EntriesAt good entries
  | anchored _ node => At good node
  | reference _ mark => good mark
  | linked node => At good node
  | cut e => e.At good

def ItemsAt (good : Mark → Prop) : List Node → Prop
  | [] => True
  | item :: rest => At good item ∧ ItemsAt good rest

def EntriesAt (good : Mark → Prop) : List (Node × Node) → Prop
  | [] => True
  | (key, value) :: rest => At good key ∧ At good value ∧ EntriesAt good rest

end

end Node

namespace Reader

open Node (At ItemsAt EntriesAt)

/-- A reader of tokens with good marks. -/
structure Holds (good : Mark → Prop) (r : Reader) : Prop where
  tokens : ∀ t ∈ r.tokens, good t.start ∧ good t.stop
  failure : ∀ e ∈ r.failure, good e.mark

/-- Where reading goes on, or why it does not. -/
abbrev GoesOn (good : Mark → Prop) (next : Except Error Reader) : Prop :=
  Settles (Error.At good) (Holds good) next

variable {r : Reader} {t : Token} {problem : Problem} {context : Context} {since : Mark} {fuel : Nat}

theorem holds_advance (holds : r.Holds good) : r.advance.Holds good where
  tokens t member := holds.tokens t (List.mem_of_mem_tail member)
  failure := holds.failure

theorem holds_register {anchor : Option String} (holds : r.Holds good) : (r.register anchor).2.Holds good := by
  cases anchor with
  | none => exact holds
  | some name => exact ⟨holds.tokens, holds.failure⟩

theorem at_unexpected (h : good t.start) : (unexpected problem t context since).At good :=
  Error.at_of_some rfl h

theorem settles_resolveTag {p : Properties} (tagged : ∀ tag ∈ p.tag, good tag.2.2) :
    Marked good (r.resolveTag p) := by
  unfold resolveTag
  split
  · exact trivial
  · rename_i handle suffix mark given
    split
    · exact trivial
    · split
      · exact trivial
      · exact Error.at_of_some rfl (tagged _ given)

theorem at_mark {id : Option Nat} {node : Node} (h : node.At good) : (mark id node).At good := by
  cases id with
  | none => exact h
  | some id => exact h

section

variable (origin : good .start)
include origin

theorem settles_peek (holds : r.Holds good) :
    Settles (Error.At good) (fun t => good t.start ∧ good t.stop) r.peek := by
  unfold peek
  split
  · rename_i t others given
    exact holds.tokens t (by rw [given]; exact List.mem_cons_self)
  · rename_i e _ given
    exact Error.at_of_some rfl (holds.failure e given)
  · exact ⟨origin, origin⟩

theorem settles_readProperties (holds : r.Holds good) :
    Settles (Error.At good) (fun p => good p.1.start ∧ (∀ tag ∈ p.1.tag, good tag.2.2) ∧ p.2.Holds good)
      r.readProperties := by
  have next := holds_advance holds
  refine (settles_peek origin holds).bind fun t ⟨start, _⟩ => ?_
  split
  · refine (settles_peek origin next).bind fun u ⟨tagged, _⟩ => ?_
    split
    · exact ⟨start, forall_mem_some.mpr tagged, holds_advance next⟩
    · exact ⟨start, forall_mem_none, next⟩
  · refine (settles_peek origin next).bind fun u _ => ?_
    split
    · exact ⟨start, forall_mem_some.mpr start, holds_advance next⟩
    · exact ⟨start, forall_mem_some.mpr start, next⟩
  · exact ⟨start, forall_mem_none, holds⟩

theorem settles_opening (holds : r.Holds good) :
    Settles (Error.At good)
      (fun x => good x.1.start ∧ good x.2.2.1.start ∧ good x.2.2.1.stop ∧ x.2.2.2.Holds good)
      (do
        let (p, r) ← r.readProperties
        let t ← r.peek
        return (p, ← r.resolveTag p, t, r)) := by
  refine (settles_readProperties origin holds).bind fun x ⟨start, tagged, holds⟩ => ?_
  refine (settles_peek origin holds).bind fun t marked => ?_
  exact (settles_resolveTag tagged).bind fun _ _ => ⟨start, marked.1, marked.2, holds⟩

end

/-! ### Nodes -/

/-- What is read, and where reading goes on. -/
def Yields {α : Type} (marked : α → Prop) (good : Mark → Prop) (r : α × Except Error Reader) : Prop :=
  marked r.1 ∧ GoesOn good r.2

/-- Whatever is read in so many rounds has good marks. -/
structure Reads (good : Mark → Prop) (fuel : Nat) : Prop where
  node (block indentless : Bool) {r : Reader} (holds : r.Holds good) :
    Yields (At good) good (readNode block indentless fuel r)
  optional (block : Bool) (stops : List TokenKind) (place : Option Mark) (placed : ∀ m ∈ place, good m)
    {r : Reader} (holds : r.Holds good) : Yields (At good) good (readUnless block stops place fuel r)
  blockItems (start : Mark) {r : Reader} (holds : r.Holds good) :
    Yields (ItemsAt good) good (readBlockItems start fuel r)
  indentlessItems {r : Reader} (holds : r.Holds good) :
    Yields (ItemsAt good) good (readIndentlessItems fuel r)
  blockEntries (start : Mark) {r : Reader} (holds : r.Holds good) :
    Yields (EntriesAt good) good (readBlockEntries start fuel r)
  flowValue (stops : List TokenKind) {r : Reader} (holds : r.Holds good) :
    Yields (At good) good (readFlowValue stops fuel r)
  flowItems (start : Mark) (first : Bool) {r : Reader} (holds : r.Holds good) :
    Yields (ItemsAt good) good (readFlowItems start first fuel r)
  flowEntries (start : Mark) (first : Bool) {r : Reader} (holds : r.Holds good) :
    Yields (EntriesAt good) good (readFlowEntries start first fuel r)

theorem yields_ends (h : e.At good) : Yields (At good) good (ends e) := ⟨h, h⟩

theorem reads_zero (good : Mark → Prop) : Reads good 0 := by
  have ended : Error.repetitionLimit.At good := Error.at_repetitionLimit
  exact {
    node := fun _ _ _ _ => ⟨ended, ended⟩
    optional := fun _ _ _ _ _ _ => ⟨ended, ended⟩
    blockItems := fun _ _ _ => ⟨⟨ended, trivial⟩, ended⟩
    indentlessItems := fun _ => ⟨⟨ended, trivial⟩, ended⟩
    blockEntries := fun _ _ _ => ⟨⟨ended, ended, trivial⟩, ended⟩
    flowValue := fun _ _ _ => ⟨ended, ended⟩
    flowItems := fun _ _ _ _ => ⟨⟨ended, trivial⟩, ended⟩
    flowEntries := fun _ _ _ _ => ⟨⟨ended, ended, trivial⟩, ended⟩ }

section

variable (origin : good .start) (reads : Reads good fuel) (holds : r.Holds good)
include origin reads holds

theorem yields_readNode (block indentless : Bool) :
    Yields (At good) good (readNode block indentless (fuel + 1) r) := by
  have peeked := settles_peek origin holds
  unfold readNode
  split
  · rename_i refused
    exact yields_ends (peeked.of_error refused)
  · rename_i first found
    have first := peeked.of_ok found
    split
    · split
      · exact ⟨first.1, holds_advance holds⟩
      · exact yields_ends (Error.at_of_some rfl first.1)
    · have opened := settles_opening origin holds
      split
      · rename_i refused
        exact yields_ends (opened.of_error refused)
      · rename_i p tag t r read
        obtain ⟨start, marked, -, holds⟩ := opened.of_ok read
        have registered : (r.register p.anchor).2.Holds good := holds_register holds
        generalize r.register p.anchor = found at registered
        obtain ⟨id, r⟩ := found
        have next := holds_advance registered
        dsimp only
        split
        · exact ⟨at_mark start, next⟩
        · have read := reads.flowItems t.start true next
          exact ⟨at_mark ⟨start, read.1⟩, read.2⟩
        · have read := reads.flowEntries t.start true next
          exact ⟨at_mark ⟨start, read.1⟩, read.2⟩
        · split
          · have read := reads.indentlessItems registered
            exact ⟨at_mark ⟨start, read.1⟩, read.2⟩
          · split
            · have read := reads.blockItems t.start next
              exact ⟨at_mark ⟨start, read.1⟩, read.2⟩
            · split
              · have read := reads.blockEntries t.start next
                exact ⟨at_mark ⟨start, read.1⟩, read.2⟩
              · split
                · exact ⟨at_mark start, registered⟩
                · exact yields_ends (at_unexpected marked)

theorem yields_readUnless (block : Bool) (stops : List TokenKind) (place : Option Mark)
    (placed : ∀ m ∈ place, good m) : Yields (At good) good (readUnless block stops place (fuel + 1) r) := by
  have peeked := settles_peek origin holds
  unfold readUnless
  split
  · rename_i refused
    exact yields_ends (peeked.of_error refused)
  · rename_i t found
    split
    · have here : good (place.getD t.start) := by
        cases place with
        | none => exact (peeked.of_ok found).1
        | some m => exact placed m rfl
      exact ⟨here, holds⟩
    · exact reads.node block block holds

/-- The item behind a dash, or the empty node if one of the tokens comes that end it. -/
theorem yields_item {u : Token} (h : good u.stop) (stops : Token → Prop) [DecidablePred stops] :
    Yields (At good) good (match r.peek with
      | .error e => ends e
      | .ok t => if stops t then (Node.empty u.stop, .ok r) else readNode true false fuel r) := by
  have peeked := settles_peek origin holds
  split
  · rename_i refused
    exact yields_ends (peeked.of_error refused)
  · split
    · exact ⟨h, holds⟩
    · exact reads.node true false holds

theorem yields_readBlockItems (start : Mark) :
    Yields (ItemsAt good) good (readBlockItems start (fuel + 1) r) := by
  have peeked := settles_peek origin holds
  unfold readBlockItems
  split
  · rename_i refused
    have refused := peeked.of_error refused
    exact ⟨⟨refused, trivial⟩, refused⟩
  · rename_i t found
    obtain ⟨here, behind⟩ := peeked.of_ok found
    split
    · have item := yields_item origin reads (holds_advance holds) behind
        fun u => u.kind = .blockEntry ∨ u.kind = .blockEnd
      dsimp only
      split
      · rename_i refused
        exact ⟨⟨item.1, trivial⟩, item.2.of_error refused⟩
      · rename_i next
        have others := reads.blockItems start (item.2.of_ok next)
        exact ⟨⟨item.1, others.1⟩, others.2⟩
    · exact ⟨trivial, holds_advance holds⟩
    · have refused : (unexpected .dash t .blockCollection start).At good := at_unexpected here
      exact ⟨⟨refused, trivial⟩, refused⟩

theorem yields_readIndentlessItems : Yields (ItemsAt good) good (readIndentlessItems (fuel + 1) r) := by
  have peeked := settles_peek origin holds
  unfold readIndentlessItems
  split
  · rename_i refused
    have refused := peeked.of_error refused
    exact ⟨⟨refused, trivial⟩, refused⟩
  · rename_i t found
    obtain ⟨-, behind⟩ := peeked.of_ok found
    split
    · have item := yields_item origin reads (holds_advance holds) behind
        fun u => [TokenKind.blockEntry, .key, .value, .blockEnd].contains u.kind
      dsimp only
      split
      · rename_i refused
        exact ⟨⟨item.1, trivial⟩, item.2.of_error refused⟩
      · rename_i next
        have others := reads.indentlessItems (item.2.of_ok next)
        exact ⟨⟨item.1, others.1⟩, others.2⟩
    · exact ⟨trivial, holds⟩

theorem yields_blockValue (stops : List TokenKind) :
    Yields (At good) good (match r.peek with
      | .error e => ends e
      | .ok u =>
        if u.kind = .value then readUnless true stops (some u.stop) fuel r.advance
        else (.empty u.start, .ok r)) := by
  have peeked := settles_peek origin holds
  split
  · rename_i refused
    exact yields_ends (peeked.of_error refused)
  · rename_i u found
    obtain ⟨here, behind⟩ := peeked.of_ok found
    split
    · exact reads.optional true stops (some u.stop) (forall_mem_some.mpr behind) (holds_advance holds)
    · exact ⟨here, holds⟩

theorem yields_readBlockEntries (start : Mark) :
    Yields (EntriesAt good) good (readBlockEntries start (fuel + 1) r) := by
  have peeked := settles_peek origin holds
  unfold readBlockEntries
  split
  · rename_i refused
    have refused := peeked.of_error refused
    exact ⟨⟨refused, refused, trivial⟩, refused⟩
  · rename_i t found
    obtain ⟨here, behind⟩ := peeked.of_ok found
    split
    · have key := reads.optional true [.key, .value, .blockEnd] (some t.stop)
        (forall_mem_some.mpr behind) (holds_advance holds)
      dsimp only
      split
      · rename_i node e read
        rw [read] at key
        obtain ⟨key, refused⟩ := key
        exact ⟨⟨key, refused, trivial⟩, refused⟩
      · rename_i node r read
        rw [read] at key
        obtain ⟨key, holds⟩ := key
        have value := yields_blockValue origin reads holds [.key, .value, .blockEnd]
        split
        · rename_i refused
          exact ⟨⟨key, value.1, trivial⟩, value.2.of_error refused⟩
        · rename_i next
          have others := reads.blockEntries start (value.2.of_ok next)
          exact ⟨⟨key, value.1, others.1⟩, others.2⟩
    · exact ⟨trivial, holds_advance holds⟩
    · have refused : (unexpected .key t .blockMapping start).At good := at_unexpected here
      exact ⟨⟨refused, refused, trivial⟩, refused⟩

theorem yields_readFlowValue (stops : List TokenKind) :
    Yields (At good) good (readFlowValue stops (fuel + 1) r) := by
  have peeked := settles_peek origin holds
  unfold readFlowValue
  split
  · rename_i refused
    exact yields_ends (peeked.of_error refused)
  · rename_i t found
    split
    · exact reads.optional false stops none forall_mem_none (holds_advance holds)
    · exact ⟨(peeked.of_ok found).1, holds⟩

omit reads in
/-- The next part of a flow collection, behind a comma unless it is the first. -/
theorem settles_flowPart (closing : TokenKind) (first : Bool) {refuse : Token → Error}
    (refused : ∀ t : Token, good t.start → (refuse t).At good) :
    Settles (Error.At good) (fun x : Token × Reader => (good x.1.start ∧ good x.1.stop) ∧ x.2.Holds good)
      (do
        let t ← r.peek
        if t.kind = closing ∨ first then return (t, r)
        else if t.kind = .flowEntry then return (← r.advance.peek, r.advance)
        else throw (refuse t)) := by
  have next := holds_advance holds
  refine (settles_peek origin holds).bind fun t here => ?_
  refine settles_ite (fun _ => ⟨here, holds⟩) fun _ => ?_
  refine settles_ite (fun _ => ?_) fun _ => refused t here.1
  exact (settles_peek origin next).bind fun u there => ⟨there, next⟩

/-- An item of a flow sequence. A key makes it a mapping. -/
theorem yields_flowItem (h : good t.start) :
    Yields (At good) good (
      if t.kind = .key then
        let stops := [TokenKind.value, .flowEntry, .flowSequenceEnd]
        let (key, next) : Result :=
          match r.advance.peek with
          | .error e => ends e
          | .ok u =>
            if stops.contains u.kind then (.empty u.stop, .ok r.advance.advance)
            else readNode false false fuel r.advance
        match next with
        | .error e => (.mapping [(key, .cut e)] none t.start, .error e)
        | .ok r =>
          let (value, next) := readFlowValue [.flowEntry, .flowSequenceEnd] fuel r
          (.mapping [(key, value)] none t.start, next)
      else readNode false false fuel r) := by
  have behind := holds_advance holds
  have peeked := settles_peek origin behind
  split
  · have key : Yields (At good) good (match r.advance.peek with
        | .error e => ends e
        | .ok u =>
          if [TokenKind.value, .flowEntry, .flowSequenceEnd].contains u.kind then
            (Node.empty u.stop, .ok r.advance.advance)
          else readNode false false fuel r.advance) := by
      split
      · rename_i refused
        exact yields_ends (peeked.of_error refused)
      · rename_i u found
        split
        · exact ⟨(peeked.of_ok found).2, holds_advance behind⟩
        · exact reads.node false false behind
    dsimp only
    split
    · rename_i refused
      have refused := key.2.of_error refused
      exact ⟨⟨h, key.1, refused, trivial⟩, refused⟩
    · rename_i next
      have value := reads.flowValue [.flowEntry, .flowSequenceEnd] (key.2.of_ok next)
      exact ⟨⟨h, key.1, value.1, trivial⟩, value.2⟩
  · exact reads.node false false holds

theorem yields_readFlowItems (start : Mark) (first : Bool) :
    Yields (ItemsAt good) good (readFlowItems start first (fuel + 1) r) := by
  have part := settles_flowPart origin holds .flowSequenceEnd first fun t (h : good t.start) =>
    (at_unexpected h : (unexpected .commaOrBracket t .flowSequence start).At good)
  unfold readFlowItems
  split
  · rename_i refused
    have refused := part.of_error refused
    exact ⟨⟨refused, trivial⟩, refused⟩
  · rename_i t r read
    obtain ⟨here, holds⟩ := part.of_ok read
    split
    · exact ⟨trivial, holds_advance holds⟩
    · have item := yields_flowItem origin reads holds here.1
      dsimp only
      split
      · rename_i refused
        exact ⟨⟨item.1, trivial⟩, item.2.of_error refused⟩
      · rename_i next
        have others := reads.flowItems start false (item.2.of_ok next)
        exact ⟨⟨item.1, others.1⟩, others.2⟩

theorem yields_readFlowEntries (start : Mark) (first : Bool) :
    Yields (EntriesAt good) good (readFlowEntries start first (fuel + 1) r) := by
  have part := settles_flowPart origin holds .flowMappingEnd first fun t (h : good t.start) =>
    (at_unexpected h : (unexpected .commaOrBrace t .flowMapping start).At good)
  unfold readFlowEntries
  split
  · rename_i refused
    have refused := part.of_error refused
    exact ⟨⟨refused, refused, trivial⟩, refused⟩
  · rename_i t r read
    obtain ⟨here, holds⟩ := part.of_ok read
    split
    · exact ⟨trivial, holds_advance holds⟩
    · have key : Yields (At good) good (if t.kind == .key then
          readUnless false [.value, .flowEntry, .flowMappingEnd] none fuel r.advance
          else readNode false false fuel r) := by
        split
        · exact reads.optional false _ none forall_mem_none (holds_advance holds)
        · exact reads.node false false holds
      dsimp only
      split
      · rename_i refused
        have refused := key.2.of_error refused
        exact ⟨⟨key.1, refused, trivial⟩, refused⟩
      · rename_i r next
        have holds := key.2.of_ok next
        have value : Yields (At good) good (if t.kind == .key then
            readFlowValue [.flowEntry, .flowMappingEnd] fuel r
            else match r.peek with
              | .error e => ends e
              | .ok u => (.empty u.start, .ok r)) := by
          have peeked := settles_peek origin holds
          split
          · exact reads.flowValue _ holds
          · split
            · rename_i refused
              exact yields_ends (peeked.of_error refused)
            · rename_i u found
              exact ⟨(peeked.of_ok found).1, holds⟩
        split
        · rename_i refused
          exact ⟨⟨key.1, value.1, trivial⟩, value.2.of_error refused⟩
        · rename_i next
          have others := reads.flowEntries start false (value.2.of_ok next)
          exact ⟨⟨key.1, value.1, others.1⟩, others.2⟩

end

theorem reads_of_start (origin : good .start) (fuel : Nat) : Reads good fuel := by
  induction fuel with
  | zero => exact reads_zero good
  | succ fuel ih =>
    exact {
      node := fun block indentless _ holds => yields_readNode origin ih holds block indentless
      optional := fun block stops place placed _ holds =>
        yields_readUnless origin ih holds block stops place placed
      blockItems := fun start _ holds => yields_readBlockItems origin ih holds start
      indentlessItems := fun holds => yields_readIndentlessItems origin ih holds
      blockEntries := fun start _ holds => yields_readBlockEntries origin ih holds start
      flowValue := fun stops _ holds => yields_readFlowValue origin ih holds stops
      flowItems := fun start first _ holds => yields_readFlowItems origin ih holds start first
      flowEntries := fun start first _ holds => yields_readFlowEntries origin ih holds start first }

/-! ### Directives and roots -/

theorem settles_readDirectives (origin : good .start) {version : Bool} (holds : r.Holds good) :
    GoesOn good (r.readDirectives fuel version) := by
  induction fuel generalizing version r with
  | zero => exact holds
  | succ fuel ih =>
    have next := holds_advance holds
    have named {handles : List (String × String)} {r : Reader} (holds : r.Holds good) :
        Holds good { r with handles := handles } :=
      ⟨holds.tokens, holds.failure⟩
    unfold readDirectives
    refine (settles_peek origin holds).bind fun t ⟨here, _⟩ => ?_
    split
    · refine settles_ite (fun _ => Error.at_of_some rfl here) fun _ => ?_
      exact settles_ite (fun _ => Error.at_of_some rfl here) fun _ => ih next
    · exact settles_ite (fun _ => Error.at_of_some rfl here) fun _ => ih (named next)
    · exact named holds

/-- The directives of a document and the marker behind them. -/
theorem settles_prologue (origin : good .start) (fuel : Nat) (holds : r.Holds good) :
    Settles (Error.At good) (fun x : Reader × Token => x.1.Holds good ∧ good x.2.start)
      (do
        let r ← r.readDirectives fuel false
        let t ← r.peek
        if t.kind = .documentStart then return (r.advance, ← r.advance.peek)
        else throw (.form ⟨.documentStart, t.start, none, 0⟩)) := by
  refine (settles_readDirectives origin holds).bind fun r holds => ?_
  have next := holds_advance holds
  refine (settles_peek origin holds).bind fun t here => ?_
  refine settles_ite (fun _ => ?_) fun _ => Error.at_of_some rfl here.1
  exact (settles_peek origin next).bind fun u there => ⟨next, there.1⟩

theorem yields_readRoot (origin : good .start) (holds : r.Holds good) :
    Yields (At good) good r.readRoot := by
  have peeked := settles_peek origin holds
  have read {r : Reader} (fuel : Nat) (holds : r.Holds good) :
      Yields (At good) good (readNode true false fuel r) :=
    (reads_of_start origin fuel).node true false holds
  unfold readRoot
  dsimp only
  split
  · rename_i refused
    exact yields_ends (peeked.of_error refused)
  · rename_i t found
    have marked := peeked.of_ok found
    split
    case h_1 => exact ⟨marked.1, holds⟩
    case h_5 => exact read _ ⟨holds.tokens, holds.failure⟩
    -- Directives, or the marker of a start without any.
    all_goals
      have begun := settles_prologue origin (4 * r.tokens.length + 8) holds
      split
      · rename_i refused
        exact yields_ends (begun.of_error refused)
      · rename_i passed
        obtain ⟨holds, here⟩ := begun.of_ok passed
        split
        all_goals first | exact ⟨here, holds⟩ | exact read _ holds

end Reader

/-! ### Linking -/

namespace Node

theorem itemsAt_iff {items : List Node} : ItemsAt good items ↔ ∀ item ∈ items, item.At good := by
  induction items with
  | nil => simp [ItemsAt]
  | cons item rest ih => simp [ItemsAt, ih]

mutual

theorem at_of_anchors (node : Node) (h : node.At good) : ∀ entry ∈ anchors node, entry.2.At good := by
  cases node with
  | scalar | reference | cut => exact List.forall_mem_nil _
  | sequence items => exact at_of_anchorsOfItems h.2
  | mapping entries => exact at_of_anchorsOfEntries h.2
  | anchored id node => exact List.forall_mem_cons.mpr ⟨h, at_of_anchors node h⟩
  | linked node => exact at_of_anchors node h

theorem at_of_anchorsOfItems {items : List Node} (h : ItemsAt good items) :
    ∀ entry ∈ anchorsOfItems items, entry.2.At good := by
  cases items with
  | nil => exact List.forall_mem_nil _
  | cons item rest =>
    exact List.forall_mem_append.mpr ⟨at_of_anchors item h.1, at_of_anchorsOfItems h.2⟩

theorem at_of_anchorsOfEntries {entries : List (Node × Node)} (h : EntriesAt good entries) :
    ∀ entry ∈ anchorsOfEntries entries, entry.2.At good := by
  cases entries with
  | nil => exact List.forall_mem_nil _
  | cons entry rest =>
    obtain ⟨key, value⟩ := entry
    have both := List.forall_mem_append.mpr ⟨at_of_anchors key h.1, at_of_anchors value h.2.1⟩
    exact List.forall_mem_append.mpr ⟨both, at_of_anchorsOfEntries h.2.2⟩

end

/-- A part of the tree that was linked, and what may have stopped it. -/
def Linked {α : Type} (marked : α → Prop) (good : Mark → Prop) (r : α × Links) : Prop :=
  marked r.1 ∧ ∀ e ∈ r.2.stopped, e.At good

theorem linked_stop {links : Links} (h : e.At good) : Linked (At good) good (stop e links) :=
  ⟨h, forall_mem_some.mpr h⟩

/-- Following a reference leads to good marks. -/
def Follows (good : Mark → Prop) (lead : Nat → Nat → Links → Node × Links) : Prop :=
  ∀ depth id links, (∀ e ∈ links.stopped, e.At good) → Linked (At good) good (lead depth id links)

variable {lead : Nat → Nat → Links → Node × Links}

mutual

theorem linked_linkWith {node : Node} (follows : Follows good lead) (depth : Nat) {links : Links}
    (h : node.At good) (unstopped : ∀ e ∈ links.stopped, e.At good) :
    Linked (At good) good (linkWith lead depth node links) := by
  unfold linkWith
  split
  · rename_i e stopped
    exact ⟨unstopped e stopped, unstopped⟩
  · cases node with
    | scalar | cut => exact ⟨h, unstopped⟩
    | sequence items tag mark =>
      dsimp only
      split
      · exact linked_stop (Error.at_of_some rfl h.1)
      · have linked := linked_linkItems follows (depth - 1) h.2 unstopped
        exact ⟨⟨h.1, linked.1⟩, linked.2⟩
    | mapping entries tag mark =>
      dsimp only
      split
      · exact linked_stop (Error.at_of_some rfl h.1)
      · have linked := linked_linkEntries follows (depth - 1) h.2 unstopped
        exact ⟨⟨h.1, linked.1⟩, linked.2⟩
    | anchored id node => exact linked_linkWith follows depth h unstopped
    | linked node => exact linked_linkWith follows depth h unstopped
    | reference id mark => exact follows depth id links unstopped

theorem linked_linkItems {items : List Node} (follows : Follows good lead) (depth : Nat)
    {links : Links} (h : ItemsAt good items) (unstopped : ∀ e ∈ links.stopped, e.At good) :
    Linked (ItemsAt good) good (linkItems lead depth items links) := by
  cases items with
  | nil => exact ⟨trivial, unstopped⟩
  | cons item rest =>
    have first := linked_linkWith follows depth h.1 unstopped
    have others := linked_linkItems follows depth h.2 first.2
    exact ⟨⟨first.1, others.1⟩, others.2⟩

theorem linked_linkEntries {entries : List (Node × Node)} (follows : Follows good lead) (depth : Nat)
    {links : Links} (h : EntriesAt good entries) (unstopped : ∀ e ∈ links.stopped, e.At good) :
    Linked (EntriesAt good) good (linkEntries lead depth entries links) := by
  cases entries with
  | nil => exact ⟨trivial, unstopped⟩
  | cons entry rest =>
    obtain ⟨key, value⟩ := entry
    have key := linked_linkWith follows depth h.1 unstopped
    have value := linked_linkWith follows depth h.2.1 key.2
    have others := linked_linkEntries follows depth h.2.2 value.2
    exact ⟨⟨key.1, value.1, others.1⟩, others.2⟩

end

theorem follows_follow {table : List (Nat × Node)} (tabled : ∀ entry ∈ table, entry.2.At good)
    (limit nesting : Nat) : Follows good (follow table limit nesting) := by
  have endless : Error.repetitionLimit.At good := Error.at_repetitionLimit
  induction nesting with
  | zero => exact fun depth id links _ => linked_stop endless
  | succ nesting ih =>
    intro depth id links unstopped
    unfold follow
    dsimp only
    split
    · exact linked_stop endless
    · split
      · exact linked_stop endless
      · rename_i node found
        have h : node.At good := tabled _ (List.mem_of_find?_eq_some found)
        have counted : ∀ e ∈ (Links.mk (links.followed + 1) links.stopped).stopped, e.At good := unstopped
        have linked := linked_linkWith ih depth h counted
        exact ⟨linked.1, linked.2⟩

theorem at_link {root : Node} (h : root.At good) : root.link.At good := by
  have tabled : ∀ entry ∈ (anchors root).reverse, entry.2.At good := fun entry member =>
    at_of_anchors root h entry (List.mem_reverse.mp member)
  have unstopped : ∀ e ∈ (Links.mk 0 none).stopped, e.At good := forall_mem_none
  exact (linked_linkWith (follows_follow tabled _ _) depthLimit h unstopped).1

end Node

/-! ### Documents -/

namespace Document

theorem at_ofChars {cs : List Char} (origin : good .start) (tells : TokenStream.Tells good (Yaml.tokens cs)) :
    (ofChars cs).root.At good ∧ ∀ e ∈ (ofChars cs).trailing, e.At good := by
  have holds : (Reader.mk ((Yaml.tokens cs).1.drop 1) (Yaml.tokens cs).2 [] []).Holds good :=
    ⟨fun t member => tells.1 t (List.mem_of_mem_drop member), tells.2⟩
  obtain ⟨root, next⟩ := Reader.yields_readRoot origin holds
  unfold ofChars
  dsimp only
  split
  · rename_i refused
    exact ⟨Node.at_link root, forall_mem_some.mpr (next.of_error refused)⟩
  · rename_i r read
    have peeked := Reader.settles_peek origin (next.of_ok read)
    split
    · rename_i refused
      exact ⟨Node.at_link root, forall_mem_some.mpr (peeked.of_error refused)⟩
    · exact ⟨Node.at_link root, forall_mem_none⟩

theorem settles_read {α : Type} {reader : Node → Except Error α} {text : String} (origin : good .start)
    (tells : TokenStream.Tells good (Yaml.tokens text.toList))
    (reads : ∀ node : Node, node.At good → Marked good (reader node)) :
    Marked good (read reader text) := by
  obtain ⟨root, trailing⟩ := at_ofChars origin tells
  unfold read
  dsimp only
  split
  · rename_i refused
    exact (reads _ root).of_error refused
  · rename_i given
    exact trailing _ given
  · split
    · exact Error.at_of_none rfl
    · exact trivial

end Document

end Questionnaire.Yaml
