import Questionnaire.Yaml.Node
import Questionnaire.Yaml.TokenStream

/-!
Documents made of tokens.
-/

namespace Questionnaire.Yaml

/-- The tokens that are left, the problem behind the last of them, what tag handles stand for, and
the numbers of anchors. -/
structure Reader where
  tokens : List Token
  failure : Option FormError
  handles : List (String × String)
  anchors : List (String × Nat)

namespace Reader

def peek (r : Reader) : Except Error Token :=
  match r.tokens, r.failure with
  | t :: _, _ => .ok t
  | [], some e => .error (.form e)
  | [], none => .ok ⟨.streamEnd, .start, .start⟩

def advance (r : Reader) : Reader := { r with tokens := r.tokens.tail }

def unexpected (problem : Problem) (t : Token) (context : Context) (since : Mark) : Error :=
  .form ⟨problem, t.start, some (context, since), 0⟩

/-- A node and where reading goes on, or why it does not. -/
abbrev Result := Node × Except Error Reader

def ends (e : Error) : Result := (.cut e, .error e)

/-! ### Properties -/

structure Properties where
  anchor : Option String
  tag : Option (String × String × Mark)
  start : Mark

/-- Reads an anchor and a tag, in either order. -/
def readProperties (r : Reader) : Except Error (Properties × Reader) := do
  let t ← r.peek
  match t.kind with
  | .anchor name =>
    let r := r.advance
    let u ← r.peek
    match u.kind with
    | .tag handle suffix => return (⟨some name, some (handle, suffix, u.start), t.start⟩, r.advance)
    | _ => return (⟨some name, none, t.start⟩, r)
  | .tag handle suffix =>
    let r := r.advance
    let u ← r.peek
    match u.kind with
    | .anchor name => return (⟨some name, some (handle, suffix, t.start), t.start⟩, r.advance)
    | _ => return (⟨none, some (handle, suffix, t.start), t.start⟩, r)
  | _ => return (⟨none, none, t.start⟩, r)

def resolveTag (r : Reader) (p : Properties) : Except Error (Option String) :=
  match p.tag with
  | none => .ok none
  | some (handle, suffix, mark) =>
    if handle.isEmpty then .ok (some suffix)
    else
      match r.handles.find? (·.1 == handle) with
      | some (_, leading) => .ok (some (leading ++ suffix))
      | none => .error (.form ⟨.undefinedTagHandle, mark, some (.node, p.start), 0⟩)

def register (r : Reader) : Option String → Option Nat × Reader
  | none => (none, r)
  | some name =>
    let id := r.anchors.length
    (some id, { r with anchors := (name, id) :: r.anchors.filter (·.1 != name) })

/-- A node that can be referred to, if it has a number. -/
def mark (id : Option Nat) (node : Node) : Node :=
  match id with
  | some id => .anchored id node
  | none => node

/-! ### Nodes -/

mutual

/-- Reads a node. Where `block` holds it may be a block collection; where `indentless` holds, also a
sequence whose dashes stand as deep as the key before it. -/
def readNode (block indentless : Bool) : Nat → Reader → Result
  | 0, _ => ends .repetitionLimit
  | fuel + 1, r =>
    match r.peek with
    | .error e => ends e
    | .ok first =>
      match first.kind with
      | .reference name =>
        match r.anchors.find? (·.1 == name) with
        | some (_, id) => (.reference id first.start, .ok r.advance)
        | none => ends (.unknownAnchor first.start)
      | _ =>
        match (do
            let (p, r) ← r.readProperties
            let t ← r.peek
            return (p, ← r.resolveTag p, t, r) :
          Except Error (Properties × Option String × Token × Reader)) with
        | .error e => ends e
        | .ok (p, tag, t, r) =>
          let (id, r) := r.register p.anchor
          match t.kind with
          | .scalar content style =>
            let tag := if tag = some "!" then none else tag
            (mark id (.scalar content style tag p.start), .ok r.advance)
          | .flowSequenceStart =>
            let (items, next) := readFlowItems t.start true fuel r.advance
            (mark id (.sequence items tag p.start), next)
          | .flowMappingStart =>
            let (entries, next) := readFlowEntries t.start true fuel r.advance
            (mark id (.mapping entries tag p.start), next)
          | kind =>
            if indentless && kind = .blockEntry then
              let (items, next) := readIndentlessItems fuel r
              (mark id (.sequence items tag p.start), next)
            else if block && kind = .blockSequenceStart then
              let (items, next) := readBlockItems t.start fuel r.advance
              (mark id (.sequence items tag p.start), next)
            else if block && kind = .blockMappingStart then
              let (entries, next) := readBlockEntries t.start fuel r.advance
              (mark id (.mapping entries tag p.start), next)
            else if p.anchor.isSome || tag.isSome then
              (mark id (.scalar "" .plain tag p.start), .ok r)
            else
              ends (unexpected .nodeContent t (if block then .blockNode else .flowNode) p.start)

/-- Reads a node, or the empty node at `place` if one of the tokens comes that end it. -/
def readUnless (block : Bool) (stops : List TokenKind) (place : Option Mark) :
    Nat → Reader → Result
  | 0, _ => ends .repetitionLimit
  | fuel + 1, r =>
    match r.peek with
    | .error e => ends e
    | .ok t =>
      if stops.contains t.kind then (.empty (place.getD t.start), .ok r)
      else readNode block block fuel r

def readBlockItems (start : Mark) : Nat → Reader → List Node × Except Error Reader
  | 0, _ => ([.cut .repetitionLimit], .error .repetitionLimit)
  | fuel + 1, r =>
    match r.peek with
    | .error e => ([.cut e], .error e)
    | .ok t =>
      match t.kind with
      | .blockEntry =>
        let r := r.advance
        let (item, next) : Result :=
          match r.peek with
          | .error e => ends e
          | .ok u =>
            if u.kind = TokenKind.blockEntry ∨ u.kind = TokenKind.blockEnd then (Node.empty t.stop, .ok r)
            else readNode true false fuel r
        match next with
        | .error e => ([item], .error e)
        | .ok r =>
          let (items, next) := readBlockItems start fuel r
          (item :: items, next)
      | .blockEnd => ([], .ok r.advance)
      | _ =>
        let e := unexpected .dash t .blockCollection start
        ([.cut e], .error e)

/-- Reads the items of a sequence without an indentation of its own. -/
def readIndentlessItems : Nat → Reader → List Node × Except Error Reader
  | 0, _ => ([.cut .repetitionLimit], .error .repetitionLimit)
  | fuel + 1, r =>
    match r.peek with
    | .error e => ([.cut e], .error e)
    | .ok t =>
      match t.kind with
      | .blockEntry =>
        let r := r.advance
        let (item, next) : Result :=
          match r.peek with
          | .error e => ends e
          | .ok u =>
            if [TokenKind.blockEntry, .key, .value, .blockEnd].contains u.kind then
              (.empty t.stop, .ok r)
            else readNode true false fuel r
        match next with
        | .error e => ([item], .error e)
        | .ok r =>
          let (items, next) := readIndentlessItems fuel r
          (item :: items, next)
      | _ => ([], .ok r)

def readBlockEntries (start : Mark) : Nat → Reader → List (Node × Node) × Except Error Reader
  | 0, _ => ([(.cut .repetitionLimit, .cut .repetitionLimit)], .error .repetitionLimit)
  | fuel + 1, r =>
    match r.peek with
    | .error e => ([(.cut e, .cut e)], .error e)
    | .ok t =>
      match t.kind with
      | .key =>
        let stops := [TokenKind.key, .value, .blockEnd]
        match readUnless true stops (some t.stop) fuel r.advance with
        | (key, .error e) => ([(key, .cut e)], .error e)
        | (key, .ok r) =>
          let (value, next) : Result :=
            match r.peek with
            | .error e => ends e
            | .ok u =>
              if u.kind = .value then readUnless true stops (some u.stop) fuel r.advance
              else (.empty u.start, .ok r)
          match next with
          | .error e => ([(key, value)], .error e)
          | .ok r =>
            let (entries, next) := readBlockEntries start fuel r
            ((key, value) :: entries, next)
      | .blockEnd => ([], .ok r.advance)
      | _ =>
        let e := unexpected .key t .blockMapping start
        ([(.cut e, .cut e)], .error e)

/-- Reads what may follow a key in a flow collection: a colon and a value. -/
def readFlowValue (stops : List TokenKind) : Nat → Reader → Result
  | 0, _ => ends .repetitionLimit
  | fuel + 1, r =>
    match r.peek with
    | .error e => ends e
    | .ok t =>
      if t.kind = .value then readUnless false stops none fuel r.advance
      else (.empty t.start, .ok r)

/-- Reads the items of a flow sequence. A key in a sequence makes an item that is a mapping of one
entry. -/
def readFlowItems (start : Mark) (first : Bool) :
    Nat → Reader → List Node × Except Error Reader
  | 0, _ => ([.cut .repetitionLimit], .error .repetitionLimit)
  | fuel + 1, r =>
    match (do
        let t ← r.peek
        if t.kind = .flowSequenceEnd ∨ first then return (t, r)
        else if t.kind = .flowEntry then return (← r.advance.peek, r.advance)
        else throw (unexpected .commaOrBracket t .flowSequence start) :
      Except Error (Token × Reader)) with
    | .error e => ([.cut e], .error e)
    | .ok (t, r) =>
      if t.kind = .flowSequenceEnd then ([], .ok r.advance)
      else
        let (item, next) : Result :=
          if t.kind = .key then
            let stops := [TokenKind.value, .flowEntry, .flowSequenceEnd]
            let (key, next) : Result :=
              match r.advance.peek with
              | .error e => ends e
              | .ok u =>
                if stops.contains u.kind then (.empty u.stop, .ok r.advance.advance)
                else readNode false false fuel r.advance
            match next with
            | .error e => (.mapping [(key, .cut e)] none t.start, .error e)
            | .ok r =>
              let (value, next) := readFlowValue [.flowEntry, .flowSequenceEnd] fuel r
              (.mapping [(key, value)] none t.start, next)
          else readNode false false fuel r
        match next with
        | .error e => ([item], .error e)
        | .ok r =>
          let (items, next) := readFlowItems start false fuel r
          (item :: items, next)

/-- Reads the entries of a flow mapping. A key without a colon has the empty value. -/
def readFlowEntries (start : Mark) (first : Bool) :
    Nat → Reader → List (Node × Node) × Except Error Reader
  | 0, _ => ([(.cut .repetitionLimit, .cut .repetitionLimit)], .error .repetitionLimit)
  | fuel + 1, r =>
    match (do
        let t ← r.peek
        if t.kind = .flowMappingEnd ∨ first then return (t, r)
        else if t.kind = .flowEntry then return (← r.advance.peek, r.advance)
        else throw (unexpected .commaOrBrace t .flowMapping start) :
      Except Error (Token × Reader)) with
    | .error e => ([(.cut e, .cut e)], .error e)
    | .ok (t, r) =>
      if t.kind = .flowMappingEnd then ([], .ok r.advance)
      else
        let marked := t.kind == .key
        let (key, next) : Result :=
          if marked then
            readUnless false [.value, .flowEntry, .flowMappingEnd] none fuel r.advance
          else readNode false false fuel r
        match next with
        | .error e => ([(key, .cut e)], .error e)
        | .ok r =>
          let (value, next) : Result :=
            if marked then readFlowValue [.flowEntry, .flowMappingEnd] fuel r
            else
              match r.peek with
              | .error e => ends e
              | .ok u => (.empty u.start, .ok r)
          match next with
          | .error e => ([(key, value)], .error e)
          | .ok r =>
            let (entries, next) := readFlowEntries start false fuel r
            ((key, value) :: entries, next)

end

/-! ### Directives -/

/-- What handles stand for unless a directive says otherwise. -/
def defaultHandles : List (String × String) := [("!", "!"), ("!!", "tag:yaml.org,2002:")]

/-- Reads directives. A version and each handle may be given once. -/
def readDirectives : Nat → (version : Bool) → Reader → Except Error Reader
  | 0, _, r => .ok r
  | fuel + 1, version, r => do
    let t ← r.peek
    match t.kind with
    | .versionDirective major minor =>
      if version then throw (.form ⟨.duplicateVersion, t.start, none, 0⟩)
      else if major != 1 || (minor != 1 && minor != 2) then
        throw (.form ⟨.incompatibleVersion, t.start, none, 0⟩)
      else readDirectives fuel true r.advance
    | .tagDirective handle leading =>
      if r.handles.any (·.1 == handle) then throw (.form ⟨.duplicateTag, t.start, none, 0⟩)
      else readDirectives fuel version { r.advance with handles := (handle, leading) :: r.handles }
    | _ => return { r with handles := r.handles ++ defaultHandles }

/-! ### Documents -/

/-- Reads the root of the first document. A text without a document has the empty root. -/
def readRoot (r : Reader) : Result :=
  let fuel := 4 * r.tokens.length + 8
  match r.peek with
  | .error e => ends e
  | .ok t =>
    match t.kind with
    | .streamEnd => (.empty t.start, .ok r)
    | .versionDirective .. | .tagDirective .. | .documentStart =>
      match (do
          let r ← r.readDirectives fuel false
          let t ← r.peek
          if t.kind = .documentStart then return (r.advance, ← r.advance.peek)
          else throw (.form ⟨.documentStart, t.start, none, 0⟩) :
        Except Error (Reader × Token)) with
      | .error e => ends e
      | .ok (r, t) =>
        match t.kind with
        | .versionDirective .. | .tagDirective .. | .documentStart | .documentEnd | .streamEnd =>
          (.empty t.start, .ok r)
        | _ => readNode true false fuel r
    | _ => readNode true false fuel { r with handles := defaultHandles }

def skipEnds : Nat → Reader → Reader
  | 0, r => r
  | fuel + 1, r =>
    match r.tokens with
    | t :: _ => if t.kind = .documentEnd then skipEnds fuel r.advance else r
    | [] => r

end Reader

/-- The first document of a text: its root, the problem behind it, and whether anything follows. -/
structure Document where
  root : Node
  trailing : Option Error
  several : Bool

namespace Document

def ofChars (cs : List Char) : Document :=
  let (tokens, failure) := Yaml.tokens cs
  let (root, next) := (Reader.mk (tokens.drop 1) failure [] []).readRoot
  match next with
  | .error e => ⟨root.link, some e, false⟩
  | .ok r =>
    match r.peek with
    | .error e => ⟨root.link, some e, false⟩
    | .ok _ =>
      let r := Reader.skipEnds (r.tokens.length + 1) r
      let several := match r.peek with
        | .ok t => t.kind != .streamEnd
        | .error _ => true
      ⟨root.link, none, several⟩

/-- Reads data from the only document of a text. What the reader meets comes first, then a problem
behind the document, then a further document. -/
def read {α : Type} (reader : Node → Except Error α) (text : String) : Except Error α :=
  let d := ofChars text.toList
  match reader d.root, d.trailing with
  | .error e, _ => .error e
  | .ok _, some e => .error e
  | .ok a, none => if d.several then .error .severalDocuments else .ok a

end Document

end Questionnaire.Yaml
