import Questionnaire.Yaml.Error
import Questionnaire.Yaml.Token

/-!
The tree of a YAML document.

A document may end before its time: where the form of the text goes wrong stands a `cut` with the
error, and whoever reads the tree that far meets it. References are numbers until `Node.link` puts
the nodes in that they stand for.
-/

namespace Questionnaire.Yaml

/-- A node. `anchored` can be referred to by its number; `linked` stands where a reference stood. -/
inductive Node
  | scalar (content : String) (style : ScalarStyle) (tag : Option String) (mark : Mark)
  | sequence (items : List Node) (tag : Option String) (mark : Mark)
  | mapping (entries : List (Node × Node)) (tag : Option String) (mark : Mark)
  | anchored (id : Nat) (node : Node)
  | reference (id : Nat) (mark : Mark)
  | linked (node : Node)
  | cut (e : Error)
deriving Inhabited

namespace Node

def empty (mark : Mark) : Node := scalar "" .plain none mark

mutual

/-- How many parts a node has: a scalar and a reference count once, a collection twice besides what
is in it. -/
def weight : Node → Nat
  | scalar .. | reference .. => 1
  | sequence items _ _ => weightOfItems items + 2
  | mapping entries _ _ => weightOfEntries entries + 2
  | anchored _ node | linked node => weight node
  | cut _ => 0

def weightOfItems : List Node → Nat
  | [] => 0
  | item :: rest => weight item + weightOfItems rest

def weightOfEntries : List (Node × Node) → Nat
  | [] => 0
  | (key, value) :: rest => weight key + weight value + weightOfEntries rest

end

mutual

/-- The nodes that can be referred to, in order. -/
def anchors : Node → List (Nat × Node)
  | anchored id node => (id, node) :: anchors node
  | sequence items _ _ => anchorsOfItems items
  | mapping entries _ _ => anchorsOfEntries entries
  | linked node => anchors node
  | _ => []

def anchorsOfItems : List Node → List (Nat × Node)
  | [] => []
  | item :: rest => anchors item ++ anchorsOfItems rest

def anchorsOfEntries : List (Node × Node) → List (Nat × Node)
  | [] => []
  | (key, value) :: rest => anchors key ++ anchors value ++ anchorsOfEntries rest

end

/-! ### Linking -/

/-- The state of linking: how many references were followed, and what stopped it. -/
structure Links where
  followed : Nat
  stopped : Option Error

def stop (e : Error) (links : Links) : Node × Links := (cut e, { links with stopped := some e })

mutual

/-- Puts in what references stand for. `follow` gives the node of a reference at a depth; a
collection at depth zero is not entered. -/
def linkWith (follow : Nat → Nat → Links → Node × Links) (depth : Nat) (node : Node)
    (links : Links) : Node × Links :=
  match links.stopped with
  | some e => (cut e, links)
  | none =>
    match node with
    | sequence items tag mark =>
      if depth = 0 then stop (.depthLimit mark) links
      else
        let (items, links) := linkItems follow (depth - 1) items links
        (sequence items tag mark, links)
    | mapping entries tag mark =>
      if depth = 0 then stop (.depthLimit mark) links
      else
        let (entries, links) := linkEntries follow (depth - 1) entries links
        (mapping entries tag mark, links)
    | anchored _ node => linkWith follow depth node links
    | linked node => linkWith follow depth node links
    | reference id _ => follow depth id links
    | node => (node, links)

def linkItems (follow : Nat → Nat → Links → Node × Links) (depth : Nat) :
    List Node → Links → List Node × Links
  | [], links => ([], links)
  | item :: rest, links =>
    let (item, links) := linkWith follow depth item links
    let (rest, links) := linkItems follow depth rest links
    (item :: rest, links)

def linkEntries (follow : Nat → Nat → Links → Node × Links) (depth : Nat) :
    List (Node × Node) → Links → List (Node × Node) × Links
  | [], links => ([], links)
  | (key, value) :: rest, links =>
    let (key, links) := linkWith follow depth key links
    let (value, links) := linkWith follow depth value links
    let (rest, links) := linkEntries follow depth rest links
    ((key, value) :: rest, links)

end

/-- Follows references through at most `nesting` nodes inside each other. No more than `limit`
references are followed in all. -/
def follow (table : List (Nat × Node)) (limit : Nat) : (nesting : Nat) → (depth id : Nat) →
    Links → Node × Links
  | 0, _, _, links => stop .repetitionLimit links
  | nesting + 1, depth, id, links =>
    let links := { links with followed := links.followed + 1 }
    if limit < links.followed then stop .repetitionLimit links
    else
      match table.find? (·.1 == id) with
      | none => stop .repetitionLimit links
      | some (_, node) =>
        let (node, links) := linkWith (follow table limit nesting) depth node links
        (linked node, links)

def depthLimit : Nat := 128

/-- The tree with all references put in. Of two nodes with one number the later one is meant. At
most a hundred references are followed for each part of the tree. -/
def link (root : Node) : Node :=
  let table := (anchors root).reverse
  (linkWith (follow table (100 * weight root) (depthLimit + 2)) depthLimit root ⟨0, none⟩).1

end Node

end Questionnaire.Yaml
