import Questionnaire.Digest
import Questionnaire.Model.Compile
import Questionnaire.Run.Walk

/-!
Models that are kept for scripts that run again.

A cache holds at most as many models as its capacity, under the digests of their scripts; the one that came
in first goes first. Models have serial numbers, so that a model that was kept can be told from one that was
made again.
-/

namespace Questionnaire

/-- A model that was made for a script, with its serial number. -/
structure MadeModel where
  serial : Nat
  model : Model
deriving DecidableEq, Inhabited

/-- Kept models by digest, the digests in the order in which the models came in, and how many were made so
far. -/
structure Cache where
  capacity : Nat
  entries : List (Digest × MadeModel)
  order : List Digest
  made : Nat
deriving Inhabited

namespace Cache

def ofCapacity (capacity : Nat) : Cache := ⟨capacity, [], [], 0⟩

def size (c : Cache) : Nat := c.entries.length

def get? (c : Cache) (key : Digest) : Option MadeModel := (c.entries.find? (·.1 == key)).map (·.2)

/-- Drops the models that came in first until there is room for one more. -/
def makeRoom (capacity : Nat) : List Digest → List (Digest × MadeModel) →
    List Digest × List (Digest × MadeModel)
  | [], entries => ([], entries)
  | oldest :: order, entries =>
    if entries.length < capacity then (oldest :: order, entries)
    else makeRoom capacity order (entries.filter (·.1 ≠ oldest))

/-- Keeps a new model, unless there is never room for one. -/
def keep (c : Cache) (key : Digest) (model : Model) : Cache :=
  if c.capacity = 0 then { c with made := c.made + 1 }
  else
    let (order, entries) := makeRoom c.capacity c.order c.entries
    { c with
      entries := entries.filter (·.1 ≠ key) ++ [(key, ⟨c.made, model⟩)]
      order := order ++ [key]
      made := c.made + 1 }

/-- The model of a script: the one that is kept, or else a new one. A defective script changes
nothing. -/
def fetch (c : Cache) (script : String) : Except Defect MadeModel × Cache :=
  let key := Digest.ofText script
  match c.get? key with
  | some m => (.ok m, c)
  | none =>
    match Model.ofText script with
    | .error e => (.error e, c)
    | .ok model => (.ok ⟨c.made, model⟩, c.keep key model)

def clear (c : Cache) : Cache := { c with entries := [], order := [] }

end Cache

/-! ### Running scripts -/

/-- Why a script has no result: it has a defect, or its run fails. -/
inductive Failure
  | script (d : Defect)
  | run (e : RunError)
deriving DecidableEq, Inhabited

def Failure.message : Failure → String
  | script d => d.toText
  | run e => e.message

structure Runner where
  config : Config
  cache : Cache
deriving Inhabited

namespace Runner

def ofConfig (config : Config) : Runner := ⟨config, .ofCapacity config.cacheCapacity⟩

def fetch (r : Runner) (script : String) : Except Defect MadeModel × Runner :=
  let (m, cache) := r.cache.fetch script
  (m, { r with cache })

def execute (r : Runner) (script : String) (answers : ParameterStore) :
    Except Failure Result × Runner :=
  match r.fetch script with
  | (.error d, r) => (.error (.script d), r)
  | (.ok m, r) => ((m.model.run r.config answers).mapError .run, r)

end Runner

/-- The result of a script on answers, with a new model. -/
def execute (config : Config) (script : String) (answers : ParameterStore) :
    Except Failure Result :=
  match Model.ofText script with
  | .error d => .error (.script d)
  | .ok m => (m.run config answers).mapError .run

end Questionnaire
