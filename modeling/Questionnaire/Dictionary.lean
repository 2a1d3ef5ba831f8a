/-!
Entries in the order of their keys.
-/

namespace Questionnaire.Dictionary

/-- Puts an entry where its key belongs, in place of an earlier entry of that key. -/
def insert {α : Type} (key : String) (value : α) : List (String × α) → List (String × α)
  | [] => [(key, value)]
  | (k, v) :: rest =>
    if key = k then (key, value) :: rest
    else if key < k then (key, value) :: (k, v) :: rest
    else (k, v) :: insert key value rest

/-- The entries in the order of their keys; of two entries with one key the later one counts. -/
def ofList {α : Type} (entries : List (String × α)) : List (String × α) :=
  entries.foldl (fun sorted (key, value) => insert key value sorted) []

/-- The value of a key in a list of entries, the first if there are several. -/
def get? {α : Type} (key : String) (entries : List (String × α)) : Option α :=
  (entries.find? (·.1 == key)).map (·.2)

end Questionnaire.Dictionary
