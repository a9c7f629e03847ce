/-! # Lists sorted by a text

Pairs of a text and a value, sorted by the text, each text once.
-/

namespace NfvCatalog.Keyed

variable {α : Type}

/-- Put a value under a key; the value of an equal key is replaced. -/
def put (key : String) (value : α) : List (String × α) → List (String × α)
  | [] => [(key, value)]
  | entry :: rest =>
    if key = entry.1 then (key, value) :: rest
    else if key < entry.1 then (key, value) :: entry :: rest
    else entry :: put key value rest

/-- The value under a key. -/
def get? (entries : List (String × α)) (key : String) : Option α :=
  (entries.find? (·.1 = key)).map Prod.snd

/-- The sorted list of pairs in any order; the last value of a key counts. -/
def ofList (entries : List (String × α)) : List (String × α) :=
  entries.foldl (fun done entry => put entry.1 entry.2 done) []

end NfvCatalog.Keyed
