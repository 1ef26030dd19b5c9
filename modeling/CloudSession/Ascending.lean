/-
Lists of pairs whose keys ascend. Each key stands once, with the value that
was set for it last.
-/

namespace CloudSession.Ascending

/-- Sets the value of a key, in place of a former one. -/
def insert {α : Type} (key : String) (value : α) : List (String × α) → List (String × α)
  | [] => [(key, value)]
  | (k, v) :: rest =>
    if key < k then (key, value) :: (k, v) :: rest
    else if key = k then (key, value) :: rest
    else (k, v) :: insert key value rest

/-- The pairs in ascending order; of a repeated key the last value stays. -/
def ofList {α : Type} (pairs : List (String × α)) : List (String × α) :=
  pairs.foldl (fun sorted (k, v) => insert k v sorted) []

end CloudSession.Ascending
