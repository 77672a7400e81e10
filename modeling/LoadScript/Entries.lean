/-!
Keyed entries in the order in which their keys first came.
-/

namespace LoadScript

abbrev Entries (α : Type) := List (String × α)

namespace Entries

variable {α : Type}

def put (key : String) (value : α) : Entries α → Entries α
  | [] => [(key, value)]
  | (present, old) :: rest =>
      if present = key then (present, value) :: rest else (present, old) :: put key value rest

def find? (entries : Entries α) (key : String) : Option α :=
  entries.lookup key

def hasKey (entries : Entries α) (key : String) : Bool :=
  (entries.lookup key).isSome

end Entries

end LoadScript
