
namespace QualityGate.Members

variable {α : Type}

/-- A member takes the place that its name has in the order, or that of an older one of its name. -/
def insert (name : String) (value : α) : List (String × α) → List (String × α)
  | [] => [(name, value)]
  | (n, v) :: rest =>
    if name < n then (name, value) :: (n, v) :: rest
    else if name = n then (name, value) :: rest
    else (n, v) :: insert name value rest

/-- The members in the order of their names; of two with one name the later one counts. -/
def arrange (members : List (String × α)) : List (String × α) :=
  members.foldl (fun sorted m => insert m.1 m.2 sorted) []

end QualityGate.Members
