namespace CurlScribe.Fields

def put (key : String) (value : α) : List (String × α) → List (String × α)
  | [] => [(key, value)]
  | (k, v) :: rest => if k = key then (k, value) :: rest else (k, v) :: put key value rest

/-- A dictionary of the items: a key is where it first is, and has its last value. -/
def ofItems (items : List (String × α)) : List (String × α) :=
  items.foldl (fun fields (key, value) => put key value fields) []

def repeated (seen : List String) : List String → List String
  | [] => []
  | key :: rest =>
    if seen.contains key then key :: repeated seen rest else repeated (key :: seen) rest

def values (key : String) (items : List (String × α)) : List α :=
  (items.filter (·.1 = key)).map (·.2)

end CurlScribe.Fields
