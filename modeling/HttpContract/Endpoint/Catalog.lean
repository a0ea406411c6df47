import HttpContract.Endpoint.Basic

/-!
# Catalogs of endpoints

A catalog finds endpoints by name and by route, a method and a path. Both are unique in it: an endpoint with a name or a
route that is taken is refused and changes nothing. It lists its endpoints by path, method and name, in whatever order they
came.
-/

namespace HttpContract

/-- The key of a method and a path. -/
def routeKey (method path : String) : String := Text.upper method ++ " " ++ path

/-- The key of an endpoint's own route. -/
def Endpoint.route (e : Endpoint) : String := routeKey e.metadata.method.name e.metadata.path

/-- Endpoints under their names and under their routes. -/
structure Catalog where
  byName : List (String × Endpoint)
  byRoute : List (String × Endpoint)

/-- Why an endpoint cannot join a catalog. -/
inductive RegisterError where
  | nameTaken (name : String)
  | routeTaken (route other : String)
  deriving DecidableEq, Repr

/-- The error in words. -/
def RegisterError.message : RegisterError → String
  | .nameTaken name => "endpoint name already registered: " ++ name
  | .routeTaken route other => "route " ++ route ++ " already registered by " ++ other

namespace Catalog

/-- The catalog without endpoints. -/
def empty : Catalog := ⟨[], []⟩

/-- The endpoint with a name. -/
def get? (c : Catalog) (name : String) : Option Endpoint := member? name c.byName

/-- The endpoint with a route. -/
def atRoute? (c : Catalog) (method path : String) : Option Endpoint := member? (routeKey method path) c.byRoute

/-- Whether there is an endpoint with a name. -/
def contains (c : Catalog) (name : String) : Bool := (c.get? name).isSome

/-- How many endpoints there are. -/
def size (c : Catalog) : Nat := c.byName.length

/-- The catalog with one more endpoint. -/
def register (c : Catalog) (e : Endpoint) : Except RegisterError Catalog :=
  if c.contains e.metadata.name then .error (.nameTaken e.metadata.name)
  else
    match member? e.route c.byRoute with
    | some other => .error (.routeTaken e.route other.metadata.name)
    | none => .ok ⟨c.byName ++ [(e.metadata.name, e)], c.byRoute ++ [(e.route, e)]⟩

/-- Whether an endpoint is not listed after another. -/
def listedBefore (a b : Endpoint) : Bool :=
  if a.metadata.path == b.metadata.path then
    if a.metadata.method == b.metadata.method then decide (a.metadata.name ≤ b.metadata.name)
    else decide (a.metadata.method.name ≤ b.metadata.method.name)
  else decide (a.metadata.path ≤ b.metadata.path)

/-- The endpoints in the order of the listing. -/
def toList (c : Catalog) : List Endpoint := (c.byName.map (·.2)).mergeSort listedBefore

/-- All there is to know about the endpoints. -/
def describe (c : Catalog) : List Value := c.toList.map Endpoint.describe

end Catalog

end HttpContract
