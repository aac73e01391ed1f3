/-
This file changes parts of JSON values.
-/

import Tabletop.Json.Reader

namespace Tabletop.Json

/-- The value with the keys of a patch changed. Objects are merged key by key, and anything else is
replaced. The fuel is how deep the patch may change objects within objects. -/
def mergeWithin : (fuel : Nat) → (value patch : Json) → Json
  | 0, _, patch => patch
  | fuel + 1, .object fields, .object changes =>
    let change (key : String) : Option Json := (Json.object changes).get? key
    let kept := fields.map fun (key, value) =>
      (key, ((change key).map (mergeWithin fuel value)).getD value)
    let added := changes.filter fun (key, _) => !(fields.any (·.1 == key))
    .object (kept ++ added)
  | _ + 1, _, patch => patch

/-- The value with the keys of a patch changed. -/
def merge (value patch : Json) : Json :=
  mergeWithin maxDepth value patch

/-- An object without one of its fields. -/
def without (name : String) : Json → Json
  | .object fields => .object (fields.filter (·.1 != name))
  | json => json

end Tabletop.Json
