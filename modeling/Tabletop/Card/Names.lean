/-
This file defines how names find their keys: by synonyms, and without regard to ASCII case.
-/

import Tabletop.Table
import Tabletop.Text.Lowercase

namespace Tabletop

/-- Other names of keys. Names do not depend on ASCII case. -/
abbrev Synonyms := List (String × String)

namespace Synonyms

/-- The key of a name, which is the name itself if it is no synonym. -/
def keyOf (synonyms : Synonyms) (name : String) : String :=
  ((synonyms.find? fun pair => Text.sameUpToAsciiCase pair.1 name).map (·.2)).getD name

/-- The synonyms of a key. -/
def namesOf (synonyms : Synonyms) (key : String) : List String :=
  (synonyms.filter (·.2 == key)).map (·.1)

end Synonyms

namespace Table

variable {α : Type}

/-- The entry of a name: the one with exactly this key, or else the first one up to ASCII case. -/
def lookup? (table : Table α) (name : String) : Option (String × α) :=
  match table[name]? with
  | some value => some (name, value)
  | none => table.toList.find? fun entry => Text.sameUpToAsciiCase entry.1 name

/-- The key under which a name is kept, which is the name itself if there is none. -/
def keyFor (table : Table α) (name : String) : String :=
  ((table.lookup? name).map (·.1)).getD name

end Table

end Tabletop
