/-
This file writes the contenders of initiative lists as JSON.
-/

import Tabletop.Initiative
import Tabletop.Json.Value

namespace Tabletop

def Contender.toJson (contender : Contender) : Json :=
  .object [("kind", .string contender.kind.name), ("id", .string contender.id),
    ("name", .string contender.name), ("seq", .int contender.first),
    ("seq2", .int contender.second)]

end Tabletop
