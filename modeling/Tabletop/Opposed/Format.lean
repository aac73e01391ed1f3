/-
This file writes what is kept of open rolls as JSON and reads it back.
-/

import Tabletop.Card.Format
import Tabletop.Opposed

namespace Tabletop

namespace Snapshot

def toJson (snapshot : Snapshot) : Json :=
  .object [("user", .string snapshot.user), ("username", .string snapshot.username),
    ("card_type", .string snapshot.cardKind.name), ("skill", .string snapshot.skill),
    ("level", .ofOption (fun (level : Level) => .string level.name) snapshot.level),
    ("target", .int snapshot.target), ("total", .int snapshot.total),
    ("output", .string snapshot.output)]

def decode : Decoder Snapshot := fun json => do
  let record ← json.objectRecord?
    ["user", "username", "card_type", "skill", "level", "target", "total", "output"]
  return { user := ← record.required "user" .string
           username := ← record.required "username" .string
           cardKind := ← record.required "card_type" CardKind.decode
           skill := ← record.required "skill" .string
           level := ← record.optional "level" Level.decode
           target := ← record.required "target" .word
           total := ← record.required "total" .word
           output := ← record.required "output" .string }

end Snapshot

end Tabletop
