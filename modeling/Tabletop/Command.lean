/-
This file defines the commands and reactions of users.
-/

import Tabletop.Json.Decode
import Tabletop.Text.Cut
import Tabletop.Text.Lowercase

namespace Tabletop

/-- The standing of a user in a channel. -/
inductive Role where
  | user
  | admin
  | owner
deriving DecidableEq, Repr

/-- The role with a name. Other users have no standing. -/
def Role.ofName : String → Role
  | "admin" => .admin
  | "owner" => .owner
  | _ => .user

/-- Who sends a command, and where. -/
structure Context where
  user : String
  username : String
  role : Role
  channel : String
  /-- The message that carries the command. -/
  message : Option String
  /-- The message that the command answers. -/
  replyTo : Option String
deriving DecidableEq, Repr

/-- Admins and owners may act on the cards of others. -/
def Context.isAdmin (context : Context) : Bool :=
  context.role != .user

/-- The text that calls a user. -/
def mention (user : String) : String :=
  "<at id=\"" ++ user ++ "\"/>"

structure Command where
  text : String
  context : Context
deriving DecidableEq, Repr

/-- An emoji that a user puts on a message. -/
structure Reaction where
  context : Context
  message : String
  emoji : String
deriving DecidableEq, Repr

namespace Command

open Text

/-- The command in a text that starts with a dot. -/
def afterDot? (text : List Char) : Option (List Char) :=
  match trimStart text with
  | '.' :: rest => some (trim rest)
  | '。' :: rest => some (trim rest)
  | _ => none

/-- What follows a keyword, in any ASCII case. No ASCII letter may follow it at once. -/
def afterKeyword? (keyword text : List Char) : Option (List Char) :=
  match after? (asciiLower keyword) (asciiLower text) with
  | none => none
  | some _ =>
    let rest := text.drop keyword.length
    match rest with
    | char :: _ => if char.isAlpha then none else some (trim rest)
    | [] => some []

/-- What follows the first of some keywords that a text starts with. -/
def afterAnyKeyword? (keywords : List String) (text : List Char) : Option (List Char) :=
  keywords.findSome? fun keyword => afterKeyword? keyword.toList text

/-- The parts between commas, trimmed. Empty ones are dropped. -/
def list (text : List Char) : List String :=
  (((splitBy (fun char => char == ',' || char == '，') text).map trim).filter
    (fun part => !part.isEmpty)).map String.ofList

end Command

end Tabletop
