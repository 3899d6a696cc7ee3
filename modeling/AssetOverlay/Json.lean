import AssetOverlay.Number.Double

/-!
# JSON trees

What a JSON text denotes.  The members of an object are kept in ascending order of their names, each
name once.
-/

namespace AssetOverlay.Json

/-- A number: an integer if it is one of 64 bits, signed or unsigned, and a double otherwise. -/
inductive Number where
  | integer (value : Int)
  | real (value : Double)
deriving DecidableEq

/-- A JSON value. -/
inductive Tree where
  | null
  | bool (value : Bool)
  | number (value : Number)
  | text (value : String)
  | list (items : List Tree)
  | object (members : List (String × Tree))

namespace Tree

/-- Sets a member among members in ascending order of their names. -/
def insertMember (name : String) (value : Tree) :
    List (String × Tree) → List (String × Tree)
  | [] => [(name, value)]
  | first :: rest =>
    if name < first.1 then (name, value) :: first :: rest
    else if name = first.1 then (name, value) :: rest
    else first :: insertMember name value rest

/-- The object of a list of members, in which the last one of a name counts. -/
def ofMembers (members : List (String × Tree)) : Tree :=
  .object (members.foldl (fun sorted member ↦ insertMember member.1 member.2 sorted) [])

/-- The member of an object with the given name. -/
def member? (tree : Tree) (name : String) : Option Tree :=
  match tree with
  | .object members => (members.find? fun member ↦ member.1 == name).map Prod.snd
  | _ => none

/-- The text that a tree is. -/
def text? : Tree → Option String
  | .text value => some value
  | _ => none

/-- The items of the list that a tree is. -/
def items? : Tree → Option (List Tree)
  | .list items => some items
  | _ => none

/-- The members of the object that a tree is. -/
def members? : Tree → Option (List (String × Tree))
  | .object members => some members
  | _ => none

end Tree

end AssetOverlay.Json
