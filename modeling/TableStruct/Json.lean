/-!
# JSON values

A JSON value as it is written: numbers keep their literal, and an object
keeps all its members in order, repeated names included. A string literal
may name half of a surrogate pair alone, and then holds no text.
-/

namespace TableStruct

/-- A JSON value. A string without text is a literal with an unpaired
surrogate. -/
inductive Json where
  /-- The null literal. -/
  | null
  /-- A truth value. -/
  | bool (value : Bool)
  /-- A number, by its literal. -/
  | number (literal : String)
  /-- A string. -/
  | string (text : Option String)
  /-- An array. -/
  | array (items : List Json)
  /-- An object, its members in order. -/
  | object (members : List (Option String × Json))

namespace Json

/-- The string with a text. -/
def text (s : String) : Json :=
  .string (some s)

/-- The values of the members of a name, in order. -/
def valuesOf (name : String) (members : List (Option String × Json)) : List Json :=
  (members.filter fun m => m.1 == some name).map Prod.snd

/-- The text of a string. -/
def text? : Json → Option String
  | .string t => t
  | _ => none

end Json

end TableStruct
