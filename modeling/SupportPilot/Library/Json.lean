import Mathlib.Data.List.Infix
import Mathlib.Data.Rat.Defs

/-!
# JSON values

Decoded documents as Python holds them. An object is the list of its fields in their order, and
equality is that of Python: numbers are compared by value, and objects without regard to order.
-/

namespace SupportPilot.Library

inductive Json
  | null
  | bool (b : Bool)
  | int (n : Int)
  | float (q : Rat)
  | string (s : String)
  | list (items : List Json)
  | object (fields : List (String × Json))

abbrev JsonObject := List (String × Json)

namespace Json

/-- The number that a value stands for in a comparison. -/
def number : Json → Option Rat
  | .bool b => some (if b then 1 else 0)
  | .int n => some n
  | .float q => some q
  | _ => none

mutual

/-- `==` -/
def equal : Json → Json → Bool
  | .null, .null => true
  | .string s, .string t => s = t
  | .list xs, .list ys => equalItems xs ys
  | .object xs, .object ys => xs.length = ys.length && equalFields xs ys
  | a, b =>
    match a.number, b.number with
    | some p, some q => p = q
    | _, _ => false

def equalItems : List Json → List Json → Bool
  | [], [] => true
  | x :: xs, y :: ys => equal x y && equalItems xs ys
  | _, _ => false

def equalFields : JsonObject → JsonObject → Bool
  | [], _ => true
  | (key, x) :: xs, ys =>
    (match ys.lookup key with
      | some y => equal x y
      | none => false) && equalFields xs ys

end

/-- A value that can be looked up in a dictionary. -/
def hashable : Json → Bool
  | .list _ | .object _ => false
  | _ => true

/-- `dict.get` with any value as the key: `none` for one that cannot be hashed, and `null` for
one that is missing. -/
def get (fields : JsonObject) : Json → Option Json
  | .string key => some ((fields.lookup key).getD .null)
  | .list _ | .object _ => none
  | _ => some .null

/-- `value in container`; `none` where Python raises `TypeError`. -/
def member (value : Json) : Json → Option Bool
  | .list items => some (items.any value.equal)
  | .string text =>
    match value with
    | .string part => some (part.toList <:+: text.toList)
    | _ => none
  | .object fields =>
    match value with
    | .list _ | .object _ => none
    | .string key => some (fields.lookup key).isSome
    | _ => some false
  | _ => none

end Json

end SupportPilot.Library
