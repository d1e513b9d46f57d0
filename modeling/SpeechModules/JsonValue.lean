import Mathlib.Data.List.Basic
import Mathlib.Algebra.Group.Int.Defs

/-!
# Parsed JSON values

The value type behind `rapidjson::Document` and `nlohmann::json`, with the
accessors that the message handlers call.  A document whose text does not parse
holds no value, so handlers receive an optional one.
-/

namespace SpeechModules

/-- A parsed JSON value.  Numbers are split the way the library's own type
tests split them: integers, and everything written with a fraction or an
exponent. -/
inductive Json where
  | null
  | bool (value : Bool)
  | int (value : Int)
  | double (literal : String)
  | string (value : String)
  | array (elements : List Json)
  | object (members : List (String × Json))

namespace Json

/-- `FindMember`: the first member of that name, if the value is an object. -/
def member? (name : String) : Json → Option Json
  | .object members => members.lookup name
  | _ => none

def isObject : Json → Bool
  | .object _ => true
  | _ => false

/-- `IsInt` followed by `GetInt`: integers that fit a 32-bit `int`. -/
def int? : Json → Option Int
  | .int value =>
      if -2 ^ 31 ≤ value ∧ value < 2 ^ 31 then some value else none
  | _ => none

/-- The subscript operator of `nlohmann::json` on a value that can be changed:
the member, and the value with the member in it.  It throws on a value that is
neither an object nor null. -/
def subscript? (name : String) : Json → Option (Json × Json)
  | .null => some (.null, .object [(name, .null)])
  | .object members =>
      match members.lookup name with
      | some member => some (member, .object members)
      | none => some (.null, .object (members ++ [(name, .null)]))
  | _ => none

/-- `is_boolean` followed by a conversion. -/
def bool? : Json → Option Bool
  | .bool value => some value
  | _ => none

/-- `IsString` followed by `GetString`. -/
def string? : Json → Option String
  | .string value => some value
  | _ => none

theorem member?_object (name : String) (members : List (String × Json)) :
    (object members).member? name = members.lookup name :=
  rfl

theorem subscript?_object (name : String) (members : List (String × Json)) :
    (object members).subscript? name =
      match members.lookup name with
      | some member => some (member, object members)
      | none => some (.null, object (members ++ [(name, .null)])) :=
  rfl

/-- Looking up a string leaves the value as it was. -/
theorem subscript?_string {name text : String} {value member after : Json}
    (found : value.subscript? name = some (member, after))
    (isString : member.string? = some text) : after = value := by
  cases value with
  | null =>
      cases found
      cases isString
  | object members =>
      rw [subscript?_object] at found
      split at found
      · cases found
        rfl
      · cases found
        cases isString
  | _ => cases found

/-- The subscript operator and `FindMember` agree on strings. -/
theorem subscript?_bind_string? (name : String) (value : Json) :
    ((value.subscript? name).bind fun found => found.1.string?) =
      (value.member? name).bind string? := by
  cases value with
  | object members =>
      rw [subscript?_object, member?_object]
      cases members.lookup name with
      | none => rfl
      | some member => rfl
  | _ => rfl

/-- A member that is put in does not hide the others. -/
theorem member?_of_subscript? {name other : String}
    {value member after : Json} (different : other ≠ name)
    (found : value.subscript? name = some (member, after)) :
    after.member? other = value.member? other := by
  have absent : List.lookup other [(name, Json.null)] = none := by
    rw [List.lookup_cons, beq_false_of_ne different]
    rfl
  cases value with
  | null =>
      cases found
      exact absent
  | object members =>
      rw [subscript?_object] at found
      split at found
      · cases found
        rfl
      · cases found
        rw [member?_object, member?_object, List.lookup_append, absent,
          Option.or_none]
  | _ => cases found

end Json

end SpeechModules
