import LayeredConfig.Value.Text

/-!
# Descriptors

A descriptor says which shape a value should have. `describe` writes its structure as a text.
-/

namespace LayeredConfig

/-- What to do when a declared key is absent. -/
inductive Presence where
  | required
  | optional
  | default (value : Value)

/-- Rewrites a value found under a key that is not declared. -/
abbrev KeyMapper := String → Value → Value

/-- The shape of a value. -/
inductive Descriptor where
  | any
  | boolean
  | integer
  | float
  | string
  | ipv4
  | list (item : Descriptor)
  | dict (keys : List (String × Descriptor × Presence)) (unknown : Option KeyMapper)

namespace Presence

/-- A presence as a text. -/
def describe : Presence → String
  | required => "Required"
  | optional => "Optional"
  | default value => "Default(" ++ value.describe ++ ")"

end Presence

namespace Descriptor

/-- What a descriptor asks for, in messages. -/
def expected : Descriptor → String
  | any => "any value"
  | boolean => "a boolean"
  | integer => "an integer"
  | float => "a float"
  | string => "a string"
  | ipv4 => "an IPv4 address"
  | list _ => "a sequence"
  | dict _ _ => "a mapping"

mutual

/-- The structure of a descriptor as a text. -/
def describe : Descriptor → String
  | any => "Any"
  | boolean => "Boolean"
  | integer => "Integer"
  | float => "Float"
  | string => "String"
  | ipv4 => "IPv4"
  | list item => "List(" ++ item.describe ++ ")"
  | dict keys unknown =>
    "Dict(Dict \x7b keys: [" ++ ", ".intercalate (describeKeys keys) ++
      "], unknown_key_mapper: " ++ (if unknown.isSome then "true" else "false") ++ " \x7d)"

/-- The structures of the keys. -/
def describeKeys : List (String × Descriptor × Presence) → List String
  | [] => []
  | (name, d, presence) :: keys =>
    ("Key \x7b name: " ++ Text.quoted name ++ ", descriptor: " ++ d.describe ++ ", presence: " ++
      presence.describe ++ " \x7d") :: describeKeys keys

end

end Descriptor

end LayeredConfig
