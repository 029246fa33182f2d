import LayeredConfig.Integer
import LayeredConfig.Toml.Datetime

/-!
# TOML documents

A TOML text read into a tree. The entries of a table are in the order of the text. A table may also
stand for a date or time: its first key is then `datetimeKey`, and its other entries do not count.
`withDates` puts the date or time in the place of every such table.
-/

namespace LayeredConfig

/-- A TOML value. -/
inductive Toml where
  | string (value : String)
  | integer (value : Int64)
  | float (value : Float)
  | bool (value : Bool)
  | datetime (value : Toml.Datetime)
  | array (items : List Toml)
  | table (entries : List (String × Toml))

instance : Inhabited Toml := ⟨.bool false⟩

namespace Toml

/-- The key whose value is the text of a date or time. -/
def datetimeKey : String := "$__toml_private_datetime"

/-- The date or time that a table stands for, if it stands for one; the inner option is absent where
the value of the key is no text of one. -/
def tableDatetime? : List (String × Toml) → Option (Option Datetime)
  | (key, value) :: _ =>
    if key = datetimeKey then match value with
      | .string text => some (Datetime.ofText? text)
      | _ => some none
    else none
  | [] => none

mutual

/-- A value with dates and times in the place of the tables that stand for them. -/
def withDates : Toml → Option Toml
  | .array items => (itemsWithDates items).map .array
  | .table entries => match tableDatetime? entries with
    | some moment => moment.map .datetime
    | none => (entriesWithDates entries).map .table
  | value => some value

/-- Items with dates and times in the place of the tables that stand for them. -/
def itemsWithDates : List Toml → Option (List Toml)
  | [] => some []
  | item :: items => match item.withDates with
    | none => none
    | some item => (itemsWithDates items).map (item :: ·)

/-- Entries with dates and times in the place of the tables that stand for them. -/
def entriesWithDates : List (String × Toml) → Option (List (String × Toml))
  | [] => some []
  | (key, value) :: entries => match value.withDates with
    | none => none
    | some value => (entriesWithDates entries).map ((key, value) :: ·)

end

end Toml

end LayeredConfig
