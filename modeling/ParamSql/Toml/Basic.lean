/-!
# Settings texts

The values of a settings text in the TOML format. Reading them off the text is
a library's.
-/

namespace ParamSql

inductive Toml.Value
  | text (s : String)
  /-- Digits of a base, perhaps behind a sign, as they are spelled. -/
  | integer (base : Nat) (digits : List Char)
  /-- A decimal as it is spelled. -/
  | float (digits : List Char)
  /-- An infinity, or a float that is not a number. -/
  | nonFinite (spelling : String)
  | boolean (b : Bool)
  /-- A date, a time of day or both. -/
  | moment (spelling : String)
  | list (items : List Value)
  | table (entries : List (String × Value))

/-- How a library reads settings texts. -/
class TomlReader where
  /-- The entries that a text defines. -/
  read? (text : String) : Option (List (String × Toml.Value))
  /-- Whether a value can be read, which not every spelling of a number can. -/
  isReadable : Toml.Value → Bool

end ParamSql
