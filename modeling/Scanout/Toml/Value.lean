/-!
# TOML values

Integers are unbounded and floats are kept as they are written, so what fits where is decided by
the reader of a value. Tables and arrays remember how they were written, because that decides what
may still be added to them.
-/

namespace Scanout.Toml

inductive FloatLiteral where
  | infinity
  | nan
  /-- The mantissa times a power of ten. -/
  | decimal (mantissa : Nat) (exponent : Int)
  deriving DecidableEq, Repr

inductive TableKind where
  /-- Under a header, or the document itself. -/
  | explicit
  /-- On the way to a header's table. -/
  | implicit
  /-- On the way to a dotted key. -/
  | dotted
  /-- Between braces. -/
  | inline
  deriving DecidableEq, Repr

inductive Value where
  | string (text : String)
  | integer (value : Int)
  /-- A number that is set like an integer but is none. Only who reads it minds. -/
  | misspelt
  | float (literal : FloatLiteral)
  | boolean (value : Bool)
  | dateTime (text : String)
  | array (items : List Value)
  /-- An array that headers add tables to. -/
  | tables (elements : List Value)
  | table (kind : TableKind) (entries : List (String × Value))

abbrev Entries : Type := List (String × Value)

end Scanout.Toml
