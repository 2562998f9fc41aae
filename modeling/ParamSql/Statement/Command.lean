import ParamSql.Document.Basic

/-!
# Commands

A rendered statement: its text and the parameters that its placeholders stand
for, in the order of the text.
-/

namespace ParamSql

structure Command where
  kind : StatementKind
  text : String
  parameters : List Parameter
deriving DecidableEq

namespace Command

/-- Fill the holes of a document and write it out. -/
def ofDocument (kind : StatementKind) (d : Dialect) (document : Document) :
    Except Error Command :=
  (document.render d).map fun (text, parameters) => { kind, text, parameters }

/-- The first parameter of a name. -/
def parameter? (c : Command) (name : String) : Option Parameter :=
  c.parameters.find? fun p => p.name? == some name

end Command

end ParamSql
