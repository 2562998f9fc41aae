import ParamSql.Settings.Basic
import ParamSql.Select.Builder
import ParamSql.Statement.Delete
import ParamSql.Timestamp.Layout

/-!
# Databases

A database fixes the dialect of the statements that are made for it. Here timestamps get the texts
of `Timestamp.Layout`.
-/

namespace ParamSql

structure Database where
  dialect : Dialect := default
deriving DecidableEq, Repr

namespace Database

def ofConnection (c : Connection) (env : Environment) : Except Error Database :=
  (c.dialect env).map Database.mk

def ofConnectionString (text : String) : Except Error Database :=
  (Dialect.detect text).map Database.mk

def select (db : Database) (table : String) : Select := Select.ofTable db.dialect table

def selectFrom (db : Database) (inner : Select) : Select := Select.ofQuery db.dialect inner

def insert (db : Database) (table : String) : Insert := { dialect := db.dialect, table }

def update (db : Database) (table : String) : Update := { dialect := db.dialect, table }

def delete (db : Database) (table : String) : Delete := { dialect := db.dialect, table }

/-- The command that fetches the identity generated last. -/
def identityCommand (db : Database) : Except Error Command := db.dialect.identityCommand

end Database

end ParamSql
