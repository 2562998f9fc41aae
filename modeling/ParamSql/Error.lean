import ParamSql.Aggregate
import ParamSql.Condition.Operator
import ParamSql.Dialect.Basic
import ParamSql.Predicate.Vocabulary
import ParamSql.Statement.Kind

/-!
# Errors

Every way in which building, rendering or running a statement fails, by its
cause. The wording is in the `message` functions alone.
-/

namespace ParamSql

/-- An argument that has to be there and is not. -/
inductive Argument
  | column
  | function
  | assignments
deriving DecidableEq, Repr

def Argument.name : Argument → String
  | column => "column"
  | function => "function"
  | assignments => "assignments"

/-- A retrieval that only a SELECT answers. -/
inductive Retrieval
  | rows
  | scalar
  | firstRow
deriving DecidableEq, Repr

def Retrieval.name : Retrieval → String
  | rows => "query_rows"
  | scalar => "query_scalar"
  | firstRow => "query_first_row"

/-- Something a dialect cannot express. -/
inductive Feature
  | aggregate (function : Aggregate)
  | identity
  | deepPageWithoutCount
  | named (description : String)
deriving DecidableEq, Repr

def Feature.description : Feature → String
  | aggregate function => function.name ++ " aggregate"
  | identity => "identity retrieval"
  | deepPageWithoutCount => "paging past the first page without a record count"
  | named description => description

inductive PaginationFault
  | emptySize
  | zeroIndex
  | countOutOfRange (n : UInt64)
  | orderMissing
  | orderNotSelected (name : String)
  | orderUnnamed
deriving DecidableEq, Repr

def PaginationFault.message : PaginationFault → String
  | emptySize => "page size must be at least 1"
  | zeroIndex => "page index is one-based and must be at least 1"
  | countOutOfRange n => "row count " ++ toString n.toNat ++ " is out of range"
  | orderMissing => "paging past the first page requires an ORDER BY"
  | orderNotSelected name =>
    "ORDER BY " ++ name ++ " is not in the field list of the paged query"
  | orderUnnamed => "paging through a subquery requires ORDER BY columns or aliased fields"

inductive PredicateFault
  | unknownMethod (name : String)
  | notBoolean (node : NodeKind)
  | notMember (node : NodeKind)
  | notConstant (node : NodeKind) (method : Method)
  | nullComparison (comparison : Comparison)
  | comparisonOperands (comparison : Comparison)
  | argumentCount (method : Method) (expected actual : Nat)
  | patternNotText (method : Method) (typeName : String)
deriving DecidableEq, Repr

def PredicateFault.message : PredicateFault → String
  | unknownMethod name => "unknown method `" ++ name ++ "`"
  | notBoolean node => node.name ++ " is not a boolean expression"
  | notMember node => node.name ++ " is not a member reference"
  | notConstant node method => node.name ++ " is not a constant argument of " ++ method.name
  | nullComparison comparison =>
    "null can only be compared with == or !=, not " ++ comparison.symbol
  | comparisonOperands comparison =>
    "comparison " ++ comparison.symbol ++
      " needs a member on at least one side and a member or constant on the other"
  | argumentCount method expected actual =>
    method.name ++ " expects " ++ toString expected ++ " argument(s), got " ++ toString actual
  | patternNotText method typeName =>
    method.name ++ " expects a string pattern, got " ++ typeName

/-- Why an entity or one of its properties cannot be bound. -/
inductive EntityFault
  | notObject
  | notTimestamp
  | notByteArray
  | list
  | object
deriving DecidableEq, Repr

def EntityFault.message : EntityFault → String
  | notObject => "entity must serialize to an object"
  | notTimestamp => "not a timestamp"
  | notByteArray => "binary data must be a byte array"
  | list => "arrays cannot be bound as parameters"
  | object => "nested objects cannot be bound as parameters"

/-- What a value is converted to. -/
inductive Target
  | integer
  | float
  | text
  | boolean
  | count
deriving DecidableEq, Repr

def Target.name : Target → String
  | integer => "i64"
  | float => "f64"
  | text => "String"
  | boolean => "bool"
  | count => "u64"

inductive SettingsError
  | fileNotFound (path : String)
  | unreadable
  | malformed
  | missingVariable (name : String)
  | connectionNotFound (name : String)
deriving DecidableEq, Repr

inductive Error
  | missingArgument (argument : Argument)
  | invalidArity (operator : Operator) (actual : Nat)
  | notSupportedFor (kind : StatementKind) (retrieval : Retrieval)
  | unsupported (dialect : Dialect) (feature : Feature)
  | dialectNotRecognized (text : String)
  | invalidPagination (fault : PaginationFault)
  | unsupportedPredicate (fault : PredicateFault)
  | unmappedProperty (entity property : String)
  | unknownEntity (entity : String)
  | unsupportedValue (column : String) (fault : EntityFault)
  | conversion (expected : Target) (actual : String)
  | settings (error : SettingsError)
  | serialization (reason : String)
  | executor (reason : String)
deriving DecidableEq, Repr

/-- Wording of a settings error; what a file system or the reader of the
settings text reports is left to them. -/
def SettingsError.message? : SettingsError → Option String
  | fileNotFound path => some ("Config file not found: " ++ path)
  | unreadable => none
  | malformed => none
  | missingVariable name => some ("Missing environment variable: " ++ name)
  | connectionNotFound name => some ("Connection not found: " ++ name)

def Error.message? : Error → Option String
  | missingArgument argument => some ("missing required argument: " ++ argument.name)
  | invalidArity operator actual =>
    some ("operator `" ++ operator.symbol ++ "` expects " ++ toString operator.arity ++
      " parameter(s), got " ++ toString actual)
  | notSupportedFor kind retrieval =>
    some (retrieval.name ++ " is not supported for " ++ kind.keyword ++ " statements")
  | unsupported dialect feature =>
    some (feature.description ++ " is not supported by the " ++ dialect.name ++ " dialect")
  | dialectNotRecognized text => some ("dialect not recognized: " ++ text)
  | invalidPagination fault => some ("invalid pagination: " ++ fault.message)
  | unsupportedPredicate fault => some ("unsupported predicate: " ++ fault.message)
  | unmappedProperty entity property =>
    some ("no column mapping for property `" ++ property ++ "` of entity `" ++ entity ++ "`")
  | unknownEntity entity => some ("unknown entity: " ++ entity)
  | unsupportedValue column fault =>
    some ("unsupported value for `" ++ column ++ "`: " ++ fault.message)
  | conversion expected actual =>
    some ("cannot convert " ++ actual ++ " value to " ++ expected.name)
  | settings error => error.message?
  | serialization reason => some ("failed to serialize entity: " ++ reason)
  | executor reason => some ("executor failed: " ++ reason)

/-- The method of a name; an unknown name is reported. -/
def Method.ofName (name : String) : Except Error Method :=
  match ofName? name with
  | some m => .ok m
  | none => .error (.unsupportedPredicate (.unknownMethod name))

end ParamSql
