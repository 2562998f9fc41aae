import ParamSql.Dialect.Basic

/-!
# Tokens

The words and marks that statement text is made of. A list of tokens becomes
text by joining the text of each; blanks are tokens of their own.
-/

namespace ParamSql

inductive Keyword
  | SELECT
  | DISTINCT
  | TOP
  | FROM
  | WHERE
  | AND
  | OR
  | NOT
  | AS
  | ON
  | JOIN
  | INNER
  | LEFT
  | RIGHT
  | FULL
  | OUTER
  | GROUP_BY
  | HAVING
  | ORDER_BY
  | ASC
  | DESC
  | LIMIT
  | OFFSET
  | IN
  | BETWEEN
  | LIKE
  | IS_NULL
  | IS_NOT_NULL
  | INSERT
  | INTO
  | VALUES
  | UPDATE
  | SET
  | DELETE
deriving DecidableEq, Repr

namespace Keyword

def all : List Keyword :=
  [SELECT, DISTINCT, TOP, FROM, WHERE, AND, OR, NOT, AS, ON, JOIN, INNER, LEFT, RIGHT, FULL,
   OUTER, GROUP_BY, HAVING, ORDER_BY, ASC, DESC, LIMIT, OFFSET, IN, BETWEEN, LIKE, IS_NULL,
   IS_NOT_NULL, INSERT, INTO, VALUES, UPDATE, SET, DELETE]

theorem mem_all (word : Keyword) : word ∈ all := by cases word <;> decide

def text : Keyword → String
  | SELECT => "SELECT"
  | DISTINCT => "DISTINCT"
  | TOP => "TOP"
  | FROM => "FROM"
  | WHERE => "WHERE"
  | AND => "AND"
  | OR => "OR"
  | NOT => "NOT"
  | AS => "AS"
  | ON => "ON"
  | JOIN => "JOIN"
  | INNER => "INNER"
  | LEFT => "LEFT"
  | RIGHT => "RIGHT"
  | FULL => "FULL"
  | OUTER => "OUTER"
  | GROUP_BY => "GROUP BY"
  | HAVING => "HAVING"
  | ORDER_BY => "ORDER BY"
  | ASC => "ASC"
  | DESC => "DESC"
  | LIMIT => "LIMIT"
  | OFFSET => "OFFSET"
  | IN => "IN"
  | BETWEEN => "BETWEEN"
  | LIKE => "LIKE"
  | IS_NULL => "IS NULL"
  | IS_NOT_NULL => "IS NOT NULL"
  | INSERT => "INSERT"
  | INTO => "INTO"
  | VALUES => "VALUES"
  | UPDATE => "UPDATE"
  | SET => "SET"
  | DELETE => "DELETE"

end Keyword

/-- Punctuation, comparison signs and the blank. -/
inductive Mark
  | comma
  | dot
  | star
  | opening
  | closing
  | equal
  | notEqual
  | less
  | greater
  | lessOrEqual
  | greaterOrEqual
  | space
deriving DecidableEq, Repr

def Mark.text : Mark → String
  | comma => ","
  | dot => "."
  | star => "*"
  | opening => "("
  | closing => ")"
  | equal => "="
  | notEqual => "<>"
  | less => "<"
  | greater => ">"
  | lessOrEqual => "<="
  | greaterOrEqual => ">="
  | space => " "

inductive Token
  | keyword (word : Keyword)
  | mark (sign : Mark)
  /-- Name of a table or column or another name for one, written as it is. -/
  | identifier (text : String)
  /-- Placeholder of a bound parameter, held by its name. -/
  | placeholder (name : String)
  | integer (n : Int)
  /-- SQL text taken over as it is. -/
  | raw (sql : String)
deriving DecidableEq, Repr

namespace Token

def text (d : Dialect) : Token → String
  | keyword word => word.text
  | mark sign => sign.text
  | identifier text => text
  | placeholder name => d.placeholderMark ++ "PN_" ++ name
  | integer n => toString n
  | raw sql => sql

abbrev space : Token := .mark .space
abbrev comma : Token := .mark .comma
abbrev dot : Token := .mark .dot
abbrev star : Token := .mark .star
abbrev opening : Token := .mark .opening
abbrev closing : Token := .mark .closing

/-- Text of a list of tokens in a dialect. -/
def textOf (d : Dialect) (tokens : List Token) : String :=
  String.join (tokens.map (text d))

/-- Names held by the placeholders, from left to right. -/
def placeholders (tokens : List Token) : List String :=
  tokens.filterMap fun
    | placeholder name => some name
    | _ => none

@[simp] theorem placeholders_append (a b : List Token) :
    placeholders (a ++ b) = placeholders a ++ placeholders b := by
  simp [placeholders]

/-- Tokens between parentheses. -/
def parenthesized (tokens : List Token) : List Token := opening :: tokens ++ [closing]

end Token

end ParamSql
