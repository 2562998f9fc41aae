/-!
# Aggregates

The aggregate functions a field can apply, under their canonical names.
-/

namespace ParamSql

inductive Aggregate
  | count
  | sum
  | max
  | min
  | avg
  | first
  | last
  | stDev
  | stDevP
  | var
  | varP
deriving DecidableEq, Repr

namespace Aggregate

def all : List Aggregate :=
  [count, sum, max, min, avg, first, last, stDev, stDevP, var, varP]

theorem mem_all (a : Aggregate) : a ∈ all := by cases a <;> decide

def name : Aggregate → String
  | count => "COUNT"
  | sum => "SUM"
  | max => "MAX"
  | min => "MIN"
  | avg => "AVG"
  | first => "FIRST"
  | last => "LAST"
  | stDev => "STDEV"
  | stDevP => "STDEVP"
  | var => "VAR"
  | varP => "VARP"

def isCommon : Aggregate → Bool
  | count | sum | max | min | avg => true
  | _ => false

/-- Name of a sample or population statistic in the SQL standard. -/
def standardStatistic? : Aggregate → Option String
  | stDev => some "STDDEV_SAMP"
  | stDevP => some "STDDEV_POP"
  | var => some "VAR_SAMP"
  | varP => some "VAR_POP"
  | _ => none

end Aggregate

end ParamSql
