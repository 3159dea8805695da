/-
  Operators of the expression language
-/

namespace ScriptedTemplate

/-- The operators between two expressions. -/
inductive Operator where
  | or
  | and
  | equal
  | unequal
  | less
  | lessEqual
  | greater
  | greaterEqual
  | within
  | plus
  | minus
  | join
  | times
  | divide
  | floorDivide
  | modulo
  | power
  deriving DecidableEq, Repr

namespace Operator

/-- Whether an operator answers whether its operands are in a relation. -/
def isComparison : Operator → Bool
  | equal | unequal | less | lessEqual | greater | greaterEqual | within => true
  | _ => false

end Operator

end ScriptedTemplate
