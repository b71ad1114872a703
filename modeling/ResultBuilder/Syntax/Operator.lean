/-!
# Operators

The operators of expressions, how they are written and how tightly the binary ones bind.
-/

namespace ResultBuilder.Syntax

/-- The operators before an operand. -/
inductive UnaryOp where
  | not
  | negate
  deriving DecidableEq, Repr

/-- How an operator before an operand is written. -/
def UnaryOp.text : UnaryOp → String
  | .not => "!"
  | .negate => "-"

/-- The operators between two operands. -/
inductive BinaryOp where
  | or
  | and
  | equal
  | notEqual
  | less
  | greater
  | lessEqual
  | greaterEqual
  | coalesce
  | add
  | subtract
  | multiply
  | divide
  | remainder
  deriving DecidableEq, Repr

namespace BinaryOp

/-- How an operator between two operands is written. -/
def text : BinaryOp → String
  | .or => "||"
  | .and => "&&"
  | .equal => "=="
  | .notEqual => "!="
  | .less => "<"
  | .greater => ">"
  | .lessEqual => "<="
  | .greaterEqual => ">="
  | .coalesce => "??"
  | .add => "+"
  | .subtract => "-"
  | .multiply => "*"
  | .divide => "/"
  | .remainder => "%"

/-- How tightly an operator binds: the higher, the tighter. -/
def precedence : BinaryOp → Nat
  | .or => 1
  | .and => 2
  | .equal | .notEqual | .less | .greater | .lessEqual | .greaterEqual => 3
  | .coalesce => 4
  | .add | .subtract => 5
  | .multiply | .divide | .remainder => 6

/-- Whether the result of an operator is a truth value. -/
def isComparison : BinaryOp → Bool
  | .or | .and | .equal | .notEqual | .less | .greater | .lessEqual | .greaterEqual => true
  | .coalesce | .add | .subtract | .multiply | .divide | .remainder => false

/-- Every operator binds. -/
theorem precedence_pos (op : BinaryOp) : 0 < op.precedence := by
  cases op <;> decide

end BinaryOp

/-- The operators directly after an operand. -/
inductive PostfixOp where
  /-- Goes on only when there is a value. -/
  | optional
  /-- Insists on a value. -/
  | force
  deriving DecidableEq, Repr

/-- How an operator after an operand is written. -/
def PostfixOp.text : PostfixOp → String
  | .optional => "?"
  | .force => "!"

end ResultBuilder.Syntax
