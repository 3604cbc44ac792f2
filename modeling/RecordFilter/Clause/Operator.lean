import RecordFilter.Text.Basic

/-!
The operators of clauses.
-/

namespace RecordFilter

/-- An operator between a field and a value. -/
inductive Operator
  | equals | notEquals | contains | notContains | greater | less | greaterEqual | lessEqual
  | pattern | isIn | notIn
  deriving DecidableEq, Repr

namespace Operator

/-- The operator as it is written. -/
def text : Operator → Text
  | equals => ['=']
  | notEquals => ['!', '=']
  | contains => ['~']
  | notContains => ['!', '~']
  | greater => ['>']
  | less => ['<']
  | greaterEqual => ['>', '=']
  | lessEqual => ['<', '=']
  | pattern => ['=', '~']
  | isIn => ['i', 'n']
  | notIn => ['n', 'o', 't', ' ', 'i', 'n']

/-- All operators. -/
def all : List Operator :=
  [equals, notEquals, contains, notContains, greater, less, greaterEqual, lessEqual, pattern,
    isIn, notIn]

theorem mem_all (op : Operator) : op ∈ all := by
  cases op <;> simp [all]

/-- The operator that is written so. -/
def ofText? (text : Text) : Option Operator :=
  all.find? (·.text = text)

/-- Whether the operator is followed by a list of values. -/
def takesList (op : Operator) : Bool :=
  op = isIn || op = notIn

/-- Whether the operator compares by order. -/
def isOrdered (op : Operator) : Bool :=
  op = greater || op = less || op = greaterEqual || op = lessEqual

/-- The operators made of signs, in the order in which a clause is searched for them. An operator
    comes before those that are part of it. -/
def symbolic : List Operator :=
  [notEquals, notContains, greaterEqual, lessEqual, pattern, equals, contains, greater, less]

/-- The word of a list operator between blanks, as it occurs in a clause. -/
def token (op : Operator) : Text :=
  ' ' :: op.text ++ [' ']

end Operator

end RecordFilter
