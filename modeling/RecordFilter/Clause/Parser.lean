import RecordFilter.Clause.Expression
import RecordFilter.Clause.Field
import RecordFilter.Clause.Split

/-!
Reading clauses.

A list operator is looked for first, then the operators made of signs in a fixed order, each at its
first occurrence. A sign at the very beginning is no operator, because a field has to stand before
it.
-/

namespace RecordFilter

/-- What kind of fault a clause has. -/
inductive ClauseFault
  | general
  | noOperator
  | invalidList
  | unparseable
  deriving DecidableEq, Repr

/-- The name by which reports call the fault. -/
def ClauseFault.name : ClauseFault → Text
  | general => "FilterParseError".toList
  | noOperator => "NoOperatorError".toList
  | invalidList => "InvalidListExpressionError".toList
  | unparseable => "UnparseableClauseError".toList

/-- Why a text is not a filter, with the clause in question. -/
structure ParseError where
  fault : ClauseFault
  wording : Text
  clause : Option Text
  deriving DecidableEq

/-- The message of the error, which shows the clause. -/
def ParseError.message (e : ParseError) : Text :=
  match e.clause with
  | none => e.wording
  | some clause => "invalid filter expression '".toList ++ clause ++ "': ".toList ++ e.wording

namespace Clause

/-- The clause has nothing in it. -/
def emptyClause (clause : Text) : ParseError :=
  ⟨.unparseable, "empty clause".toList, some clause⟩

/-- The clause has no operator. -/
def noOperator (clause : Text) : ParseError :=
  ⟨.noOperator, "no valid operator found".toList, some clause⟩

/-- The clause has a list operator and nothing on one side of it. -/
def missingSide (op : Operator) (clause : Text) : ParseError :=
  ⟨.invalidList, "invalid '".toList ++ op.text ++ "' expression".toList, some clause⟩

/-- Takes one layer of equal quotes off a text. -/
def unquote (text : Text) : Text :=
  match text with
  | first :: rest =>
    if Cursor.isQuote first && rest.getLast? = some first then rest.dropLast else text
  | [] => []

/-- Whether a character encloses a list. -/
def isParenthesis (c : Char) : Bool :=
  c = '(' || c = ')'

/-- The items of a list, which is enclosed in any number of parentheses. -/
def listItems (text : Text) : List Text :=
  (Text.splitOn [','] (Text.trimBy isParenthesis text)).map Text.trim

/-- Reads what is before and after a list operator. -/
def readList (aliases : AliasTable) (clause : Text) (op : Operator) (before after : Text) :
    Except ParseError Expression :=
  let field := Text.trim before
  let items := Text.trim after
  if field.isEmpty || items.isEmpty then .error (missingSide op clause)
  else .ok ⟨aliases.canonical field, op, .tuple ((listItems items).map .text), .stringList⟩

/-- The field and the typed value around an operator. -/
def readPair (aliases : AliasTable) (op : Operator) (before after : Text) : Expression :=
  let scalar := Scalar.read (unquote (Text.trim after))
  ⟨aliases.canonical (Text.trim before), op, .ofScalar scalar, scalar.kind⟩

/-- What is before and after the first occurrence of an operator, unless it begins the clause. -/
def cutAt? (clause : Text) (op : Operator) : Option (Operator × Text × Text) :=
  match Text.cut? op.text clause with
  | some (c :: before, after) => some (op, c :: before, after)
  | _ => none

/-- Reads one clause. -/
def read (aliases : AliasTable) (clause : Text) : Except ParseError Expression :=
  if Text.isBlankText clause then .error (emptyClause clause)
  else
    match Text.cut? Operator.notIn.token clause with
    | some (before, after) => readList aliases clause .notIn before after
    | none =>
      match Text.cut? Operator.isIn.token clause with
      | some (before, after) => readList aliases clause .isIn before after
      | none =>
        match Operator.symbolic.findSome? (cutAt? clause) with
        | some (op, before, after) => .ok (readPair aliases op before after)
        | none => .error (noOperator clause)

/-- Reads all clauses of a text, or none. -/
def readAll (aliases : AliasTable) (text : Text) : Except ParseError (List Expression) :=
  (split text).mapM (read aliases)

end Clause

end RecordFilter
