import RecordFilter.Clause.Operator
import RecordFilter.Value.Display
import RecordFilter.Value.Equality

/-!
Expressions: clauses that have been read, with a record key, an operator and a typed value.
-/

namespace RecordFilter

/-- A condition on one field of a record. -/
structure Expression where
  field : Text
  operator : Operator
  value : Value
  kind : Kind := .string

namespace Expression

/-- Why an expression has no text. -/
inductive TextFault
  /-- A value in it is too long to be written. -/
  | value (fault : Fault)
  /-- A list in it holds something that is not a text. -/
  | itemNotText
  deriving DecidableEq

/-- The expression in the form of a clause. -/
def text (e : Expression) : Except TextFault Text :=
  match e.value with
  | .tuple items =>
    match (Value.tuple items).texts? with
    | none => .error .itemNotText
    | some texts =>
      .ok (e.field ++ e.operator.token ++ '(' :: Text.join [','] texts ++ [')'])
  | value =>
    match value.display with
    | .error fault => .error (.value fault)
    | .ok shown => .ok (e.field ++ e.operator.text ++ shown)

/-- What the value is compared by when expressions are. An undefined number would differ from
    itself, so a tuple stands for it. -/
def key (e : Expression) : Value :=
  match e.value with
  | .float x => if x.isNaN then .tuple [.text "nan".toList] else .float x
  | value => value

/-- Whether two expressions are the same. -/
def same (a b : Expression) : Bool :=
  a.field = b.field && a.operator = b.operator && a.key.same b.key && a.kind = b.kind

/-- Whether the expression can be a member of a set. -/
def isHashable (e : Expression) : Bool :=
  e.key.isHashable

/-- The expressions without those that are the same as an earlier one. -/
def distinct (expressions : List Expression) : List Expression :=
  expressions.foldl (fun kept e => if kept.any (same e) then kept else kept ++ [e]) []

/-- Whether two rows of expressions are the same. -/
def sameAll : List Expression → List Expression → Bool
  | [], [] => true
  | a :: as, b :: bs => same a b && sameAll as bs
  | _, _ => false

end Expression

end RecordFilter
