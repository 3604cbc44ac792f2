import RecordFilter.Clause.Parser

/-!
Filters: expressions joined by one logic, with a name and a description if they have one.
-/

namespace RecordFilter

/-- A list of conditions. Any logic but `OR` asks for all of them. -/
structure Filter where
  expressions : List Expression := []
  logic : Text := "AND".toList
  name : Option Text := none
  description : Option Text := none

namespace Filter

/-- The logic that asks for one of the conditions. -/
def orLogic : Text := "OR".toList

/-- The logic that asks for all conditions. -/
def andLogic : Text := "AND".toList

/-- Whether one of the conditions is enough. -/
def isAny (f : Filter) : Bool :=
  f.logic = orLogic

/-- Whether the filter has no conditions. -/
def isEmpty (f : Filter) : Bool :=
  f.expressions.isEmpty

/-- The filter with another logic. -/
def withLogic (f : Filter) (logic : Text) : Filter :=
  { f with logic }

/-- Reads a filter. A text without clauses is the filter without conditions. -/
def parse (aliases : AliasTable) (text : Text) (logic : Text := andLogic)
    (name description : Option Text := none) : Except ParseError Filter :=
  (Clause.readAll aliases text).map fun expressions => ⟨expressions, logic, name, description⟩

/-- The filter in the form in which it can be read. -/
def text (f : Filter) : Except Expression.TextFault Text :=
  (f.expressions.mapM Expression.text).map (Text.join [' '])

/-- Whether two filters are the same. -/
def same (a b : Filter) : Bool :=
  Expression.sameAll a.expressions b.expressions && a.logic = b.logic && a.name = b.name &&
    a.description = b.description

end Filter

end RecordFilter
