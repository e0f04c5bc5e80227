import RecordGateway.Store.Truth
/-!
# Queries

What the store carries out: a statement as it is read in SQL text. Its terms are kept as they
are written there.
-/
namespace RecordGateway

/-- An entry of a select list with the name that it gives its column; a star stands for all
columns. -/
structure Item where
  expression : String
  given : Option String
deriving DecidableEq

def Item.isStar (item : Item) : Bool := item.expression == "*"

structure Window where
  offset : Nat
  length : Nat
deriving DecidableEq

structure Selection where
  items : List Item
  filter : Option Predicate
  order : List Ordered
  window : Option Window

inductive Query where
  /-- The table may be given another name for the time of the selection. -/
  | select (table : String) (renamed : Option String) (selection : Selection)
  | insert (table : String) (columns values : List String)
  | update (table : String) (sets : List (String × String)) (filter : Option Predicate)
  | delete (table : String) (filter : Option Predicate)
  | tables (pattern : Option String)
  | columns (table : String) (filter : Option Predicate)
  | indexes (table : String) (filter : Option Predicate)

namespace Query

def filter : Query → Option Predicate
  | select _ _ selection => selection.filter
  | update _ _ filter => filter
  | delete _ filter => filter
  | columns _ filter => filter
  | indexes _ filter => filter
  | _ => none

def filterTerms (filter : Option Predicate) : List String :=
  (filter.map Predicate.conditions).getD [] |>.flatMap fun c => [c.field, c.operand.value.display]

def terms : Query → List String
  | select _ _ selection =>
    selection.items.map Item.expression ++ filterTerms selection.filter ++
      selection.order.map Ordered.field
  | insert _ _ values => values
  | update _ sets filter => sets.map Prod.snd ++ filterTerms filter
  | delete _ filter => filterTerms filter
  | tables pattern => pattern.toList
  | columns table filter => table :: filterTerms filter
  | indexes table filter => table :: filterTerms filter

def parameterNames (q : Query) : List String :=
  q.terms.filterMap fun text => (Term.read text).bind Term.parameterName?

end Query
end RecordGateway
