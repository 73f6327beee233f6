/-!
# Comparison operators

The operators by which a clause compares a value with a text.
-/

namespace FlowRouting

/-- A comparison operator. -/
inductive Operator where
  | equals
  | notEquals
  | greaterThan
  | greaterOrEqual
  | lessThan
  | lessOrEqual
  | contains
  | notContains
  | startsWith
  | endsWith
  | isEmpty
  | isNotEmpty
  | matchesRegex
  | inList
  | notInList
  | lengthEquals
  | lengthGreaterThan
  | lengthLessThan
  | dateBefore
  | dateAfter
  | dateEquals
  | dateBetween
  | typeEquals
deriving DecidableEq, Repr

namespace Operator

def all : List Operator :=
  [.equals, .notEquals, .greaterThan, .greaterOrEqual, .lessThan, .lessOrEqual, .contains,
    .notContains, .startsWith, .endsWith, .isEmpty, .isNotEmpty, .matchesRegex, .inList,
    .notInList, .lengthEquals, .lengthGreaterThan, .lengthLessThan, .dateBefore, .dateAfter,
    .dateEquals, .dateBetween, .typeEquals]

def name : Operator → String
  | .equals => "=="
  | .notEquals => "!="
  | .greaterThan => ">"
  | .greaterOrEqual => ">="
  | .lessThan => "<"
  | .lessOrEqual => "<="
  | .contains => "contains"
  | .notContains => "not_contains"
  | .startsWith => "startswith"
  | .endsWith => "endswith"
  | .isEmpty => "is_empty"
  | .isNotEmpty => "is_not_empty"
  | .matchesRegex => "matches_regex"
  | .inList => "in_list"
  | .notInList => "not_in_list"
  | .lengthEquals => "length_equals"
  | .lengthGreaterThan => "length_greater_than"
  | .lengthLessThan => "length_less_than"
  | .dateBefore => "date_before"
  | .dateAfter => "date_after"
  | .dateEquals => "date_equals"
  | .dateBetween => "date_between"
  | .typeEquals => "type_equals"

def ofName? (name : String) : Option Operator :=
  all.find? fun op ↦ op.name == name

/-- Whether the operator compares with a text; the tests for emptiness do not. -/
def requiresValue : Operator → Bool
  | .isEmpty | .isNotEmpty => false
  | _ => true

theorem mem_all (op : Operator) : op ∈ all := by
  cases op <;> decide

@[simp] theorem ofName?_name (op : Operator) : ofName? op.name = some op := by
  cases op <;> decide

theorem name_of_ofName? {name : String} {op : Operator} (h : ofName? name = some op) :
    op.name = name := by
  simpa using List.find?_some h

end Operator

end FlowRouting
