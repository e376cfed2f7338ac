import MetricRelay.OrderedMap

namespace MetricRelay

inductive ConditionChange
  | new
  | changed (previous : String)
  | unchanged
deriving DecidableEq, Repr

/-- A condition seen for the first time is no transition. -/
def ConditionChange.isTransition : ConditionChange → Bool
  | changed _ => true
  | _ => false

abbrev NodeConditions := OrderedMap String (OrderedMap String String)

namespace NodeConditions

def status? (cache : NodeConditions) (node condition : String) : Option String :=
  (OrderedMap.get? cache node).bind (·.get? condition)

def compare (cache : NodeConditions) (node condition status : String) : ConditionChange :=
  match cache.status? node condition with
  | none => .new
  | some previous => if previous = status then .unchanged else .changed previous

/-- Records a status, and tells how it compares with the one before. -/
def record (cache : NodeConditions) (node condition status : String) : ConditionChange × NodeConditions :=
  -- the conditions of the node are there from the lookup on, and the same status is left alone
  let opened : NodeConditions := OrderedMap.upsert cache node fun conditions ↦ conditions.getD .empty
  let written : NodeConditions :=
    OrderedMap.upsert opened node fun conditions ↦ (conditions.getD .empty).insert condition status
  match opened.status? node condition with
  | none => (.new, written)
  | some current => if current = status then (.unchanged, opened) else (.changed current, written)

def update (cache : NodeConditions) (node condition status : String) : NodeConditions :=
  (cache.record node condition status).2

def forget (cache : NodeConditions) (node : String) : Bool × NodeConditions :=
  (OrderedMap.contains cache node, OrderedMap.erase cache node)

def removeNode (cache : NodeConditions) (node : String) : NodeConditions := (cache.forget node).2

def retainNodes (cache : NodeConditions) (keep : String → Bool) : NodeConditions :=
  OrderedMap.filter (fun node _ ↦ keep node) cache

end NodeConditions
end MetricRelay
