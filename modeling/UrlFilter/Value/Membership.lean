import UrlFilter.Value.Equality
import UrlFilter.Text.Pattern

namespace UrlFilter.Value

open UrlFilter.Text

/-!
# Membership

* `holds?` — a value has another among its items.  A text holds the texts that occur in it, a map
  its keys; a set and a map can only be asked for values that are hashable.
-/

/-- The value is among the items of the container.  The items are asked in order, up to the first
that is equal; a fault on the way is the fault of the whole. -/
def holds? (container item : Value) : Except Fault Bool :=
  match container with
  | list items => items.anyM (equal? · item)
  | tuple items => items.anyM (equal? · item)
  | range lower upper => [lower, upper].anyM (equal? · item)
  | set items => if item.isHashable then items.anyM (equal? · item) else .error .kindMismatch
  | map entries =>
    if item.isHashable then .ok (item.asText?.any fun s => entries.any (·.1 == s))
    else .error .kindMismatch
  | _ =>
    match container.asText?, item.asText? with
    | some s, some t => .ok (occursIn t.toList s.toList)
    | _, _ => .error .kindMismatch

end UrlFilter.Value
