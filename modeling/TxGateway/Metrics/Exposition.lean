import TxGateway.Decimal.Shortest
import TxGateway.Metrics

/-!
# The exposed text of a registry
-/

namespace TxGateway.Registry

open Metrics

/-- The series of a family with their values, in the order of the label values. -/
def seriesOf (r : Registry) (f : Family) : List (Label × Nat) :=
  let found := r.series.entries.filterMap fun ((g, l), n) => if g = f then some (l, n) else none
  found.mergeSort fun a b => a.1.value ≤ b.1.value

/-- The lines of a family: explanation, type and one line for each series. -/
def familyLines (r : Registry) (f : Family) : List String :=
  match r.seriesOf f with
  | [] => []
  | found =>
    ("# HELP " ++ f.name ++ " " ++ f.help)
      :: ("# TYPE " ++ f.name ++ (if f.isGauge then " gauge" else " counter"))
      :: found.map fun (l, n) => f.name ++ l.text ++ " " ++ toString (Decimal.shortest n)

/-- The text in which a registry is exposed. -/
def text (r : Registry) : String :=
  String.join ((Family.all.flatMap r.familyLines).map (· ++ "\n"))

end TxGateway.Registry
