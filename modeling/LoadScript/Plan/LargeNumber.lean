import LoadScript.Plan.Field

/-!
Documents with a whole number that is too large for a double, in a field that takes one.
-/

namespace LoadScript.Document

/-- Whether a field holds a whole number as far from zero as the middle between the largest double and
`2 ^ 1024`, or farther. -/
def IsTooLarge (members : Entries Json) (key : String) : Prop :=
  ∃ value, field? members key = some (.whole value) ∧
    Double.twoTo 1024 - Double.twoTo 970 ≤ value.natAbs

inductive HoldsLargeNumber (members : Entries Json) : Prop where
  | thinkTime {part : Entries Json} {key : String}
      (found : field? members "thinkTime" = some (.object part))
      (known : key ∈ ["fixed", "min", "max"]) (large : IsTooLarge part key)
  | errorRate {part : Entries Json} (found : field? members "thresholds" = some (.object part))
      (large : IsTooLarge part "errorRate")
  | request {requests : List Json} {request : Entries Json}
      (found : field? members "apis" = some (.array requests)) (listed : .object request ∈ requests)
      (large : IsTooLarge request "thinkTime")

end LoadScript.Document
