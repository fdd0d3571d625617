/-!
# Families of reported faults

The faults of a scenario form four families under a common one.  A fault of a family carries a
detail, which is that of the family where none is given.
-/

namespace CallScript

/-- The families of the faults that a run reports. -/
inductive Family where
  | scenario
  | configuration
  | validation
  | compiled
  | output
  deriving Repr, DecidableEq, Inhabited

namespace Family

/-- The detail of a fault without one of its own. -/
def commonDetail : Family → String
  | scenario => "Scenario error"
  | configuration => "Invalid scenario configuration."
  | validation => "Invalid scenario step."
  | compiled => "Scenario has already been compiled."
  | output => "Failed to write scenario artifacts."

/-- The detail of a fault; an empty one counts as none. -/
def detail (family : Family) (given : Option String) : String :=
  match given with
  | none => family.commonDetail
  | some text => if text.isEmpty then family.commonDetail else text

/-- Holds of the family whose faults come from the operating system. -/
def isSystem (family : Family) : Bool :=
  family = .output

end Family
end CallScript
