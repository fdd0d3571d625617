import CallScript.Value

/-!
# Tying knots

While a document is read, its collections are drafts that name one another by their places.  A
collection that leads to no cycle becomes an ordinary value once its members are; the drafts that
lie on cycles through one another become the cells of one knot.
-/

namespace CallScript
namespace Yaml

/-- A collection whose members may be drafts, or its finished value. -/
inductive Draft where
  | cell (cell : Cell)
  | done (value : Value)
  deriving Inhabited

/-- The drafts of a document. -/
abbrev Drafts := Array Draft

namespace Drafts

/-- The value of a member that is finished. -/
def memberValue? (drafts : Drafts) : Member → Option Value
  | .value v => some v
  | .cell place =>
      match drafts[place]? with
      | some (.done v) => some v
      | _ => none

/-- The value of a cell of which all members are finished. -/
def cellValue? (drafts : Drafts) : Cell → Option Value
  | .list members => (members.mapM drafts.memberValue?).map .list
  | .map entries =>
      (entries.mapM fun entry => (drafts.memberValue? entry.2).map (entry.1, ·)).map .map
  | .group members => (members.mapM drafts.memberValue?).map .group

/-- Finish the draft at a place if its members are finished. -/
def settle (drafts : Drafts) (place : Nat) : Drafts :=
  match drafts[place]? with
  | some (.cell cell) =>
      match drafts.cellValue? cell with
      | some value => drafts.setIfInBounds place (.done value)
      | none => drafts
  | _ => drafts

/-- Holds of the drafts that are not finished. -/
def isOpen : Draft → Bool
  | .cell _ => true
  | .done _ => false

/-- The number of drafts that are not finished. -/
def countOpen (drafts : Drafts) : Nat :=
  drafts.foldl (fun n draft => if isOpen draft then n + 1 else n) 0

/-- Finish drafts in both directions, as long as that finishes some. -/
def settleAll : Nat → Drafts → Drafts
  | 0, drafts => drafts
  | fuel + 1, drafts =>
      let places := List.range drafts.size
      let settled := places.foldl settle (places.reverse.foldl settle drafts)
      if countOpen settled < countOpen drafts then settleAll fuel settled else drafts

/-- The members of a cell. -/
def membersOf : Cell → List Member
  | .list members => members
  | .map entries => entries.map (·.2)
  | .group members => members

/-- The place of a member that is an unfinished draft. -/
def openPlace? (drafts : Drafts) : Member → Option Nat
  | .value _ => none
  | .cell place =>
      match drafts[place]? with
      | some (.cell _) => some place
      | _ => none

/-- The unfinished drafts that are members of the one at a place. -/
def successors (drafts : Drafts) (place : Nat) : List Nat :=
  match drafts[place]? with
  | some (.cell cell) => (membersOf cell).filterMap drafts.openPlace?
  | _ => []

/-- The places that were seen and those that a walk from a frontier reaches besides. -/
def walk (drafts : Drafts) : Nat → List Nat → List Nat → List Nat
  | 0, _, seen => seen
  | _, [], seen => seen
  | fuel + 1, place :: frontier, seen =>
      if seen.contains place then
        walk drafts fuel frontier seen
      else
        walk drafts fuel (drafts.successors place ++ frontier) (place :: seen)

/-- The number of steps that every walk stays below: one for each member of each draft. -/
def longestWalk (drafts : Drafts) : Nat :=
  drafts.foldl (fun n draft =>
    match draft with
    | .cell cell => n + (membersOf cell).length
    | .done _ => n) 1

/-- The places that lie ahead of a place. -/
def ahead (drafts : Drafts) (place : Nat) : List Nat :=
  walk drafts (2 * drafts.longestWalk) (drafts.successors place) []

/-- A last circle of drafts: all that lies ahead of one of them is in the circle. -/
def lastCircle (drafts : Drafts) : Nat → Nat → List Nat
  | 0, place => drafts.ahead place
  | fuel + 1, place =>
      let found := drafts.ahead place
      match found.find? fun other => !(drafts.ahead other).contains place with
      | some other => lastCircle drafts fuel other
      | none => found

/-- A member as the cell of a knot holds it. -/
def tieMember (drafts : Drafts) (circle : List Nat) (member : Member) : Member :=
  match drafts.memberValue? member, member with
  | some v, _ => .value v
  | none, .cell place => .cell (circle.idxOf place)
  | none, .value v => .value v

/-- A draft as a cell of a knot. -/
def tieCell (drafts : Drafts) (circle : List Nat) (place : Nat) : Cell :=
  match drafts[place]? with
  | some (.cell (.list members)) => .list (members.map (tieMember drafts circle))
  | some (.cell (.map entries)) =>
      .map (entries.map fun entry => (entry.1, tieMember drafts circle entry.2))
  | some (.cell (.group members)) => .group (members.map (tieMember drafts circle))
  | _ => .list []

/-- Make the drafts of a circle one knot. -/
def tie (drafts : Drafts) (circle : List Nat) : Drafts :=
  let cells := circle.map (tieCell drafts circle)
  (circle.zip (List.range circle.length)).foldl (fun tied entry =>
    tied.setIfInBounds entry.1 (.done (.knot cells entry.2))) drafts

/-- Finish all drafts, each circle after what lies ahead of it. -/
def finishAll : Nat → Drafts → Drafts
  | 0, drafts => drafts
  | fuel + 1, drafts =>
      let settled := settleAll drafts.size drafts
      let isOpenAt (place : Nat) : Bool := (settled[place]?.map isOpen).getD false
      match (List.range settled.size).find? isOpenAt with
      | none => settled
      | some place => finishAll fuel (settled.tie (settled.lastCircle settled.size place))

/-- The value of a member once all drafts are finished. -/
def valueOf (drafts : Drafts) (member : Member) : Value :=
  ((finishAll (drafts.size + 1) drafts).memberValue? member).getD .null

end Drafts
end Yaml
end CallScript
