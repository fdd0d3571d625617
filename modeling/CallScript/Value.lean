import CallScript.Calendar
import CallScript.Text

/-!
# Values of manifests

What a manifest can hold: scalars, lists and mappings with arbitrary keys.  Mappings keep the
order in which their keys were first written.  A collection that holds itself, directly or through
others, is a knot: a place in a table of cells that all hold one another, directly or through
others; what they hold besides is a value.
-/

namespace CallScript

mutual

/-- A value of a manifest or an argument of an action. -/
inductive Value where
  | null
  | bool (b : Bool)
  | integer (n : Int)
  | real (x : Binary64)
  | text (t : Text)
  | list (items : List Value)
  | map (entries : List (Value × Value))
  | date (d : Calendar.Date)
  | moment (m : Calendar.Moment)
  | bytes (bs : List UInt8)
  | group (items : List Value)
  | distinct (items : List Value)
  | knot (cells : List Cell) (place : Nat)

/-- A collection in a table. -/
inductive Cell where
  | list (items : List Member)
  | map (entries : List (Value × Member))
  | group (items : List Member)

/-- A member of a cell: another cell of the table, or a value. -/
inductive Member where
  | cell (place : Nat)
  | value (v : Value)

end

instance : Inhabited Value := ⟨.null⟩

/-- A number: a truth value counts as zero or one. -/
inductive Number where
  | whole (n : Int)
  | real (x : Binary64)
  deriving Repr, DecidableEq

namespace Number

/-- Holds of the numbers below zero. -/
def isNegative : Number → Bool
  | .whole n => n < 0
  | .real x => x.isNegative

/-- Equality of the numbers, whatever their form. -/
def same : Number → Number → Bool
  | .whole m, .whole n => m = n
  | .real x, .real y => x.same y
  | .whole n, .real x => x.toInt? = some n
  | .real x, .whole n => x.toInt? = some n

end Number

namespace Value

/-- The number that a value is, if it is one. -/
def number? : Value → Option Number
  | .bool b => some (.whole (if b then 1 else 0))
  | .integer n => some (.whole n)
  | .real x => some (.real x)
  | _ => none

/-- Holds of the absent value. -/
def isNull : Value → Bool
  | .null => true
  | _ => false

/-- Nothing, zero and everything empty count as unset. -/
def isSet : Value → Bool
  | .null => false
  | .bool b => b
  | .integer n => n ≠ 0
  | .real x => !x.isZero
  | .text s => !s.isEmpty
  | .list items => !items.isEmpty
  | .map entries => !entries.isEmpty
  | .date _ => true
  | .moment _ => true
  | .bytes bs => !bs.isEmpty
  | .group items => !items.isEmpty
  | .distinct items => !items.isEmpty
  | .knot _ _ => true

/-- The value that a member of a cell is. -/
def ofMember (cells : List Cell) : Member → Value
  | .cell place => .knot cells place
  | .value v => v

/-- The items of a list. -/
def items? : Value → Option (List Value)
  | .list items => some items
  | .knot cells place =>
      match cells[place]? with
      | some (.list members) => some (members.map (ofMember cells))
      | _ => none
  | _ => none

/-- The entries of a mapping. -/
def entries? : Value → Option (List (Value × Value))
  | .map entries => some entries
  | .knot cells place =>
      match cells[place]? with
      | some (.map members) => some (members.map fun entry => (entry.1, ofMember cells entry.2))
      | _ => none
  | _ => none

/-- Equality of keys: numbers are compared as numbers, everything else by its kind. -/
def sameKey (x y : Value) : Bool :=
  match x.number?, y.number? with
  | some m, some n => m.same n
  | _, _ =>
      match x, y with
      | .null, .null => true
      | .text s, .text t => s = t
      | .date d, .date e => d = e
      | .moment m, .moment n => m.same n
      | .bytes bs, .bytes cs => bs = cs
      | _, _ => false

/-- The entries after `key` has been set: a key that is there keeps its place and spelling. -/
def put (entries : List (Value × Value)) (key value : Value) : List (Value × Value) :=
  match entries with
  | [] => [(key, value)]
  | (k, v) :: rest =>
      if k.sameKey key then (k, value) :: rest else (k, v) :: put rest key value

/-- The entries that result from setting the given ones in turn. -/
def putAll (entries more : List (Value × Value)) : List (Value × Value) :=
  more.foldl (fun acc entry => put acc entry.1 entry.2) entries

/-- The value of a text key. -/
def get? (entries : List (Value × Value)) (key : String) : Option Value :=
  (entries.find? fun entry => entry.1.sameKey (.text key)).map (·.2)

/-- The value of a text key, or nothing. -/
def get (entries : List (Value × Value)) (key : String) : Value :=
  (get? entries key).getD .null

end Value
end CallScript
