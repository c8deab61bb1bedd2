import PropertyGraph.Collection.StableSort
import PropertyGraph.Query.Plan

/-!
# Rows of a query

A row is a value, usually the map of a node.  `Aggregation.ofRows` computes a column over all rows
and `SortKey.sortRows` puts them into the order of a list of keys.
-/

namespace PropertyGraph

/-- The id in the row of a node. -/
def rowId? (row : Value) : Option NodeId := (row.path? "id").bind Value.string?

/-! ### Aggregates -/

namespace Aggregation

/-- The sum of integers as long as it stays within 64 bits at every step. -/
def integerSum? (values : List Value) : Option Int64 :=
  values.foldlM
    (fun total v =>
      match v with
      | .int n =>
        let sum := total.toInt + n.toInt
        if -Int.pow 2 63 ≤ sum ∧ sum < Int.pow 2 63 then some (Int64.ofInt sum) else none
      | _ => none) 0

/-- The numbers among values. -/
def numbers (values : List Value) : List Binary64 := values.filterMap Value.float?

/-- The sum of values: an integer if all of them are and no step leaves 64 bits, else the
floating-point sum of the numbers among them. -/
def sum (values : List Value) : Value :=
  match integerSum? values with
  | some n => .int n
  | none => .float (Binary64.sum (numbers values))

/-- The mean of the numbers among values; null if there are none. -/
def mean (values : List Value) : Value :=
  let numbers := numbers values
  if numbers.isEmpty then .null
  else .float ((Binary64.sum numbers).div (.ofNat numbers.length))

/-- The value that compares as wanted with those before it; the first of several. -/
def extreme (wanted : Ordering) : List Value → Value
  | [] => .null
  | first :: rest =>
    rest.foldl (fun best v => if v.compare? best == some wanted then v else best) first

/-- The value of a column over all rows. -/
def value (c : Aggregation) (rows : List Value) : Value :=
  let present := (rows.filterMap fun row => row.lookup? c.field).filter fun v => !v.isNull
  match c.op with
  | .count => .int (Int64.ofNat (if c.field = "*" then rows.length else present.length))
  | .sum => sum present
  | .avg => mean present
  | .min => extreme .lt present
  | .max => extreme .gt present
  | .first => (rows.head?.bind fun row => row.lookup? c.field).getD .null
  | .last => (rows.getLast?.bind fun row => row.lookup? c.field).getD .null

/-- The row of columns over all rows; of columns with one name the last one counts. -/
def ofRows (columns : List Aggregation) (rows : List Value) : Value :=
  .ofEntries (columns.map fun c => (c.column, c.value rows))

end Aggregation

/-! ### Sorting -/

namespace SortKey

/-- The order of two rows by one key.  A missing field is null, and null comes last in either
direction. -/
def compareRows (k : SortKey) (a b : Value) : Ordering :=
  let left := (a.lookup? k.field).getD .null
  let right := (b.lookup? k.field).getD .null
  let order := left.sortCompare right
  if k.order = .descending && !(left.isNull || right.isNull) then order.swap else order

/-- The order of two rows by the first key that tells them apart. -/
def compareByAll (keys : List SortKey) (a b : Value) : Ordering :=
  keys.foldr (fun k later => (k.compareRows a b).then later) .eq

/-- Sorts rows by keys; rows that the keys do not tell apart keep their order. -/
def sortRows (keys : List SortKey) (rows : List Value) : List Value :=
  stableSortBy (compareByAll keys) rows

end SortKey

end PropertyGraph
