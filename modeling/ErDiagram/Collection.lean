set_option autoImplicit false

/-!
# Tables and sorted lists

A table keeps its entries in the order in which their keys came.  A list is sorted by an order that is
given with it, which need not have an answer for all items.
-/

namespace ErDiagram

namespace Table

/-! ## Tables

A table is a list of keys and values that keeps the order in which its keys came.  Putting a value
under a key that is there changes the value and not the place. -/

/-- Puts a value under a key: in its place if the key is there, at the end otherwise. -/
def put {κ α : Type} [DecidableEq κ] (key : κ) (value : α) : List (κ × α) → List (κ × α)
  | [] => [(key, value)]
  | (k, v) :: rest => if k = key then (k, value) :: rest else (k, v) :: put key value rest

/-- The table of some entries, put one after the other. -/
def ofList {κ α : Type} [DecidableEq κ] (entries : List (κ × α)) : List (κ × α) :=
  entries.foldl (fun table e => put e.1 e.2 table) []

end Table

/-! ## Sorting

A list is sorted by inserting its items one after the other, the last one first.  Items that the
order does not tell apart keep their places among each other.

Some items have no order between them.  Which two of them are found first depends on the way of
sorting, so there is a second way, which finds the rows that are in order already, prolongs short ones
by binary search and merges them.  It is meant for lists of which it is not known that they can be
sorted. -/

/-- Puts an item in front of the first one that does not have to come before it. -/
def insertBy {α : Type} (le : α → α → Bool) (a : α) : List α → List α
  | [] => [a]
  | b :: rest => if le a b then a :: b :: rest else b :: insertBy le a rest

/-- The items of a list in order. -/
def sortBy {α : Type} (le : α → α → Bool) (items : List α) : List α := items.foldr (insertBy le) []

namespace Sorting

/-- One item comes before another, or a fault tells why that has no answer. -/
abbrev Before (ε α : Type) : Type := α → α → Except ε Bool

variable {ε α : Type}

/-- Goes on with a row as long as each item compares with the one before it in this way; the row comes
last item first, and what follows it comes with it. -/
def rowFrom (before : Before ε α) (descending : Bool) : List α → List α → Except ε (List α × List α)
  | row, [] => .ok (row, [])
  | [], items => .ok ([], items)
  | last :: row, next :: rest =>
    match before next last with
    | .error fault => .error fault
    | .ok answer =>
      if answer == descending then rowFrom before descending (next :: last :: row) rest
      else .ok (last :: row, next :: rest)

/-- The row in front of a list, in ascending order, and what follows it.  A row descends if its second
item comes before its first. -/
def firstRow (before : Before ε α) : List α → Except ε (List α × List α)
  | a :: b :: rest =>
    match before b a with
    | .error fault => .error fault
    | .ok true => rowFrom before true [b, a] rest
    | .ok false => (rowFrom before false [b, a] rest).map fun r => (r.1.reverse, r.2)
  | items => .ok (items, [])

/-- The place for an item in a row, which is looked for between two places by halving, in at most `fuel`
steps. -/
def placeIn (before : Before ε α) (item : α) (row : List α) : Nat → Nat → Nat → Except ε Nat
  | 0, low, _ => .ok low
  | fuel + 1, low, high =>
    if high ≤ low then .ok low
    else
      let middle := low + (high - low) / 2
      match row[middle]? with
      | none => .ok low
      | some other =>
        match before item other with
        | .error fault => .error fault
        | .ok true => placeIn before item row fuel low middle
        | .ok false => placeIn before item row fuel (middle + 1) high

/-- Puts items into a row one after the other, as many as are wanted, and gives back the others. -/
def prolong (before : Before ε α) : Nat → List α → List α → Except ε (List α × List α)
  | wanted + 1, row, item :: rest =>
    match placeIn before item row (row.length + 1) 0 row.length with
    | .error fault => .error fault
    | .ok place => prolong before wanted (row.take place ++ item :: row.drop place) rest
  | _, row, rest => .ok (row, rest)

/-- The length that rows of a long list should have: a list is cut in halves until less than 64 items are
left. -/
def leastLength : Nat → Nat → Nat → Nat
  | fuel + 1, odd, n => if n < 64 then n + odd else leastLength fuel (max odd (n % 2)) (n / 2)
  | 0, odd, n => n + odd

/-- The rows of a list, each of them in order. -/
def rows (before : Before ε α) (least : Nat) : Nat → List α → Except ε (List (List α))
  | 0, _ => .ok []
  | _, [] => .ok []
  | fuel + 1, items =>
    match firstRow before items with
    | .error fault => .error fault
    | .ok (row, rest) =>
      match prolong before (least - row.length) row rest with
      | .error fault => .error fault
      | .ok (whole, others) => (rows before least fuel others).map fun r => whole :: r

/-- Two rows in one. -/
def merge (before : Before ε α) : Nat → List α → List α → Except ε (List α)
  | fuel + 1, a :: s, b :: t =>
    match before b a with
    | .error fault => .error fault
    | .ok true => (merge before fuel (a :: s) t).map fun r => b :: r
    | .ok false => (merge before fuel s (b :: t)).map fun r => a :: r
  | _, s, t => .ok (s ++ t)

/-- Many rows in one. -/
def mergeAll (before : Before ε α) (row : List α) : List (List α) → Except ε (List α)
  | [] => .ok row
  | next :: rest =>
    match merge before (row.length + next.length) row next with
    | .error fault => .error fault
    | .ok both => mergeAll before both rest

/-- The items of a list in order, or why two of them have none. -/
def sort (before : Before ε α) (items : List α) : Except ε (List α) :=
  match rows before (leastLength items.length 0 items.length) items.length items with
  | .error fault => .error fault
  | .ok [] => .ok []
  | .ok (row :: rest) => mergeAll before row rest

end Sorting

end ErDiagram
