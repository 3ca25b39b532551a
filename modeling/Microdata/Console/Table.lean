import Microdata.Console.Line
set_option autoImplicit false

namespace Microdata.Console

structure Column where
  header : String
  least : Nat := 0

structure Table where
  title : String
  columns : List Column
  rows : List (List String)

def isLineEnd (c : Char) : Bool :=
  let n := c.toNat
  n == 10 || (28 ≤ n && n ≤ 30) || n == 0x85 || n == 0x2028 || n == 0x2029

def extent (s : String) : Nat :=
  ((Text.runs isLineEnd [] (visible s)).map Text.width).foldl max 0

def nearest (n d : Nat) : Nat :=
  let q := n / d
  if 2 * (n % d) < d || (2 * (n % d) == d && q % 2 == 0) then q else q + 1

/-- What is left of widths if those that are `top` share in giving up `excess`, each at most `step`;
`sharing` of them are still to come. -/
def giveUp (top step : Nat) : (sharing excess : Nat) → List Nat → List Nat
  | _, _, [] => []
  | sharing, excess, w :: rest =>
    if w == top then
      let part := min step (nearest excess sharing)
      (w - part) :: giveUp top step (sharing - 1) (excess - part) rest
    else w :: giveUp top step sharing excess rest

def total (widths : List Nat) : Nat := widths.foldl (· + ·) 0

/-- Widths that together fit into `room`: the widest are brought down to the next, and so on, in at
most as many rounds as there is fuel. -/
def shrink (room : Nat) : (fuel : Nat) → List Nat → List Nat
  | 0, widths => widths
  | fuel + 1, widths =>
    let excess := total widths - room
    let top := widths.foldl max 0
    let next := (widths.filter (· != top)).foldl max 0
    let step := min excess (top - next)
    if step == 0 then widths
    else shrink room fuel (giveUp top step (widths.count top) excess widths)

namespace Table

def cells (t : Table) (index : Nat) (column : Column) : List String :=
  column.header :: t.rows.map fun row => row[index]?.getD ""

def widthWithin (t : Table) (room index : Nat) (column : Column) : Nat :=
  max column.least (min room (((t.cells index column).map extent).foldl max 0 + 2))

def borders (t : Table) : Nat := t.columns.length + 1

def widths (t : Table) : List Nat :=
  let room := Console.columns - t.borders
  let natural := t.columns.mapIdx fun i c => t.widthWithin room i c
  if total natural ≤ room then natural
  else
    let narrow := shrink room (total natural) natural
    t.columns.mapIdx fun i c => t.widthWithin (narrow[i]?.getD 0) i c

end Table

def rowLine (cells : List String) : String := " | ".intercalate (cells.map Text.strip)

def rowLines (cells : List (List String)) : List String :=
  let height := cells.foldl (fun n ls => max n ls.length) 0
  (List.range height).map fun i => rowLine (cells.map fun ls => ls[i]?.getD "")

def Table.lines (t : Table) : List String :=
  let widths := t.widths
  let row (cells : List String) := rowLines (List.zipWith (fun w s => clipped (w - 2) s) widths cells)
  (folded (total widths + t.borders) t.title).map Text.strip ++ row (t.columns.map (·.header)) ++
    t.rows.flatMap row

end Microdata.Console
