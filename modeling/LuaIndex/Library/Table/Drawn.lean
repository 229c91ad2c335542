import LuaIndex.Library.Markup.Basic
import LuaIndex.Library.Table.Wrapped

namespace LuaIndex

namespace ModuleTable

/-- A column: the side its cells stand at, and what they show of a row. -/
structure Column where
  side : Text.Side
  cell : Row → Text

/-- The columns of the table. Numbers stand at the right. -/
def columns : List Column :=
  [⟨.left, Row.module⟩, ⟨.right, Row.functions⟩, ⟨.left, Row.path⟩]

def header : Row :=
  ⟨"Module".toList, "Functions".toList, "Path".toList⟩

/-- The width of the page, and of the spaces around a cell. -/
def pageWidth : Nat := 80

def padding : Nat := 2

/-- What the lines between and around columns leave of the page. -/
def columnsWidth : Nat :=
  pageWidth - (columns.length + 1)

/-- A quotient rounded to the nearest whole number, a half to the even one. -/
def roundDiv (n d : Nat) : Nat :=
  let q := n / d
  let r := 2 * (n % d)
  if r < d then q else if d < r then q + 1 else q + q % 2

/-- The widths with `excess` taken in equal shares from the `count` columns of width `top`, from none
of them more than `cap`. -/
def shrink (top cap excess count : Nat) : List Nat → List Nat
  | [] => []
  | w :: ws =>
    if w = top then
      let share := min cap (roundDiv excess count)
      (w - share) :: shrink top cap (excess - share) (count - 1) ws
    else w :: shrink top cap excess count ws

/-- The widths after the widest columns have been made narrower until all fit into `limit`. Each step
brings them down to the next wide ones at most; `fuel` is the sum of the widths. -/
def narrow (limit : Nat) : (fuel : Nat) → List Nat → List Nat
  | 0, ws => ws
  | fuel + 1, ws =>
    let excess := ws.sum - limit
    if excess = 0 then ws
    else
      let top := ws.foldl max 0
      let second := (ws.filter (· ≠ top)).foldl max 0
      narrow limit fuel (shrink top (min excess (top - second)) excess (ws.count top) ws)

/-- The width that a column asks for, with the spaces around its cells. -/
def Column.width (rows : List Row) (c : Column) : Nat :=
  min columnsWidth (padding + (rows.map fun r => Text.widest (c.cell r)).foldl max 0)

/-- The widths of the columns, with the spaces around their cells. -/
def widths (rows : List Row) : List Nat :=
  let ws := columns.map fun c => c.width (header :: rows)
  narrow columnsWidth (ws.foldr (· + ·) 0) ws

/-- The characters of a line across the table: its left end, its stroke, its crossing, its right end. -/
structure Rule where
  left : Char
  stroke : Char
  cross : Char
  right : Char

def topRule : Rule := ⟨'┏', '━', '┳', '┓'⟩

def headRule : Rule := ⟨'┡', '━', '╇', '┩'⟩

def bottomRule : Rule := ⟨'└', '─', '┴', '┘'⟩

/-- Parts of a line between its ends, with a crossing between each two. -/
def joinLine (left cross right : Char) (parts : List Text) : Text :=
  left :: (parts.intersperse [cross]).flatten ++ [right, '\n']

def ruleLine (ws : List Nat) (r : Rule) : Text :=
  joinLine r.left r.cross r.right (ws.map fun w => List.replicate w r.stroke)

/-- The lines of a cell of a row. -/
def cellLines (r : Row) (c : Column) (w : Nat) : List Text :=
  c.side.lines (w - padding) (c.cell r)

/-- One line of a cell between spaces. Below its last line a cell is empty. -/
def cellLine (i w : Nat) (ls : List Text) : Text :=
  ' ' :: ls.getD i (List.replicate (w - padding) ' ') ++ [' ']

/-- A row between bars, as high as its highest cell. -/
def rowLines (ws : List Nat) (bar : Char) (r : Row) : Text :=
  let cells := List.zipWith (cellLines r) columns ws
  (List.range ((cells.map List.length).foldl max 0)).flatMap fun i =>
    joinLine bar bar bar (List.zipWith (cellLine i) ws cells)

/-- The table of rows without markup. -/
def draw (rows : List Row) : Text :=
  let ws := widths rows
  ruleLine ws topRule ++ rowLines ws '┃' header ++ ruleLine ws headRule ++
    rows.flatMap (rowLines ws '│') ++ ruleLine ws bottomRule

/-- Styles are looked at when the table is drawn, after all markup has been read. -/
def checkStyles (ss : List Markup.Shown) : Except Markup.Error Unit :=
  if (ss.flatMap Markup.Shown.allStyles).any fun t =>
      match Markup.Style.read t with
      | .error .emptyNumber => true
      | _ => false
  then .error .emptyNumber
  else .ok ()

/-- What texts with markup show, if they all show something. -/
def readAll : List Text → Except Markup.Error (List Markup.Shown)
  | [] => .ok []
  | t :: ts => do
    let s ← Markup.read t
    return s :: (← readAll ts)

/-- The table of rows with markup. Names are read before paths. -/
def render (rows : List Row) : Except Markup.Error Text := do
  let modules ← readAll (rows.map Row.module)
  let paths ← readAll (rows.map Row.path)
  checkStyles (modules ++ paths)
  return draw (List.zipWith (fun (r : Row) (m, p) =>
    { r with module := m.text, path := p.text }) rows (modules.zip paths))

end ModuleTable

end LuaIndex
