import FlowRules.Console.Markup

/-!
# Pages

What a command prints: texts and tables.  A cell of a table can have several lines.  How marked-up texts are shown, and
which of them cannot be, is up to a renderer; `Renderer.standard` is the one of the commands as they run.
-/

namespace FlowRules

structure Table where
  title : Option String := none
  columns : List String
  rows : List (List String)
  deriving DecidableEq, Repr

inductive PageItem where
  | text (s : String)
  | table (t : Table)
  deriving DecidableEq, Repr

namespace Page

/-- The distance of tab stops. -/
def tabWidth : Nat := 8

/-- Blanks in place of the tabs of a line, up to the next stop. -/
def expandTabs (column : Nat) : List Char → List Char
  | [] => []
  | '\t' :: cs =>
    let width := tabWidth - column % tabWidth
    List.replicate width ' ' ++ expandTabs (column + width) cs
  | c :: cs => c :: expandTabs (column + 1) cs

/-- The lines of a text. -/
def linesOf (s : String) : List String :=
  (Text.split '\n' s).map fun line => String.ofList (expandTabs 0 line.toList)

/-- The text of marked-up text as it is printed. -/
def printed (markup : String) : Except Fault String := (Markup.shown markup).map fun s => "\n".intercalate (linesOf s)

end Page

namespace Table

/-- The table whose texts are marked up. -/
def ofMarkup (title : Option String) (columns : List String) (rows : List (List String)) : Except Fault Table := do
  let title ← title.mapM Page.printed
  let columns ← columns.mapM Page.printed
  let rows ← rows.mapM fun row => row.mapM Page.printed
  .ok ⟨title, columns, rows⟩

end Table

/-- How texts and tables of marked-up texts are shown, if they can be. -/
structure Renderer where
  text : String → Except Fault String
  /-- A table, of its title, the heads of its columns, and its rows. -/
  table : Option String → List String → List (List String) → Except Fault Table

/-- The renderer of the markup whose tags and styles `Markup.shown` knows. -/
def Renderer.standard : Renderer := ⟨Page.printed, Table.ofMarkup⟩

namespace Table

/-- A row of cells with several lines as rows of cells with one. -/
def splitRow (cells : List String) : List (List String) :=
  let lines := cells.map (Text.split '\n')
  let height := (lines.map List.length).foldl max 0
  (List.range height).map fun i => lines.map fun ls => ls[i]?.getD ""

/-- The rows of a table, each of one line, without the heads of its columns. -/
def lineRows (t : Table) : List (List String) := t.rows.flatMap splitRow

/-! ### Drawing -/

private def widthOf (t : Table) (i : Nat) : Nat :=
  ((t.columns :: t.lineRows).map fun row => (row[i]?.getD "").length).foldl max 0

private def fill (c : Char) (n : Nat) : String := String.ofList (List.replicate n c)

private def rule (widths : List Nat) (line : Char) (left middle right : String) : String :=
  left ++ middle.intercalate (widths.map fun w => fill line (w + 2)) ++ right

private def rowLine (widths : List Nat) (edge : String) (cells : List String) : String :=
  edge ++ edge.intercalate ((widths.zip cells).map fun p => " " ++ p.2 ++ fill ' ' (p.1 - p.2.length) ++ " ") ++ edge

private def centred (width : Nat) (s : String) : String := fill ' ' ((width - s.length) / 2) ++ s

/-- The lines of a table with its frame. -/
def draw (t : Table) : List String :=
  let widths := (List.range t.columns.length).map t.widthOf
  let total := (widths.map (· + 3)).foldl (· + ·) 1
  (match t.title with
    | none => []
    | some s => (Text.split '\n' s).map (centred total)) ++
    [rule widths '━' "┏" "┳" "┓", rowLine widths "┃" t.columns, rule widths '━' "┡" "╇" "┩"] ++
    t.lineRows.map (rowLine widths "│") ++ [rule widths '─' "└" "┴" "┘"]

end Table

/-- The lines of an item as they are printed. -/
def PageItem.draw : PageItem → List String
  | text s => Text.split '\n' s
  | table t => t.draw

end FlowRules
