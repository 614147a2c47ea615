/-
  MountControl — listings as tables.

  A listing is shown with a line of headers and a line for each volume, in
  columns two spaces apart.  What comes from outside is escaped, so that it
  cannot break a line; columns are measured after that, by whatever function
  tells how wide a text is.
-/
import MountControl.Text.Blank
import MountControl.Text.Columns
import MountControl.Text.Quoted
import MountControl.Volume.Record

namespace MountControl.Client.Table

open Volume (RawOptions Record)

/-- One line, cell by cell. -/
abbrev Row := List (List Char)

/-- The headers. -/
def headers : Row :=
  ["INSTANCE".toList, "STATE".toList, "MOUNT POINT".toList, "LABEL".toList, "DEVICES".toList]

/-- What stands for something unknown. -/
def unknown : List Char := ['-']

/-- A text in which control characters are escaped. -/
def printable (text : List Char) : List Char :=
  text.flatMap fun c => if Text.isControl c then Text.Quoted.escapeAscii c else [c]

/-- Which subvolume is mounted, in words; the name counts where there are both. -/
def subvolume (options : RawOptions) : List Char :=
  match options.subvolName, options.subvolId with
  | some name, _ => " (subvol ".toList ++ name.toList ++ [')']
  | none, some id => " (subvol id ".toList ++ Text.Numeral.decimal id.toNat ++ [')']
  | none, none => []

/-- The line of a volume. -/
def row (record : Record) : Row :=
  let place := match record.options.mountPoint with
    | some path => path.toList
    | none => unknown
  [match record.id with
    | some id => id.chars
    | none => unknown,
   match record.state with
    | some state => state.name.toList
    | none => unknown,
   printable (place ++ subvolume record.options),
   match record.label with
    | some label => printable label.toList
    | none => unknown,
   if record.options.devices.isEmpty then unknown
    else printable ([',', ' '].intercalate (record.options.devices.map String.toList))]

/-- The widths of columns, at least those of a line's cells. -/
def widen (width : List Char → Nat) (widths : List Nat) (cells : Row) : List Nat :=
  (widths.zip cells).map fun (least, cell) => max least (width cell)

/-- The widths of the columns of a table. -/
def widths (width : List Char → Nat) (rows : List Row) : List Nat :=
  rows.foldl (widen width) (headers.map width)

/-- A cell filled up with spaces. -/
def pad (width : List Char → Nat) (total : Nat) (cell : List Char) : List Char :=
  cell ++ List.replicate (total - width cell) ' '

/-- A line with its cells filled up. -/
def padded (width : List Char → Nat) (widths : List Nat) (cells : Row) : List Char :=
  [' ', ' '].intercalate ((cells.zip widths).map fun (cell, total) => pad width total cell)

/-- A line as it is shown: without blanks at its end. -/
def line (width : List Char → Nat) (widths : List Nat) (cells : Row) : List Char :=
  Text.trimEnd (padded width widths cells) ++ ['\n']

/-- The listing of no volumes. -/
def empty : List Char := "No volumes are mounted.\n".toList

/-- A listing, with any way to measure texts. -/
def renderBy (width : List Char → Nat) (records : List Record) : List Char :=
  if records.isEmpty then empty
  else
    let rows := records.map row
    (headers :: rows).flatMap (line width (widths width rows))

/-- A listing as a terminal shows it. -/
def render (records : List Record) : List Char := renderBy Text.Columns.width records

end MountControl.Client.Table
