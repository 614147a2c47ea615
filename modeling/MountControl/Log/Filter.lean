/-
  MountControl — which events are logged.

  A filter is a list of directives between commas.  Each allows events up to
  a level, of all components or of those whose names begin as it says; of the
  directives that fit a component the longest counts, and of equally long
  ones the last.

  A directive may also name a span and its fields in brackets.  There are no
  spans here, so such a directive allows nothing.
-/
import MountControl.Log.Event
import MountControl.Text.Blank
import MountControl.Text.Split

namespace MountControl.Log

/-- Why a text is no filter. -/
inductive FilterError
  /-- A level is unknown. -/
  | level
  /-- A directive is not well formed. -/
  | directive
  deriving DecidableEq, Repr

/-- The text of a failure. -/
def FilterError.message : FilterError → String
  | .level =>
    "error parsing level filter: expected one of \"off\", \"error\", \"warn\", \"info\", "
      ++ "\"debug\", \"trace\", or a number 0-5"
  | .directive => "invalid filter directive"

/-- One directive. -/
structure Directive where
  /-- What names of components begin with; empty for all components. -/
  target : List Char
  /-- The rank of the least severe level that is allowed. -/
  rank : Nat
  /-- Is it about spans only? -/
  inSpan : Bool := false
  deriving DecidableEq, Repr

/-- A list of directives. -/
structure Filter where
  /-- The directives. -/
  directives : List Directive
  deriving DecidableEq, Repr

/-! ## Reading -/

/-- The names of ranks, from none to all. -/
def rankNames : List String := ["off", "error", "warn", "info", "debug", "trace"]

/-- The rank of the least severe level. -/
def allRanks : Nat := 5

/-- A rank by its number, or by its name in letters of any case. -/
def rank? (text : List Char) : Option Nat :=
  match Text.Numeral.unsigned? (allRanks + 1) text with
  | some n => some n
  | none => rankNames.findIdx? fun name => name.toList = text.map Char.toLower

/-- May the character begin the name of a component? -/
def isTargetStart (c : Char) : Bool := c.isAlphanum || 0x7F < c.toNat || c ∈ ['-', ':', '_']

/-- The rank after an equals sign; without one, or without a text, all levels are allowed. -/
def rankAfter : List Char → Except FilterError Nat
  | [] => .ok allRanks
  | ['='] => .ok allRanks
  | '=' :: text =>
    match rank? text with
    | some rank => .ok rank
    | none => .error .level
  | _ => .error .directive

/-- What follows a span, after its opening bracket: an optional name, and perhaps fields in
    braces, none of them empty. -/
def afterSpan? (text : List Char) : Option (List Char) :=
  let rest := text.dropWhile fun c => c != ']' && c != '\x7b'
  match rest with
  | ']' :: rest => some rest
  | '\x7b' :: rest =>
    let fields := rest.takeWhile (· != '\x7d')
    if fields.isEmpty then none
    else
      match rest.drop fields.length with
      | '\x7d' :: ']' :: rest => some rest
      | _ => none
  | _ => none

/-- Reads a directive. -/
def Directive.parse (text : List Char) : Except FilterError Directive :=
  let target := text.takeWhile fun c => c != '=' && c != '['
  match target, text.drop target.length with
  | target, '[' :: rest =>
    if target.head?.all isTargetStart then
      match afterSpan? rest with
      | some rest => (rankAfter rest).map (⟨target, ·, true⟩)
      | none => .error .directive
    else .error .directive
  | [], _ => .error .directive
  | c :: target, rest =>
    if !isTargetStart c then .error .directive
    else
      match rest, rank? (c :: target) with
      | [], some rank => .ok ⟨[], rank, false⟩
      | rest, _ => (rankAfter rest).map (⟨c :: target, ·, false⟩)

/-- Without directives, only errors are allowed. -/
def Filter.errorsOnly : Filter := ⟨[⟨[], Level.error.rank, false⟩]⟩

/-- Reads a filter. -/
def Filter.parse (text : String) : Except FilterError Filter :=
  let parts := (Text.fields ',' text.toList).filter (!·.isEmpty)
  if parts.isEmpty then .ok errorsOnly
  else (parts.mapM fun part => Directive.parse (Text.trim part)).map Filter.mk

/-! ## Judging -/

/-- Does the directive fit a component? -/
def Directive.fits (directive : Directive) (target : String) : Bool :=
  !directive.inSpan && directive.target.isPrefixOf target.toList

/-- The directive that counts for a component. -/
def Filter.deciding? (filter : Filter) (target : String) : Option Directive :=
  (filter.directives.filter (·.fits target)).foldl (fun best directive =>
    match best with
    | none => some directive
    | some old => if directive.target.length < old.target.length then some old else some directive)
    none

/-- Is an event logged? -/
def Filter.admits (filter : Filter) (event : Event) : Bool :=
  match filter.deciding? event.target with
  | some directive => event.level.rank ≤ directive.rank
  | none => false

end MountControl.Log
