/-
The settings of a run.

Settings are put together from layers in which every key is optional; of two layers the upper one wins key by key. A
stack of layers becomes `Settings` by filling in defaults and checking, in this order: the limit prefixes, the ignore
prefixes, the grouping words, the least edge length, the node separation, the output format. The first fault is the
error. `toLayer` writes settings back as a layer.
-/
import CallAtlas.Grouping
import CallAtlas.Number.Written
import CallAtlas.Selection
import CallAtlas.Text.Visible

namespace CallAtlas

/-! ## Model -/

/-- what a run writes -/
inductive Format where
  | dot
  | json
  deriving DecidableEq, Repr

/-- the word for a format -/
def Format.name : Format → String
  | .dot => "dot"
  | .json => "json"

/-- the format that a word names -/
def Format.ofToken? (s : String) : Option Format :=
  let word := Text.folded s
  if word = "dot" then some .dot
  else if word = "json" then some .json
  else none

/-- hints for the drawing tool -/
structure Layout where
  edgeLength : Nat := 2
  nodeSeparation : Binary64 := Binary64.ofRatio false 35 100
  deriving DecidableEq, Repr

/-- checked settings -/
structure Settings where
  /-- a package by name or path; empty is no focus -/
  focus : String := "main"
  filter : Filter := {}
  grouping : Grouping := {}
  /-- start from the tests -/
  tests : Bool := false
  layout : Layout := {}
  format : Format := .dot
  deriving DecidableEq, Repr

/-- settings not checked yet, any of them left out -/
structure Layer where
  focus : Option String := none
  limit : Option (List String) := none
  ignore : Option (List String) := none
  group : Option (List String) := none
  nostd : Option Bool := none
  tests : Option Bool := none
  minlen : Option Nat := none
  nodesep : Option Binary64 := none
  format : Option String := none
  deriving DecidableEq, Repr

/-- why settings are refused -/
inductive SettingsError where
  | unknownGroup (token : String)
  | badPrefix (text : String)
  | noEdgeLength
  | badSeparation (value : Binary64)
  | unknownFormat (token : String)
  /-- the settings file cannot be read as text -/
  | unreadable (path : String)
  /-- the settings file is not a list of known keys and values -/
  | malformed (path : String)
  deriving DecidableEq, Repr

def SettingsError.message : SettingsError → String
  | .unknownGroup token => "invalid group option " ++ Text.quoted token ++ " (expected pkg or type)"
  | .badPrefix text => "invalid path prefix " ++ Text.quoted text
  | .noEdgeLength => "invalid layout hint: minlen must be at least 1"
  | .badSeparation value =>
    "invalid layout hint: nodesep must be a positive number, got " ++ value.written Binary64.plain
  | .unknownFormat token => "invalid output format " ++ Text.quoted token ++ " (expected dot or json)"
  | .unreadable path => "failed to read config file " ++ path
  | .malformed path => "failed to parse config file " ++ path

/-! ## Layers -/

/-- one layer on top of another -/
def Layer.merge (lower upper : Layer) : Layer where
  focus := upper.focus <|> lower.focus
  limit := upper.limit <|> lower.limit
  ignore := upper.ignore <|> lower.ignore
  group := upper.group <|> lower.group
  nostd := upper.nostd <|> lower.nostd
  tests := upper.tests <|> lower.tests
  minlen := upper.minlen <|> lower.minlen
  nodesep := upper.nodesep <|> lower.nodesep
  format := upper.format <|> lower.format

/-! ## Checks -/

/-- a prefix that could be the start of no import path -/
def isBadPrefix (s : String) : Bool :=
  s.toList.head? = some '/' || s.toList.any Text.isBlank

/-- the entries of a list of prefixes, or the first bad one -/
def checkedPrefixes (entries : List String) : Except SettingsError (List String) :=
  (Text.trimmedEntries entries).mapM fun entry => if isBadPrefix entry then .error (.badPrefix entry) else .ok entry

def checkedGrouping (tokens : Option (List String)) : Except SettingsError Grouping :=
  match tokens with
  | none => .ok {}
  | some tokens => (Grouping.ofTokens tokens).mapError .unknownGroup

def checkedEdgeLength (value : Option Nat) : Except SettingsError Nat :=
  match value with
  | none => .ok ({} : Layout).edgeLength
  | some n => if n = 0 then .error .noEdgeLength else .ok n

def checkedSeparation (value : Option Binary64) : Except SettingsError Binary64 :=
  match value with
  | none => .ok ({} : Layout).nodeSeparation
  | some x => if x.isPositive then .ok x else .error (.badSeparation x)

/-- a format by its word; the error shows the word as given -/
def checkedFormat (token : Option String) : Except SettingsError Format :=
  match token with
  | none => .ok .dot
  | some token =>
    match Format.ofToken? token with
    | some format => .ok format
    | none => .error (.unknownFormat token)

/-- the settings that a layer asks for -/
def Settings.ofLayer (layer : Layer) : Except SettingsError Settings := do
  let limit ← checkedPrefixes (layer.limit.getD [])
  let ignore ← checkedPrefixes (layer.ignore.getD [])
  let grouping ← checkedGrouping layer.group
  let edgeLength ← checkedEdgeLength layer.minlen
  let nodeSeparation ← checkedSeparation layer.nodesep
  let format ← checkedFormat layer.format
  return {
    focus := Text.trim (layer.focus.getD "main")
    filter := { omitStd := layer.nostd.getD false, limit, ignore }
    grouping
    tests := layer.tests.getD false
    layout := { edgeLength, nodeSeparation }
    format }

/-- the layer that asks for settings, with every key set -/
def Settings.toLayer (s : Settings) : Layer where
  focus := some s.focus
  limit := some s.filter.limit
  ignore := some s.filter.ignore
  group := some (s.grouping.toList.map Dimension.name)
  nostd := some s.filter.omitStd
  tests := some s.tests
  minlen := some s.layout.edgeLength
  nodesep := some s.layout.nodeSeparation
  format := some s.format.name

end CallAtlas
