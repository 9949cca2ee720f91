/-
The command line.

`Request.ofArguments?` reads the arguments from left to right. An option takes its value from the same argument, after
an equals sign or right after a short name, or else from the next argument, which may not look like an option. No
option and no switch comes twice, and there is exactly one input; after two bare dashes everything is an input. Asking
for the version or for help ends the reading. `none` is a line that is not used as it should be.
-/
import CallAtlas.Number.Reading
import CallAtlas.Settings
import CallAtlas.Files.Path
import CallAtlas.Source

namespace CallAtlas

/-! ## Model -/

/-- how the input is read; `auto` goes by the extension of its name -/
inductive InputFormat where
  | auto
  | manifest
  | index
  deriving DecidableEq, Repr

/-- what a command line asks a run to do -/
structure Invocation where
  input : Option String := none
  inputFormat : Option InputFormat := none
  focus : Option String := none
  limit : Option String := none
  ignore : Option String := none
  group : Option String := none
  nostd : Bool := false
  tests : Bool := false
  minlen : Option Nat := none
  nodesep : Option Binary64 := none
  format : Option String := none
  /-- output file -/
  output : Option String := none
  /-- settings file -/
  config : Option String := none
  debug : Bool := false
  deriving DecidableEq, Repr

/-- what a command line asks for -/
inductive Request where
  | run (i : Invocation)
  | version
  | help
  deriving DecidableEq, Repr

/-- an option with a value -/
inductive OptionKey where
  | inputFormat
  | focus
  | limit
  | ignore
  | group
  | minlen
  | nodesep
  | format
  | output
  | config
  deriving DecidableEq, Repr

/-- an option without a value -/
inductive Switch where
  | nostd
  | tests
  | debug
  | version
  | help
  deriving DecidableEq, Repr

/-- what a name on the command line stands for -/
inductive Flag where
  | key (k : OptionKey)
  | switch (s : Switch)
  deriving DecidableEq, Repr

namespace Flag

/-- the option with a long name -/
def ofLong? (name : String) : Option Flag :=
  match name with
  | "input-format" => some (.key .inputFormat)
  | "focus" => some (.key .focus)
  | "limit" => some (.key .limit)
  | "ignore" => some (.key .ignore)
  | "group" => some (.key .group)
  | "minlen" => some (.key .minlen)
  | "nodesep" => some (.key .nodesep)
  | "format" => some (.key .format)
  | "output" => some (.key .output)
  | "config" => some (.key .config)
  | "nostd" => some (.switch .nostd)
  | "tests" => some (.switch .tests)
  | "debug" => some (.switch .debug)
  | "version" => some (.switch .version)
  | "help" => some (.switch .help)
  | _ => none

/-- the option with a short name -/
def ofShort? (c : Char) : Option Flag :=
  if c = 'f' then some (.key .format)
  else if c = 'o' then some (.key .output)
  else if c = 'V' then some (.switch .version)
  else if c = 'h' then some (.switch .help)
  else none

end Flag

namespace InputFormat

/-- the format that a word names, in lower case only -/
def ofName? (s : String) : Option InputFormat :=
  match s with
  | "auto" => some .auto
  | "manifest" => some .manifest
  | "scip" => some .index
  | _ => none

/-- the form of an input with a name -/
def source (f : InputFormat) (path : String) : Source :=
  match f with
  | .manifest => .manifest
  | .index => .index
  | .auto => if Path.extension? path = some "scip" then .index else .manifest

end InputFormat

/-! ## Values -/

namespace Invocation

/-- a value given for the first time -/
def once {α : Type} (old : Option α) (new : Option α) : Option (Option α) :=
  if old.isSome || new.isNone then none else some new

/-- a path, which cannot be empty -/
def path? (s : String) : Option String :=
  if s = "" then none else some s

/-- an integer that fits in 32 bits without a sign -/
def count? (s : String) : Option Nat :=
  match intOfChars? s.toList with
  | some n => if 0 ≤ n && n < 4294967296 then some n.toNat else none
  | none => none

/-- an invocation with the value of an option -/
def setKey? (i : Invocation) (k : OptionKey) (s : String) : Option Invocation :=
  match k with
  | .inputFormat => (once i.inputFormat (InputFormat.ofName? s)).map fun v => { i with inputFormat := v }
  | .focus => (once i.focus (some s)).map fun v => { i with focus := v }
  | .limit => (once i.limit (some s)).map fun v => { i with limit := v }
  | .ignore => (once i.ignore (some s)).map fun v => { i with ignore := v }
  | .group => (once i.group (some s)).map fun v => { i with group := v }
  | .minlen => (once i.minlen (count? s)).map fun v => { i with minlen := v }
  | .nodesep => (once i.nodesep (Binary64.ofText? s)).map fun v => { i with nodesep := v }
  | .format => (once i.format (some s)).map fun v => { i with format := v }
  | .output => (once i.output (path? s)).map fun v => { i with output := v }
  | .config => (once i.config (path? s)).map fun v => { i with config := v }

/-- an invocation with its input -/
def setInput? (i : Invocation) (s : String) : Option Invocation :=
  (once i.input (path? s)).map fun v => { i with input := v }

/-- what a switch leads to: an invocation to go on with, or the end of the reading -/
def setSwitch? (i : Invocation) (s : Switch) : Option (Invocation ⊕ Request) :=
  match s with
  | .nostd => if i.nostd then none else some (.inl { i with nostd := true })
  | .tests => if i.tests then none else some (.inl { i with tests := true })
  | .debug => if i.debug then none else some (.inl { i with debug := true })
  | .version => some (.inr .version)
  | .help => some (.inr .help)

/-- the settings that a command line gives -/
def layer (i : Invocation) : Layer where
  focus := i.focus
  limit := i.limit.map Text.splitList
  ignore := i.ignore.map Text.splitList
  group := i.group.map Text.splitList
  nostd := if i.nostd then some true else none
  tests := if i.tests then some true else none
  minlen := i.minlen
  nodesep := i.nodesep
  format := i.format

end Invocation

/-! ## Reading -/

/-- what one argument is -/
inductive Argument where
  /-- an input, or the value of the option before it -/
  | plain (s : String)
  /-- the end of the options -/
  | dashes
  /-- a long name, perhaps with a value -/
  | long (name : String) (value : Option String)
  /-- short names, or one with a value -/
  | short (chars : List Char)
  deriving DecidableEq, Repr

/-- what an argument is by its look -/
def Argument.ofText (s : String) : Argument :=
  match s.toList with
  | ['-', '-'] => .dashes
  | '-' :: '-' :: r =>
    match r.dropWhile (· ≠ '=') with
    | _ :: value => .long (String.ofList (r.takeWhile (· ≠ '='))) (some (String.ofList value))
    | [] => .long (String.ofList r) none
  | '-' :: c :: r => .short (c :: r)
  | _ => .plain s

namespace Request

/-- how the reading stands after an argument -/
inductive Reading where
  | going (i : Invocation)
  /-- the next argument is the value of an option -/
  | wants (i : Invocation) (k : OptionKey)
  | done (r : Request)
  deriving DecidableEq, Repr

/-- short names one after another; the rest of an argument is the value of an option that takes one -/
def readShort? (i : Invocation) : List Char → Option Reading
  | [] => some (.going i)
  | c :: r =>
    match Flag.ofShort? c with
    | none => none
    | some (.switch s) =>
      match i.setSwitch? s with
      | none => none
      | some (.inr request) => some (.done request)
      | some (.inl i) => readShort? i r
    | some (.key k) =>
      match r with
      | [] => some (.wants i k)
      | '=' :: value => (i.setKey? k (String.ofList value)).map .going
      | value => (i.setKey? k (String.ofList value)).map .going

/-- a long name -/
def readLong? (i : Invocation) (name : String) (value : Option String) : Option Reading :=
  match Flag.ofLong? name, value with
  | some (.key k), none => some (.wants i k)
  | some (.key k), some v => (i.setKey? k v).map .going
  | some (.switch s), none =>
    match i.setSwitch? s with
    | none => none
    | some (.inr request) => some (.done request)
    | some (.inl i) => some (.going i)
  | some (.switch _), some _ => none
  | none, _ => none

/-- arguments after the end of the options -/
def readInputs? (i : Invocation) (arguments : List String) : Option Invocation :=
  arguments.foldlM Invocation.setInput? i

/-- a run, once its input is given -/
def ofInvocation? (i : Invocation) : Option Request :=
  if i.input.isSome then some (.run i) else none

/-- the arguments from a state of the reading on -/
def read? : Reading → List String → Option Request
  | .done request, _ => some request
  | .going i, [] => ofInvocation? i
  | .wants _ _, [] => none
  | .wants i k, a :: r =>
    match Argument.ofText a with
    | .plain s =>
      match i.setKey? k s with
      | some i => read? (.going i) r
      | none => none
    | _ => none
  | .going i, a :: r =>
    match Argument.ofText a with
    | .plain s =>
      match i.setInput? s with
      | some i => read? (.going i) r
      | none => none
    | .dashes => (readInputs? i r).bind ofInvocation?
    | .long name value =>
      match readLong? i name value with
      | some state => read? state r
      | none => none
    | .short chars =>
      match readShort? i chars with
      | some state => read? state r
      | none => none

/-- what a command line asks for -/
def ofArguments? (arguments : List String) : Option Request :=
  read? (.going {}) arguments

end Request

end CallAtlas
