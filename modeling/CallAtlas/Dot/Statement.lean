/-
Drawings in the DOT language, statement by statement.

A drawing is a name and a list of statements. `Statement.text` writes one statement at a depth of nesting, and
`document` writes them all between the opening and the closing line. Values stand between quotes with quotes,
backslashes and line breaks escaped; the names of graphs and clusters keep ASCII letters and digits only.
-/

namespace CallAtlas.Dot

/-! ## Text -/

/-- an identifier: everything but ASCII letters and digits becomes an underscore -/
def identifier (s : String) : String :=
  String.ofList (s.toList.map fun c => if c.isAlphanum then c else '_')

/-- one character inside a quoted value -/
def escapedChar (c : Char) : List Char :=
  if c = '\\' then ['\\', '\\']
  else if c = '"' then ['\\', '"']
  else if c = '\n' then ['\\', 'n']
  else [c]

/-- the inside of a quoted value -/
def escaped (s : String) : String :=
  String.ofList (s.toList.flatMap escapedChar)

theorem escaped_append (s t : String) : escaped (s ++ t) = escaped s ++ escaped t := by
  simp [escaped, String.toList_append, List.flatMap_append, String.ofList_append]

/-! ## Statements -/

/-- a key and its value -/
abbrev Attribute := String × String

/-- one statement of a drawing -/
inductive Statement where
  /-- an attribute of the graph or of the cluster that is open -/
  | assign (key value : String)
  /-- attributes for all nodes or all edges -/
  | defaults (kind : String) (attributes : List Attribute)
  | blank
  | node (id : String) (attributes : List Attribute)
  | edge (source target : String) (attributes : List Attribute)
  /-- opens a cluster and gives it attributes -/
  | openCluster (id : String) (attributes : List Attribute)
  | closeCluster
  deriving DecidableEq, Repr

/-- the start of a line at a depth -/
def indent (depth : Nat) : String :=
  String.ofList (List.replicate (4 * depth) ' ')

/-- a key with its value between quotes -/
def attributeText (a : Attribute) : String :=
  a.1 ++ "=\"" ++ escaped a.2 ++ "\""

/-- attributes separated by commas -/
def attributesText (attributes : List Attribute) : String :=
  ", ".intercalate (attributes.map attributeText)

/-- attributes in brackets, if there are any -/
def bracketText (attributes : List Attribute) : String :=
  if attributes = [] then "" else " [" ++ attributesText attributes ++ "]"

/-- a line with an attribute of its own -/
def attributeLine (depth : Nat) (a : Attribute) : String :=
  indent depth ++ attributeText a ++ ";\n"

namespace Statement

/-- a statement as it is written at a depth; the brace that closes a cluster stands where the cluster stands -/
def text (depth : Nat) : Statement → String
  | .assign key value => attributeLine depth (key, value)
  | .defaults kind attributes => indent depth ++ kind ++ " [" ++ attributesText attributes ++ "];\n"
  | .blank => "\n"
  | .node id attributes => indent depth ++ id ++ bracketText attributes ++ ";\n"
  | .edge source target attributes => indent depth ++ source ++ " -> " ++ target ++ bracketText attributes ++ ";\n"
  | .openCluster id attributes =>
    indent depth ++ "subgraph cluster_" ++ identifier id ++ " \x7b\n"
      ++ String.join (attributes.map (attributeLine (depth + 1)))
  | .closeCluster => indent (depth - 1) ++ "\x7d\n"

/-- the depth after a statement -/
def depthAfter (depth : Nat) : Statement → Nat
  | .openCluster _ _ => depth + 1
  | .closeCluster => depth - 1
  | _ => depth

end Statement

/-! ## Documents -/

/-- the statements as they are written, one text each -/
def texts (depth : Nat) : List Statement → List String
  | [] => []
  | s :: r => s.text depth :: texts (s.depthAfter depth) r

/-- the opening line -/
def opening (name : String) : String :=
  "digraph " ++ identifier name ++ " \x7b\n"

/-- the closing line -/
def closing : String := "\x7d\n"

/-- a whole drawing -/
def document (name : String) (statements : List Statement) : String :=
  opening name ++ String.join (texts 1 statements) ++ closing

end CallAtlas.Dot
