/-
The text of a drawing, read back.

`readText?` is a reader for drawings: values are taken from between their quotes and unescaped, a line is told by what
follows its first word, and with each statement the reader notes the clusters that are open where it begins. Keys and
ids have to be words of ASCII letters and digits; values may be any text.
- `readValue?_escaped`: an escaped value ends at its closing quote, wherever it has quotes and backslashes of its own.
- `readStatement?_text`: one statement is read back, whatever follows it and at whatever depth it is written.
- `readStatements?_texts`: so statements are read one after another, and the brace that closes the graph is none of
  those that close clusters.
- `document_reads_back`: a drawing gives its name as an identifier and all its statements in their places, with clusters
  named by identifiers and their attributes as statements of their own; and it gives two drawings one text only if they
  agree in this.
-/
import CallAtlas.Proofs.DrawingShape

namespace CallAtlas.Dot

/-! ## Words, marks and values -/

/-- a word: letters and digits, at least one -/
def IsWord (s : String) : Prop :=
  s ≠ "" ∧ s.toList.all Char.isAlphanum = true

instance (s : String) : Decidable (IsWord s) := by
  unfold IsWord; infer_instance

/-- a word at the front, and what follows it -/
def readWord? (cs : List Char) : Option (String × List Char) :=
  let word := cs.takeWhile Char.isAlphanum
  if word = [] then none else some (String.ofList word, cs.dropWhile Char.isAlphanum)

/-- a character of an identifier -/
def isIdentifierChar (c : Char) : Bool :=
  c.isAlphanum || c = '_'

/-- what follows a mark at the front -/
def dropMark? (mark : String) (cs : List Char) : Option (List Char) :=
  cs.dropPrefix? mark.toList

/-- the character for which a letter stands after a backslash -/
def unescaped? (c : Char) : Option Char :=
  if c = 'n' then some '\n'
  else if c = '\\' ∨ c = '"' then some c
  else none

/-- a value up to its closing quote, and what follows; values do not go over the end of a line -/
def readValue? : List Char → Option (List Char × List Char)
  | [] => none
  | c :: r =>
    if c = '"' then some ([], r)
    else if c = '\n' then none
    else if c = '\\' then
      match r with
      | [] => none
      | d :: r => do
        let c ← unescaped? d
        let (value, r) ← readValue? r
        return (c :: value, r)
    else do
      let (value, r) ← readValue? r
      return (c :: value, r)

/-! ## Statements -/

/-- a key and its value, and what follows -/
def readAttribute? (cs : List Char) : Option (Attribute × List Char) := do
  let (key, r) ← readWord? cs
  let r ← dropMark? "=\"" r
  let (value, r) ← readValue? r
  return ((key, String.ofList value), r)

/-- attributes up to a closing bracket, and what follows it -/
def readAttributes? (cs : List Char) : Option (List Attribute × List Char) :=
  match readAttribute? cs with
  | none => none
  | some (a, r) =>
    match dropMark? ", " r with
    | some more =>
      if more.length < cs.length then (readAttributes? more).map fun (as, r) => (a :: as, r) else none
    | none => (dropMark? "]" r).map fun r => ([a], r)
termination_by cs.length

/-- the attributes in brackets at the end of a line, and the lines that follow -/
def readBracket? (cs : List Char) : Option (List Attribute × List Char) :=
  match dropMark? ";\n" cs with
  | some r => some ([], r)
  | none => do
    let r ← dropMark? " [" cs
    match dropMark? "];\n" r with
    | some r => return ([], r)
    | none =>
      let (attributes, r) ← readAttributes? r
      return (attributes, ← dropMark? ";\n" r)

/-- the words that stand for all nodes and for all edges -/
def kinds : List String := ["node", "edge"]

/-- a statement after its first word -/
def readAfterWord? (word : String) (cs : List Char) : Option (Statement × List Char) :=
  match dropMark? "=\"" cs, dropMark? " -> " cs, dropMark? " cluster_" cs with
  | some r, _, _ => do
    let (value, r) ← readValue? r
    return (.assign word (String.ofList value), ← dropMark? ";\n" r)
  | none, some r, _ => do
    let (target, r) ← readWord? r
    let (attributes, r) ← readBracket? r
    return (.edge word target attributes, r)
  | none, none, some r =>
    if word = "subgraph" then do
      let id := String.ofList (r.takeWhile isIdentifierChar)
      return (.openCluster id [], ← dropMark? " \x7b\n" (r.dropWhile isIdentifierChar))
    else none
  | none, none, none => do
    let (attributes, r) ← readBracket? cs
    return (if word ∈ kinds then .defaults word attributes else .node word attributes, r)

/-- a statement and what follows it; what a cluster has inside are statements of their own -/
def readStatement? (cs : List Char) : Option (Statement × List Char) :=
  let line := cs.dropWhile (· = ' ')
  match dropMark? "\n" line, dropMark? "\x7d\n" line with
  | some r, _ => some (.blank, r)
  | none, some r => some (.closeCluster, r)
  | none, none => do
    let (word, r) ← readWord? line
    readAfterWord? word r

/-! ## Drawings -/

/-- the clusters around what follows a statement, the innermost first -/
def enclosing (around : List String) : Statement → List String
  | .openCluster id _ => id :: around
  | .closeCluster => around.tail
  | _ => around

/-- statements, each with the clusters that are open where it begins -/
def placed (around : List String) : List Statement → List (List String × Statement)
  | [] => []
  | s :: rest => (around, s) :: placed (enclosing around s) rest

/-- the statements up to the brace that closes the graph, which is the end of the text -/
def readStatements? (around : List String) (cs : List Char) : Option (List (List String × Statement)) :=
  match readStatement? cs with
  | none => none
  | some (s, r) =>
    if s = .closeCluster ∧ around = [] then if r = [] then some [] else none
    else if r.length < cs.length then (readStatements? (enclosing around s) r).map ((around, s) :: ·)
    else none
termination_by cs.length

/-- the name of a graph and its statements in their places -/
def readText? (text : String) : Option (String × List (List String × Statement)) := do
  let r ← dropMark? "digraph " text.toList
  let name := String.ofList (r.takeWhile isIdentifierChar)
  let r ← dropMark? " \x7b\n" (r.dropWhile isIdentifierChar)
  return (name, ← readStatements? [] r)

namespace Statement

/-- keys and ids are words, and a kind of defaults is no node -/
def Writable : Statement → Prop
  | .assign key _ => IsWord key
  | .defaults kind attributes => kind ∈ kinds ∧ ∀ a ∈ attributes, IsWord a.1
  | .blank => True
  | .node id attributes => IsWord id ∧ id ∉ kinds ∧ ∀ a ∈ attributes, IsWord a.1
  | .edge source target attributes => IsWord source ∧ IsWord target ∧ ∀ a ∈ attributes, IsWord a.1
  | .openCluster _ attributes => ∀ a ∈ attributes, IsWord a.1
  | .closeCluster => True

instance (s : Statement) : Decidable s.Writable := by
  cases s <;> unfold Writable <;> infer_instance

/-- a statement as a reader finds it: a cluster has an identifier, and its attributes come inside -/
def spelled : Statement → List Statement
  | .openCluster id attributes => .openCluster (identifier id) [] :: attributes.map fun a => .assign a.1 a.2
  | s => [s]

end Statement

/-- what is opened is closed, and nothing else -/
def WellNested (statements : List Statement) : Prop :=
  statements.foldlM levelAfter? 0 = some 0

instance (statements : List Statement) : Decidable (WellNested statements) := by
  unfold WellNested; infer_instance

/-! ## Reading what is written -/

section Written

variable {w : String} {cs r : List Char} {p : Char → Bool} {attributes : List Attribute}

theorem dropMark?_append (mark : String) (r : List Char) : dropMark? mark (mark.toList ++ r) = some r :=
  List.dropPrefix?_append_of_beq r (by simp)

theorem takeWhile_append_of_stop (hcs : ∀ c ∈ cs, p c = true) (hr : r.head?.any p = false) :
    (cs ++ r).takeWhile p = cs := by
  rw [List.takeWhile_append_of_pos hcs]
  cases r with
  | nil => exact List.append_nil cs
  | cons c r => rw [List.takeWhile_cons_of_neg (by simpa using hr), List.append_nil]

theorem dropWhile_append_of_stop (hcs : ∀ c ∈ cs, p c = true) (hr : r.head?.any p = false) :
    (cs ++ r).dropWhile p = r := by
  rw [List.dropWhile_append_of_pos hcs]
  cases r with
  | nil => rfl
  | cons c r => rw [List.dropWhile_cons_of_neg (by simpa using hr)]

/-- a word ends where something else begins -/
theorem readWord?_append (hw : IsWord w) (hr : r.head?.any Char.isAlphanum = false) :
    readWord? (w.toList ++ r) = some (w, r) := by
  have hne : w.toList ≠ [] := by simpa using hw.1
  have hchars : ∀ c ∈ w.toList, c.isAlphanum = true := List.all_eq_true.1 hw.2
  unfold readWord?
  rw [takeWhile_append_of_stop hchars hr, dropWhile_append_of_stop hchars hr]
  simp only [if_neg hne, String.ofList_toList]

theorem isIdentifierChar_of_mem_identifier {s : String} {c : Char} (hc : c ∈ (identifier s).toList) :
    isIdentifierChar c = true := by
  rw [identifier, String.toList_ofList] at hc
  obtain ⟨d, -, rfl⟩ := List.mem_map.1 hc
  unfold isIdentifierChar
  split
  next hd => simp [hd]
  next => simp

theorem identifier_identifier (s : String) : identifier (identifier s) = identifier s := by
  unfold identifier
  rw [String.toList_ofList, List.map_map]
  refine congrArg String.ofList (List.map_congr_left fun c _ => ?_)
  rw [Function.comp_apply]
  split
  next => simp
  next => decide

/-- one character of a value is read as it was before it was escaped -/
theorem readValue?_escapedChar (c : Char) (r : List Char) :
    readValue? (escapedChar c ++ r) = (readValue? r).map fun v => (c :: v.1, v.2) := by
  unfold escapedChar
  rw [Option.map_eq_bind]
  split_ifs with hbackslash hquote hbreak
  · rw [hbackslash]
    rfl
  · rw [hquote]
    rfl
  · rw [hbreak]
    rfl
  · rw [List.singleton_append, readValue?.eq_def]
    simp only [if_neg hbackslash, if_neg hquote, if_neg hbreak]
    rfl

/-- **A value ends at its closing quote** and nowhere before it. -/
theorem readValue?_escaped (cs r : List Char) : readValue? (cs.flatMap escapedChar ++ '"' :: r) = some (cs, r) := by
  induction cs with
  | nil =>
    rw [List.flatMap_nil, List.nil_append, readValue?.eq_def]
    rfl
  | cons c cs ih => rw [List.flatMap_cons, List.append_assoc, readValue?_escapedChar, ih, Option.map_some]

theorem toList_attributeText (a : Attribute) :
    (attributeText a).toList = a.1.toList ++ ("=\"".toList ++ (a.2.toList.flatMap escapedChar ++ ['"'])) := by
  simp [attributeText, escaped]

theorem readAttribute?_text {a : Attribute} (ha : IsWord a.1) (r : List Char) :
    readAttribute? ((attributeText a).toList ++ r) = some (a, r) := by
  rw [toList_attributeText, List.append_assoc, List.append_assoc, List.append_assoc, readAttribute?,
    readWord?_append ha rfl]
  simp only [Option.bind_eq_bind, Option.bind_some, dropMark?_append, List.singleton_append, readValue?_escaped,
    String.ofList_toList]
  rfl

theorem attributesText_singleton (a : Attribute) : attributesText [a] = attributeText a :=
  String.intercalate_singleton

theorem attributesText_cons_cons (a b : Attribute) (more : List Attribute) :
    attributesText (a :: b :: more) = attributeText a ++ ", " ++ attributesText (b :: more) :=
  String.intercalate_cons_cons

/-- attributes begin with a key -/
theorem exists_attributesText_eq (a : Attribute) (more : List Attribute) :
    ∃ text, (attributesText (a :: more)).toList = a.1.toList ++ text := by
  cases more with
  | nil => exact ⟨_, by rw [attributesText_singleton, toList_attributeText]⟩
  | cons b more =>
    rw [attributesText_cons_cons, String.toList_append, String.toList_append, toList_attributeText, List.append_assoc,
      List.append_assoc]
    exact ⟨_, rfl⟩

/-- attributes are read up to the bracket after them -/
theorem readAttributes?_text (hne : attributes ≠ []) (hkeys : ∀ a ∈ attributes, IsWord a.1) (r : List Char) :
    readAttributes? ((attributesText attributes).toList ++ ("]".toList ++ r)) = some (attributes, r) := by
  induction attributes with
  | nil => exact absurd rfl hne
  | cons a more ih =>
    obtain ⟨ha, hmore⟩ := List.forall_mem_cons.1 hkeys
    cases more with
    | nil =>
      have hcomma : dropMark? ", " ("]".toList ++ r) = none := rfl
      rw [readAttributes?, attributesText_singleton, readAttribute?_text ha]
      simp only [hcomma, dropMark?_append, Option.map_some]
    | cons b more =>
      rw [readAttributes?, attributesText_cons_cons, String.toList_append, String.toList_append, List.append_assoc,
        List.append_assoc, readAttribute?_text ha]
      simp only [dropMark?_append]
      rw [if_pos (by simp; omega), ih (List.cons_ne_nil b more) hmore, Option.map_some]

/-- no mark without letters is at the front of a word -/
theorem dropMark?_word {mark : String} {m : Char} {ms : List Char} (hw : IsWord w) (hmark : mark.toList = m :: ms)
    (hm : m.isAlphanum = false) (r : List Char) : dropMark? mark (w.toList ++ r) = none := by
  obtain ⟨c, cs, hcs⟩ := List.exists_cons_of_ne_nil (l := w.toList) (by simpa using hw.1)
  have hne : c ≠ m := by
    rintro rfl
    exact absurd (List.all_eq_true.1 hw.2 c (by simp [hcs])) (by simp [hm])
  simp [dropMark?, hcs, hmark, List.dropPrefix?, hne]

theorem readBracket?_brackets (hkeys : ∀ a ∈ attributes, IsWord a.1) (r : List Char) :
    readBracket? (" [".toList ++ ((attributesText attributes).toList ++ ("];\n".toList ++ r))) =
      some (attributes, r) := by
  have hsemicolon : ∀ cs, dropMark? ";\n" (" [".toList ++ cs) = none := fun _ => rfl
  unfold readBracket?
  simp only [hsemicolon, dropMark?_append, Option.bind_eq_bind, Option.bind_some]
  cases attributes with
  | nil =>
    have htext : attributesText [] = "" := String.intercalate_nil
    rw [htext, String.toList_empty, List.nil_append, dropMark?_append]
    rfl
  | cons a more =>
    have hbracket : dropMark? "];\n" ((attributesText (a :: more)).toList ++ ("];\n".toList ++ r)) = none := by
      obtain ⟨text, htext⟩ := exists_attributesText_eq a more
      rw [htext, List.append_assoc]
      exact dropMark?_word (hkeys a List.mem_cons_self) rfl rfl _
    have hclose : "];\n".toList ++ r = "]".toList ++ (";\n".toList ++ r) := rfl
    rw [hbracket, hclose, readAttributes?_text (List.cons_ne_nil a more) hkeys]
    simp only [Option.bind_some, dropMark?_append]
    rfl

/-- attributes at the end of a line -/
theorem readBracket?_text (hkeys : ∀ a ∈ attributes, IsWord a.1) (r : List Char) :
    readBracket? ((bracketText attributes).toList ++ (";\n".toList ++ r)) = some (attributes, r) := by
  by_cases hnil : attributes = []
  · subst hnil
    rw [bracketText, if_pos rfl, String.toList_empty, List.nil_append, readBracket?, dropMark?_append]
  · have htext : (bracketText attributes).toList ++ (";\n".toList ++ r) =
        " [".toList ++ ((attributesText attributes).toList ++ ("];\n".toList ++ r)) := by
      simp [bracketText, hnil]
    rw [htext, readBracket?_brackets hkeys]

/-! ### Statements -/

theorem dropWhile_indent (hr : r.head?.any (· = ' ') = false) (depth : Nat) :
    ((indent depth).toList ++ r).dropWhile (· = ' ') = r := by
  refine dropWhile_append_of_stop (fun c hc => ?_) hr
  rw [indent, String.toList_ofList] at hc
  simp [List.eq_of_mem_replicate hc]

/-- a line with a word at its start -/
theorem readStatement?_word (hw : IsWord w) (hr : r.head?.any Char.isAlphanum = false) (depth : Nat) :
    readStatement? ((indent depth).toList ++ (w.toList ++ r)) = readAfterWord? w r := by
  have hspace : (w.toList ++ r).head?.any (· = ' ') = false := by
    obtain ⟨c, cs, hcs⟩ := List.exists_cons_of_ne_nil (l := w.toList) (by simpa using hw.1)
    have hne : c ≠ ' ' := by
      rintro rfl
      exact absurd (List.all_eq_true.1 hw.2 ' ' (by simp [hcs])) (by decide)
    simp [hcs, hne]
  unfold readStatement?
  rw [dropWhile_indent hspace]
  simp only [dropMark?_word hw (show "\n".toList = ['\n'] from rfl) rfl,
    dropMark?_word hw (show "\x7d\n".toList = ['\x7d', '\n'] from rfl) rfl, readWord?_append hw hr, Option.bind_eq_bind,
    Option.bind_some]

/-- a line ends with a semicolon or goes on with a bracket -/
theorem lineEnd_cases (attributes : List Attribute) (r : List Char) :
    (bracketText attributes).toList ++ (";\n".toList ++ r) = ";\n".toList ++ r ∨
      ∃ more, (bracketText attributes).toList ++ (";\n".toList ++ r) = " [".toList ++ more := by
  unfold bracketText
  split_ifs
  · exact Or.inl (by rw [String.toList_empty, List.nil_append])
  · exact Or.inr ⟨_, by rw [String.toList_append, String.toList_append, List.append_assoc, List.append_assoc]⟩

theorem head?_lineEnd (attributes : List Attribute) (r : List Char) :
    ((bracketText attributes).toList ++ (";\n".toList ++ r)).head?.any Char.isAlphanum = false := by
  rcases lineEnd_cases attributes r with heq | ⟨more, heq⟩ <;> rw [heq] <;> rfl

/-- at the end of a line there is no value, no second node and no cluster -/
theorem dropMark?_lineEnd {mark : String} (hmark : mark ∈ ["=\"", " -> ", " cluster_"]) (attributes : List Attribute)
    (r : List Char) : dropMark? mark ((bracketText attributes).toList ++ (";\n".toList ++ r)) = none := by
  simp only [List.mem_cons, List.not_mem_nil, or_false] at hmark
  rcases lineEnd_cases attributes r with heq | ⟨more, heq⟩ <;> rw [heq] <;> rcases hmark with rfl | rfl | rfl <;> rfl

/-- **One statement is read back**, whatever follows it and at whatever depth it is written. -/
theorem readStatement?_text {s : Statement} (hs : s.Writable) (hspelled : s.spelled = [s]) (depth : Nat)
    (r : List Char) : readStatement? ((s.text depth).toList ++ r) = some (s, r) := by
  cases s with
  | assign key value =>
    have htext : ((Statement.assign key value).text depth).toList ++ r = (indent depth).toList ++ (key.toList ++
        ("=\"".toList ++ (value.toList.flatMap escapedChar ++ '"' :: (";\n".toList ++ r)))) := by
      simp [Statement.text, attributeLine, attributeText, escaped]
    rw [htext, readStatement?_word hs rfl, readAfterWord?]
    simp only [dropMark?_append, readValue?_escaped, Option.bind_eq_bind, Option.bind_some, String.ofList_toList]
    rfl
  | defaults kind attributes =>
    obtain ⟨hkind, hkeys⟩ := hs
    have hwords : ∀ kind ∈ kinds, IsWord kind := by decide
    have htext : ((Statement.defaults kind attributes).text depth).toList ++ r = (indent depth).toList ++
        (kind.toList ++ (" [".toList ++ ((attributesText attributes).toList ++ ("];\n".toList ++ r)))) := by
      simp [Statement.text]
    have hassign : ∀ cs, dropMark? "=\"" (" [".toList ++ cs) = none := fun _ => rfl
    have hedge : ∀ cs, dropMark? " -> " (" [".toList ++ cs) = none := fun _ => rfl
    have hcluster : ∀ cs, dropMark? " cluster_" (" [".toList ++ cs) = none := fun _ => rfl
    rw [htext, readStatement?_word (hwords kind hkind) rfl, readAfterWord?]
    simp only [hassign, hedge, hcluster, readBracket?_brackets hkeys, Option.bind_eq_bind, Option.bind_some,
      if_pos hkind]
    rfl
  | blank =>
    have htext : (Statement.blank.text depth).toList ++ r = "\n".toList ++ r := rfl
    have hline : ("\n".toList ++ r).dropWhile (· = ' ') = "\n".toList ++ r := rfl
    rw [htext, readStatement?, hline, dropMark?_append]
  | node id attributes =>
    obtain ⟨hid, hkind, hkeys⟩ := hs
    have htext : ((Statement.node id attributes).text depth).toList ++ r = (indent depth).toList ++
        (id.toList ++ ((bracketText attributes).toList ++ (";\n".toList ++ r))) := by
      simp [Statement.text]
    rw [htext, readStatement?_word hid (head?_lineEnd attributes r), readAfterWord?, dropMark?_lineEnd (by simp),
      dropMark?_lineEnd (by simp), dropMark?_lineEnd (by simp)]
    simp only [readBracket?_text hkeys, Option.bind_eq_bind, Option.bind_some, if_neg hkind]
    rfl
  | edge source target attributes =>
    obtain ⟨hsource, htarget, hkeys⟩ := hs
    have htext : ((Statement.edge source target attributes).text depth).toList ++ r = (indent depth).toList ++
        (source.toList ++ (" -> ".toList ++
          (target.toList ++ ((bracketText attributes).toList ++ (";\n".toList ++ r))))) := by
      simp [Statement.text]
    have hassign : ∀ cs, dropMark? "=\"" (" -> ".toList ++ cs) = none := fun _ => rfl
    rw [htext, readStatement?_word hsource rfl, readAfterWord?]
    simp only [hassign, dropMark?_append, readWord?_append htarget (head?_lineEnd attributes r),
      readBracket?_text hkeys, Option.bind_eq_bind, Option.bind_some]
    rfl
  | openCluster id attributes =>
    obtain ⟨hid, rfl⟩ : identifier id = id ∧ attributes = [] := by simpa [Statement.spelled] using hspelled
    have htext : ((Statement.openCluster id []).text depth).toList ++ r = (indent depth).toList ++
        ("subgraph".toList ++ (" cluster_".toList ++ (id.toList ++ (" \x7b\n".toList ++ r)))) := by
      simp [Statement.text, hid]
    have hchars : ∀ c ∈ id.toList, isIdentifierChar c = true := fun c hc =>
      isIdentifierChar_of_mem_identifier (hid.symm ▸ hc)
    have hassign : ∀ cs, dropMark? "=\"" (" cluster_".toList ++ cs) = none := fun _ => rfl
    have hedge : ∀ cs, dropMark? " -> " (" cluster_".toList ++ cs) = none := fun _ => rfl
    have hstop : (" \x7b\n".toList ++ r).head?.any isIdentifierChar = false := rfl
    rw [htext, readStatement?_word (by decide) rfl, readAfterWord?]
    simp only [hassign, hedge, dropMark?_append, if_true, takeWhile_append_of_stop hchars hstop,
      dropWhile_append_of_stop hchars hstop, Option.bind_eq_bind, Option.bind_some, String.ofList_toList]
    rfl
  | closeCluster =>
    have htext : (Statement.closeCluster.text depth).toList ++ r = (indent (depth - 1)).toList ++
        ("\x7d\n".toList ++ r) := by
      simp [Statement.text]
    have hblank : dropMark? "\n" ("\x7d\n".toList ++ r) = none := rfl
    rw [htext, readStatement?, dropWhile_indent rfl, hblank, dropMark?_append]

/-! ### Documents -/

/-- the level after a statement is the number of clusters around what follows; only a brace too many has none -/
theorem levelAfter?_eq_some {around : List String} {s : Statement} {level : Nat}
    (h : levelAfter? around.length s = some level) :
    level = (enclosing around s).length ∧ ¬ (s = .closeCluster ∧ around = []) := by
  cases s with
  | openCluster id attributes => exact ⟨(Option.some.inj h).symm, by simp⟩
  | closeCluster =>
    cases around with
    | nil => cases h
    | cons id around => exact ⟨(Option.some.inj h).symm, by simp⟩
  | _ => exact ⟨(Option.some.inj h).symm, by simp⟩

theorem length_text_pos (depth : Nat) (s : Statement) : 0 < (s.text depth).toList.length := by
  cases s <;> simp [Statement.text, attributeLine]

/-- **Statements are read one after another**, until the brace that closes what is open around none of them. -/
theorem readStatements?_texts {statements : List Statement} (hwritable : ∀ s ∈ statements, s.Writable)
    (hspelled : ∀ s ∈ statements, s.spelled = [s]) {around : List String}
    (hnested : statements.foldlM levelAfter? around.length = some 0) (depth : Nat) :
    readStatements? around ((String.join (texts depth statements)).toList ++ closing.toList) =
      some (placed around statements) := by
  induction statements generalizing around depth with
  | nil =>
    obtain rfl : around = [] := List.eq_nil_of_length_eq_zero (Option.some.inj hnested)
    have hclose : readStatement? closing.toList = some (.closeCluster, []) := by
      simpa [Statement.text, indent, closing] using readStatement?_text (s := .closeCluster) trivial rfl 0 []
    rw [texts, String.join_nil, String.toList_empty, List.nil_append, readStatements?, hclose]
    rfl
  | cons s rest ih =>
    obtain ⟨hs, hrest⟩ := List.forall_mem_cons.1 hwritable
    obtain ⟨hsSpelled, hrestSpelled⟩ := List.forall_mem_cons.1 hspelled
    rw [List.foldlM_cons] at hnested
    obtain ⟨level, hlevel, hnested⟩ := Option.bind_eq_some_iff.1 hnested
    obtain ⟨rfl, hinside⟩ := levelAfter?_eq_some hlevel
    have hpos := length_text_pos depth s
    rw [texts, String.join_cons, String.toList_append, List.append_assoc, readStatements?,
      readStatement?_text hs hsSpelled depth]
    simp only [if_neg hinside]
    rw [if_pos (by simp only [List.length_append]; omega), ih hrest hrestSpelled hnested, Option.map_some, placed]

/-! ### What a reader finds -/

theorem spelled_of_mem_spelled {s t : Statement} (ht : t ∈ s.spelled) : t.spelled = [t] := by
  cases s with
  | openCluster id attributes =>
    rcases List.mem_cons.1 ht with rfl | ht
    · simp [Statement.spelled, identifier_identifier]
    · obtain ⟨a, -, rfl⟩ := List.mem_map.1 ht
      rfl
  | _ =>
    obtain rfl := List.mem_singleton.1 ht
    rfl

theorem writable_of_mem_spelled {s t : Statement} (hs : s.Writable) (ht : t ∈ s.spelled) : t.Writable := by
  cases s with
  | openCluster id attributes =>
    rcases List.mem_cons.1 ht with rfl | ht
    · exact List.forall_mem_nil _
    · obtain ⟨a, ha, rfl⟩ := List.mem_map.1 ht
      exact hs a ha
  | _ =>
    obtain rfl := List.mem_singleton.1 ht
    exact hs

theorem levelAfter?_assigns (attributes : List Attribute) (level : Nat) :
    (attributes.map fun a => Statement.assign a.1 a.2).foldlM levelAfter? level = some level := by
  induction attributes with
  | nil => rfl
  | cons a attributes ih => simpa [levelAfter?] using ih

theorem foldlM_levelAfter?_spelled (s : Statement) (level : Nat) :
    s.spelled.foldlM levelAfter? level = levelAfter? level s := by
  cases s with
  | openCluster id attributes =>
    rw [Statement.spelled, List.foldlM_cons]
    exact levelAfter?_assigns attributes (level + 1)
  | _ => simp [Statement.spelled]

theorem foldlM_levelAfter?_flatMap_spelled (statements : List Statement) (level : Nat) :
    (statements.flatMap Statement.spelled).foldlM levelAfter? level = statements.foldlM levelAfter? level := by
  induction statements generalizing level with
  | nil => rfl
  | cons s rest ih =>
    simp only [List.flatMap_cons, List.foldlM_append, foldlM_levelAfter?_spelled, ih, List.foldlM_cons]

theorem join_texts_assigns (attributes : List Attribute) (depth : Nat) (rest : List Statement) :
    String.join (texts depth ((attributes.map fun a => Statement.assign a.1 a.2) ++ rest)) =
      String.join (attributes.map (attributeLine depth)) ++ String.join (texts depth rest) := by
  induction attributes with
  | nil => simp
  | cons a attributes ih =>
    have hdepth : (Statement.assign a.1 a.2).depthAfter depth = depth := rfl
    rw [List.map_cons, List.cons_append, texts, String.join_cons, hdepth, ih, List.map_cons, String.join_cons,
      String.append_assoc]
    rfl

/-- the attributes of a cluster are written as statements inside it are -/
theorem join_texts_flatMap_spelled (statements : List Statement) (depth : Nat) :
    String.join (texts depth (statements.flatMap Statement.spelled)) = String.join (texts depth statements) := by
  induction statements generalizing depth with
  | nil => rfl
  | cons s rest ih =>
    cases s with
    | openCluster id attributes =>
      rw [List.flatMap_cons, Statement.spelled, List.cons_append, texts, texts, String.join_cons, String.join_cons,
        Statement.depthAfter, join_texts_assigns, ih]
      simp [Statement.text, Statement.depthAfter, identifier_identifier, String.append_assoc]
    | _ => simp [Statement.spelled, texts, ih]

theorem map_snd_placed (around : List String) (statements : List Statement) :
    (placed around statements).map Prod.snd = statements := by
  induction statements generalizing around with
  | nil => rfl
  | cons s rest ih => rw [placed, List.map_cons, ih]

/-- a drawing is read back -/
theorem readText?_document (name : String) (statements : List Statement) (hwritable : ∀ s ∈ statements, s.Writable)
    (hnested : WellNested statements) :
    readText? (document name statements) =
      some (identifier name, placed [] (statements.flatMap Statement.spelled)) := by
  have htext : (document name statements).toList = "digraph ".toList ++ ((identifier name).toList ++
      (" \x7b\n".toList ++ ((String.join (texts 1 (statements.flatMap Statement.spelled))).toList ++
        closing.toList))) := by
    simp [document, opening, join_texts_flatMap_spelled]
  have hchars : ∀ c ∈ (identifier name).toList, isIdentifierChar c = true := fun c hc =>
    isIdentifierChar_of_mem_identifier hc
  have hstop : ∀ r, (" \x7b\n".toList ++ r).head?.any isIdentifierChar = false := fun _ => rfl
  have hread : readStatements? [] ((String.join (texts 1 (statements.flatMap Statement.spelled))).toList ++
      closing.toList) = some (placed [] (statements.flatMap Statement.spelled)) := by
    refine readStatements?_texts (fun t ht => ?_) (fun t ht => ?_) ?_ 1
    · obtain ⟨s, hs, ht⟩ := List.mem_flatMap.1 ht
      exact writable_of_mem_spelled (hwritable s hs) ht
    · obtain ⟨s, -, ht⟩ := List.mem_flatMap.1 ht
      exact spelled_of_mem_spelled ht
    · rw [foldlM_levelAfter?_flatMap_spelled]
      exact hnested
  rw [readText?, htext, dropMark?_append]
  simp only [Option.bind_eq_bind, Option.bind_some, takeWhile_append_of_stop hchars (hstop _),
    dropWhile_append_of_stop hchars (hstop _), dropMark?_append, hread, String.ofList_toList]
  rfl

/-- **A drawing can be read back, and its text determines it.** The reader finds the name as an identifier and each
statement inside the clusters that are open around it, with all its values as they were given. Two drawings have one
text only if they have this in common, and then they do. -/
theorem document_reads_back (name : String) (statements : List Statement)
    (hwritable : ∀ s ∈ statements, s.Writable) (hnested : WellNested statements) :
    readText? (document name statements) =
        some (identifier name, placed [] (statements.flatMap Statement.spelled)) ∧
      ∀ name' statements', (∀ s ∈ statements', s.Writable) → WellNested statements' →
        (document name' statements' = document name statements ↔
          identifier name' = identifier name ∧
            statements'.flatMap Statement.spelled = statements.flatMap Statement.spelled) := by
  have hread := readText?_document name statements hwritable hnested
  refine ⟨hread, fun name' statements' hwritable' hnested' => ?_⟩
  constructor
  case mp =>
    intro htext
    have hread' := readText?_document name' statements' hwritable' hnested'
    rw [htext, hread] at hread'
    obtain ⟨hname, hplaced⟩ := Prod.mk.inj (Option.some.inj hread')
    refine ⟨hname.symm, ?_⟩
    rw [← map_snd_placed [] (statements'.flatMap Statement.spelled), ← hplaced, map_snd_placed]
  case mpr =>
    rintro ⟨hname, hspelled⟩
    rw [document, document, opening, opening, hname, ← join_texts_flatMap_spelled statements', hspelled,
      join_texts_flatMap_spelled]

/-- values that look like the text around them, a key and a node named like the words of the language, and a cluster
inside another one -/
def hostile : List Statement :=
  [ .assign "label" "end of label\"];\n\x7d\n\\",
    .defaults "node" [("shape", "box"), ("node", "n0 -> n1;")],
    .defaults "edge" [],
    .blank,
    .openCluster "0_app/store" [("label", "\\\""), ("tooltip", "\x7d")],
    .node "subgraph" [("label", "a\\nb\nc")],
    .openCluster "1 a\"b" [],
    .node "n1" [],
    .closeCluster,
    .blank,
    .closeCluster,
    .edge "subgraph" "n1" [("style", "dashed"), ("tooltip", " [x=\"y\"];")] ]

/-- each value is read back from between its quotes, and clusters that are spelled out have the same text -/
theorem document_reads_back_hostile :
    (∀ s ∈ hostile, s.Writable) ∧ WellNested hostile ∧
      readText? (document "a graph" hostile) =
        some ("a_graph",
          [ ([], .assign "label" "end of label\"];\n\x7d\n\\"),
            ([], .defaults "node" [("shape", "box"), ("node", "n0 -> n1;")]),
            ([], .defaults "edge" []),
            ([], .blank),
            ([], .openCluster "0_app_store" []),
            (["0_app_store"], .assign "label" "\\\""),
            (["0_app_store"], .assign "tooltip" "\x7d"),
            (["0_app_store"], .node "subgraph" [("label", "a\\nb\nc")]),
            (["0_app_store"], .openCluster "1_a_b" []),
            (["1_a_b", "0_app_store"], .node "n1" []),
            (["1_a_b", "0_app_store"], .closeCluster),
            (["0_app_store"], .blank),
            (["0_app_store"], .closeCluster),
            ([], .edge "subgraph" "n1" [("style", "dashed"), ("tooltip", " [x=\"y\"];")]) ]) ∧
      document "a_graph" (hostile.flatMap Statement.spelled) = document "a graph" hostile := by
  have hwritable : ∀ s ∈ hostile, s.Writable := by decide
  have hnested : WellNested hostile := by decide
  obtain ⟨hread, hdetermined⟩ := document_reads_back "a graph" hostile hwritable hnested
  refine ⟨hwritable, hnested, ?_, ?_⟩
  · rw [hread]
    decide
  · exact (hdetermined "a_graph" _ (by decide) (by decide)).2 (by decide)

end Written

end CallAtlas.Dot
