/-
Lists typed with commas, and lists of a settings file.

On the command line a list is one text cut at its commas, its entries trimmed and blank ones left out. In a settings file
it is a list of texts, trimmed and left out only when the settings are checked. The two mean the same.
- `ofLayer_tidied`: lists that are tidied before they are checked give the same settings or the same error.
- `Text.IsEntry`: an entry of a list typed with commas. `isEntry_of_mem_splitList`: all entries that are read are such,
  and `splitList_joined`: all lists of such entries can be typed.
- `Layer.comma_lists_alike`: all of it together.
-/
import CallAtlas.Settings

namespace CallAtlas

/-! ## Tidied lists -/

/-- a layer with its lists tidied: entries trimmed, blank ones left out -/
def Layer.tidied (layer : Layer) : Layer :=
  { layer with
    limit := layer.limit.map Text.trimmedEntries
    ignore := layer.ignore.map Text.trimmedEntries
    group := layer.group.map Text.trimmedEntries }

theorem checkedPrefixes_tidied (entries : Option (List String)) :
    checkedPrefixes ((entries.map Text.trimmedEntries).getD []) = checkedPrefixes (entries.getD []) := by
  cases entries with
  | none => rfl
  | some entries => simp [checkedPrefixes]

theorem checkedGrouping_tidied (tokens : Option (List String)) :
    checkedGrouping (tokens.map Text.trimmedEntries) = checkedGrouping tokens := by
  cases tokens with
  | none => rfl
  | some tokens => simp [checkedGrouping, Grouping.ofTokens]

theorem ofLayer_tidied (layer : Layer) : Settings.ofLayer layer.tidied = Settings.ofLayer layer := by
  simp only [Settings.ofLayer, Layer.tidied, checkedPrefixes_tidied, checkedGrouping_tidied]

/-- the keys that hold a list -/
inductive ListKey where
  | limit
  | ignore
  | group

/-- a layer with a list under a key -/
def Layer.withList (layer : Layer) : ListKey → List String → Layer
  | .limit, entries => { layer with limit := some entries }
  | .ignore, entries => { layer with ignore := some entries }
  | .group, entries => { layer with group := some entries }

theorem Layer.tidied_withList (layer : Layer) (key : ListKey) (entries : List String) :
    (layer.withList key entries).tidied = layer.tidied.withList key (Text.trimmedEntries entries) := by
  cases key <;> rfl

theorem ofLayer_withList_trimmedEntries (layer : Layer) (key : ListKey) (entries : List String) :
    Settings.ofLayer (layer.withList key (Text.trimmedEntries entries)) =
      Settings.ofLayer (layer.withList key entries) := by
  rw [← ofLayer_tidied (layer.withList key entries), ← ofLayer_tidied (layer.withList key (Text.trimmedEntries entries)),
    Layer.tidied_withList, Layer.tidied_withList, Text.trimmedEntries_trimmedEntries]

/-! ## Entries -/

namespace Text

/-- an entry of a list typed with commas -/
structure IsEntry (e : String) : Prop where
  notBlank : e ≠ ""
  trimmed : trim e = e
  noComma : ',' ∉ e.toList

/-- what is read from a text typed with commas is entries -/
theorem isEntry_of_mem_splitList {s e : String} (h : e ∈ splitList s) : IsEntry e := by
  obtain ⟨hne, piece, hpiece, rfl⟩ := mem_trimmedEntries.1 h
  constructor
  case notBlank => exact hne
  case trimmed => exact trim_trim piece
  case noComma =>
    intro hcomma
    rw [trim, String.toList_ofList] at hcomma
    exact notMem_of_mem_pieces hpiece (mem_of_mem_trimChars hcomma)

theorem splitList_append (a b : String) : splitList (a ++ "," ++ b) = splitList a ++ splitList b := by
  have hcut : pieces ',' (a ++ "," ++ b) = pieces ',' a ++ pieces ',' b := pieces_append ',' a b
  rw [splitList, hcut, trimmedEntries_append, ← splitList, ← splitList]

/-- entries between commas are read back -/
theorem splitList_joined {entries : List String} (h : ∀ e ∈ entries, IsEntry e) :
    splitList (joined ',' entries) = entries := by
  by_cases hempty : entries = []
  · -- one empty piece, which is left out
    subst hempty
    decide
  · rw [splitList, pieces_joined (fun e he => (h e he).noComma) hempty]
    exact trimmedEntries_eq_self fun e he => ⟨(h e he).notBlank, (h e he).trimmed⟩

theorem splitList_joined_iff {entries : List String} :
    splitList (joined ',' entries) = entries ↔ ∀ e ∈ entries, IsEntry e :=
  ⟨fun h _ he => isEntry_of_mem_splitList (h ▸ he), splitList_joined⟩

end Text

/-- **Lists typed with commas and lists of a settings file mean the same.** Under each key that holds a list, the entries
of a text and its pieces between the commas give the same settings or the same error. A comma between two texts puts
their entries one after another. A list comes back from its entries joined by commas if and only if each of them is not
blank, is trimmed and holds no comma. -/
theorem Layer.comma_lists_alike :
    (∀ (layer : Layer) (key : ListKey) (s : String),
      Settings.ofLayer (layer.withList key (Text.splitList s)) =
        Settings.ofLayer (layer.withList key (Text.pieces ',' s))) ∧
    (∀ a b, Text.splitList (a ++ "," ++ b) = Text.splitList a ++ Text.splitList b) ∧
    ∀ entries, Text.splitList (Text.joined ',' entries) = entries ↔ ∀ e ∈ entries, Text.IsEntry e :=
  ⟨fun layer key s => ofLayer_withList_trimmedEntries layer key (Text.pieces ',' s), Text.splitList_append,
    fun _ => Text.splitList_joined_iff⟩

end CallAtlas
