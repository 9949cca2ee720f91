/-
Which settings are accepted, and what they are.

- `Layer.faults`: all that is wrong with a layer, key after key and in a list entry after entry; `failsFirst_ofLayer`: the
  first of them is the error.
- `Layer.Acceptable`: nothing is wrong, said for each key (`acceptable_iff`).
- `Layer.Asks`: the settings that a layer asks for, key by key. They are the only ones (`Asks.unique`), so a layer gives
  settings if and only if it is acceptable and asks for them (`ofLayer_eq_ok_iff`).
- `Acceptable.toLayer`, `Asks.toLayer`: settings that were read, written back, are acceptable and ask for themselves.
- `Layer.layers_checked`: all of it together.
-/
import CallAtlas.Proofs.FirstError
import CallAtlas.Settings

namespace CallAtlas

variable {layer : Layer} {s t : Settings}

/-! ## Prefixes and words -/

/-- a text that an import path may start with: no slash in front, no blank anywhere -/
def IsPathStart (s : String) : Prop :=
  s.toList.head? ≠ some '/' ∧ ∀ c ∈ s.toList, Text.isBlank c = false

theorem isBadPrefix_eq_false_iff {s : String} : isBadPrefix s = false ↔ IsPathStart s := by
  simp [isBadPrefix, IsPathStart]

instance : DecidablePred IsPathStart :=
  fun _ => decidable_of_iff _ isBadPrefix_eq_false_iff

/-- the words for a dimension in lower case, its name first -/
def Dimension.words : Dimension → List String
  | .package => ["pkg", "package"]
  | .type => ["type"]

theorem Dimension.ofToken?_eq_some_iff {token : String} {d : Dimension} :
    Dimension.ofToken? token = some d ↔ Text.folded token ∈ d.words := by
  cases d <;> simp only [ofToken?, words] <;> grind

theorem Format.ofToken?_eq_some_iff {token : String} {f : Format} :
    Format.ofToken? token = some f ↔ Text.folded token = f.name := by
  cases f <;> simp only [ofToken?, name] <;> grind

/-- a word for some dimension -/
def NamesDimension (token : String) : Prop :=
  ∃ d : Dimension, Text.folded token ∈ d.words

theorem isSome_ofToken?_iff {token : String} : (Dimension.ofToken? token).isSome = true ↔ NamesDimension token := by
  simp [Option.isSome_iff_exists, Dimension.ofToken?_eq_some_iff, NamesDimension]

instance : DecidablePred NamesDimension :=
  fun _ => decidable_of_iff _ isSome_ofToken?_iff

/-- a word for some format -/
def NamesFormat (token : String) : Prop :=
  ∃ f : Format, Text.folded token = f.name

theorem isSome_formatOfToken?_iff {token : String} : (Format.ofToken? token).isSome = true ↔ NamesFormat token := by
  simp [Option.isSome_iff_exists, Format.ofToken?_eq_some_iff, NamesFormat]

instance : DecidablePred NamesFormat :=
  fun _ => decidable_of_iff _ isSome_formatOfToken?_iff

/-! ## Faults -/

/-- all that is wrong with a layer, in the order in which it is checked -/
def Layer.faults (layer : Layer) : List SettingsError :=
  refusals IsPathStart .badPrefix (Text.trimmedEntries (layer.limit.getD [])) ++
  (refusals IsPathStart .badPrefix (Text.trimmedEntries (layer.ignore.getD [])) ++
  (refusals NamesDimension .unknownGroup (Text.trimmedEntries (layer.group.getD [])) ++
  (refusals (· ≠ 0) (fun _ => .noEdgeLength) layer.minlen.toList ++
  (refusals (·.isPositive = true) .badSeparation layer.nodesep.toList ++
  refusals NamesFormat .unknownFormat layer.format.toList))))

/-- a layer with nothing wrong in it -/
structure Layer.Acceptable (layer : Layer) : Prop where
  limit : ∀ entry ∈ Text.trimmedEntries (layer.limit.getD []), IsPathStart entry
  ignore : ∀ entry ∈ Text.trimmedEntries (layer.ignore.getD []), IsPathStart entry
  group : ∀ token ∈ Text.trimmedEntries (layer.group.getD []), NamesDimension token
  minlen : ∀ n, layer.minlen = some n → n ≠ 0
  nodesep : ∀ x, layer.nodesep = some x → x.isPositive = true
  format : ∀ token, layer.format = some token → NamesFormat token

theorem Layer.acceptable_iff : layer.Acceptable ↔ layer.faults = [] := by
  simp only [faults, List.append_eq_nil_iff, refusals_eq_nil, Option.mem_toList]
  constructor
  · intro h
    exact ⟨h.limit, h.ignore, h.group, h.minlen, h.nodesep, h.format⟩
  · rintro ⟨limit, ignore, group, minlen, nodesep, format⟩
    exact ⟨limit, ignore, group, minlen, nodesep, format⟩

/-! ### Each check fails with the faults of its key -/

theorem failsFirst_checkedPrefixes (entries : List String) :
    FailsFirst (refusals IsPathStart .badPrefix (Text.trimmedEntries entries)) (checkedPrefixes entries) := by
  rw [← flatMap_refusals]
  refine FailsFirst.mapM fun entry _ => FailsFirst.check_one (fun h => ?_) (fun h => ?_)
  · have hgood : isBadPrefix entry = false := isBadPrefix_eq_false_iff.2 h
    exact ⟨entry, by rw [hgood, if_neg Bool.false_ne_true]⟩
  · rw [← isBadPrefix_eq_false_iff, Bool.not_eq_false] at h
    exact if_pos h

/-- one more word in a grouping -/
def Grouping.withToken (g : Grouping) (token : String) : Except String Grouping :=
  match Dimension.ofToken? token with
  | some d => .ok (g.insert d)
  | none => .error token

theorem Grouping.ofTokens_eq (tokens : List String) :
    ofTokens tokens = (Text.trimmedEntries tokens).foldlM withToken {} := by
  refine congrArg (List.foldlM · ({} : Grouping) (Text.trimmedEntries tokens)) ?_
  funext g token
  unfold withToken
  cases Dimension.ofToken? token <;> rfl

/-- no list of words is an empty one -/
theorem checkedGrouping_eq (tokens : Option (List String)) :
    checkedGrouping tokens = (Grouping.ofTokens (tokens.getD [])).mapError .unknownGroup := by
  cases tokens <;> rfl

theorem failsFirst_checkedGrouping (tokens : Option (List String)) :
    FailsFirst (refusals NamesDimension .unknownGroup (Text.trimmedEntries (tokens.getD []))) (checkedGrouping tokens) := by
  have hwords : FailsFirst (refusals NamesDimension id (Text.trimmedEntries (tokens.getD [])))
      (Grouping.ofTokens (tokens.getD [])) := by
    rw [← flatMap_refusals, Grouping.ofTokens_eq]
    refine FailsFirst.foldlM (fun token _ g => FailsFirst.check_one (fun h => ?_) (fun h => ?_)) _
    · obtain ⟨d, hd⟩ := h
      exact ⟨g.insert d, by simp only [Grouping.withToken, Dimension.ofToken?_eq_some_iff.2 hd]⟩
    · rw [← isSome_ofToken?_iff, Option.not_isSome_iff_eq_none] at h
      simp only [Grouping.withToken, h, id]
  have h := hwords.mapError SettingsError.unknownGroup
  rw [map_refusals, Function.comp_id] at h
  rw [checkedGrouping_eq]
  exact h

theorem failsFirst_checkedEdgeLength (value : Option Nat) :
    FailsFirst (refusals (· ≠ 0) (fun _ => .noEdgeLength) value.toList) (checkedEdgeLength value) := by
  cases value with
  | none => exact FailsFirst.check_nil _
  | some n => exact FailsFirst.check_one (fun h => ⟨n, if_neg h⟩) (fun h => if_pos (not_not.1 h))

theorem failsFirst_checkedSeparation (value : Option Binary64) :
    FailsFirst (refusals (·.isPositive = true) .badSeparation value.toList) (checkedSeparation value) := by
  cases value with
  | none => exact FailsFirst.check_nil _
  | some x => exact FailsFirst.check_one (fun h => ⟨x, if_pos h⟩) (fun h => if_neg h)

theorem failsFirst_checkedFormat (token : Option String) :
    FailsFirst (refusals NamesFormat .unknownFormat token.toList) (checkedFormat token) := by
  cases token with
  | none => exact FailsFirst.check_nil _
  | some token =>
    refine FailsFirst.check_one (fun h => ?_) (fun h => ?_)
    · obtain ⟨f, hf⟩ := h
      exact ⟨f, by simp only [checkedFormat, Format.ofToken?_eq_some_iff.2 hf]⟩
    · rw [← isSome_formatOfToken?_iff, Option.not_isSome_iff_eq_none] at h
      simp only [checkedFormat, h]

theorem failsFirst_ofLayer (layer : Layer) : FailsFirst layer.faults (Settings.ofLayer layer) := by
  unfold Layer.faults Settings.ofLayer
  refine (failsFirst_checkedPrefixes _).bind fun limit _ => ?_
  refine (failsFirst_checkedPrefixes _).bind fun ignore _ => ?_
  refine (failsFirst_checkedGrouping _).bind fun grouping _ => ?_
  refine (failsFirst_checkedEdgeLength _).bind fun edgeLength _ => ?_
  refine (failsFirst_checkedSeparation _).bind fun nodeSeparation _ => ?_
  exact (failsFirst_checkedFormat _).bind_pure _

/-! ## What a layer asks for -/

/-- settings as a layer asks for them, key by key; a key that is left out has its default -/
structure Layer.Asks (layer : Layer) (s : Settings) : Prop where
  focus : s.focus = Text.trim (layer.focus.getD "main")
  limit : s.filter.limit = Text.trimmedEntries (layer.limit.getD [])
  ignore : s.filter.ignore = Text.trimmedEntries (layer.ignore.getD [])
  grouping : ∀ d : Dimension, s.grouping.contains d = true ↔
    ∃ token ∈ Text.trimmedEntries (layer.group.getD []), Text.folded token ∈ d.words
  omitStd : s.filter.omitStd = layer.nostd.getD false
  tests : s.tests = layer.tests.getD false
  edgeLength : s.layout.edgeLength = layer.minlen.getD 2
  nodeSeparation : s.layout.nodeSeparation = layer.nodesep.getD (Binary64.ofRatio false 35 100)
  format : s.format.name = Text.folded (layer.format.getD "dot")

theorem Grouping.ext_contains {g g' : Grouping} (h : ∀ d, g.contains d = true ↔ g'.contains d = true) : g = g' := by
  have hpackage : g.byPackage = g'.byPackage := Bool.eq_iff_iff.2 (h .package)
  have htype : g.byType = g'.byType := Bool.eq_iff_iff.2 (h .type)
  cases g
  cases g'
  simp_all

theorem Format.name_injective : Function.Injective Format.name := by
  intro f g h
  cases f <;> cases g <;> simp_all [name]

/-- a layer asks for one thing -/
theorem Layer.Asks.unique (hs : layer.Asks s) (ht : layer.Asks t) : s = t := by
  have hfocus := hs.focus.trans ht.focus.symm
  have hlimit := hs.limit.trans ht.limit.symm
  have hignore := hs.ignore.trans ht.ignore.symm
  have hgrouping := Grouping.ext_contains fun d => (hs.grouping d).trans (ht.grouping d).symm
  have homitStd := hs.omitStd.trans ht.omitStd.symm
  have htests := hs.tests.trans ht.tests.symm
  have hedgeLength := hs.edgeLength.trans ht.edgeLength.symm
  have hnodeSeparation := hs.nodeSeparation.trans ht.nodeSeparation.symm
  have hformat := Format.name_injective (hs.format.trans ht.format.symm)
  obtain ⟨_, ⟨_, _, _⟩, _, _, ⟨_, _⟩, _⟩ := s
  obtain ⟨_, ⟨_, _, _⟩, _, _, ⟨_, _⟩, _⟩ := t
  simp_all

/-! ### Each check gives what its key asks for -/

theorem eq_of_checkedPrefixes {entries prefixes : List String} (h : checkedPrefixes entries = .ok prefixes) :
    prefixes = Text.trimmedEntries entries := by
  have hsame : List.Forall₂ Eq (Text.trimmedEntries entries) prefixes := by
    refine (mapM_eq_ok_iff.1 h).imp fun entry checked hentry => ?_
    split at hentry
    · cases hentry
    · exact Except.ok.inj hentry
  exact (List.forall₂_eq_eq_eq ▸ hsame : Text.trimmedEntries entries = prefixes).symm

/-- the words that were read so far, and the dimensions that they have made active -/
theorem contains_of_foldlM_withToken {tokens : List String} {g g' : Grouping} (d : Dimension)
    (h : tokens.foldlM Grouping.withToken g = .ok g') :
    g'.contains d = true ↔ g.contains d = true ∨ ∃ token ∈ tokens, Text.folded token ∈ d.words := by
  induction tokens generalizing g with
  | nil =>
    cases h
    simp
  | cons token tokens ih =>
    rw [List.foldlM_cons] at h
    obtain ⟨g'', htoken, h⟩ := exists_of_bind_ok h
    rw [ih h]
    unfold Grouping.withToken at htoken
    split at htoken
    next d' hd' =>
      cases htoken
      have hnamed : d' = d ↔ Text.folded token ∈ d.words := by
        rw [← Dimension.ofToken?_eq_some_iff, hd', Option.some.injEq]
      simp [Grouping.contains_insert, hnamed, or_comm, or_assoc]
    next => cases htoken

theorem contains_of_checkedGrouping {tokens : Option (List String)} {g : Grouping} (h : checkedGrouping tokens = .ok g)
    (d : Dimension) :
    g.contains d = true ↔ ∃ token ∈ Text.trimmedEntries (tokens.getD []), Text.folded token ∈ d.words := by
  rw [checkedGrouping_eq, Grouping.ofTokens_eq] at h
  cases hg : (Text.trimmedEntries (tokens.getD [])).foldlM Grouping.withToken {} with
  | error e =>
    rw [hg] at h
    cases h
  | ok g' =>
    rw [hg] at h
    cases h
    have hstart : ({} : Grouping).contains d = false := by cases d <;> rfl
    simpa [hstart] using contains_of_foldlM_withToken d hg

theorem eq_of_checkedEdgeLength {value : Option Nat} {n : Nat} (h : checkedEdgeLength value = .ok n) :
    n = value.getD 2 := by
  cases value with
  | none => exact (Except.ok.inj h).symm
  | some m =>
    simp only [checkedEdgeLength] at h
    split at h
    · cases h
    · exact (Except.ok.inj h).symm

theorem eq_of_checkedSeparation {value : Option Binary64} {x : Binary64} (h : checkedSeparation value = .ok x) :
    x = value.getD (Binary64.ofRatio false 35 100) := by
  cases value with
  | none => exact (Except.ok.inj h).symm
  | some y =>
    simp only [checkedSeparation] at h
    split at h
    · exact (Except.ok.inj h).symm
    · cases h

theorem name_of_checkedFormat {token : Option String} {f : Format} (h : checkedFormat token = .ok f) :
    f.name = Text.folded (token.getD "dot") := by
  cases token with
  | none =>
    cases h
    rfl
  | some token =>
    simp only [checkedFormat] at h
    split at h
    next hf =>
      cases h
      exact (Format.ofToken?_eq_some_iff.1 hf).symm
    next => cases h

theorem asks_of_ofLayer (h : Settings.ofLayer layer = .ok s) : layer.Asks s := by
  unfold Settings.ofLayer at h
  obtain ⟨limit, hlimit, h⟩ := exists_of_bind_ok h
  obtain ⟨ignore, hignore, h⟩ := exists_of_bind_ok h
  obtain ⟨grouping, hgrouping, h⟩ := exists_of_bind_ok h
  obtain ⟨edgeLength, hedgeLength, h⟩ := exists_of_bind_ok h
  obtain ⟨nodeSeparation, hnodeSeparation, h⟩ := exists_of_bind_ok h
  obtain ⟨format, hformat, h⟩ := exists_of_bind_ok h
  obtain rfl := Except.ok.inj h
  constructor
  case focus => rfl
  case limit => exact eq_of_checkedPrefixes hlimit
  case ignore => exact eq_of_checkedPrefixes hignore
  case grouping => exact contains_of_checkedGrouping hgrouping
  case omitStd => rfl
  case tests => rfl
  case edgeLength => exact eq_of_checkedEdgeLength hedgeLength
  case nodeSeparation => exact eq_of_checkedSeparation hnodeSeparation
  case format => exact name_of_checkedFormat hformat

theorem exists_ofLayer_iff : (∃ s, Settings.ofLayer layer = .ok s) ↔ layer.Acceptable :=
  (failsFirst_ofLayer layer).exists_ok_iff.trans Layer.acceptable_iff.symm

theorem ofLayer_eq_ok_iff : Settings.ofLayer layer = .ok s ↔ layer.Acceptable ∧ layer.Asks s := by
  constructor
  · intro h
    exact ⟨exists_ofLayer_iff.1 ⟨s, h⟩, asks_of_ofLayer h⟩
  · rintro ⟨hacceptable, hs⟩
    obtain ⟨t, ht⟩ := exists_ofLayer_iff.2 hacceptable
    rw [ht, hs.unique (asks_of_ofLayer ht)]

/-! ## Settings written back -/

theorem Dimension.trim_name (d : Dimension) : d.name ≠ "" ∧ Text.trim d.name = d.name := by
  cases d <;> decide

/-- the name of a dimension is a word for it and for no other -/
theorem Dimension.folded_name_mem_words {d d' : Dimension} : Text.folded d.name ∈ d'.words ↔ d = d' := by
  cases d <;> cases d' <;> decide

theorem Format.folded_name (f : Format) : Text.folded f.name = f.name := by
  cases f <;> decide

/-- the words that settings write for their grouping are entries as they stand -/
theorem trimmedEntries_names (g : Grouping) :
    Text.trimmedEntries (g.toList.map Dimension.name) = g.toList.map Dimension.name := by
  refine Text.trimmedEntries_eq_self fun token htoken => ?_
  obtain ⟨d, -, rfl⟩ := List.mem_map.1 htoken
  exact d.trim_name

theorem Layer.Acceptable.toLayer (h : layer.Acceptable) (hs : layer.Asks s) : s.toLayer.Acceptable := by
  constructor
  case limit =>
    have hlimit := h.limit
    rw [← Text.trimmedEntries_trimmedEntries, ← hs.limit] at hlimit
    exact hlimit
  case ignore =>
    have hignore := h.ignore
    rw [← Text.trimmedEntries_trimmedEntries, ← hs.ignore] at hignore
    exact hignore
  case group =>
    intro token htoken
    have htoken : token ∈ s.grouping.toList.map Dimension.name := trimmedEntries_names s.grouping ▸ htoken
    obtain ⟨d, -, rfl⟩ := List.mem_map.1 htoken
    exact ⟨d, Dimension.folded_name_mem_words.2 rfl⟩
  case minlen =>
    intro n hn
    rw [← Option.some.inj hn, hs.edgeLength]
    cases hminlen : layer.minlen with
    | none => decide
    | some n => exact h.minlen n hminlen
  case nodesep =>
    intro x hx
    rw [← Option.some.inj hx, hs.nodeSeparation]
    cases hnodesep : layer.nodesep with
    | none => decide
    | some x => exact h.nodesep x hnodesep
  case format =>
    intro token htoken
    rw [← Option.some.inj htoken]
    exact ⟨s.format, s.format.folded_name⟩

theorem Layer.Asks.toLayer (hs : layer.Asks s) : s.toLayer.Asks s := by
  constructor
  case focus =>
    change s.focus = Text.trim s.focus
    rw [hs.focus, Text.trim_trim]
  case limit =>
    change s.filter.limit = Text.trimmedEntries s.filter.limit
    rw [hs.limit, Text.trimmedEntries_trimmedEntries]
  case ignore =>
    change s.filter.ignore = Text.trimmedEntries s.filter.ignore
    rw [hs.ignore, Text.trimmedEntries_trimmedEntries]
  case grouping =>
    intro d
    change _ ↔ ∃ token ∈ Text.trimmedEntries (s.grouping.toList.map Dimension.name), _
    simp [trimmedEntries_names, Dimension.folded_name_mem_words, Grouping.mem_toList]
  case omitStd => rfl
  case tests => rfl
  case edgeLength => rfl
  case nodeSeparation => rfl
  case format => exact s.format.folded_name.symm

/-- settings that were read are read back as they are -/
theorem ofLayer_toLayer (h : Settings.ofLayer layer = .ok s) : Settings.ofLayer s.toLayer = .ok s := by
  obtain ⟨hacceptable, hs⟩ := ofLayer_eq_ok_iff.1 h
  exact ofLayer_eq_ok_iff.2 ⟨hacceptable.toLayer hs, hs.toLayer⟩

/-- **Settings are checked exactly.** A layer gives settings if and only if it is acceptable. If it is not, the error is
the first of its faults: limit, ignore, group, least edge length, node separation and format in this order, and in a list
the first bad entry. If it is, the settings are what the layer asks for, and written back they give themselves. -/
theorem Layer.layers_checked (layer : Layer) :
    ((∃ s, Settings.ofLayer layer = .ok s) ↔ layer.Acceptable) ∧
      (∀ e, Settings.ofLayer layer = .error e ↔ layer.faults.head? = some e) ∧
      ∀ s, Settings.ofLayer layer = .ok s → layer.Asks s ∧ Settings.ofLayer s.toLayer = .ok s :=
  ⟨exists_ofLayer_iff, fun _ => (failsFirst_ofLayer layer).error_iff,
    fun _ h => ⟨asks_of_ofLayer h, ofLayer_toLayer h⟩⟩

/-- blanks around an entry and an empty one are no faults; of a bad prefix and a bad format the prefix is met first -/
theorem Layer.layers_checked_untidy :
    let untidy : Layer := { limit := some [" app ", ""], group := some ["PKG"] }
    let settings : Settings := { filter := { limit := ["app"] }, grouping := { byPackage := true } }
    (untidy.Acceptable ∧ untidy.Asks settings ∧ Settings.ofLayer settings.toLayer = .ok settings) ∧
      Settings.ofLayer { untidy with ignore := some ["lib", "/abs"], format := some "svg" } =
        .error (.badPrefix "/abs") := by
  intro untidy settings
  have hread : Settings.ofLayer untidy = .ok settings := by decide +kernel
  obtain ⟨haccepted, -, hasked⟩ := layers_checked untidy
  obtain ⟨-, hrefused, -⟩ := layers_checked { untidy with ignore := some ["lib", "/abs"], format := some "svg" }
  exact ⟨⟨haccepted.1 ⟨settings, hread⟩, hasked settings hread⟩, (hrefused _).2 (by decide +kernel)⟩

end CallAtlas
