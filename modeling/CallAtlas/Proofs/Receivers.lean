/-
Which type a method belongs to.

A path leads through namespaces, types and functions to a method. Its scope is what stands between the last namespace or
method before it and the method itself, and its receiver should be the innermost type there: `NamesReceiver`.
- `fields?_symbol`: the fields of a symbol are read back, blanks in its path included.
- `receiver_foldl_enter_of_no_type`: without a further type, a place keeps its receiver unless a bracket renames it.
- `NamesReceiver.unique`: a scope names one receiver, the one that a walk through the scope alone gives.
- `receiver_of_scope`: the receiver is the innermost type of the scope, unless the scope has no type and its first
  bracket goes to an `impl` block outside of it.
- `outer_impl_names_receiver`: an `impl` block around a function makes a bracket inside that function a receiver.
-/
import Mathlib.Data.List.DropRight
import CallAtlas.Proofs.CrateRoots

namespace CallAtlas.FunctionSymbol

variable {scheme manager package version path name : String} {ds : List Descriptor} {d : Descriptor}

/-! ## Fields of a symbol -/

/-- four fields and a path, with one space between each two -/
def symbolText (scheme manager package version path : String) : String :=
  scheme ++ " " ++ manager ++ " " ++ package ++ " " ++ version ++ " " ++ path

theorem toList_symbolText :
    (symbolText scheme manager package version path).toList =
      scheme.toList ++ ' ' :: (manager.toList ++ ' ' :: (package.toList ++ ' ' ::
        (version.toList ++ ' ' :: path.toList))) := by
  simp [symbolText]

theorem fields?_symbol (hfields : ∀ x ∈ [scheme, manager, package, version], ' ' ∉ x.toList) :
    fields? (symbolText scheme manager package version path) = some (package, path.toList) := by
  simp only [List.forall_mem_cons, List.not_mem_nil, false_implies, implies_true, and_true] at hfields
  obtain ⟨hscheme, hmanager, hpackage, hversion⟩ := hfields
  obtain ⟨piece, more, hpieces⟩ := List.exists_cons_of_ne_nil (List.splitOn_ne_nil ' ' path.toList)
  have hpath : [' '].intercalate (piece :: more) = path.toList := hpieces ▸ List.intercalate_splitOn ' '
  unfold fields?
  rw [toList_symbolText, List.splitOn_append_cons_self_of_not_mem hscheme,
    List.splitOn_append_cons_self_of_not_mem hmanager, List.splitOn_append_cons_self_of_not_mem hpackage,
    List.splitOn_append_cons_self_of_not_mem hversion, hpieces]
  simp only [hpath, String.ofList_toList]

theorem not_local_symbol (hspace : ' ' ∉ scheme.toList) (hscheme : scheme ≠ "local") :
    ¬ "local ".toList.isPrefixOf (symbolText scheme manager package version path).toList = true := by
  intro hlocal
  obtain ⟨rest, hrest⟩ := List.isPrefixOf_iff_prefix.1 hlocal
  have hword : ' ' ∉ "local".toList := by decide
  have hsplit : (symbolText scheme manager package version path).toList.splitOn ' ' =
      "local".toList :: rest.splitOn ' ' := by
    rw [← hrest, show "local ".toList ++ rest = "local".toList ++ ' ' :: rest from rfl,
      List.splitOn_append_cons_self_of_not_mem hword]
  rw [toList_symbolText, List.splitOn_append_cons_self_of_not_mem hspace] at hsplit
  exact hscheme (String.toList_injective (List.cons.inj hsplit).1)

/-- a symbol with these fields is read from its path -/
theorem ofText?_symbol (hfields : ∀ x ∈ [scheme, manager, package, version], ' ' ∉ x.toList)
    (hscheme : scheme ≠ "local") (hpackage : package ≠ ".")
    (hpath : descriptors? path.toList = some (ds ++ [⟨.method, name⟩])) :
    ofText? (symbolText scheme manager package version path) =
      some ⟨package, (ds.foldl Place.enter {}).spaces, (ds.foldl Place.enter {}).receiver, name⟩ := by
  have hlocal : ¬ "local ".toList.isPrefixOf (symbolText scheme manager package version path).toList = true :=
    not_local_symbol (hfields scheme List.mem_cons_self) hscheme
  unfold ofText?
  rw [if_neg hlocal, fields?_symbol hfields]
  simp [hpackage, hpath, ofDescriptors?]

/-! ## Scopes -/

instance (d : Descriptor) : Decidable (Closes d) := by
  unfold Closes
  infer_instance

/-- a path up to its last namespace or method -/
def around (ds : List Descriptor) : List Descriptor :=
  ds.rdropWhile fun d => ¬ Closes d

/-- what stands in a path after its last namespace or method -/
def scope (ds : List Descriptor) : List Descriptor :=
  ds.rtakeWhile fun d => ¬ Closes d

theorem around_append_scope (ds : List Descriptor) : around ds ++ scope ds = ds :=
  List.rdropWhile_append_rtakeWhile

theorem foldl_enter_scope (ds : List Descriptor) :
    ds.foldl Place.enter {} = (scope ds).foldl Place.enter ((around ds).foldl Place.enter {}) := by
  rw [← List.foldl_append, around_append_scope]

theorem not_closes_of_mem_scope (hd : d ∈ scope ds) : ¬ Closes d := by
  simpa using List.mem_rtakeWhile_imp hd

theorem receiver_around (ds : List Descriptor) : ((around ds).foldl Place.enter {}).receiver = none := by
  by_cases hnil : around ds = []
  · rw [hnil]
    rfl
  · have hlast : Closes ((around ds).getLast hnil) := by
      by_contra hopen
      exact List.rdropWhile_last_not _ _ hnil (decide_eq_true hopen)
    rw [receiver_foldl_enter, ← List.dropLast_append_getLast hnil, outsideTypes_concat]
    exact Or.inl hlast

/-- the innermost type of a scope: its last type, or the first bracket after that if it is an `impl` block with one -/
inductive NamesReceiver : List Descriptor → Option String → Prop
  | none {scope : List Descriptor} : (∀ d ∈ scope, d.kind ≠ .type) → NamesReceiver scope none
  | type {outer inner : List Descriptor} {t : String} :
    (∀ d ∈ inner, d.kind ≠ .type) → (t = "impl" → ∀ d ∈ inner, d.kind ≠ .typeParameter) →
      NamesReceiver (outer ++ ⟨.type, t⟩ :: inner) (some t)
  | bracket {outer middle inner : List Descriptor} {t : String} :
    (∀ d ∈ middle ++ ⟨.typeParameter, t⟩ :: inner, d.kind ≠ .type) → (∀ d ∈ middle, d.kind ≠ .typeParameter) →
      NamesReceiver (outer ++ ⟨.type, "impl"⟩ :: (middle ++ ⟨.typeParameter, t⟩ :: inner)) (some t)

/-- the name in the first bracket of a scope -/
def firstBracket? (ds : List Descriptor) : Option String :=
  (ds.find? fun d => d.kind = .typeParameter).map Descriptor.name

theorem firstBracket?_cons_of_ne (hd : d.kind ≠ .typeParameter) : firstBracket? (d :: ds) = firstBracket? ds := by
  simp [firstBracket?, hd]

theorem firstBracket?_eq_none : firstBracket? ds = none ↔ ∀ d ∈ ds, d.kind ≠ .typeParameter := by
  simp [firstBracket?]

theorem firstBracket?_eq_some {t : String} :
    firstBracket? ds = some t ↔
      ∃ middle inner, ds = middle ++ ⟨.typeParameter, t⟩ :: inner ∧ ∀ d ∈ middle, d.kind ≠ .typeParameter := by
  constructor
  · intro h
    obtain ⟨⟨kind, _⟩, hfind, rfl⟩ := Option.map_eq_some_iff.1 h
    obtain ⟨hkind, middle, inner, rfl, hmiddle⟩ := List.find?_eq_some_iff_append.1 hfind
    obtain rfl : kind = .typeParameter := by simpa using hkind
    exact ⟨middle, inner, rfl, fun d hd => by simpa using hmiddle d hd⟩
  · rintro ⟨middle, inner, rfl, hmiddle⟩
    refine Option.map_eq_some_iff.2 ⟨_, List.find?_eq_some_iff_append.2 ⟨?_, middle, inner, rfl, ?_⟩, rfl⟩
    · simp
    · simpa using hmiddle

theorem exists_last_type (h : ∃ d ∈ ds, d.kind = .type) :
    ∃ outer t inner, ds = outer ++ ⟨.type, t⟩ :: inner ∧ ∀ d ∈ inner, d.kind ≠ .type := by
  induction ds with
  | nil => simp at h
  | cons d ds ih =>
    by_cases hlater : ∃ d ∈ ds, d.kind = .type
    · obtain ⟨outer, t, inner, rfl, hinner⟩ := ih hlater
      exact ⟨d :: outer, t, inner, rfl, hinner⟩
    · have hnone : ∀ x ∈ ds, x.kind ≠ .type := fun x hx hkind => hlater ⟨x, hx, hkind⟩
      obtain ⟨kind, t⟩ := d
      obtain rfl : kind = .type := by
        obtain ⟨x, hx, hkind⟩ := h
        rcases List.mem_cons.1 hx with rfl | hx
        · exact hkind
        · exact absurd hkind (hnone x hx)
      exact ⟨[], t, ds, rfl, hnone⟩

/-! ## Receivers along a scope -/

/-- without a further type a place keeps its receiver, unless a bracket names the type of an `impl` block -/
theorem receiver_foldl_enter_of_no_type (hds : ∀ d ∈ ds, ¬ Closes d ∧ d.kind ≠ .type) (p : Place) :
    (ds.foldl Place.enter p).receiver = if p.inImpl then (firstBracket? ds).or p.receiver else p.receiver := by
  induction ds generalizing p with
  | nil => simp [firstBracket?]
  | cons d ds ih =>
    obtain ⟨⟨hcloses, htype⟩, hds⟩ := List.forall_mem_cons.1 hds
    rw [List.foldl_cons, ih hds]
    obtain ⟨kind, t⟩ := d
    cases kind with
    | space => exact absurd (Or.inl rfl) hcloses
    | method => exact absurd (Or.inr rfl) hcloses
    | type => exact absurd rfl htype
    | typeParameter =>
      -- the first bracket names the block, and no later one renames it
      cases himpl : p.inImpl <;> simp [Place.enter, himpl, firstBracket?]
    | term | metaItem | macroItem | parameter =>
      rw [firstBracket?_cons_of_ne (by simp)]
      rfl

theorem receiver_foldl_enter_of_last_type {outer inner : List Descriptor} {t : String}
    (hinner : ∀ d ∈ inner, ¬ Closes d ∧ d.kind ≠ .type) (p : Place) :
    ((outer ++ ⟨.type, t⟩ :: inner).foldl Place.enter p).receiver =
      if t = "impl" then (firstBracket? inner).or (some t) else some t := by
  rw [List.foldl_append, List.foldl_cons, receiver_foldl_enter_of_no_type hinner]
  simp [Place.enter]

theorem namesReceiver_of_last_type {outer inner : List Descriptor} {t : String}
    (hinner : ∀ d ∈ inner, ¬ Closes d ∧ d.kind ≠ .type) (p : Place) :
    NamesReceiver (outer ++ ⟨.type, t⟩ :: inner) ((outer ++ ⟨.type, t⟩ :: inner).foldl Place.enter p).receiver := by
  have htypes : ∀ d ∈ inner, d.kind ≠ .type := fun d hd => (hinner d hd).2
  rw [receiver_foldl_enter_of_last_type hinner]
  split
  next himpl =>
    subst himpl
    cases hbracket : firstBracket? inner with
    | none => exact .type htypes fun _ => firstBracket?_eq_none.1 hbracket
    | some u =>
      obtain ⟨middle, rest, rfl, hmiddle⟩ := firstBracket?_eq_some.1 hbracket
      exact .bracket htypes hmiddle
  next himpl => exact .type htypes fun h => absurd h himpl

/-- a scope that is walked on its own has the receiver that is named -/
theorem NamesReceiver.receiver_foldl_enter {r : Option String} (h : NamesReceiver ds r) (hds : ∀ d ∈ ds, ¬ Closes d) :
    (ds.foldl Place.enter {}).receiver = r := by
  cases h with
  | none htypes =>
    rw [receiver_foldl_enter_of_no_type fun d hd => ⟨hds d hd, htypes d hd⟩]
    rfl
  | type htypes hbracket =>
    rw [receiver_foldl_enter_of_last_type fun d hd => ⟨hds d (by simp [hd]), htypes d hd⟩]
    split
    next himpl => rw [firstBracket?_eq_none.2 (hbracket himpl), Option.none_or]
    next => rfl
  | bracket htypes hmiddle =>
    rw [receiver_foldl_enter_of_last_type fun d hd => ⟨hds d (List.mem_append_right _ (List.mem_cons_of_mem _ hd)),
      htypes d hd⟩, if_pos rfl, firstBracket?_eq_some.2 ⟨_, _, rfl, hmiddle⟩, Option.some_or]

theorem NamesReceiver.unique {r r' : Option String} (h : NamesReceiver ds r) (h' : NamesReceiver ds r')
    (hds : ∀ d ∈ ds, ¬ Closes d) : r = r' :=
  (h.receiver_foldl_enter hds).symm.trans (h'.receiver_foldl_enter hds)

/-- the first bracket of a path's scope goes to an `impl` block outside of the scope, whose type was never named -/
def CarriesImpl (ds : List Descriptor) : Prop :=
  Unnamed (around ds) ∧ (∀ d ∈ scope ds, d.kind ≠ .type) ∧ ∃ d ∈ scope ds, d.kind = .typeParameter

theorem receiver_of_no_type (htypes : ∀ d ∈ scope ds, d.kind ≠ .type) :
    (ds.foldl Place.enter {}).receiver =
      if ((around ds).foldl Place.enter {}).inImpl then firstBracket? (scope ds) else none := by
  rw [foldl_enter_scope, receiver_foldl_enter_of_no_type fun d hd => ⟨not_closes_of_mem_scope hd, htypes d hd⟩,
    receiver_around, Option.or_none]

theorem receiver_of_carriesImpl (h : CarriesImpl ds) :
    (ds.foldl Place.enter {}).receiver = firstBracket? (scope ds) := by
  obtain ⟨hunnamed, htypes, -⟩ := h
  rw [receiver_of_no_type htypes, if_pos ((inImpl_foldl_enter _).2 hunnamed)]

theorem namesReceiver_scope (h : ¬ CarriesImpl ds) : NamesReceiver (scope ds) (ds.foldl Place.enter {}).receiver := by
  by_cases htype : ∃ d ∈ scope ds, d.kind = .type
  · obtain ⟨outer, t, inner, hsplit, hinner⟩ := exists_last_type htype
    have hcloses : ∀ d ∈ scope ds, ¬ Closes d := fun d hd => not_closes_of_mem_scope hd
    rw [foldl_enter_scope]
    rw [hsplit] at hcloses ⊢
    exact namesReceiver_of_last_type (fun d hd => ⟨hcloses d (by simp [hd]), hinner d hd⟩) _
  · have htypes : ∀ d ∈ scope ds, d.kind ≠ .type := fun d hd hkind => htype ⟨d, hd, hkind⟩
    have hnone : (ds.foldl Place.enter {}).receiver = none := by
      rw [receiver_of_no_type htypes]
      split
      next himpl =>
        refine firstBracket?_eq_none.2 fun d hd hkind => ?_
        exact h ⟨(inImpl_foldl_enter _).1 himpl, htypes, d, hd, hkind⟩
      next => rfl
    rw [hnone]
    exact .none htypes

/-- **The receiver of a method.** A symbol whose path ends in a method gives all namespaces of the path in their order,
and as receiver the innermost type of the scope. Only if the scope has no type, but a bracket, and the last type before
the scope is an `impl` block whose type was never named, the receiver is that bracket. -/
theorem receiver_of_scope (hfields : ∀ x ∈ [scheme, manager, package, version], ' ' ∉ x.toList)
    (hscheme : scheme ≠ "local") (hpackage : package ≠ ".")
    (hpath : descriptors? path.toList = some (ds ++ [⟨.method, name⟩])) :
    ∃ s, ofText? (symbolText scheme manager package version path) = some s ∧ s.crate = package ∧ s.name = name ∧
      s.spaces = (ds.filter fun d => d.kind = .space).map Descriptor.name ∧
      (¬ CarriesImpl ds → ∀ r, NamesReceiver (scope ds) r ↔ s.receiver = r) ∧
      (CarriesImpl ds → s.receiver = firstBracket? (scope ds)) := by
  refine ⟨_, ofText?_symbol hfields hscheme hpackage hpath, rfl, rfl, spaces_foldl_enter ds, fun h r => ?_,
    receiver_of_carriesImpl⟩
  have hnamed : NamesReceiver (scope ds) (ds.foldl Place.enter {}).receiver := namesReceiver_scope h
  constructor
  · exact fun hr => hnamed.unique hr fun _ => not_closes_of_mem_scope
  · rintro rfl
    exact hnamed

theorem receiver_of_scope_display :
    ∃ s, ofText? (symbolText "rust-analyzer" "cargo" "app" "0.1.0" "store/impl#[Store][Display]fmt(+1).") = some s ∧
      s.crate = "app" ∧ s.name = "fmt" ∧ s.spaces = ["store"] ∧
      ∀ r, NamesReceiver [⟨.type, "impl"⟩, ⟨.typeParameter, "Store"⟩, ⟨.typeParameter, "Display"⟩] r ↔
        s.receiver = r := by
  have hpath : descriptors? "store/impl#[Store][Display]fmt(+1).".toList =
      some ([⟨.space, "store"⟩, ⟨.type, "impl"⟩, ⟨.typeParameter, "Store"⟩, ⟨.typeParameter, "Display"⟩] ++
        [⟨.method, "fmt"⟩]) := by
    decide +kernel
  obtain ⟨s, hs, hcrate, hname, hspaces, hreceiver, -⟩ :=
    @receiver_of_scope "rust-analyzer" "cargo" "app" "0.1.0" _ _ _ (by decide) (by decide) (by decide) hpath
  exact ⟨s, hs, hcrate, hname, hspaces, hreceiver fun h => absurd rfl (h.2.1 ⟨.type, "impl"⟩ (by decide))⟩

/-- **An outer block names the receiver.** The function `inner` stands in the function `outer`, and no type stands
between the two. Its receiver is the bracket `T` all the same, for the `impl` block around `outer`. -/
theorem outer_impl_names_receiver :
    descriptors? "impl#outer().[T]inner().".toList =
        some ([⟨.type, "impl"⟩, ⟨.method, "outer"⟩, ⟨.typeParameter, "T"⟩] ++ [⟨.method, "inner"⟩]) ∧
      scope [⟨.type, "impl"⟩, ⟨.method, "outer"⟩, ⟨.typeParameter, "T"⟩] = [⟨.typeParameter, "T"⟩] ∧
      ofText? (symbolText "rust-analyzer" "cargo" "app" "0.1.0" "impl#outer().[T]inner().") =
        some ⟨"app", [], some "T", "inner"⟩ ∧
      NamesReceiver [⟨.typeParameter, "T"⟩] none ∧ ¬ NamesReceiver [⟨.typeParameter, "T"⟩] (some "T") := by
  have hnone : NamesReceiver [⟨.typeParameter, "T"⟩] none := .none (by decide)
  refine ⟨by decide +kernel, by decide, by decide +kernel, hnone, fun hsome => ?_⟩
  cases hnone.unique hsome (by decide)

end CallAtlas.FunctionSymbol
