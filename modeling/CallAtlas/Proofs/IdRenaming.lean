/-
Manifests that differ in their ids only.

Linking puts positions in the place of ids. So the ids are there to be told apart and for nothing else: under other ids
that are told apart as well, wherever they stand, the same manifest is linked. Ids that are referred to and not declared
count too, since a renaming must not turn one of them into a declared one.
- `firstRepeat?_renamed`, `lookup_renamed`: the two searches among ids find the same positions.
- `linkFunction_renamed`, `linkCall_renamed`, `entriesIn_renamed`: so each stage of linking gives what it gave, or fails
  as it did.
- `renamed_links_alike`: linking gives the same program, or the same error with the new ids.
-/
import Mathlib.Data.Set.Function
import CallAtlas.Proofs.Loading

namespace CallAtlas

/-! ## Computations that fail with other errors -/

section MapError

variable {ε α β γ : Type} {φ : ε → ε}

/-- a step and the next one, both with other errors -/
theorem bind_eq_mapError {x x' : Except ε α} {f f' : α → Except ε β} (hx : x' = x.mapError φ)
    (hf : ∀ a, f' a = (f a).mapError φ) : x' >>= f' = (x >>= f).mapError φ := by
  subst hx
  cases x with
  | error e => rfl
  | ok a => exact hf a

/-- a step whose result is only changed afterwards, with other errors -/
theorem map_mapError (x : Except ε α) (f : α → β) : (x.mapError φ).map f = (x.map f).mapError φ := by
  cases x <;> rfl

/-- a map over other elements, with other errors -/
theorem mapM_eq_mapError {f : α → Except ε β} {f' : γ → Except ε β} {g : α → γ} {xs : List α}
    (h : ∀ x ∈ xs, f' (g x) = (f x).mapError φ) : (xs.map g).mapM f' = (xs.mapM f).mapError φ := by
  induction xs with
  | nil => rfl
  | cons x xs ih =>
    obtain ⟨hx, hxs⟩ := List.forall_mem_cons.1 h
    rw [List.map_cons, List.mapM_cons, List.mapM_cons]
    exact bind_eq_mapError hx fun y => bind_eq_mapError (ih hxs) fun ys => rfl

end MapError

/-! ## Renaming -/

/-- an error about other ids -/
def LinkError.renamed (rename : String → String) : LinkError → LinkError
  | .duplicateFunction id => .duplicateFunction (rename id)
  | .unknownPackage function package => .unknownPackage (rename function) package
  | .unknownFunction id => .unknownFunction (rename id)

def ManifestFunction.renamed (rename : String → String) (f : ManifestFunction) : ManifestFunction :=
  { f with id := rename f.id, wraps := f.wraps.map rename }

def ManifestCall.renamed (rename : String → String) (c : ManifestCall) : ManifestCall :=
  { c with caller := rename c.caller, callee := rename c.callee }

namespace Manifest

/-- a manifest under other ids -/
def renamed (rename : String → String) (m : Manifest) : Manifest :=
  { m with
    functions := m.functions.map (ManifestFunction.renamed rename)
    calls := m.calls.map (ManifestCall.renamed rename)
    entryPoints := m.entryPoints.map (List.map rename)
    testEntryPoints := m.testEntryPoints.map rename }

/-- the ids that a manifest declares, and those that it refers to -/
def mentioned (m : Manifest) : List String :=
  m.ids ++ m.functions.flatMap (fun f => f.wraps.toList) ++ m.calls.flatMap (fun c => [c.caller, c.callee]) ++
    m.entryPoints.getD [] ++ m.testEntryPoints

variable {m : Manifest} {rename : String → String} {id : String}

/-- the ids that a manifest mentions are told apart under their new names -/
def KeepsApart (m : Manifest) (rename : String → String) : Prop :=
  Set.InjOn rename {id | id ∈ m.mentioned}

@[simp] theorem ids_renamed : (m.renamed rename).ids = m.ids.map rename := by
  simp [ids, renamed, ManifestFunction.renamed, Function.comp_def]

theorem mem_mentioned :
    id ∈ m.mentioned ↔ id ∈ m.ids ∨ (∃ f ∈ m.functions, id ∈ f.wraps) ∨
      (∃ c ∈ m.calls, id = c.caller ∨ id = c.callee) ∨ (∃ given ∈ m.entryPoints, id ∈ given) ∨
        id ∈ m.testEntryPoints := by
  cases hentries : m.entryPoints <;> simp [mentioned, hentries]

/-! ## Searches -/

/-- the first repeated id stands where it stood -/
theorem firstRepeat?_renamed {seen ids : List String} (h : Set.InjOn rename {id | id ∈ seen ++ ids}) :
    firstRepeat? (seen.map rename) (ids.map rename) = (firstRepeat? seen ids).map rename := by
  induction ids generalizing seen with
  | nil => rfl
  | cons id ids ih =>
    have hid : rename id ∈ seen.map rename ↔ id ∈ seen := by
      rw [List.mem_map]
      constructor
      · rintro ⟨other, hother, hsame⟩
        rwa [← h (by simp [hother]) (by simp) hsame]
      · exact fun hid => ⟨id, hid, rfl⟩
    have hrest : Set.InjOn rename {x | x ∈ (id :: seen) ++ ids} := h.mono fun x hx => by
      simpa [or_left_comm] using hx
    simp only [List.map_cons, firstRepeat?, hid]
    split
    · rfl
    · exact ih hrest

theorem findIdx?_renamed {ids : List String} (h : ∀ i ∈ ids, rename i = rename id → i = id) :
    (ids.map rename).findIdx? (fun i => i = rename id) = ids.findIdx? fun i => i = id := by
  induction ids with
  | nil => rfl
  | cons i ids ih =>
    obtain ⟨hi, hids⟩ := List.forall_mem_cons.1 h
    have hsame : (rename i = rename id) = (i = id) := propext ⟨hi, congrArg rename⟩
    simp only [List.map_cons, List.findIdx?_cons, hsame, ih hids]

/-- an id is found at the position where it was, or is missing as it was -/
theorem lookup_renamed (h : m.KeepsApart rename) (hid : id ∈ m.mentioned) :
    (m.renamed rename).lookup (rename id) = (m.lookup id).mapError (LinkError.renamed rename) := by
  have hfind : (m.ids.map rename).findIdx? (fun i => i = rename id) = m.ids.findIdx? fun i => i = id :=
    findIdx?_renamed fun i hi => h (mem_mentioned.2 (Or.inl hi)) hid
  unfold lookup
  rw [ids_renamed, hfind]
  cases m.ids.findIdx? fun i => i = id <;> rfl

/-! ## Stages of linking -/

theorem wrapsOf_renamed (h : m.KeepsApart rename) {f : ManifestFunction} (hf : f ∈ m.functions) :
    (m.renamed rename).wrapsOf (f.renamed rename) = (m.wrapsOf f).mapError (LinkError.renamed rename) := by
  unfold wrapsOf ManifestFunction.renamed
  cases hwraps : f.wraps with
  | none => rfl
  | some id =>
    have hid : id ∈ m.mentioned := mem_mentioned.2 (Or.inr (Or.inl ⟨f, hf, hwraps⟩))
    rw [Option.map_some]
    dsimp only
    rw [lookup_renamed h hid, map_mapError]

theorem linkFunction_renamed (h : m.KeepsApart rename) (p : Program) {f : ManifestFunction} (hf : f ∈ m.functions) :
    (m.renamed rename).linkFunction p (f.renamed rename) =
      (m.linkFunction p f).mapError (LinkError.renamed rename) := by
  rw [linkFunction_eq, linkFunction_eq, wrapsOf_renamed h hf]
  unfold ManifestFunction.renamed
  cases p.packageByPath? f.package with
  | none => rfl
  | some package => exact map_mapError _ _

theorem linkCall_renamed (h : m.KeepsApart rename) {c : ManifestCall} (hc : c ∈ m.calls) :
    (m.renamed rename).linkCall (c.renamed rename) = (m.linkCall c).mapError (LinkError.renamed rename) := by
  have hmentioned : ∀ id, id = c.caller ∨ id = c.callee → id ∈ m.mentioned := fun id hid =>
    mem_mentioned.2 (Or.inr (Or.inr (Or.inl ⟨c, hc, hid⟩)))
  unfold linkCall ManifestCall.renamed
  refine bind_eq_mapError (lookup_renamed h (hmentioned _ (Or.inl rfl))) fun caller => ?_
  exact bind_eq_mapError (lookup_renamed h (hmentioned _ (Or.inr rfl))) fun callee => rfl

theorem entriesIn_renamed (h : m.KeepsApart rename) (p : Program) :
    (m.renamed rename).entriesIn p = (m.entriesIn p).mapError (LinkError.renamed rename) := by
  unfold entriesIn renamed
  cases hgiven : m.entryPoints with
  | none => rfl
  | some given =>
    refine mapM_eq_mapError fun id hid => lookup_renamed h (mem_mentioned.2 ?_)
    exact Or.inr (Or.inr (Or.inr (Or.inl ⟨given, hgiven, hid⟩)))

/-- **Ids are only names.** Under other ids, given to declarations and references alike, a manifest links to the same
program, and one that does not link fails with the same error about the new ids. The new ids must be told apart where
the old ones were, as they are under every injective renaming. -/
theorem renamed_links_alike (m : Manifest) (rename : String → String) (h : m.KeepsApart rename) :
    (m.renamed rename).link = m.link.mapError (LinkError.renamed rename) := by
  have hdeclared : Set.InjOn rename {id | id ∈ [] ++ m.ids} := h.mono fun id hid => mem_mentioned.2 (Or.inl hid)
  have hrepeat : firstRepeat? [] (m.ids.map rename) = (firstRepeat? [] m.ids).map rename :=
    firstRepeat?_renamed hdeclared
  rw [link_eq, link_eq, ids_renamed, hrepeat]
  cases firstRepeat? [] m.ids with
  | some id => rfl
  | none =>
    refine bind_eq_mapError (mapM_eq_mapError fun f hf => linkFunction_renamed h _ hf) fun functions => ?_
    refine bind_eq_mapError (mapM_eq_mapError fun c hc => linkCall_renamed h hc) fun calls => ?_
    refine bind_eq_mapError (entriesIn_renamed h _) fun entries => ?_
    have htests : (m.renamed rename).testEntryPoints.mapM (m.renamed rename).lookup =
        (m.testEntryPoints.mapM m.lookup).mapError (LinkError.renamed rename) :=
      mapM_eq_mapError fun id hid => lookup_renamed h (mem_mentioned.2 (by simp [hid]))
    exact bind_eq_mapError htests fun tests => rfl

/-- main calls a wrapper that forwards to run; the test entry point may be an id that is not declared -/
def handOff (test : String) : Manifest where
  packages := [{ path := "app", name := some "main" }]
  functions := [{ id := "main", package := "app", name := "main" }, { id := "run", package := "app", name := "Run" },
    { id := "bound", package := "app", name := "Run$bound", synthetic := true, wraps := some "run" }]
  calls := [{ caller := "main", callee := "bound" }, { caller := "bound", callee := "run" }]
  testEntryPoints := [test]

/-- the ids of main and run changed for one another, and a mark on all others -/
def exchange (id : String) : String :=
  if id = "main" then "run" else if id = "run" then "main" else "id." ++ id

/-- the program stays as it is, and an id that is not declared is reported under its new name -/
theorem renamed_links_alike_exchange :
    (handOff "run").KeepsApart exchange ∧ (handOff "gone").KeepsApart exchange ∧
      (∃ p, (handOff "run").link = .ok p ∧ ((handOff "run").renamed exchange).link = .ok p ∧
        p.testEntryPoints = [1]) ∧
      ((handOff "gone").renamed exchange).link = .error (.unknownFunction "id.gone") := by
  have hapart : ∀ test ∈ ["run", "gone"], (handOff test).KeepsApart exchange := by
    have hids : ∀ test ∈ ["run", "gone"], ∀ a ∈ (handOff test).mentioned, ∀ b ∈ (handOff test).mentioned,
        exchange a = exchange b → a = b := by decide
    exact fun test htest a ha b hb => hids test htest a ha b hb
  have hrun : (handOff "run").KeepsApart exchange := hapart _ (by decide)
  have hgone : (handOff "gone").KeepsApart exchange := hapart _ (by decide)
  have hprogram : ∃ p, (handOff "run").link = .ok p ∧ p.testEntryPoints = [1] := ⟨_, rfl, by decide⟩
  have herror : (handOff "gone").link = .error (.unknownFunction "gone") := by decide +kernel
  obtain ⟨p, hp, htests⟩ := hprogram
  refine ⟨hrun, hgone, ⟨p, hp, ?_, htests⟩, ?_⟩
  · rw [renamed_links_alike _ _ hrun, hp]
    rfl
  · rw [renamed_links_alike _ _ hgone, herror]
    decide

end Manifest

end CallAtlas
