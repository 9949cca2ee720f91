/-
Where a chain of wrappers stops.

A generated wrapper forwards to the function that it wraps, which can be a wrapper in turn, so a chain of forwards ends
at a function that forwards no further, or it runs into a circle. The walk along a chain notes each function that it
passes and stops at the end, or at the first function that it has passed before. `Follows` is such a walk.
- `exists_follows_of_chainPackage?`: the owner of a function defines the function at which its walk stops.
- `StopsAt.unique`: a chain has one end, or one first function on a circle, and not both.
- `wrappers_followed`: the owner is defined there, the circle's first function included. So a wrapper that is on no circle
  has the owner of what it wraps, and chains that stop at one function share their package cluster.
-/
import CallAtlas.Proofs.Ownership

namespace CallAtlas.Program

open Relation

variable {p : Program} {f g u v w last last' : FunctionId} {owner owner' : PackageId} {passed : List FunctionId}

/-! ## Ends and circles -/

/-- a function that is not generated or that wraps nothing -/
def IsEnd (p : Program) (f : FunctionId) : Prop :=
  ∃ fn, p.functions[f]? = some fn ∧ (fn.synthetic = false ∨ fn.wraps = none)

/-- the forwards from a function lead back to it -/
def OnCircle (p : Program) (f : FunctionId) : Prop :=
  TransGen p.Forwards f f

/-- one forward from a function that is on no circle -/
def Approaches (p : Program) (u v : FunctionId) : Prop :=
  p.Forwards u v ∧ ¬ p.OnCircle u

/-- the chain from a function ends -/
def EndsAt (p : Program) (f last : FunctionId) : Prop :=
  ReflTransGen p.Forwards f last ∧ p.IsEnd last

/-- the first function on a circle that the chain from a function comes to -/
def EntersCircleAt (p : Program) (f last : FunctionId) : Prop :=
  ReflTransGen p.Approaches f last ∧ p.OnCircle last

/-- where the walk along a chain stops -/
def StopsAt (p : Program) (f last : FunctionId) : Prop :=
  p.EndsAt f last ∨ p.EntersCircleAt f last

theorem rightUnique_forwards (p : Program) : Relator.RightUnique p.Forwards := by
  rintro u v w ⟨fn, hfn, -, hv⟩ ⟨fn', hfn', -, hw⟩
  rw [hfn] at hfn'
  cases hfn'
  exact Option.some.inj (hv.symm.trans hw)

theorem IsEnd.not_forwards (h : p.IsEnd u) : ¬ p.Forwards u v := by
  obtain ⟨fn, hfn, hend⟩ := h
  rintro ⟨fn', hfn', hsyn, hwraps⟩
  rw [hfn] at hfn'
  cases hfn'
  rcases hend with hend | hend
  · rw [hend] at hsyn
    cases hsyn
  · rw [hend] at hwraps
    cases hwraps

theorem DefinedIn.unique (h : p.DefinedIn owner f) (h' : p.DefinedIn owner' f) : owner = owner' := by
  obtain ⟨fn, hfn, rfl⟩ := h
  obtain ⟨fn', hfn', rfl⟩ := h'
  rw [Option.some.inj (hfn.symm.trans hfn')]

/-- what a circle leads to is on it -/
theorem OnCircle.leads_back (h : p.OnCircle u) (huv : ReflTransGen p.Forwards u v) :
    ReflTransGen p.Forwards v u := by
  induction huv with
  | refl => exact ReflTransGen.refl
  | @tail b c _ hbc ih =>
    obtain ⟨c', hbc', hback⟩ := TransGen.head'_iff.1 (TransGen.trans_right ih h)
    rwa [p.rightUnique_forwards hbc hbc']

/-- no circle leads to an end -/
theorem OnCircle.not_endsAt (h : p.OnCircle u) : ¬ p.EndsAt u last := by
  rintro ⟨hlast, hend⟩
  obtain ⟨v, hv, -⟩ := TransGen.head'_iff.1 (TransGen.trans_right (h.leads_back hlast) h)
  exact hend.not_forwards hv

theorem EndsAt.approaches (h : p.EndsAt f last) : ReflTransGen p.Approaches f last := by
  obtain ⟨hlast, hend⟩ := h
  induction hlast using ReflTransGen.head_induction_on with
  | refl => exact ReflTransGen.refl
  | head huv hlast ih => exact ih.head ⟨huv, fun hcircle => hcircle.not_endsAt ⟨hlast.head huv, hend⟩⟩

theorem StopsAt.approaches (h : p.StopsAt f last) : ReflTransGen p.Approaches f last :=
  h.elim EndsAt.approaches And.left

theorem StopsAt.not_approaches (h : p.StopsAt f last) : ¬ p.Approaches last v := by
  rintro ⟨hforwards, hcircle⟩
  rcases h with ⟨-, hend⟩ | ⟨-, hlast⟩
  · exact hend.not_forwards hforwards
  · exact hcircle hlast

theorem StopsAt.eq_of_approaches (h : p.StopsAt f last) (hreach : ReflTransGen p.Approaches last v) : last = v := by
  rcases ReflTransGen.cases_head hreach with heq | ⟨u, hu, -⟩
  · exact heq
  · exact absurd hu h.not_approaches

/-- **A chain stops at one function.** -/
theorem StopsAt.unique (h : p.StopsAt f last) (h' : p.StopsAt f last') : last = last' := by
  have hunique : Relator.RightUnique p.Approaches := fun _ _ _ hv hw => p.rightUnique_forwards hv.1 hw.1
  rcases ReflTransGen.total_of_right_unique hunique h.approaches h'.approaches with hreach | hreach
  · exact h.eq_of_approaches hreach
  · exact (h'.eq_of_approaches hreach).symm

theorem StopsAt.head (h : p.StopsAt g last) (hforwards : p.Forwards f g) (hcircle : ¬ p.OnCircle f) :
    p.StopsAt f last := by
  rcases h with ⟨hlast, hend⟩ | ⟨hlast, hon⟩
  · exact Or.inl ⟨hlast.head hforwards, hend⟩
  · exact Or.inr ⟨hlast.head ⟨hforwards, hcircle⟩, hon⟩

/-! ## The walk along a chain -/

/-- the functions that are passed on the way from one function to another, forward by forward -/
inductive Follows (p : Program) : FunctionId → List FunctionId → FunctionId → Prop
  | stop (f : FunctionId) : Follows p f [] f
  | pass {f v last : FunctionId} {passed : List FunctionId} :
    p.Forwards f v → Follows p v passed last → Follows p f (f :: passed) last

theorem Follows.reaches (h : p.Follows f passed last) : ReflTransGen p.Forwards f last := by
  induction h with
  | stop f => exact ReflTransGen.refl
  | pass hforwards _ ih => exact ih.head hforwards

theorem Follows.start_cases (h : p.Follows f passed last) : f ∈ passed ∨ f = last := by
  cases h with
  | stop f => exact Or.inr rfl
  | pass hforwards hrest => exact Or.inl List.mem_cons_self

/-- a function that is passed is passed on to the next one -/
theorem Follows.next_cases (h : p.Follows f passed last) (hu : u ∈ passed) (huv : p.Forwards u v) :
    v ∈ passed ∨ v = last := by
  induction h with
  | stop f => cases hu
  | pass hforwards hrest ih =>
    rcases List.mem_cons.1 hu with rfl | hu
    · rw [p.rightUnique_forwards huv hforwards]
      exact hrest.start_cases.imp_left (List.mem_cons_of_mem _)
    · exact (ih hu).imp_left (List.mem_cons_of_mem _)

theorem Follows.split {before after : List FunctionId} (h : p.Follows f (before ++ u :: after) last) :
    p.Follows f before u ∧ p.Follows u (u :: after) last := by
  induction before generalizing f with
  | nil =>
    cases h with
    | pass hforwards hrest => exact ⟨Follows.stop u, Follows.pass hforwards hrest⟩
  | cons b before ih =>
    cases h with
    | pass hforwards hrest => exact ⟨Follows.pass hforwards (ih hrest).1, (ih hrest).2⟩

theorem Follows.approaches (h : p.Follows f passed last) (hpassed : ∀ u ∈ passed, ¬ p.OnCircle u) :
    ReflTransGen p.Approaches f last := by
  induction h with
  | stop f => exact ReflTransGen.refl
  | pass hforwards _ ih =>
    obtain ⟨hfirst, hrest⟩ := List.forall_mem_cons.1 hpassed
    exact (ih hrest).head ⟨hforwards, hfirst⟩

/-- what a walk around a circle leads to has been passed -/
theorem Follows.mem_of_reaches (h : p.Follows last passed last) (hlast : last ∈ passed) (hu : u ∈ passed)
    (huv : ReflTransGen p.Forwards u v) : v ∈ passed := by
  induction huv with
  | refl => exact hu
  | tail _ hforwards ih => exact (h.next_cases ih hforwards).elim id fun heq => heq ▸ hlast

/-- a walk that comes back to a function for the first time has come round a circle, and not before this function -/
theorem Follows.entersCircleAt (h : p.Follows f passed last) (hnodup : passed.Nodup) (hlast : last ∈ passed) :
    p.EntersCircleAt f last := by
  obtain ⟨before, after, rfl⟩ := List.append_of_mem hlast
  obtain ⟨hbefore, hround⟩ := h.split
  have hcircle : p.OnCircle last := by
    cases hround with
    | pass hforwards hrest => exact TransGen.head' hforwards hrest.reaches
  refine ⟨hbefore.approaches fun u hu hon => ?_, hcircle⟩
  -- on a circle, `u` would be passed again on the way round
  obtain ⟨early, late, rfl⟩ := List.append_of_mem hu
  have hback : ReflTransGen p.Forwards last u := hon.leads_back hbefore.split.2.reaches
  have hagain : u ∈ last :: after := hround.mem_of_reaches List.mem_cons_self List.mem_cons_self hback
  exact (List.nodup_append.1 hnodup).2.2 u hu u hagain rfl

/-- **The walk.** It passes functions not met yet, each once, and stops at the end of the chain or at a function that has
been met. The owner defines the function at which it stops. -/
theorem exists_follows_of_chainPackage? {fresh : List FunctionId} (hfresh : fresh.Nodup)
    (h : p.chainPackage? fresh f = some owner) :
    ∃ passed last, p.Follows f passed last ∧ passed.Nodup ∧ passed ⊆ fresh ∧ p.DefinedIn owner last ∧
      (p.IsEnd last ∨ last ∈ passed ∨ last ∉ fresh) := by
  fun_induction chainPackage? p fresh f with
  | case1 fresh f hnone => cases h
  | case2 fresh f fn hfn target hwraps hsyn hmem ih =>
    obtain ⟨passed, last, hfollows, hnodup, hsub, hdefined, hstop⟩ := ih (hfresh.erase f) h
    have hnew : f ∉ passed := fun hf => (hfresh.mem_erase_iff.1 (hsub hf)).1 rfl
    refine ⟨f :: passed, last, Follows.pass ⟨fn, hfn, hsyn, hwraps⟩ hfollows, List.nodup_cons.2 ⟨hnew, hnodup⟩,
      List.cons_subset.2 ⟨hmem, fun u hu => List.mem_of_mem_erase (hsub hu)⟩, hdefined, ?_⟩
    rcases hstop with hend | hpassed | hmet
    · exact Or.inl hend
    · exact Or.inr (Or.inl (List.mem_cons_of_mem _ hpassed))
    · by_cases hlast : last = f
      · exact Or.inr (Or.inl (hlast ▸ List.mem_cons_self))
      · exact Or.inr (Or.inr fun hin => hmet (hfresh.mem_erase_iff.2 ⟨hlast, hin⟩))
  | case3 fresh f fn hfn target hwraps hsyn hmet =>
    exact ⟨[], f, Follows.stop f, List.nodup_nil, List.nil_subset _, ⟨fn, hfn, Option.some.inj h⟩,
      Or.inr (Or.inr hmet)⟩
  | case4 fresh f fn hfn hend =>
    have hlast : fn.synthetic = false ∨ fn.wraps = none := by
      cases hwraps : fn.wraps with
      | none => exact Or.inr rfl
      | some target => exact Or.inl (Bool.eq_false_iff.2 fun hsyn => hend target hsyn hwraps)
    exact ⟨[], f, Follows.stop f, List.nodup_nil, List.nil_subset _, ⟨fn, hfn, Option.some.inj h⟩,
      Or.inl ⟨fn, hfn, hlast⟩⟩

/-! ## Owners -/

/-- **The owner of a function.** It defines the function at which the chain stops, and the walk comes there after at most
as many forwards as there are functions. -/
theorem WrapsInRange.exists_follows (h : p.WrapsInRange) (hf : f < p.functions.length) :
    ∃ owner passed last, p.owningPackage? f = some owner ∧ p.Follows f passed last ∧
      passed.length ≤ p.functions.length ∧ p.StopsAt f last ∧ p.DefinedIn owner last := by
  obtain ⟨fn, -, howner⟩ := h.exists_chainPackage? (List.range p.functions.length) hf
  obtain ⟨passed, last, hfollows, hnodup, hsub, hdefined, hstop⟩ :=
    exists_follows_of_chainPackage? List.nodup_range howner
  have hlength : passed.length ≤ p.functions.length := by
    simpa using List.Nodup.length_le_of_subset hnodup hsub
  refine ⟨fn.package, passed, last, howner, hfollows, hlength, ?_, hdefined⟩
  rcases hstop with hend | hpassed | hmet
  · exact Or.inl ⟨hfollows.reaches, hend⟩
  · exact Or.inr (hfollows.entersCircleAt hnodup hpassed)
  · exact absurd (List.mem_range.2 hdefined.lt_length) hmet

theorem WrapsInRange.owner_of_stopsAt (h : p.WrapsInRange) (hf : f < p.functions.length) (hstop : p.StopsAt f last) :
    ∃ owner, p.owningPackage? f = some owner ∧ p.DefinedIn owner last := by
  obtain ⟨owner, -, last', howner, -, -, hstop', hdefined⟩ := h.exists_follows hf
  exact ⟨owner, howner, hstop.unique hstop' ▸ hdefined⟩

theorem WrapsInRange.lt_of_forwards (h : p.WrapsInRange) (hforwards : p.Forwards f g) : g < p.functions.length := by
  obtain ⟨fn, hfn, -, hwraps⟩ := hforwards
  exact h fn (List.mem_of_getElem? hfn) g hwraps

/-- the package cluster of a function is that of the package which defines the function at which its chain stops -/
theorem WrapsInRange.packageKey?_of_stopsAt (h : p.WrapsInRange) (hf : f < p.functions.length)
    (hstop : p.StopsAt f last) :
    p.packageKey? f = (p.packageOf? last).map fun k => ClusterKey.package k.path := by
  obtain ⟨owner, howner, fn, hfn, rfl⟩ := h.owner_of_stopsAt hf hstop
  cases hpackage : p.packages[fn.package]? <;> simp [packageKey?, packageOf?, howner, hfn, hpackage]

theorem mem_clusterKeys?_iff {grouping : Grouping} {keys : List ClusterKey} {path : String}
    (h : p.clusterKeys? grouping f = some keys) :
    ClusterKey.package path ∈ keys ↔ grouping.byPackage = true ∧ p.packageKey? f = some (.package path) := by
  obtain ⟨packages, types, rfl, hpackages, htypes⟩ := exists_append_of_clusterKeys? h
  have hnone : ClusterKey.package path ∉ types := by
    rcases htypes with rfl | ⟨owner, name, rfl⟩ <;> simp
  rw [List.mem_append, or_iff_left hnone]
  split_ifs at hpackages with hby
  · obtain ⟨path', hkey, rfl⟩ := hpackages
    simp [hby, hkey, eq_comm]
  · simp [hpackages, hby]

/-- **Chains of wrappers are followed to their end.** In a program whose wrappers wrap functions that exist, each function
has an owner, found after at most as many forwards as there are functions. The owner defines the function at which the
chain ends, or the first function on a circle if it runs into one. So what a wrapper on no circle wraps has the owner of
the wrapper, and two functions whose chains stop at the same function are drawn in the same package cluster. -/
theorem wrappers_followed (h : p.WrapsInRange) (hf : f < p.functions.length) :
    ∃ owner, p.owningPackage? f = some owner ∧
      (∃ passed last, p.Follows f passed last ∧ passed.length ≤ p.functions.length ∧ p.StopsAt f last) ∧
      (∀ last, p.EndsAt f last → p.DefinedIn owner last) ∧
      ((∀ last, ¬ p.EndsAt f last) → ∃ last, p.EntersCircleAt f last ∧ p.DefinedIn owner last) ∧
      (∀ g, p.Forwards f g → ¬ p.OnCircle f → p.owningPackage? g = some owner) ∧
      ∀ g last, g < p.functions.length → p.StopsAt f last → p.StopsAt g last →
        p.packageKey? f = (p.packageOf? last).map (fun k => .package k.path) ∧ p.packageKey? g = p.packageKey? f ∧
          ∀ grouping keys keys', p.clusterKeys? grouping f = some keys → p.clusterKeys? grouping g = some keys' →
            ∀ path, ClusterKey.package path ∈ keys ↔ ClusterKey.package path ∈ keys' := by
  obtain ⟨owner, passed, last, howner, hfollows, hlength, hstop, hdefined⟩ := h.exists_follows hf
  refine ⟨owner, howner, ⟨passed, last, hfollows, hlength, hstop⟩, fun last' hend => ?_, fun hendless => ?_,
    fun g hforwards hcircle => ?_, fun g last' hg hstop' hstopg => ?_⟩
  · exact hstop.unique (Or.inl hend) ▸ hdefined
  · exact ⟨last, hstop.resolve_left (hendless last), hdefined⟩
  · obtain ⟨owner', -, last', howner', -, -, hstop', hdefined'⟩ := h.exists_follows (h.lt_of_forwards hforwards)
    have hlast : last = last' := hstop.unique (hstop'.head hforwards hcircle)
    rw [howner', hdefined.unique (hlast ▸ hdefined')]
  · have hkey := h.packageKey?_of_stopsAt hf hstop'
    have hkeyg := h.packageKey?_of_stopsAt hg hstopg
    refine ⟨hkey, hkeyg.trans hkey.symm, fun grouping keys keys' hkeys hkeys' path => ?_⟩
    rw [mem_clusterKeys?_iff hkeys, mem_clusterKeys?_iff hkeys', hkey, hkeyg]

/-- a wrapper that runs into a circle of two others, and a wrapper around a plain function, all in different packages -/
def ring : Program where
  packages := [⟨"app", "main"⟩, ⟨"left", "left"⟩, ⟨"right", "right"⟩, ⟨"shim", "shim"⟩]
  functions := [{ name := "main", package := 0 }, { name := "enter", package := 3, synthetic := true, wraps := some 2 },
    { name := "left", package := 1, synthetic := true, wraps := some 3 },
    { name := "right", package := 2, synthetic := true, wraps := some 2 },
    { name := "main$bound", package := 3, synthetic := true, wraps := some 0 }]

/-- the circle belongs to the package in which it is entered, the other wrapper to that of `main` -/
theorem wrappers_followed_ring :
    (ring.WrapsInRange ∧ 1 < ring.functions.length ∧ 2 < ring.functions.length ∧ 4 < ring.functions.length) ∧
      (ring.EndsAt 4 0 ∧ ring.owningPackage? 4 = some 0) ∧
        ((∀ last, ¬ ring.EndsAt 1 last) ∧ ring.EntersCircleAt 1 2 ∧ ring.owningPackage? 1 = some 1) ∧
          (ring.Forwards 1 2 ∧ ¬ ring.OnCircle 1 ∧ ring.owningPackage? 2 = some 1) ∧
            ring.StopsAt 1 2 ∧ ring.StopsAt 2 2 ∧ ring.packageKey? 2 = ring.packageKey? 1 := by
  have hwraps : ring.WrapsInRange := by decide
  have hends : ring.EndsAt 4 0 := ⟨ReflTransGen.single ⟨_, rfl, rfl, rfl⟩, _, rfl, Or.inl rfl⟩
  have hforwards : ring.Forwards 1 2 := ⟨_, rfl, rfl, rfl⟩
  have hcircle : ring.OnCircle 2 := TransGen.head (b := 3) ⟨_, rfl, rfl, rfl⟩ (TransGen.single ⟨_, rfl, rfl, rfl⟩)
  have hoff : ¬ ring.OnCircle 1 := by
    intro hon
    -- no function wraps the first wrapper
    obtain ⟨x, -, fn, hfn, -, hfnwraps⟩ := TransGen.tail'_iff.1 hon
    have hnone : ∀ fn ∈ ring.functions, fn.wraps ≠ some 1 := by decide
    exact hnone fn (List.mem_of_getElem? hfn) hfnwraps
  have henters : ring.EntersCircleAt 1 2 := ⟨ReflTransGen.single ⟨hforwards, hoff⟩, hcircle⟩
  have hendless : ∀ last, ¬ ring.EndsAt 1 last := by
    intro last hlast
    cases StopsAt.unique (Or.inl hlast) (Or.inr henters)
    exact hlast.2.not_forwards (v := 3) ⟨_, rfl, rfl, rfl⟩
  have hself : ring.StopsAt 2 2 := Or.inr ⟨ReflTransGen.refl, hcircle⟩
  obtain ⟨owner, howner, -, hend, -⟩ := wrappers_followed hwraps (f := 4) (by decide)
  have howner4 : ring.owningPackage? 4 = some 0 := howner.trans (congrArg some ((hend 0 hends).unique ⟨_, rfl, rfl⟩))
  obtain ⟨owner, howner, -, -, hround, hwrapped, hcluster⟩ := wrappers_followed hwraps (f := 1) (by decide)
  obtain ⟨last, hlast, hdefined⟩ := hround hendless
  cases StopsAt.unique (Or.inr hlast) (Or.inr henters)
  have hone : owner = 1 := hdefined.unique ⟨_, rfl, rfl⟩
  exact ⟨⟨hwraps, by decide, by decide, by decide⟩, ⟨hends, howner4⟩, ⟨hendless, henters, hone ▸ howner⟩,
    ⟨hforwards, hoff, hone ▸ hwrapped 2 hforwards hoff⟩, Or.inr henters, hself,
    (hcluster 2 2 (by decide) (Or.inr henters) hself).2.1⟩

end CallAtlas.Program
