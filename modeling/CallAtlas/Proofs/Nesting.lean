/-
Which clusters a drawing opens, and which nodes it declares in them.

`Dot.read` goes through the statements of a drawing and keeps the clusters that are open. It gives every cluster with
the clusters around it, and every node with the clusters around it. What the statements of a graph will be read as can
be said in advance: `nests` are the lists of keys for which clusters are opened, `arranged` are the nodes in the order
in which they come.
- `Shows.unique`: the attributes of a cluster tell its key.
- `mem_nests`, `nodup_nests`: there is a nest for each list of keys with which the keys of some node begin, once.
- `arranged_perm`: every node comes once.
-/
import Mathlib.Data.List.Perm.Basic
import Mathlib.Data.List.Nodup
import Mathlib.Tactic.SplitIfs
import CallAtlas.Dot.Drawing

namespace CallAtlas

/-! ## Reading a drawing -/

namespace Dot

/-- a cluster as it is opened: its name and its attributes -/
abbrev Opening := String × List Attribute

/-- what has been read of a drawing; clusters stand outermost first -/
structure Reading where
  /-- the clusters that are open -/
  around : List Opening := []
  /-- each cluster opened so far, after those around it -/
  clusters : List (List Opening) := []
  /-- each node declared so far, with the clusters around it -/
  nodes : List (String × List Opening) := []
  deriving DecidableEq, Repr

namespace Reading

/-- one statement read -/
def step (r : Reading) : Statement → Reading
  | .openCluster id attributes =>
    { r with around := r.around ++ [(id, attributes)], clusters := r.clusters ++ [r.around ++ [(id, attributes)]] }
  | .closeCluster => { r with around := r.around.dropLast }
  | .node id _ => { r with nodes := r.nodes ++ [(id, r.around)] }
  | _ => r

/-- what has been read, and then clusters and nodes inside those that are open -/
def add (r : Reading) (clusters : List (List Opening)) (nodes : List (String × List Opening)) : Reading where
  around := r.around
  clusters := r.clusters ++ clusters.map (r.around ++ ·)
  nodes := r.nodes ++ nodes.map fun n => (n.1, r.around ++ n.2)

theorem add_nil (r : Reading) : r.add [] [] = r := by
  simp [add]

theorem empty_add (clusters : List (List Opening)) (nodes : List (String × List Opening)) :
    ({} : Reading).add clusters nodes = { clusters, nodes } := by
  simp [add]

theorem add_add (r : Reading) (clusters clusters' : List (List Opening)) (nodes nodes' : List (String × List Opening)) :
    (r.add clusters nodes).add clusters' nodes' = r.add (clusters ++ clusters') (nodes ++ nodes') := by
  simp [add]

/-- a cluster opened, clusters and nodes inside it, and the cluster closed -/
theorem step_close_add_step_open (r : Reading) (o : Opening) (clusters : List (List Opening))
    (nodes : List (String × List Opening)) :
    ((r.step (.openCluster o.1 o.2)).add clusters nodes).step .closeCluster =
      r.add ([o] :: clusters.map (o :: ·)) (nodes.map fun n => (n.1, o :: n.2)) := by
  simp [step, add, Function.comp_def]

end Reading

/-- a drawing read from its first statement -/
def read (statements : List Statement) : Reading :=
  statements.foldl Reading.step {}

end Dot

namespace Drawing

open Dot

/-! ## Clusters for keys -/

/-- a cluster has the attributes of a key -/
def Shows (p : Program) (g : Graph) (key : ClusterKey) (o : Opening) : Prop :=
  clusterAttributes? p g key = some o.2

instance (p : Program) (g : Graph) (key : ClusterKey) (o : Opening) : Decidable (Shows p g key o) := by
  unfold Shows; infer_instance

/-- clusters around one another have the attributes of keys, one for one -/
def ShowAll (p : Program) (g : Graph) (keys : List ClusterKey) (os : List Opening) : Prop :=
  keys.map (clusterAttributes? p g) = os.map fun o => some o.2

instance (p : Program) (g : Graph) (keys : List ClusterKey) (os : List Opening) : Decidable (ShowAll p g keys os) := by
  unfold ShowAll; infer_instance

section Keys

variable {p : Program} {g : Graph} {key key' : ClusterKey} {o : Opening} {keys keys' : List ClusterKey}
  {os : List Opening}

theorem clusterAttributes?_package (p : Program) (g : Graph) (path : String) :
    ∃ label color, clusterAttributes? p g (.package path) =
      some [("label", label), ("tooltip", path), ("style", "filled"), ("fillcolor", color), ("penwidth", "0.8"),
        ("fontsize", "16")] := by
  cases hfind : p.packageByPath? path with
  | none =>
    refine ⟨path, "snow", ?_⟩
    simp [clusterAttributes?, hfind]
  | some id =>
    obtain ⟨hlt, -⟩ := List.findIdx?_eq_some_iff_getElem.1 hfind
    exact ⟨p.packages[id].name, if some id = g.focus then "lightyellow" else "snow", by
      simp [clusterAttributes?, hfind, hlt]⟩

theorem exists_clusterAttributes? (p : Program) (g : Graph) (key : ClusterKey) :
    ∃ attributes, clusterAttributes? p g key = some attributes := by
  cases key with
  | package path =>
    obtain ⟨label, color, h⟩ := clusterAttributes?_package p g path
    exact ⟨_, h⟩
  | type owner name => exact ⟨_, rfl⟩

/-- **A cluster shows one key.** The attributes of different keys differ. -/
theorem Shows.unique (h : Shows p g key o) (h' : Shows p g key' o) : key = key' := by
  have hsame := h.trans h'.symm
  cases key with
  | package path =>
    obtain ⟨label, color, hpackage⟩ := clusterAttributes?_package p g path
    rw [hpackage] at hsame
    cases key' with
    | package path' =>
      obtain ⟨label', color', hpackage'⟩ := clusterAttributes?_package p g path'
      rw [hpackage'] at hsame
      simp only [Option.some.injEq, List.cons.injEq, Prod.mk.injEq, true_and] at hsame
      rw [hsame.2.1]
    | type owner name => simp [clusterAttributes?] at hsame
  | type owner name =>
    cases key' with
    | package path =>
      obtain ⟨label, color, hpackage⟩ := clusterAttributes?_package p g path
      rw [hpackage] at hsame
      simp [clusterAttributes?] at hsame
    | type owner' name' =>
      simp only [clusterAttributes?, Option.some.injEq, List.cons.injEq, Prod.mk.injEq, true_and, and_true] at hsame
      obtain ⟨rfl, howner⟩ := hsame
      rw [String.append_left_inj, String.append_left_inj] at howner
      rw [howner]

theorem clusterAttributes?_injective (p : Program) (g : Graph) : Function.Injective (clusterAttributes? p g) := by
  intro key key' hsame
  obtain ⟨attributes, h⟩ := exists_clusterAttributes? p g key
  have hshows : Shows p g key ("", attributes) := h
  exact hshows.unique (hsame.symm.trans h)

theorem ShowAll.unique (h : ShowAll p g keys os) (h' : ShowAll p g keys' os) : keys = keys' :=
  List.map_injective_iff.2 (clusterAttributes?_injective p g) (h.trans h'.symm)

theorem ShowAll.cons (hkey : Shows p g key o) (h : ShowAll p g keys os) : ShowAll p g (key :: keys) (o :: os) := by
  rw [ShowAll, List.map_cons, List.map_cons, h, hkey]

theorem ShowAll.exists_mem_iff (h : ShowAll p g keys os) : (∃ o ∈ os, Shows p g key o) ↔ key ∈ keys := by
  have hmem := congrArg (clusterAttributes? p g key ∈ ·) h
  simp only [List.mem_map_of_injective (clusterAttributes?_injective p g), List.mem_map, eq_iff_iff] at hmem
  rw [hmem]
  exact exists_congr fun o => and_congr_right fun _ => eq_comm

/-- the innermost cluster is that of the last key -/
theorem ShowAll.exists_getLast?_iff (h : ShowAll p g keys os) :
    (∃ o ∈ os.getLast?, Shows p g key o) ↔ keys.getLast? = some key := by
  have hlast := congrArg List.getLast? h
  rw [List.getLast?_map, List.getLast?_map] at hlast
  cases hkeys : keys.getLast? with
  | none =>
    rw [hkeys, Option.map_none, eq_comm, Option.map_eq_none_iff] at hlast
    simp [hlast]
  | some last =>
    rw [hkeys, Option.map_some, eq_comm, Option.map_eq_some_iff] at hlast
    obtain ⟨o, ho, hshows⟩ := hlast
    have hshows : Shows p g last o := hshows.symm
    rw [ho, Option.some.injEq]
    constructor
    · rintro ⟨o', ho', hkey⟩
      cases ho'
      exact hshows.unique hkey
    · rintro rfl
      exact ⟨o, rfl, hshows⟩

end Keys

/-! ## The plan -/

/-- an item outside of a cluster -/
def under (key : ClusterKey) (i : Item) : Item := (key :: i.1, i.2)

/-- the lists of keys for which a cluster is opened, in this order -/
def nests : Nat → List Item → List (List ClusterKey)
  | 0, _ => []
  | depth + 1, items =>
    (nextKeys items).flatMap fun key => [key] :: (nests depth (itemsIn key items)).map (key :: ·)

/-- the items in the order in which their nodes are declared -/
def arranged : Nat → List Item → List Item
  | 0, items => items
  | depth + 1, items =>
    ((nextKeys items).flatMap fun key => (arranged depth (itemsIn key items)).map (under key)) ++
      (membersOf items).map ([], ·)

section Plan

variable {items : List Item} {key : ClusterKey} {keys : List ClusterKey} {id : FunctionId} {depth : Nat}

theorem mem_itemsIn : (keys, id) ∈ itemsIn key items ↔ (key :: keys, id) ∈ items := by
  simp only [itemsIn, List.mem_filterMap]
  constructor
  · rintro ⟨⟨_ | ⟨k, r⟩, id'⟩, hi, heq⟩
    · cases heq
    · dsimp only at heq
      split_ifs at heq with hk
      cases heq
      exact hk ▸ hi
  · intro hi
    exact ⟨_, hi, if_pos rfl⟩

theorem mem_nextKeys : key ∈ nextKeys items ↔ ∃ i, i ∈ itemsIn key items := by
  simp only [nextKeys, Ordered.mem_ofList ClusterKey.isOrder_before, List.mem_filterMap, Prod.exists, mem_itemsIn]
  constructor
  · rintro ⟨_ | ⟨k, r⟩, id, hi, heq⟩
    · cases heq
    · cases heq
      exact ⟨r, id, hi⟩
  · rintro ⟨r, id, hi⟩
    exact ⟨key :: r, id, hi, rfl⟩

theorem nodup_nextKeys (items : List Item) : (nextKeys items).Nodup :=
  (Ordered.sorted_ofList ClusterKey.isOrder_before _).nodup ClusterKey.isOrder_before

/-- inside a cluster one level less is needed -/
theorem length_le_of_mem_itemsIn (hdepth : ∀ i ∈ items, i.1.length ≤ depth + 1) :
    ∀ i ∈ itemsIn key items, i.1.length ≤ depth := by
  rintro ⟨keys, id⟩ hi
  exact Nat.le_of_succ_le_succ (hdepth _ (mem_itemsIn.1 hi))

/-- **Which clusters are opened.** One for each list of keys with which the keys of some item begin. -/
theorem mem_nests (hdepth : ∀ i ∈ items, i.1.length ≤ depth) :
    keys ∈ nests depth items ↔ keys ≠ [] ∧ ∃ i ∈ items, keys <+: i.1 := by
  induction depth generalizing items keys with
  | zero =>
    simp only [nests, List.not_mem_nil, false_iff, not_and, not_exists]
    intro hne i hi hstart
    exact hne (List.length_eq_zero_iff.1 (Nat.le_zero.1 (Nat.le_trans hstart.length_le (hdepth i hi))))
  | succ depth ih =>
    have ih : ∀ {key keys}, keys ∈ nests depth (itemsIn key items) ↔ keys ≠ [] ∧ ∃ i ∈ itemsIn key items, keys <+: i.1 :=
      ih (length_le_of_mem_itemsIn hdepth)
    simp only [nests, List.mem_flatMap, List.mem_cons, List.mem_map, ih]
    constructor
    · rintro ⟨key, hkey, rfl | ⟨rest, ⟨-, ⟨keys, id⟩, hi, hstart⟩, rfl⟩⟩
      · obtain ⟨⟨keys, id⟩, hi⟩ := mem_nextKeys.1 hkey
        exact ⟨List.cons_ne_nil _ _, _, mem_itemsIn.1 hi, List.prefix_cons_inj key |>.2 (List.nil_prefix)⟩
      · exact ⟨List.cons_ne_nil _ _, _, mem_itemsIn.1 hi, (List.prefix_cons_inj key).2 hstart⟩
    · rintro ⟨hne, ⟨keys', id⟩, hi, hstart⟩
      match keys with
      | [] => exact absurd rfl hne
      | key :: rest =>
        obtain ⟨after, rfl⟩ := hstart
        have hin : (rest ++ after, id) ∈ itemsIn key items := mem_itemsIn.2 hi
        refine ⟨key, mem_nextKeys.2 ⟨_, hin⟩, ?_⟩
        by_cases hrest : rest = []
        · exact Or.inl (hrest ▸ rfl)
        · exact Or.inr ⟨rest, ⟨hrest, _, hin, List.prefix_append rest after⟩, rfl⟩

theorem nodup_nests (hdepth : ∀ i ∈ items, i.1.length ≤ depth) : (nests depth items).Nodup := by
  induction depth generalizing items with
  | zero => exact List.nodup_nil
  | succ depth ih =>
    refine List.nodup_flatMap.2 ⟨fun key _ => ?_, (nodup_nextKeys items).imp ?_⟩
    · have hdepth' : ∀ i ∈ itemsIn key items, i.1.length ≤ depth := length_le_of_mem_itemsIn hdepth
      refine List.nodup_cons.2 ⟨fun hmem => ?_, (ih hdepth').map (List.cons_injective)⟩
      obtain ⟨rest, hrest, heq⟩ := List.mem_map.1 hmem
      exact ((mem_nests hdepth').1 hrest).1 (List.cons.inj heq).2
    · -- what is opened under different keys starts with different keys
      intro key key' hne keys hmem hmem'
      have hhead : keys.head? = some key := by
        rcases List.mem_cons.1 hmem with rfl | hmem
        · rfl
        · obtain ⟨rest, -, rfl⟩ := List.mem_map.1 hmem
          rfl
      have hhead' : keys.head? = some key' := by
        rcases List.mem_cons.1 hmem' with rfl | hmem'
        · rfl
        · obtain ⟨rest, -, rfl⟩ := List.mem_map.1 hmem'
          rfl
      exact hne (Option.some.inj (hhead.symm.trans hhead'))

/-- the items that come next in the cluster of a key -/
theorem map_under_itemsIn (key : ClusterKey) (items : List Item) :
    (itemsIn key items).map (under key) = items.filter fun i => i.1.head? = some key := by
  induction items with
  | nil => rfl
  | cons i r ih =>
    obtain ⟨keys, id⟩ := i
    cases keys with
    | nil => simpa [itemsIn] using ih
    | cons k keys =>
      by_cases hk : k = key
      · subst hk
        simpa [itemsIn, under] using ih
      · simpa [itemsIn, hk] using ih

theorem map_membersOf (items : List Item) :
    (membersOf items).map (([], ·) : FunctionId → Item) = items.filter fun i => i.1.head? = none := by
  induction items with
  | nil => rfl
  | cons i r ih =>
    obtain ⟨keys, id⟩ := i
    cases keys with
    | nil => simpa [membersOf] using ih
    | cons k keys => simpa [membersOf] using ih

/-- the items of each key one after another, and then those without a key, are all items -/
theorem flatMap_filter_append_perm {keys : List ClusterKey} (hkeys : keys.Nodup)
    (hmem : ∀ i ∈ items, ∀ key, i.1.head? = some key → key ∈ keys) :
    List.Perm ((keys.flatMap fun key => items.filter fun i => i.1.head? = some key) ++
      items.filter fun i => i.1.head? = none) items := by
  induction keys generalizing items with
  | nil =>
    have hnone : ∀ i ∈ items, decide (i.1.head? = none) = true := fun i hi => by
      cases hhead : i.1.head? with
      | none => rfl
      | some key => cases hmem i hi key hhead
    rw [List.flatMap_nil, List.nil_append, List.filter_eq_self.2 hnone]
  | cons key keys ih =>
    obtain ⟨hkey, hkeys⟩ := List.nodup_cons.1 hkeys
    -- the other keys and no key select among the items that do not start with this one
    have hrest : ∀ k, k ≠ some key → (items.filter fun i => i.1.head? = k) =
        (items.filter fun i => !decide (i.1.head? = some key)).filter fun i => i.1.head? = k := by
      intro k hk
      rw [List.filter_filter]
      refine List.filter_congr fun i _ => ?_
      by_cases hi : i.1.head? = k
      · simp [hi, hk]
      · simp [hi]
    have hkeysRest : (keys.flatMap fun k => items.filter fun i => i.1.head? = some k) =
        keys.flatMap fun k =>
          (items.filter fun i => !decide (i.1.head? = some key)).filter fun i => i.1.head? = some k := by
      refine List.flatMap_congr fun k hk => hrest (some k) ?_
      rintro heq
      exact hkey (Option.some.inj heq ▸ hk)
    have hmemRest : ∀ i ∈ items.filter fun i => !decide (i.1.head? = some key), ∀ k, i.1.head? = some k → k ∈ keys := by
      intro i hi k hk
      obtain ⟨hi, hne⟩ := List.mem_filter.1 hi
      rcases List.mem_cons.1 (hmem i hi k hk) with rfl | hk'
      · simp [hk] at hne
      · exact hk'
    rw [List.flatMap_cons, List.append_assoc, hkeysRest, hrest none (by simp)]
    exact ((ih hkeys hmemRest).append_left _).trans (List.filter_append_perm _ items)

/-- **Every node is declared once.** -/
theorem arranged_perm (depth : Nat) (items : List Item) : (arranged depth items).Perm items := by
  induction depth generalizing items with
  | zero => exact List.Perm.refl items
  | succ depth ih =>
    have hkeys : ∀ i ∈ items, ∀ key, i.1.head? = some key → key ∈ nextKeys items := by
      rintro ⟨_ | ⟨k, r⟩, id⟩ hi key hhead
      · cases hhead
      · cases hhead
        exact mem_nextKeys.2 ⟨(r, id), mem_itemsIn.2 hi⟩
    have hclusters : List.Perm ((nextKeys items).flatMap fun key => (arranged depth (itemsIn key items)).map (under key))
        ((nextKeys items).flatMap fun key => items.filter fun i => i.1.head? = some key) :=
      List.Perm.flatMap_left _ fun key _ => map_under_itemsIn key items ▸ (ih (itemsIn key items)).map (under key)
    rw [arranged, map_membersOf]
    exact (hclusters.append_right _).trans (flatMap_filter_append_perm (nodup_nextKeys items) hkeys)

end Plan

/-! ## The plan of a graph -/

/-- the nodes of a graph as items, with no cluster open -/
def itemsOf (g : Graph) : List Item :=
  g.nodes.map fun n => (n.clusters, n.id)

theorem length_le_foldl (nodes : List Node) (d : Nat) :
    d ≤ nodes.foldl (fun d n => max d n.clusters.length) d ∧
      ∀ n ∈ nodes, n.clusters.length ≤ nodes.foldl (fun d n => max d n.clusters.length) d := by
  induction nodes generalizing d with
  | nil => simp
  | cons n rest ih =>
    obtain ⟨hle, hrest⟩ := ih (max d n.clusters.length)
    rw [List.foldl_cons]
    refine ⟨Nat.le_trans (Nat.le_max_left _ _) hle, fun m hm => ?_⟩
    rcases List.mem_cons.1 hm with rfl | hm
    · exact Nat.le_trans (Nat.le_max_right _ _) hle
    · exact hrest m hm

theorem length_le_depth {g : Graph} : ∀ i ∈ itemsOf g, i.1.length ≤ depth g := by
  intro i hi
  obtain ⟨n, hn, rfl⟩ := List.mem_map.1 hi
  exact (length_le_foldl g.nodes 0).2 n hn

theorem mem_nests_itemsOf {g : Graph} {keys : List ClusterKey} :
    keys ∈ nests (depth g) (itemsOf g) ↔ keys ≠ [] ∧ ∃ n ∈ g.nodes, keys <+: n.clusters := by
  rw [mem_nests length_le_depth]
  simp [itemsOf]

end Drawing

end CallAtlas
