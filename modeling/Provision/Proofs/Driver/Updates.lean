import Provision.Proofs.Driver.Leaves

/-!
# Trees of drivers under updates

A chain may have chains among its drivers, to any depth; it answers every request as a single chain
of its leaves would. Functions and settings may be changed at any node in between. A setting goes
down from the node where it is made, so a node has the setting that was made last on the way to it.

* `Tree.lookupFirst_eq_find?`: the first driver that supports a pair handles it.
* `Tree.responses_of_leaves`: trees with the same leaves respond in the same way to any requests.
* `Tree.badgeAt?_updated`: the badge of a node after a sequence of updates.
* `nested_chains_act_flat`: **a tree of chains acts as the chain of its leaves**, and updates keep
  what is supported and what is offered together.
-/

namespace Provision

namespace Tree

variable {κ : Type} {action entity : String}

/-! ## Requests -/

theorem lookupFirst_eq_find? (ts : List (Tree κ)) : lookupFirst action entity ts =
    (ts.find? (supports action entity)).elim .unsupported (lookup action entity) := by
  induction ts with
  | nil => rfl
  | cons t ts ih =>
    rw [lookupFirst, ih]
    by_cases h : supports action entity t = true
    · rw [if_pos h, List.find?_cons_of_pos h, Option.elim_some]
    · rw [if_neg h, List.find?_cons_of_neg h]

/-- The leaves of a tree have no leaves but themselves. -/
theorem leavesAll_leaves (t : Tree κ) : leavesAll t.leaves = t.leaves := by
  have hself : ∀ leaf ∈ t.leaves, leaf.leaves = [leaf] := by
    intro leaf hleaf
    rcases leaf_cases t hleaf with ⟨b, slots, rfl⟩ | ⟨b, behaviour, state, rfl⟩ <;> rfl
  generalize t.leaves = ts at hself
  induction ts with
  | nil => rfl
  | cons leaf ts ih =>
    obtain ⟨hleaf, hts⟩ := List.forall_mem_cons.1 hself
    rw [leavesAll, hleaf, ih hts]
    rfl

/-- The responses to requests that are made one after the other. -/
def responses : Tree κ → List Request → List Response
  | _, [] => []
  | t, r :: rs => (t.perform r).1 :: responses (t.perform r).2 rs

/-- **Trees with the same leaves respond in the same way to any requests.** -/
theorem responses_of_leaves (requests : List Request) {t t' : Tree κ} (h : t.isCustom = false)
    (h' : t'.isCustom = false) (hleaves : t.leaves = t'.leaves) :
    t.responses requests = t'.responses requests := by
  induction requests generalizing t t' with
  | nil => rfl
  | cons r requests ih =>
    have hlookup : t.lookup r.action r.entity = t'.lookup r.action r.entity := by
      rw [lookup_eq_leaves h, lookup_eq_leaves h', hleaves]
    -- the request is handled by the same leaf, so the leaves are the same afterwards
    have hafter : (t.after r).leaves = (t'.after r).leaves := by
      rw [leaves_after r h, leaves_after r h', hleaves]
    have hrest := ih ((isCustom_after t).trans h) ((isCustom_after t').trans h') hafter
    simp only [responses, perform, hlookup, hrest]

/-! ## Nodes -/

/-- The badge of a node, by the positions on the way to it. -/
def badgeAt? (t : Tree κ) (path : List ℕ) : Option Badge := (t.below? path).map badge

theorem badgeAt?_chain (b : Badge) (children : List (Tree κ)) (i : ℕ) (path : List ℕ) :
    (Tree.chain b children).badgeAt? (i :: path) =
      children[i]?.bind fun child => child.badgeAt? path := by
  unfold badgeAt?
  rw [below?]
  exact Option.map_bind

theorem mapBadgesAll_eq_map (f : Badge → Badge) (ts : List (Tree κ)) :
    mapBadgesAll f ts = ts.map (mapBadges f) := by
  induction ts with
  | nil => rfl
  | cons t ts ih => rw [mapBadgesAll, ih, List.map_cons]

/-- A setting is made at every node. -/
theorem below?_mapBadges (f : Badge → Badge) (path : List ℕ) (t : Tree κ) :
    (t.mapBadges f).below? path = (t.below? path).map (mapBadges f) := by
  induction path generalizing t with
  | nil => rfl
  | cons i path ih =>
    cases t with
    | registry b slots => rfl
    | chain b children =>
      rw [mapBadges, below?, below?, mapBadgesAll_eq_map, List.getElem?_map]
      cases children[i]? with
      | none => rfl
      | some child => exact ih child
    | custom b behaviour state => rfl

theorem badgeAt?_mapBadges (f : Badge → Badge) (path : List ℕ) (t : Tree κ) :
    (t.mapBadges f).badgeAt? path = (t.badgeAt? path).map f := by
  unfold badgeAt?
  rw [below?_mapBadges, Option.map_map, Option.map_map]
  exact congrArg (Option.map · _) (funext (badge_mapBadges f))

/-- What holds of every leaf holds of the leaves below a node. -/
theorem Everywhere.below {P : Tree κ → Prop} {t node : Tree κ} {path : List ℕ} (h : t.Everywhere P)
    (hnode : t.below? path = some node) : node.Everywhere P := by
  induction path generalizing t with
  | nil =>
    cases hnode
    exact h
  | cons i path ih =>
    cases t with
    | registry b slots => cases hnode
    | chain b children =>
      obtain ⟨child, hchild, hbelow⟩ := Option.bind_eq_some_iff.1 hnode
      exact ih (everywhere_chain.1 h child (List.mem_of_getElem? hchild)) hbelow
    | custom b behaviour state => cases hnode

/-! ## Updates -/

/-- An update of a driver. -/
inductive Update where
  | add (action entity : String) (f : Function)
  | setDryRun (enabled : Bool)
  | setLogger (name : String)

/-- The driver after an update. -/
def Update.apply : Update → Tree κ → Tree κ
  | .add action entity f => Tree.add action entity f
  | .setDryRun enabled => Tree.setDryRun enabled
  | .setLogger name => Tree.setLogger name

/-- The badge after an update. -/
def Update.set : Update → Badge → Badge
  | .add _ _ _, b => b
  | .setDryRun enabled, b => { b with dryRun := enabled }
  | .setLogger name, b => { b with logger := name }

/-- The tree after updates of nodes, which are given by the positions on the way to them. -/
def updated (t : Tree κ) (updates : List (List ℕ × Update)) : Tree κ :=
  updates.foldl (fun t u => t.modifyAt u.2.apply u.1) t

/-- An update reaches every node below. -/
theorem badgeAt?_apply (u : Update) (path : List ℕ) (t : Tree κ) :
    (u.apply t).badgeAt? path = (t.badgeAt? path).map u.set := by
  cases u with
  | add action entity f =>
    have hsame : (t.add action entity f).badgeAt? path = t.badgeAt? path := by
      cases t with
      | registry b slots => cases path <;> rfl
      | chain b children => rfl
      | custom b behaviour state => rfl
    exact hsame.trans (congrFun Option.map_id _).symm
  | setDryRun enabled => exact badgeAt?_mapBadges _ path t
  | setLogger name => exact badgeAt?_mapBadges _ path t

/-- **One update** concerns the node where it is made and the nodes below. -/
theorem badgeAt?_modifyAt (u : Update) (place path : List ℕ) (t : Tree κ) :
    (t.modifyAt u.apply place).badgeAt? path =
      (t.badgeAt? path).map fun b => if place <+: path then u.set b else b := by
  induction place generalizing path t with
  | nil =>
    simp only [List.nil_prefix, if_true]
    exact badgeAt?_apply u path t
  | cons i place ih =>
    cases path with
    | nil => cases t <;> simp [badgeAt?, below?, modifyAt, badge]
    | cons j path =>
      cases t with
      | registry b slots => rfl
      | chain b children =>
        rw [modifyAt, badgeAt?_chain, badgeAt?_chain, List.getElem?_modify]
        cases children[j]? with
        | none => rfl
        | some child =>
          by_cases hij : i = j
          · subst hij
            simpa [List.cons_prefix_cons] using ih path child
          · simp [List.cons_prefix_cons, hij]
      | custom b behaviour state => rfl

/-- **The badge of a node after updates**: those at the node or above it count, one after the
other. -/
theorem badgeAt?_updated (updates : List (List ℕ × Update)) (path : List ℕ) (t : Tree κ) :
    (t.updated updates).badgeAt? path = (t.badgeAt? path).map fun b =>
      updates.foldl (fun b u => if u.1 <+: path then u.2.set b else b) b := by
  induction updates generalizing t with
  | nil => exact (congrFun Option.map_id _).symm
  | cons u updates ih =>
    have hrest := ih (t.modifyAt u.2.apply u.1)
    rw [badgeAt?_modifyAt, Option.map_map] at hrest
    exact hrest

/-- A setting made at a node is made at all nodes below. -/
theorem badgeAt?_updated_below (u : Update) (place path : List ℕ) (t : Tree κ) :
    (t.updated [(place, u)]).badgeAt? (place ++ path) =
      (t.badgeAt? (place ++ path)).map u.set := by
  rw [badgeAt?_updated]
  simp only [List.foldl_cons, List.foldl_nil, List.prefix_append, if_true]

/-! ## Tables of functions -/

/-- Every leaf is a registry. -/
def TableDriven (t : Tree κ) : Prop := t.Everywhere fun leaf => leaf.isCustom = false

theorem TableDriven.apply {t : Tree κ} (h : t.TableDriven) (u : Update) :
    (u.apply t).TableDriven := by
  have hset : ∀ f : Badge → Badge, (t.mapBadges f).TableDriven := fun f =>
    everywhere_mapBadges.2 fun leaf hleaf => (isCustom_mapBadges f leaf).trans (h leaf hleaf)
  cases u with
  | add action entity f =>
    cases t with
    | registry b slots =>
      intro leaf hleaf
      rw [List.mem_singleton.1 hleaf]
      rfl
    | chain b children => exact h
    | custom b behaviour state => exact h
  | setDryRun enabled => exact hset _
  | setLogger name => exact hset _

theorem TableDriven.updated {t : Tree κ} (h : t.TableDriven) (updates : List (List ℕ × Update)) :
    (t.updated updates).TableDriven := by
  induction updates generalizing t with
  | nil => exact h
  | cons u updates ih => exact ih (Everywhere.modifyAt (fun _ hv => TableDriven.apply hv u.2) u.1 h)

/-- **A tree of registries offers a function, or a note, for exactly what it supports.** -/
theorem TableDriven.supports_eq_false_iff {t : Tree κ} (h : t.TableDriven) :
    supports action entity t = false ↔ lookup action entity t = .unsupported := by
  have hroot : t.isCustom = false := by
    cases t with
    | registry b slots => rfl
    | chain b children => rfl
    | custom b behaviour state => exact h _ (List.mem_singleton_self _)
  rw [supports_eq_any, lookup_eq_leaves hroot]
  refine ⟨lookupFirst_of_not, fun hnone => ?_⟩
  rw [supportsAny_eq_any, List.any_eq_false]
  rw [lookupFirst_eq_find?] at hnone
  cases hfirst : t.leaves.find? (supports action entity) with
  | none => exact List.find?_eq_none.1 hfirst
  | some leaf =>
    -- a registry that supports a pair has a slot for it
    exfalso
    rw [hfirst, Option.elim_some] at hnone
    have hleaf := List.mem_of_find?_eq_some hfirst
    have hsupports := List.find?_some hfirst
    rcases leaf_cases t hleaf with ⟨b, slots, rfl⟩ | ⟨b, behaviour, state, rfl⟩
    · have hsome := List.find?_isSome.2 (List.any_eq_true.1 hsupports)
      obtain ⟨s, hs⟩ := Option.isSome_iff_exists.1 hsome
      rw [lookup, Badge.offer, hs] at hnone
      cases hdry : b.dryRun <;> simp [hdry] at hnone
    · cases h _ hleaf

/-! ## Nested chains -/

/-- **A tree of chains acts as the chain of its leaves**: it supports what some leaf supports, the
first such leaf handles a request, and without one every request fails. Whatever functions and
settings were changed at whatever nodes, a tree of registries has an offer for exactly what it
supports, and a setting made at a node is that of all nodes below. -/
theorem nested_chains_act_flat (b : Badge) (children : List (Tree κ)) :
    let root := Tree.chain b children
    (∀ action entity,
      root.supports action entity = root.leaves.any (supports action entity) ∧
      root.lookup action entity =
        (root.leaves.find? (supports action entity)).elim .unsupported (lookup action entity) ∧
      (root.supports action entity = false → ∀ params,
        (root.perform ⟨action, entity, params⟩).1 =
          { reply := .fault (.unsupported action entity) })) ∧
    (∀ b', let flat := Tree.chain b' root.leaves
      (∀ action entity, flat.supports action entity = root.supports action entity ∧
        flat.lookup action entity = root.lookup action entity) ∧
      ∀ requests, flat.responses requests = root.responses requests) ∧
    ∀ updates, let tree := root.updated updates
      (root.TableDriven → ∀ path node, tree.below? path = some node → ∀ action entity,
        (node.supports action entity = false ↔ node.lookup action entity = .unsupported)) ∧
      (∀ place path enabled,
        ((tree.updated [(place, .setDryRun enabled)]).badgeAt? (place ++ path)).map Badge.dryRun =
          (tree.badgeAt? (place ++ path)).map fun _ => enabled) ∧
      ∀ place path name,
        ((tree.updated [(place, .setLogger name)]).badgeAt? (place ++ path)).map Badge.logger =
          (tree.badgeAt? (place ++ path)).map fun _ => name := by
  intro root
  have hsupports : ∀ action entity, supportsAny action entity root.leaves =
      root.supports action entity := fun _ _ => (supports_eq_any root).symm
  have hlookup : ∀ action entity, lookupFirst action entity root.leaves =
      root.lookup action entity := fun _ _ => (lookup_eq_leaves rfl).symm
  refine ⟨?_, ?_, ?_⟩
  · intro action entity
    refine ⟨?_, ?_, fun hnone params => ?_⟩
    · rw [← hsupports, supportsAny_eq_any]
    · rw [← hlookup, lookupFirst_eq_find?]
    · have hoffer : root.lookup action entity = .unsupported := lookupFirst_of_not hnone
      rw [perform, hoffer]
      rfl
  · -- the drivers of the flat chain are its leaves already
    intro b' flat
    have hflat : flat.leaves = root.leaves := leavesAll_leaves root
    exact ⟨fun action entity => ⟨hsupports action entity, hlookup action entity⟩,
      fun requests => responses_of_leaves requests rfl rfl hflat⟩
  · intro updates tree
    refine ⟨fun htables path node hnode action entity => ?_, fun place path enabled => ?_,
      fun place path name => ?_⟩
    · have hnodes : node.TableDriven := Everywhere.below (htables.updated updates) hnode
      exact hnodes.supports_eq_false_iff
    · rw [badgeAt?_updated_below, Option.map_map]
      rfl
    · rw [badgeAt?_updated_below, Option.map_map]
      rfl

/-- A chain of two registries, and a registry beside it. -/
def regions : List (Tree Unit) :=
  [.chain (Badge.new "north")
    [.registry (Badge.new "networks")
      [{ action := "create", entity := "network", function := fun _ _ => .value (.int 1) }],
     .registry (Badge.new "servers")
      [{ action := "create", entity := "server", function := fun _ _ => .value (.int 2) }]],
   .registry (Badge.new "south")
    [{ action := "create", entity := "server", function := fun _ _ => .value (.int 3) }]]

theorem nested_chains_act_flat_regions :
    let root := Tree.chain (Badge.new "world") regions
    let tree := root.updated [([0, 1], .add "create" "disk" fun _ _ => .value .null)]
    root.TableDriven ∧ root.supports "create" "disk" = false ∧
    tree.supports "create" "disk" = true ∧ tree.lookup "create" "disk" ≠ .unsupported ∧
    ((tree.updated [([0], .setDryRun true)]).badgeAt? [0, 1]).map Badge.dryRun = some true := by
  intro root tree
  have htables : ∀ leaf ∈ root.leaves, leaf.isCustom = false := by decide
  have hsupports : tree.supports "create" "disk" = true := by decide
  obtain ⟨-, -, hupdates⟩ := nested_chains_act_flat (Badge.new "world") regions
  obtain ⟨hoffer, hdry, -⟩ :=
    hupdates [([0, 1], .add "create" "disk" fun _ _ => .value .null)]
  refine ⟨htables, by decide, hsupports, fun hnone => ?_, hdry [0] [1] true⟩
  have hnot := (hoffer htables [] tree rfl "create" "disk").2 hnone
  rw [hsupports] at hnot
  cases hnot

end Tree

end Provision
