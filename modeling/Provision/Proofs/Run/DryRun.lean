import Mathlib.Data.List.Forall2
import Provision.Proofs.Driver.Updates
import Provision.Proofs.Run.Invariant
import Provision.Proofs.Run.Resolution
import Provision.Proofs.Value.Shown

/-!
# Dry runs

In dry run a registry answers every pair it supports with nothing and runs no function, so the
names that earlier statements declare are bound to nothing, and what fails can fail for reasons
that the template and the tree give: a pair that is not supported, an open hole or alias, or a
reference to a statement that failed. All of these are there in the real run as well.

There are two reasons more. A registry notes a request in its log, and a request with an integer of
too many digits, or nested too deep, cannot be noted. And a custom driver does in dry run what it
likes: it is **steady** if it keeps its state, and fails in dry run only with what it would fail
otherwise, too, whatever parameters it is given.

* `Tree.idles_of_dry`, `Tree.safe_idling`: in dry run registries stay as they are.
* `Tree.custom_of_ran`: what is run in dry run is run by a custom driver.
* `Tree.foretells_lookupFirst`: what fails against a tree in dry run fails against the real one.
* `noted_of_tables`: with nothing but registries, a template that can be shown can be noted.
* `dry_run_predicts_failures`: **a dry run performs nothing and predicts only real failures**, as
  far as custom drivers are steady and requests can be noted. Otherwise it may fail alone
  (`dry_run_can_fail_alone`).
-/

namespace Provision

open Run

/-! ## Outcomes -/

/-- The outcome a statement gets from a reply. -/
def Reply.outcome : Reply → Outcome
  | .value v => { result := v }
  | .fault f => { error := f.summary }
  | .exit _ => {}

/-- If the first outcome is an error, or binds a failed mark, then so does the second one. -/
structure Outcome.Foretells (o o' : Outcome) : Prop where
  error : o.error ≠ "" → o'.error ≠ ""
  mark : (∃ error, boundValue o = .failed error) → ∃ error, boundValue o' = .failed error

namespace Outcome

variable {o o' : Outcome}

theorem foretells_of_error (h : o'.error ≠ "") : o.Foretells o' :=
  ⟨fun _ => h, fun _ => ⟨o'.error, boundValue_of_error h⟩⟩

/-- A statement that got nothing foretells nothing. -/
theorem foretells_of_null : (Reply.value .null).outcome.Foretells o' := by
  refine ⟨fun h => absurd rfl h, ?_⟩
  rintro ⟨error, h⟩
  cases h

end Outcome

theorem append_ne_empty {a : String} (h : a ≠ "") (b : String) : a ++ b ≠ "" :=
  fun hab => h (String.append_eq_empty_iff.1 hab).1

theorem unsupported_fails (r : Request) :
    (Offer.unsupported.respond r).reply.outcome.error ≠ "" := by
  have hmessage : (Fault.unsupported r.action r.entity).message ≠ "" :=
    append_ne_empty (append_ne_empty (append_ne_empty (by decide) _) _) _
  unfold Offer.respond Reply.outcome Fault.summary
  simp only [if_neg hmessage]
  exact hmessage

theorem Obstacle.message_ne_empty (o : Obstacle) : o.message ≠ "" := by
  cases o with
  | failedReference name error =>
    exact append_ne_empty (append_ne_empty (append_ne_empty (by decide) _) _) _
  | openHoles names => exact append_ne_empty (by decide) _
  | openAliases names => exact append_ne_empty (by decide) _

/-! ## Trees in dry run -/

/-- What a custom driver does in dry run tells what it does otherwise: it keeps its state, supports
the same pairs, and a request that fails in dry run fails otherwise, too, whatever parameters it is
made with. -/
structure Custom.Steady {κ : Type} (behaviour : Custom κ) (dry real : Badge) (state : κ) :
    Prop where
  dryState : ∀ r, (behaviour.perform dry state r).2 = state
  realState : ∀ r, (behaviour.perform real state r).2 = state
  supports : ∀ action entity,
    behaviour.supports real state action entity = behaviour.supports dry state action entity
  foretells : ∀ action entity params params', behaviour.supports dry state action entity = true →
    (behaviour.perform dry state ⟨action, entity, params⟩).1.reply.outcome.Foretells
      (behaviour.perform real state ⟨action, entity, params'⟩).1.reply.outcome

/-- The pair that a slot is for. -/
def Slot.pair (s : Slot) : String × String := (s.action, s.entity)

namespace Tree

variable {κ : Type} {action entity : String} {r : Request} {t : Tree κ}

/-- Every leaf is in dry run. -/
def Dry (t : Tree κ) : Prop := t.Everywhere fun leaf => leaf.badge.dryRun = true

/-- A custom driver is steady when dry run is switched off. -/
def IsSteady : Tree κ → Prop
  | .custom b behaviour state => behaviour.Steady b { b with dryRun := false } state
  | _ => True

/-- Every custom driver of the tree is steady. -/
def Steady (t : Tree κ) : Prop := t.Everywhere IsSteady

/-- What can become of a leaf in dry run: a registry stays as it is, with the calls it has counted,
and a custom driver may get into another state. -/
inductive Idles : Tree κ → Tree κ → Prop
  | registry {b : Badge} (slots : List Slot) (hdry : b.dryRun = true) :
      Idles (.registry b slots) (.registry b slots)
  | custom (b : Badge) (behaviour : Custom κ) (state state' : κ) :
      Idles (.custom b behaviour state) (.custom b behaviour state')

/-- A leaf in dry run and the same leaf out of it: a registry with functions for the same pairs, or
a steady custom driver. -/
inductive Rehearses : Tree κ → Tree κ → Prop
  | registry {b b' : Badge} {slots slots' : List Slot} (hdry : b.dryRun = true)
      (hpairs : slots.map Slot.pair = slots'.map Slot.pair) :
      Rehearses (.registry b slots) (.registry b' slots')
  | custom {b b' : Badge} {behaviour : Custom κ} {state : κ} (h : behaviour.Steady b b' state) :
      Rehearses (.custom b behaviour state) (.custom b' behaviour state)

/-- What every driver of a list keeps, the list keeps when one of them is asked. -/
theorem forall₂_afterFirst {related : Tree κ → Tree κ → Prop} {ts us : List (Tree κ)}
    (h : List.Forall₂ related ts us) (hrelated : ∀ t u, related t u → related t (u.after r)) :
    List.Forall₂ related ts (afterFirst r us) := by
  induction h with
  | nil => exact .nil
  | cons hfirst hrest ih =>
    rw [afterFirst]
    split
    · exact .cons (hrelated _ _ hfirst) hrest
    · exact .cons hfirst ih

/-! ### Leaves that idle -/

theorem Idles.after {leaf leaf' : Tree κ} (h : leaf.Idles leaf') : leaf.Idles (leaf'.after r) := by
  cases h with
  | registry slots hdry =>
    rw [Tree.after, if_pos hdry]
    exact .registry slots hdry
  | custom b behaviour state state' => exact .custom b behaviour state _

theorem idles_of_dry (h : t.Dry) : List.Forall₂ Idles t.leaves t.leaves := by
  refine List.forall₂_same.2 fun leaf hleaf => ?_
  rcases leaf_cases t hleaf with ⟨b, slots, rfl⟩ | ⟨b, behaviour, state, rfl⟩
  · exact .registry slots (h _ hleaf)
  · exact .custom b behaviour state state

/-- A registry in dry run has a note for a pair, or nothing. -/
theorem offer_of_dry {b : Badge} (hdry : b.dryRun = true) (slots : List Slot) :
    b.offer slots action entity = if slots.any (·.isFor action entity) then .dryRun b.logger
      else .unsupported := by
  unfold Badge.offer
  cases hfind : slots.find? (·.isFor action entity) with
  | none =>
    have hnone : slots.any (·.isFor action entity) = false :=
      List.any_eq_false.2 (List.find?_eq_none.1 hfind)
    rw [hnone]
    rfl
  | some s =>
    have hfor := List.find?_some hfind
    have hsome : slots.any (·.isFor action entity) = true :=
      List.any_eq_true.2 ⟨s, List.mem_of_find?_eq_some hfind, hfor⟩
    rw [if_pos hsome]
    exact if_pos hdry

/-- A registry in dry run calls no function. -/
theorem ran_offer {b : Badge} (hdry : b.dryRun = true) (slots : List Slot) :
    ((b.offer slots action entity).respond r).ran = false := by
  rw [offer_of_dry hdry]
  split
  · rw [Offer.respond]
    cases dryRunNote b.logger r <;> rfl
  · rfl

/-- **What is run in dry run is run by a custom driver.** -/
theorem custom_of_ran {ts us : List (Tree κ)} (h : List.Forall₂ Idles ts us)
    (hran : ((lookupFirst action entity us).respond r).ran = true) :
    ∃ b behaviour state state', .custom b behaviour state ∈ ts ∧
      behaviour.supports b state' action entity = true := by
  induction h with
  | nil => cases hran
  | cons hfirst _ ih =>
    rw [lookupFirst] at hran
    split at hran
    · rename_i hsupports
      cases hfirst with
      | registry slots hdry =>
        rw [lookup, ran_offer hdry] at hran
        cases hran
      | custom b behaviour state state' =>
        exact ⟨b, behaviour, state, state', List.mem_cons_self, hsupports⟩
    · obtain ⟨b, behaviour, state, state', hmem, hsupports⟩ := ih hran
      exact ⟨b, behaviour, state, state', List.mem_cons_of_mem _ hmem, hsupports⟩

/-! ### Leaves that rehearse -/

theorem map_pair_countCall (slots : List Slot) :
    (countCall action entity slots).map Slot.pair = slots.map Slot.pair := by
  unfold countCall
  rw [List.map_map]
  refine List.map_congr_left fun s _ => ?_
  simp only [Function.comp_apply]
  split <;> rfl

theorem Rehearses.after {leaf leaf' : Tree κ} (h : leaf.Rehearses leaf') :
    leaf.Rehearses (leaf'.after r) := by
  cases h with
  | registry hdry hpairs =>
    rw [Tree.after]
    refine .registry hdry ?_
    split
    · exact hpairs
    · rw [map_pair_countCall, hpairs]
  | custom hsteady =>
    rw [Tree.after, hsteady.realState]
    exact .custom hsteady

theorem rehearses_of_dry (h : t.Dry) (hsteady : t.Steady) :
    List.Forall₂ Rehearses t.leaves (t.setDryRun false).leaves := by
  unfold Tree.setDryRun
  rw [leaves_mapBadges]
  refine List.forall₂_map_right_iff.2 (List.forall₂_same.2 fun leaf hleaf => ?_)
  rcases leaf_cases t hleaf with ⟨b, slots, rfl⟩ | ⟨b, behaviour, state, rfl⟩
  · exact .registry (h _ hleaf) rfl
  · exact .custom (hsteady _ hleaf)

/-- A request to leaves in dry run that are steady changes nothing. -/
theorem afterFirst_of_rehearses {ts us : List (Tree κ)} (h : List.Forall₂ Rehearses ts us) :
    afterFirst r ts = ts := by
  induction h with
  | nil => rfl
  | cons hfirst _ ih =>
    rw [afterFirst, ih]
    cases hfirst with
    | registry hdry _ => rw [Tree.after, if_pos hdry, ite_self]
    | custom hsteady => rw [Tree.after, hsteady.dryState, ite_self]

theorem any_isFor (slots : List Slot) : slots.any (·.isFor action entity) =
    (slots.map Slot.pair).any fun p => p.1 = action && p.2 = entity := by
  rw [List.any_map]
  rfl

theorem Rehearses.supports {leaf leaf' : Tree κ} (h : leaf.Rehearses leaf') :
    leaf'.supports action entity = leaf.supports action entity := by
  cases h with
  | registry hdry hpairs => rw [Tree.supports, Tree.supports, any_isFor, any_isFor, hpairs]
  | custom hsteady => exact hsteady.supports action entity

/-- **What fails in dry run fails in any case**, if the request can be noted. -/
theorem foretells_lookupFirst {ts us : List (Tree κ)} (h : List.Forall₂ Rehearses ts us)
    (action entity : String) {params : Table Value}
    (hnoted : ∃ text, Value.showParams params = .ok text) (params' : Table Value) :
    ((lookupFirst action entity ts).respond ⟨action, entity, params⟩).reply.outcome.Foretells
      ((lookupFirst action entity us).respond ⟨action, entity, params'⟩).reply.outcome := by
  induction h with
  | nil => exact Outcome.foretells_of_error (unsupported_fails _)
  | cons hfirst _ ih =>
    rw [lookupFirst, lookupFirst, hfirst.supports]
    split
    · rename_i hsupports
      cases hfirst with
      | @registry b b' slots slots' hdry _ =>
        -- the registry has a function for the pair, so it notes the request and gives nothing
        rw [supports] at hsupports
        rw [lookup, offer_of_dry hdry, if_pos hsupports]
        rcases reply_dryRun b.logger ⟨action, entity, params⟩ with hreply | ⟨f, hfault, -⟩
        · rw [hreply]
          exact Outcome.foretells_of_null
        · obtain ⟨text, htext⟩ := hnoted
          rw [htext] at hfault
          cases hfault
      | custom hsteady => exact hsteady.foretells action entity params params' hsupports
    · exact ih

/-! ## Changes after dry run was switched on -/

/-- A change of a driver somewhere in a tree, by the positions on the way to it. -/
inductive Change where
  | add (path : List ℕ) (action entity : String) (f : Function)
  | setLogger (path : List ℕ) (name : String)

/-- The tree after a change. -/
def Change.apply (t : Tree κ) : Change → Tree κ
  | .add path action entity f => t.modifyAt (Tree.add action entity f) path
  | .setLogger path name => t.modifyAt (Tree.setLogger name) path

/-- The tree with dry run switched on, and then changed. -/
def rehearsal (root : Tree κ) (changes : List Change) : Tree κ :=
  changes.foldl Change.apply (root.setDryRun true)

theorem Dry.add (h : t.Dry) (f : Function) : (t.add action entity f).Dry := by
  cases t with
  | registry b slots =>
    have hdry : b.dryRun = true := h _ (List.mem_singleton_self _)
    intro leaf hleaf
    rw [List.mem_singleton.1 hleaf]
    exact hdry
  | chain b children => exact h
  | custom b behaviour state => exact h

theorem Dry.setLogger (h : t.Dry) (name : String) : (t.setLogger name).Dry := by
  unfold Tree.setLogger Dry
  rw [everywhere_mapBadges]
  intro leaf hleaf
  rw [badge_mapBadges]
  exact h leaf hleaf

theorem Dry.change (h : t.Dry) (c : Change) : (c.apply t).Dry := by
  cases c with
  | add path action entity f => exact Everywhere.modifyAt (fun u hu => Dry.add hu f) path h
  | setLogger path name => exact Everywhere.modifyAt (fun u hu => Dry.setLogger hu name) path h

theorem isCustom_modifyAt {f : Tree κ → Tree κ} (hf : ∀ u : Tree κ, (f u).isCustom = u.isCustom)
    (path : List ℕ) (t : Tree κ) : (t.modifyAt f path).isCustom = t.isCustom := by
  cases path with
  | nil => exact hf t
  | cons i path => cases t <;> rfl

theorem isCustom_change (c : Change) (t : Tree κ) : (c.apply t).isCustom = t.isCustom := by
  cases c with
  | add path action entity f => exact isCustom_modifyAt (fun u => by cases u <;> rfl) path t
  | setLogger path name => exact isCustom_modifyAt (isCustom_mapBadges _) path t

/-- **Dry run stays on everywhere**, whatever is changed later. -/
theorem rehearsal_dry (root : Tree κ) (changes : List Change) : (root.rehearsal changes).Dry := by
  unfold rehearsal
  have hstart : (root.setDryRun true).Dry := by
    unfold Tree.setDryRun Dry
    rw [everywhere_mapBadges]
    intro leaf _
    rw [badge_mapBadges]
  generalize root.setDryRun true = t at hstart
  induction changes generalizing t with
  | nil => exact hstart
  | cons c changes ih => exact ih _ (hstart.change c)

theorem rehearsal_isCustom (root : Tree κ) (changes : List Change) :
    (root.rehearsal changes).isCustom = root.isCustom := by
  unfold rehearsal
  rw [← isCustom_mapBadges (fun b => { b with dryRun := true }) root]
  change (changes.foldl Change.apply (root.setDryRun true)).isCustom =
    (root.setDryRun true).isCustom
  generalize root.setDryRun true = t
  induction changes generalizing t with
  | nil => rfl
  | cons c changes ih => exact (ih _).trans (isCustom_change c t)

end Tree

/-! ## Two runs side by side -/

/-- Every name with a failed mark in the first scope has one in the second. -/
def Scope.Foretells (scope scope' : Scope) : Prop :=
  ∀ name error, scope.get? name = some (.failed error) →
    ∃ error', scope'.get? name = some (.failed error')

theorem Scope.Foretells.after {scope scope' : Scope} (h : scope.Foretells scope') (s : Statement)
    {v v' : Value} (hv : (∃ error, v = .failed error) → ∃ error, v' = .failed error) :
    (scope.after s v).Foretells (scope'.after s v') := by
  unfold Scope.after
  cases s.declaredName? with
  | none => exact h
  | some declared =>
    intro name error hname
    unfold Scope.bind at hname ⊢
    rw [Table.get?_set] at hname ⊢
    split at hname
    · rename_i hd
      obtain ⟨error', rfl⟩ := hv ⟨error, Option.some.inj hname⟩
      exact ⟨error', by rw [if_pos hd]⟩
    · rename_i hd
      rw [if_neg hd]
      exact h name error hname

/-- A statement that is ready where more has failed is ready where less has. -/
theorem Scope.Foretells.ready {scope scope' : Scope} (h : scope.Foretells scope') {e : Expression}
    {params' : Table Value} (hready : e.readiness scope' = .ready params')
    (hdeclared : e.undeclared? scope = none) : ∃ params, e.readiness scope = .ready params := by
  obtain ⟨-, hfailed, hholes, haliases, -⟩ := readiness_ready hready
  have hnone : e.failedReference? scope = none := by
    unfold Expression.failedReference? at hfailed ⊢
    rw [List.findSome?_eq_none_iff] at hfailed ⊢
    intro name hname
    split
    · rename_i error herror
      obtain ⟨error', herror'⟩ := h name error herror
      have := hfailed name hname
      rw [herror'] at this
      cases this
    · rfl
  refine ⟨e.effectiveParams scope, ?_⟩
  unfold Expression.readiness
  simp only [hdeclared, hnone, hholes, haliases, List.isEmpty_nil]
  rfl

namespace Run

variable {σ : Type} {driver driver' : Driver σ} {scope scope' : Scope} {state state' : σ}
  {s : Statement} {o o' : Outcome} {made made' : List Exchange} {after after' : σ}

/-- A statement is blocked, or its outcome is what the driver answers. -/
theorem Handled.cases (h : Handled driver scope state s o made after) :
    (∃ obstacle, s.expression.readiness scope = .blocked obstacle ∧ made = [] ∧
      o = { error := obstacle.message }) ∨
    ∃ params response, s.expression.readiness scope = .ready params ∧
      made = [⟨s.request params, response⟩] ∧
      o = (driver.perform state (s.request params)).1.reply.outcome := by
  cases h with
  | blocked obstacle hb => exact Or.inl ⟨obstacle, hb, rfl, rfl⟩
  | raised params response f after hr hperf hreply =>
    exact Or.inr ⟨params, response, hr, rfl, by rw [hperf, hreply]; rfl⟩
  | returned params response v after hr hperf hreply =>
    exact Or.inr ⟨params, response, hr, rfl, by rw [hperf, hreply]; rfl⟩

/-- **One statement in two runs**: what goes wrong in the first goes wrong in the second. -/
theorem Handled.foretells (h : Handled driver scope state s o made after)
    (h' : Handled driver' scope' state' s o' made' after') (hscope : scope.Foretells scope')
    (hreply : ∀ params params' response, ⟨s.request params, response⟩ ∈ made →
      (driver.perform state (s.request params)).1.reply.outcome.Foretells
        (driver'.perform state' (s.request params')).1.reply.outcome) : o.Foretells o' := by
  rcases h'.cases with ⟨obstacle, -, -, rfl⟩ | ⟨params', -, hready', -, rfl⟩
  · exact Outcome.foretells_of_error obstacle.message_ne_empty
  · -- what is not blocked in the second run is not blocked in the first
    obtain ⟨params, hready⟩ := hscope.ready hready' h.undeclared?_eq_none
    rcases h.cases with ⟨obstacle, hblocked, -, -⟩ | ⟨params, response, -, hmade, rfl⟩
    · rw [hready] at hblocked
      cases hblocked
    · refine hreply params params' response ?_
      rw [hmade]
      exact List.mem_cons_self

end Run

/-! ## The dry run and the real run -/

/-- The parameters of a request can be noted. -/
def Run.Exchange.Noted (x : Exchange) : Prop := ∃ text, Value.showParams x.request.params = .ok text

namespace Tree

variable {κ : Type} {dry real tree : Tree κ}

/-- What can become of a tree in a dry run. -/
structure Idling (dry tree : Tree κ) : Prop where
  root : tree.isCustom = false
  leaves : List.Forall₂ Idles dry.leaves tree.leaves
  returns : tree.Returns

theorem safe_idling (dry : Tree κ) : (Tree.driver (κ := κ)).Safe dry.Idling where
  next {tree} request h := by
    refine ⟨(isCustom_after tree).trans h.root, ?_, h.returns.after⟩
    show List.Forall₂ Idles dry.leaves (tree.after request).leaves
    rw [leaves_after request h.root]
    exact forall₂_afterFirst h.leaves fun _ _ => Idles.after
  returns request message h := h.returns.reply_ne_exit request message

/-- A tree in dry run, not a custom driver itself, whose functions return and whose custom drivers
are steady. -/
structure Rehearsal (dry : Tree κ) : Prop where
  root : dry.isCustom = false
  quiet : dry.Dry
  returns : dry.Returns
  steady : dry.Steady

/-- What can become of such a tree in a dry run: nothing at all. -/
structure Resting (dry tree : Tree κ) : Prop where
  root : tree.isCustom = false
  leaves : tree.leaves = dry.leaves
  returns : tree.Returns

/-- What can become of it in the real run. -/
structure InEarnest (dry tree : Tree κ) : Prop where
  root : tree.isCustom = false
  leaves : List.Forall₂ Rehearses dry.leaves tree.leaves
  returns : tree.Returns

theorem Rehearsal.resting (h : dry.Rehearsal) : dry.Resting dry := ⟨h.root, rfl, h.returns⟩

theorem Rehearsal.inEarnest (h : dry.Rehearsal) : dry.InEarnest (dry.setDryRun false) where
  root := (isCustom_mapBadges _ dry).trans h.root
  leaves := rehearses_of_dry h.quiet h.steady
  returns := returns_mapBadges.2 h.returns

theorem Rehearsal.safe_resting (h : dry.Rehearsal) :
    (Tree.driver (κ := κ)).Safe dry.Resting where
  next {tree} request htree := by
    refine ⟨(isCustom_after tree).trans htree.root, ?_, htree.returns.after⟩
    show (tree.after request).leaves = dry.leaves
    rw [leaves_after request htree.root, htree.leaves]
    exact afterFirst_of_rehearses (rehearses_of_dry h.quiet h.steady)
  returns request message htree := htree.returns.reply_ne_exit request message

theorem safe_inEarnest (dry : Tree κ) : (Tree.driver (κ := κ)).Safe dry.InEarnest where
  next {tree} request h := by
    refine ⟨(isCustom_after tree).trans h.root, ?_, h.returns.after⟩
    show List.Forall₂ Rehearses dry.leaves (tree.after request).leaves
    rw [leaves_after request h.root]
    exact forall₂_afterFirst h.leaves fun _ _ => Rehearses.after
  returns request message h := h.returns.reply_ne_exit request message

/-- **What fails in the rehearsal fails in earnest**, for one request. -/
theorem InEarnest.foretells (h : dry.InEarnest real) (htree : dry.Resting tree) (s : Statement)
    {params params' : Table Value} (hnoted : ∃ text, Value.showParams params = .ok text) :
    (Tree.driver.perform tree (s.request params)).1.reply.outcome.Foretells
      (Tree.driver.perform real (s.request params')).1.reply.outcome := by
  have hforetells := foretells_lookupFirst h.leaves s.expression.action s.expression.entity hnoted
    params'
  rw [← htree.leaves, ← lookup_eq_leaves htree.root, ← lookup_eq_leaves h.root] at hforetells
  exact hforetells

end Tree

section Runs

variable {κ : Type} {t : Template} {dry real : Tree κ}

/-- **A statement that fails in the dry run fails in the real run**, if that has been so far. -/
theorem settles_foretells (hd : dry.Rehearsal) (h : dry.InEarnest real) {n : ℕ}
    (hn : n ≤ t.statements.length)
    (hdry : (t.trace Tree.driver dry n).2 = none) (hreal : (t.trace Tree.driver real n).2 = none)
    (hscope : (t.progressAt Tree.driver dry n).scope.Foretells
      (t.progressAt Tree.driver real n).scope)
    {s : Statement} {o o' : Outcome} {made made' : List Exchange} {p p' : Progress (Tree κ)}
    (hs : Settles Tree.driver (t.progressAt Tree.driver dry n) s o made p)
    (hs' : Settles Tree.driver (t.progressAt Tree.driver real n) s o' made' p')
    (hnoted : ∀ x ∈ made, x.Noted) : o.Foretells o' := by
  have hstate := (hd.safe_resting.progressAt hd.resting hn hdry).1
  have hstate' := ((Tree.safe_inEarnest dry).progressAt h hn hreal).1
  exact hs.handled.foretells hs'.handled hscope fun params params' response hmade =>
    hstate'.foretells hstate s (hnoted _ hmade)

/-- **What has failed in the dry run so far has failed in the real run.** -/
theorem scope_foretells (hd : dry.Rehearsal) (h : dry.InEarnest real) {n : ℕ}
    (hn : n ≤ t.statements.length) (hdry : (t.trace Tree.driver dry n).2 = none)
    (hreal : (t.trace Tree.driver real n).2 = none)
    (hnoted : ∀ x ∈ (t.progressAt Tree.driver dry n).exchanges, x.Noted) :
    (t.progressAt Tree.driver dry n).scope.Foretells
      (t.progressAt Tree.driver real n).scope := by
  induction n with
  | zero =>
    unfold Template.progressAt
    rw [trace_zero]
    intro name error hname
    cases hname
  | succ n ih =>
    have hs := List.getElem?_eq_getElem (show n < t.statements.length by omega)
    have hdry' := trace_none_of_le (Nat.le_succ n) hdry
    have hreal' := trace_none_of_le (Nat.le_succ n) hreal
    obtain ⟨o, made, hsettles⟩ := trace_settles hs hdry
    obtain ⟨o', made', hsettles'⟩ := trace_settles hs hreal
    rw [hsettles.exchanges] at hnoted
    obtain ⟨hearlier, hmade⟩ := List.forall_mem_append.1 hnoted
    have hscope := ih (by omega) hdry' hreal' hearlier
    have ho := settles_foretells hd h (by omega) hdry' hreal' hscope hsettles hsettles' hmade
    rw [hsettles.scope, hsettles'.scope]
    exact hscope.after _ ho.mark

/-- Every statement that fails in the first report fails in the second. -/
def Report.Foretells (r r' : Report) : Prop :=
  ∀ (k : ℕ) (a b : Statement), r.statements[k]? = some a → r'.statements[k]? = some b →
    a.outcome.error ≠ "" → b.outcome.error ≠ ""

/-- **Every statement that fails in the dry run fails in the real run**, in their reports. -/
theorem Reports.foretells (hd : dry.Rehearsal) (h : dry.InEarnest real) {r r' : Report} {n n' : ℕ}
    (hr : Reports Tree.driver dry t r n) (hr' : Reports Tree.driver real t r' n')
    (hnoted : ∀ x ∈ (t.progressAt Tree.driver dry t.statements.length).exchanges, x.Noted) :
    r.Foretells r' := by
  intro k a b ha hb herror
  obtain ⟨rfl, hlen⟩ := hr.same_length hr'
  have hk := hr.le_of_lt_length (List.getElem?_eq_some_iff.1 ha).1
  rcases Nat.lt_or_eq_of_le hk with hlt | rfl
  · obtain ⟨s, hs⟩ := hr.exists_statement hlt
    obtain ⟨o, made, ho, hsettles⟩ := hr.settles hlt hs
    obtain ⟨o', made', ho', hsettles'⟩ := hr'.settles hlt hs
    obtain rfl : s.settled o = a := Option.some.inj (ho.symm.trans ha)
    obtain rfl : s.settled o' = b := Option.some.inj (ho'.symm.trans hb)
    have hdry := trace_none_of_le (Nat.le_of_lt hlt) hr.trace
    have hreal := trace_none_of_le (Nat.le_of_lt hlt) hr'.trace
    have hle : k ≤ t.statements.length := Nat.le_trans (Nat.le_of_lt hlt) hr.le
    -- what was asked up to this statement was asked in the whole run
    have hgrow := exchanges_grow (Nat.succ_le_of_lt hlt) hr.le hr.trace
    rw [← hr.exchanges, hsettles.exchanges] at hgrow
    obtain ⟨hearlier, hmade⟩ :=
      List.forall_mem_append.1 fun x hx => hnoted x (hgrow.subset hx)
    have hscope := scope_foretells hd h hle hdry hreal hearlier
    exact (settles_foretells hd h hle hdry hreal hscope hsettles hsettles' hmade).error herror
  · -- the statement that aborts the run fails in both
    obtain ⟨s, name, -, hlast⟩ := hr'.aborting (List.getElem?_eq_some_iff.1 hb).1
    obtain rfl : s.aborting name = b := Option.some.inj (hlast.symm.trans hb)
    exact undeclaredMessage_ne_empty name

/-! ## Trees of registries -/

/-- Every name is bound to nothing, or to a failed mark. -/
def Scope.Blank (scope : Scope) : Prop :=
  ∀ name v, scope.get? name = some v → v = .null ∨ ∃ error, v = .failed error

theorem Scope.Blank.after {scope : Scope} (h : scope.Blank) (s : Statement) {v : Value}
    (hv : v = .null ∨ ∃ error, v = .failed error) : (scope.after s v).Blank := by
  unfold Scope.after
  cases s.declaredName? with
  | none => exact h
  | some declared =>
    intro name w hname
    unfold Scope.bind at hname
    rw [Table.get?_set] at hname
    split at hname
    · cases hname
      exact hv
    · exact h name w hname

/-- What a statement gets to see in such a scope is nothing, since it is blocked by failed marks. -/
theorem Scope.Blank.params {scope : Scope} (h : scope.Blank) {e : Expression}
    {params : Table Value} (hready : e.readiness scope = .ready params) :
    ∀ p ∈ params, p ∈ e.params ∨ p.2 = .null := by
  obtain ⟨-, hfailed, -, -, rfl⟩ := readiness_ready hready
  intro p hp
  rw [effectiveParams_eq_update] at hp
  refine (Table.mem_of_mem_update hp).imp_right fun href => ?_
  obtain ⟨ref, hmem, rfl⟩ := List.mem_map.1 href
  show (scope.get? ref.2).getD .null = .null
  cases hget : scope.get? ref.2 with
  | none => rfl
  | some v =>
    rcases h ref.2 v hget with rfl | ⟨error, rfl⟩
    · rfl
    · have hnone := List.findSome?_eq_none_iff.1 hfailed ref.2 (List.mem_map_of_mem hmem)
      rw [hget] at hnone
      cases hnone

/-- The literal values of an expression can be written and shown. -/
def Expression.Shown (e : Expression) : Prop :=
  Value.Denotable (.table e.params) ∧ (Value.table e.params).depth ≤ Value.depthLimit

/-- A request of a statement in such a scope can be noted. -/
theorem Scope.Blank.noted {scope : Scope} (h : scope.Blank) {e : Expression} (he : e.Shown)
    {params : Table Value} (hready : e.readiness scope = .ready params) :
    ∃ text, Value.showParams params = .ok text := by
  have hparams := h.params hready
  have hdistinct : Table.Distinct params := by
    obtain ⟨-, -, -, -, rfl⟩ := readiness_ready hready
    rw [effectiveParams_eq_update]
    exact (Value.denotable_table.1 he.1).1.update _
  have hdenotable : Value.Denotable (.table params) := by
    refine Value.denotable_table.2 ⟨hdistinct, fun p hp => ?_⟩
    rcases hparams p hp with hmem | hnull
    · exact (Value.denotable_table.1 he.1).2 p hmem
    · rw [hnull]
      exact Value.denotable_leaf trivial trivial trivial trivial
  have hdepth : (Value.table params).depth ≤ Value.depthLimit := by
    have hentries : ∀ p ∈ params, p.2.depth ≤ Value.depthLimit - 1 := by
      intro p hp
      rcases hparams p hp with hmem | hnull
      · have hlt := Value.depth_entry hmem
        have hlimit := he.2
        omega
      · rw [hnull]
        exact Nat.zero_le _
    have hle := Value.depthEntries_le hentries
    rw [Value.depth]
    have hpositive : 0 < Value.depthLimit := by decide
    omega
  exact hdenotable.exists_quoted hdepth

/-- A tree of registries in dry run gives nothing, or a fault. -/
theorem Tree.reply_of_tables {tree : Tree κ} (hquiet : tree.Dry) (htables : tree.TableDriven)
    (request : Request) :
    (Tree.driver.perform tree request).1.reply = .value .null ∨
      ∃ f, (Tree.driver.perform tree request).1.reply = .fault f := by
  show ((tree.lookup request.action request.entity).respond request).reply = .value .null ∨
    ∃ f, ((tree.lookup request.action request.entity).respond request).reply = .fault f
  rcases @Tree.lookup_cases κ request.action request.entity tree with hnone | ⟨leaf, hleaf, -, heq⟩
  · rw [hnone]
    exact Or.inr ⟨_, rfl⟩
  · rw [heq]
    rcases Tree.leaf_cases tree hleaf with ⟨b, slots, rfl⟩ | ⟨b, behaviour, state, rfl⟩
    · have hdry : b.dryRun = true := hquiet _ hleaf
      rw [Tree.lookup, Tree.offer_of_dry hdry]
      split
      · exact (Tree.reply_dryRun b.logger request).imp_right fun ⟨f, _, hf⟩ => ⟨_, hf⟩
      · exact Or.inr ⟨_, rfl⟩
    · cases htables _ hleaf

/-- What a statement is bound to in such a dry run. -/
theorem Run.Handled.blank {tree after : Tree κ} (hquiet : tree.Dry) (htables : tree.TableDriven)
    {scope : Scope} {s : Statement} {o : Outcome} {made : List Exchange}
    (h : Handled Tree.driver scope tree s o made after) :
    boundValue o = .null ∨ ∃ error, boundValue o = .failed error := by
  rcases h.cases with ⟨obstacle, -, -, rfl⟩ | ⟨params, response, -, -, rfl⟩
  · exact Or.inr ⟨_, boundValue_of_error obstacle.message_ne_empty⟩
  · rcases Tree.reply_of_tables hquiet htables (s.request params) with hreply | ⟨f, hreply⟩
    · rw [hreply]
      exact Or.inl rfl
    · rw [hreply]
      unfold boundValue
      split
      · exact Or.inr ⟨_, rfl⟩
      · exact Or.inl rfl

/-- **Every request of a dry run against registries can be noted**, if the template can be shown. -/
theorem noted_of_tables (hd : dry.Rehearsal) (htables : dry.TableDriven)
    (ht : ∀ e ∈ t.expressions, e.Shown) {n : ℕ} (hn : n ≤ t.statements.length)
    (h : (t.trace Tree.driver dry n).2 = none) :
    (t.progressAt Tree.driver dry n).scope.Blank ∧
      ∀ x ∈ (t.progressAt Tree.driver dry n).exchanges, x.Noted := by
  induction n with
  | zero =>
    unfold Template.progressAt
    rw [trace_zero]
    refine ⟨fun name v hname => ?_, fun x hx => absurd hx List.not_mem_nil⟩
    cases hname
  | succ n ih =>
    have hlt : n < t.statements.length := by omega
    have hs := List.getElem?_eq_getElem hlt
    have hbefore := trace_none_of_le (Nat.le_succ n) h
    obtain ⟨hblank, hearlier⟩ := ih (by omega) hbefore
    obtain ⟨o, made, hsettles⟩ := trace_settles hs h
    -- the leaves are still those that the run has started with
    have hstate := (hd.safe_resting.progressAt hd.resting (Nat.le_of_lt hlt) hbefore).1
    have hquiet : (t.progressAt Tree.driver dry n).state.Dry := by
      unfold Tree.Dry Tree.Everywhere
      rw [hstate.leaves]
      exact hd.quiet
    have htables' : (t.progressAt Tree.driver dry n).state.TableDriven := by
      unfold Tree.TableDriven Tree.Everywhere
      rw [hstate.leaves]
      exact htables
    rw [hsettles.scope, hsettles.exchanges]
    refine ⟨hblank.after _ (hsettles.handled.blank hquiet htables'), ?_⟩
    refine List.forall_mem_append.2 ⟨hearlier, fun x hx => ?_⟩
    rcases hsettles.handled.cases with
      ⟨obstacle, -, hmade, -⟩ | ⟨params, response, hready, hmade, -⟩
    · rw [hmade] at hx
      cases hx
    · rw [hmade] at hx
      rw [List.mem_singleton.1 hx]
      exact hblank.noted (ht _ (List.mem_map_of_mem (List.mem_of_getElem? hs))) hready

end Runs

/-- **A dry run performs nothing, and what it finds to fail fails indeed**, as far as drivers do in
dry run what they do otherwise. A dry run leaves all registries as they are and calls none of their
functions. It is aborted iff the real run is, at the same statement. Every statement that fails in
it fails in the real run, if custom drivers are steady and all requests can be noted; with nothing
but registries it is enough that the template can be shown. -/
theorem dry_run_predicts_failures {κ : Type} {root : Tree κ} (hroot : root.isCustom = false)
    (changes : List Tree.Change) (hreturns : (root.rehearsal changes).Returns) (t : Template)
    (id id' : String) (started finished started' finished' : Time.Moment) :
    let tree := root.rehearsal changes
    let dry := t.run Tree.driver tree id started finished
    let real := t.run Tree.driver (tree.setDryRun false) id' started' finished'
    List.Forall₂ Tree.Idles tree.leaves dry.progress.state.leaves ∧
    (∀ request ∈ dry.calls, ∃ b behaviour state state',
      Tree.custom b behaviour state ∈ tree.leaves ∧
        behaviour.supports b state' request.action request.entity = true) ∧
    (∀ name k, (∃ r, dry.ending = .aborted name r ∧ r.statements.length = k) ↔
      ∃ r, real.ending = .aborted name r ∧ r.statements.length = k) ∧
    ∃ r r', dry.ending.report? = some r ∧ real.ending.report? = some r' ∧
      r.statements.length = r'.statements.length ∧
      (tree.Steady → (∀ x ∈ dry.progress.exchanges, x.Noted) → r.Foretells r') ∧
      (tree.TableDriven → (∀ e ∈ t.expressions, e.Shown) → r.Foretells r') := by
  intro tree dry real
  have hquiet : tree.Dry := root.rehearsal_dry changes
  have hroot' : tree.isCustom = false := (root.rehearsal_isCustom changes).trans hroot
  have hreal : (tree.setDryRun false).Returns := Tree.returns_mapBadges.2 hreturns
  have hsafe := Tree.safe_idling tree
  have hidling : tree.Idling tree := ⟨hroot', Tree.idles_of_dry hquiet, hreturns⟩
  obtain ⟨hstate, hanswers⟩ := hsafe.run (t := t) id started finished hidling
  obtain ⟨r, n, hr, hreports⟩ := hsafe.exists_report (t := t) id started finished hidling
  obtain ⟨r', n', hr', hreports'⟩ :=
    Tree.safe_returns.exists_report (t := t) id' started' finished' hreal
  refine ⟨hstate.leaves, fun request hrequest => ?_, fun name k => ?_, r, r', hr, hr',
    (hreports.same_length hreports').2, fun hsteady hnoted => ?_, fun htables ht => ?_⟩
  · unfold Conclusion.calls at hrequest
    obtain ⟨x, hx, rfl⟩ := List.mem_map.1 hrequest
    obtain ⟨hx, hran⟩ := List.mem_filter.1 hx
    obtain ⟨midway, hmidway, hanswer⟩ := hanswers x hx
    rw [← hanswer] at hran
    have hleaves : ((midway.lookup x.request.action x.request.entity).respond x.request).ran =
      true := hran
    rw [Tree.lookup_eq_leaves hmidway.root] at hleaves
    exact Tree.custom_of_ran hmidway.leaves hleaves
  · rw [hsafe.aborted_iff id started finished hidling,
      Tree.safe_returns.aborted_iff id' started' finished' hreal]
  · have hd : tree.Rehearsal := ⟨hroot', hquiet, hreturns, hsteady⟩
    rw [run_exchanges] at hnoted
    exact hreports.foretells hd hd.inEarnest hreports' hnoted
  · have hsteady : tree.Steady := by
      intro leaf hleaf
      rcases Tree.leaf_cases tree hleaf with ⟨b, slots, rfl⟩ | ⟨b, behaviour, state, rfl⟩
      · trivial
      · cases htables _ hleaf
    have hd : tree.Rehearsal := ⟨hroot', hquiet, hreturns, hsteady⟩
    refine hreports.foretells hd hd.inEarnest hreports' ?_
    rw [hreports.exchanges]
    exact (noted_of_tables hd htables ht hreports.le hreports.trace).2

/-- Networks are numbered. -/
def networks : Tree Unit :=
  .registry (Badge.new "networks")
    [{ action := "create", entity := "network", function := fun _ _ => .value (.int 1) }]

/-- The custom driver wants the network that it is given to be something. -/
def picky : Tree Unit :=
  .chain (Badge.new "site")
    [networks,
     .custom (Badge.new "picky")
      { supports := fun _ _ _ _ => true
        perform := fun _ state r =>
          match r.params.get? "network" with
          | some .null =>
            ({ reply := .fault (.backend "TypeError" "no network"), ran := true }, state)
          | _ => ({ reply := .value .null, ran := true }, state) } ()]

/-- A server in a network. -/
def networked : Template where
  statements :=
    [{ node := .declaration { name := "net" } { action := "create", entity := "network" } },
     { node := .expression
        { action := "create", entity := "server", refs := [("network", "net")] } }]

/-- A network with a parameter. -/
def numbered (v : Value) : Template where
  statements :=
    [{ node := .expression
        { action := "create", entity := "network", params := [("number", v)] } }]

/-- Which statements of a run against a tree fail. -/
def Template.failures {κ : Type} (t : Template) (tree : Tree κ) : List Bool :=
  ((t.run Tree.driver tree "run" default default).ending.report?.getD default).statements.map
    (·.outcome.failed)

theorem networks_returns : networks.Returns := by
  intro leaf hleaf
  rw [List.mem_singleton.1 hleaf]
  intro s hs calls params message h
  rw [List.mem_singleton.1 hs] at h
  cases h

theorem picky_returns : picky.Returns := by
  intro leaf hleaf
  change leaf ∈ [_, _] at hleaf
  simp only [List.mem_cons, List.not_mem_nil, or_false] at hleaf
  obtain rfl | rfl := hleaf
  · exact networks_returns _ (List.mem_singleton_self _)
  · intro b state r message
    dsimp only
    split <;> exact Reply.noConfusion

/-- A parameter that cannot be shown lets the dry run fail. -/
theorem numbered_fails {v : Value}
    (h : Value.showParams [("number", v)] = .error .tooManyDigits) :
    (numbered v).failures (networks.setDryRun true) = [true] := by
  have hnote : (Tree.driver.perform (networks.setDryRun true)
      ⟨"create", "network", [("number", v)]⟩).1.reply = .fault (.ofText .tooManyDigits) := by
    show (Offer.respond _ (.dryRun _)).reply = _
    rw [Offer.respond, dryRunNote, h]
    rfl
  unfold Template.failures numbered
  rw [run_single _ _ _ (.raised [("number", v)] _ _ _ rfl rfl hnote)]
  rfl

/-- **A dry run can fail alone**: a custom driver is given nothing for a network, or a number is too
long to be noted. -/
theorem dry_run_can_fail_alone :
    (picky.isCustom = false ∧ picky.Returns ∧
      networked.failures (picky.setDryRun true) = [false, true] ∧
      networked.failures (picky.setDryRun false) = [false, false]) ∧
    networks.isCustom = false ∧ networks.Returns ∧
      (numbered (.int Value.longInteger)).failures (networks.setDryRun true) = [true] ∧
      (numbered (.int Value.longInteger)).failures (networks.setDryRun false) = [false] := by
  refine ⟨⟨rfl, picky_returns, by decide +kernel, by decide +kernel⟩, rfl, networks_returns, ?_,
    rfl⟩
  apply numbered_fails
  show Value.quotedAt 0 (.table [("number", .int Value.longInteger)]) = _
  rw [Value.quotedAt, if_pos (by decide), Value.quotedEntries_eq, List.mapM_cons, Value.quotedEntry,
    Value.quotedAt, Value.integerText_longInteger]
  rfl

/-- There is no quota for networks; on the rack, a driver that would break supports nothing. -/
def cramped : Tree Unit :=
  .chain (Badge.new "site")
    [.registry (Badge.new "networks")
      [{ action := "create", entity := "network",
         function := fun _ _ => .fault (.backend "QuotaError" "no quota left") }],
     .chain (Badge.new "rack")
      [.custom (Badge.new "broken")
        { supports := fun _ _ _ _ => false
          perform := fun _ state _ => ({ reply := .fault (.backend "KeyError" "") }, state) } (),
       .registry (Badge.new "servers") []]]

/-- Servers are registered with the rack only after dry run was switched on. -/
def lateServers : List Tree.Change :=
  [.add [1, 1] "create" "server" fun calls _ => .value (.int calls), .setLogger [1] "rack"]

/-- Nothing makes a gadget, and the last statement refers to a name that is never declared. -/
def outfitted : Template where
  statements :=
    [{ node := .declaration { name := "net" } { action := "create", entity := "network" } },
     { node := .declaration { name := "gadget" } { action := "create", entity := "gadget" } },
     { node := .declaration { name := "vm" }
        { action := "create", entity := "server",
          refs := [("network", "net"), ("gadget", "gadget")] } },
     { node := .expression
        { action := "create", entity := "server", refs := [("peer", "ghost")] } }]

theorem cramped_returns : (cramped.rehearsal lateServers).Returns := by
  intro leaf hleaf
  change leaf ∈ [_, _, _] at hleaf
  simp only [List.mem_cons, List.not_mem_nil, or_false] at hleaf
  obtain rfl | rfl | rfl := hleaf
  · intro s hs calls params message h
    rw [List.mem_singleton.1 hs] at h
    cases h
  · intro b state r message h
    cases h
  · intro s hs calls params message h
    rw [List.mem_singleton.1 hs] at h
    cases h

theorem cramped_steady : (cramped.rehearsal lateServers).Steady := by
  intro leaf hleaf
  change leaf ∈ [_, _, _] at hleaf
  simp only [List.mem_cons, List.not_mem_nil, or_false] at hleaf
  obtain rfl | rfl | rfl := hleaf
  · trivial
  · exact ⟨fun _ => rfl, fun _ => rfl, fun _ _ => rfl, fun _ _ _ _ h => by cases h⟩
  · trivial

/-- Making a network would go well for all that the dry run can tell; what it finds to fail, the
gadget and the server with it, fails indeed. -/
theorem dry_run_predicts_gadget :
    cramped.isCustom = false ∧ (cramped.rehearsal lateServers).Returns ∧
    (cramped.rehearsal lateServers).Steady ∧ ∃ r r',
      (outfitted.run Tree.driver (cramped.rehearsal lateServers) "dry" default default).ending =
        .aborted "ghost" r ∧
      (outfitted.run Tree.driver ((cramped.rehearsal lateServers).setDryRun false) "real" default
        default).ending = .aborted "ghost" r' ∧
      r.statements.map (·.outcome.failed) = [false, true, true, true] ∧
      ∃ b, r'.statements[2]? = some b ∧ b.outcome.error ≠ "" := by
  obtain ⟨-, -, haborts, r, r', hr, hr', hlen, hfails, -⟩ := @dry_run_predicts_failures Unit cramped
    rfl lateServers cramped_returns outfitted "dry" "real" default default default default
  obtain ⟨r₀, hr₀⟩ : ∃ r, (outfitted.run Tree.driver (cramped.rehearsal lateServers) "dry" default
    default).ending = .aborted "ghost" r := ⟨_, rfl⟩
  obtain rfl : r₀ = r := by
    rw [hr₀] at hr
    exact Option.some.inj hr
  obtain ⟨r₁, hr₁, -⟩ := (haborts "ghost" r₀.statements.length).1 ⟨r₀, hr₀, rfl⟩
  obtain rfl : r₁ = r' := by
    rw [hr₁] at hr'
    exact Option.some.inj hr'
  have hfailed : r₀.statements.map (·.outcome.failed) = [false, true, true, true] := by
    obtain rfl : ((outfitted.run Tree.driver (cramped.rehearsal lateServers) "dry" default
      default).ending.report?).getD default = r₀ := by
      rw [hr₀]
      rfl
    decide +kernel
  have hlen₀ : r₀.statements.length = 4 := by
    rw [← List.length_map (·.outcome.failed), hfailed]
    rfl
  have hnoted : ∀ x ∈ (outfitted.run Tree.driver (cramped.rehearsal lateServers) "dry" default
      default).progress.exchanges, x.Noted := by
    intro x hx
    change x ∈ [_, _] at hx
    simp only [List.mem_cons, List.not_mem_nil, or_false] at hx
    obtain rfl | rfl := hx <;> exact ⟨_, rfl⟩
  have ha := List.getElem?_eq_getElem (show 2 < r₀.statements.length by omega)
  have hb := List.getElem?_eq_getElem (show 2 < r₁.statements.length by omega)
  refine ⟨rfl, cramped_returns, cramped_steady, r₀, r₁, hr₀, hr₁, hfailed, _, hb,
    hfails cramped_steady hnoted 2 _ _ ha hb ?_⟩
  have herror : r₀.statements[2].outcome.failed = true := by
    have := congrArg (fun l => l[2]?) hfailed
    simpa [ha] using this
  simpa [Outcome.failed] using herror

end Provision
