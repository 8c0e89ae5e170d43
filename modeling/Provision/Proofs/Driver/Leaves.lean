import Mathlib.Data.List.Basic
import Provision.Driver.Tree

/-!
# The leaves of a tree of drivers

The drivers of a tree that are no chains are its **leaves**. Whatever the shape of a tree, it works
as the flat list of its leaves.

* `Tree.supports_eq_any`: a pair is supported iff some leaf supports it.
* `Tree.lookup_eq_leaves`: what is offered for a pair is the offer of the first leaf that
  supports it.
* `Tree.leaves_after`: taking up the offer concerns that leaf only.
* `Tree.leaves_mapBadges`: a setting is passed on to every leaf.

So a property of a tree is best said of its leaves (`Tree.Everywhere`): it is kept by a request, a
setting or a change at a node if it is kept there.
-/

namespace Provision.Tree

variable {κ : Type}

mutual

/-- The drivers of a tree that are no chains, from left to right. -/
def leaves : Tree κ → List (Tree κ)
  | .registry b slots => [.registry b slots]
  | .chain _ children => leavesAll children
  | .custom b behaviour state => [.custom b behaviour state]

/-- The leaves of a list of drivers. -/
def leavesAll : List (Tree κ) → List (Tree κ)
  | [] => []
  | t :: ts => leaves t ++ leavesAll ts

end

/-- Whether a driver is a custom one. -/
def isCustom : Tree κ → Bool
  | .custom _ _ _ => true
  | _ => false

variable {action entity : String} {r : Request}

/-! ## A list of drivers -/

theorem supportsAny_eq_any (ts : List (Tree κ)) :
    supportsAny action entity ts = ts.any (supports action entity) := by
  induction ts with
  | nil => rfl
  | cons t ts ih => rw [supportsAny, ih]; rfl

theorem lookupFirst_of_not {ts : List (Tree κ)} (h : supportsAny action entity ts = false) :
    lookupFirst action entity ts = .unsupported := by
  induction ts with
  | nil => rfl
  | cons t ts ih =>
    rw [supportsAny, Bool.or_eq_false_iff] at h
    rw [lookupFirst, h.1]
    exact ih h.2

theorem lookupFirst_append (xs ys : List (Tree κ)) : lookupFirst action entity (xs ++ ys) =
    if supportsAny action entity xs then lookupFirst action entity xs
    else lookupFirst action entity ys := by
  induction xs with
  | nil => rfl
  | cons t xs ih =>
    rw [List.cons_append, lookupFirst, lookupFirst, supportsAny, ih]
    cases supports action entity t <;> rfl

/-- The offer of a list of drivers is that of one of them. -/
theorem lookupFirst_cases (ts : List (Tree κ)) : lookupFirst action entity ts = .unsupported ∨
    ∃ t ∈ ts, supports action entity t = true ∧
      lookupFirst action entity ts = lookup action entity t := by
  induction ts with
  | nil => exact Or.inl rfl
  | cons t ts ih =>
    rw [lookupFirst]
    by_cases h : supports action entity t = true
    · rw [if_pos h]
      exact Or.inr ⟨t, List.mem_cons_self, h, rfl⟩
    · rw [if_neg h]
      rcases ih with ih | ⟨t', ht', hs, heq⟩
      · exact Or.inl ih
      · exact Or.inr ⟨t', List.mem_cons_of_mem t ht', hs, heq⟩

theorem afterFirst_append (xs ys : List (Tree κ)) : afterFirst r (xs ++ ys) =
    if supportsAny r.action r.entity xs then afterFirst r xs ++ ys
    else xs ++ afterFirst r ys := by
  induction xs with
  | nil => rfl
  | cons t xs ih =>
    rw [List.cons_append, afterFirst, afterFirst, supportsAny, ih]
    cases supports r.action r.entity t with
    | true => rfl
    | false => cases supportsAny r.action r.entity xs <;> rfl

/-- A request changes at most the driver that handles it. -/
theorem mem_afterFirst {ts : List (Tree κ)} {t' : Tree κ} (h : t' ∈ afterFirst r ts) :
    t' ∈ ts ∨ ∃ t ∈ ts, t' = after r t := by
  induction ts with
  | nil => exact absurd h List.not_mem_nil
  | cons t ts ih =>
    rw [afterFirst] at h
    by_cases hs : supports r.action r.entity t = true
    · rw [if_pos hs, List.mem_cons] at h
      rcases h with rfl | h
      · exact Or.inr ⟨t, List.mem_cons_self, rfl⟩
      · exact Or.inl (List.mem_cons_of_mem t h)
    · rw [if_neg hs, List.mem_cons] at h
      rcases h with rfl | h
      · exact Or.inl List.mem_cons_self
      · rcases ih h with ih | ⟨u, hu, rfl⟩
        · exact Or.inl (List.mem_cons_of_mem t ih)
        · exact Or.inr ⟨u, List.mem_cons_of_mem t hu, rfl⟩

theorem mem_leavesAll {leaf : Tree κ} {ts : List (Tree κ)} :
    leaf ∈ leavesAll ts ↔ ∃ t ∈ ts, leaf ∈ t.leaves := by
  induction ts with
  | nil => simp [leavesAll]
  | cons t ts ih => simp [leavesAll, ih]

/-! ## A tree and its leaves -/

mutual

/-- A leaf is a registry or a custom driver. -/
theorem leaf_cases {leaf : Tree κ} : ∀ t : Tree κ, leaf ∈ t.leaves →
    (∃ b slots, leaf = .registry b slots) ∨ ∃ b behaviour state, leaf = .custom b behaviour state
  | .registry b slots, h => Or.inl ⟨b, slots, List.mem_singleton.1 h⟩
  | .chain _ children, h => leafAll_cases children h
  | .custom b behaviour state, h => Or.inr ⟨b, behaviour, state, List.mem_singleton.1 h⟩

theorem leafAll_cases {leaf : Tree κ} : ∀ ts : List (Tree κ), leaf ∈ leavesAll ts →
    (∃ b slots, leaf = .registry b slots) ∨ ∃ b behaviour state, leaf = .custom b behaviour state
  | [], h => absurd h List.not_mem_nil
  | t :: ts, h => (List.mem_append.1 h).elim (leaf_cases t) (leafAll_cases ts)

end

mutual

/-- **A pair is supported iff some leaf supports it.** -/
theorem supports_eq_any : ∀ t : Tree κ,
    supports action entity t = supportsAny action entity t.leaves
  | .registry _ _ => (Bool.or_false _).symm
  | .chain _ children => supportsAny_leavesAll children
  | .custom _ _ _ => (Bool.or_false _).symm

theorem supportsAny_leavesAll : ∀ ts : List (Tree κ),
    supportsAny action entity ts = supportsAny action entity (leavesAll ts)
  | [] => rfl
  | t :: ts => by
    rw [supportsAny, leavesAll, supports_eq_any t, supportsAny_leavesAll ts]
    simp only [supportsAny_eq_any, List.any_append]

end

mutual

theorem lookupFirst_leaves : ∀ t : Tree κ, lookupFirst action entity t.leaves =
    if supports action entity t then lookup action entity t else .unsupported
  | .registry _ _ => rfl
  | .chain _ children => by
    rw [leaves, lookupFirst_leavesAll children, supports, lookup]
    cases h : supportsAny action entity children with
    | true => rfl
    | false => exact lookupFirst_of_not h
  | .custom _ _ _ => rfl

theorem lookupFirst_leavesAll : ∀ ts : List (Tree κ),
    lookupFirst action entity (leavesAll ts) = lookupFirst action entity ts
  | [] => rfl
  | t :: ts => by
    rw [leavesAll, lookupFirst_append, ← supports_eq_any, lookupFirst_leaves t,
      lookupFirst_leavesAll ts, lookupFirst]
    cases supports action entity t <;> rfl

end

/-- **What is offered for a pair is the offer of the first leaf that supports it.** -/
theorem lookup_eq_leaves {t : Tree κ} (h : t.isCustom = false) :
    lookup action entity t = lookupFirst action entity t.leaves := by
  cases t with
  | registry b slots =>
    rw [lookupFirst_leaves]
    by_cases hs : supports action entity (.registry b slots : Tree κ) = true
    · rw [if_pos hs]
    · have hnone : slots.find? (·.isFor action entity) = none := by
        rw [List.find?_eq_none]
        intro s hmem hfor
        exact hs (List.any_eq_true.2 ⟨s, hmem, hfor⟩)
      rw [if_neg hs, lookup, Badge.offer, hnone]
  | chain b children => rw [leaves, lookupFirst_leavesAll, lookup]
  | custom b behaviour state => cases h

theorem countCall_of_not {slots : List Slot} (h : slots.any (·.isFor action entity) = false) :
    countCall action entity slots = slots := by
  unfold countCall
  rw [List.any_eq_false] at h
  exact List.map_congr_left (fun s hs => if_neg (h s hs)) |>.trans (List.map_id' slots)

mutual

theorem leaves_after_of_supports (r : Request) : ∀ t : Tree κ,
    supports r.action r.entity t = true → (after r t).leaves = afterFirst r t.leaves
  | .registry b slots, hs => by rw [leaves, afterFirst, if_pos hs, after, leaves]
  | .chain _ children, _ => leavesAll_afterFirst r children
  | .custom b behaviour state, hs => by rw [leaves, afterFirst, if_pos hs, after, leaves]

theorem leavesAll_afterFirst (r : Request) : ∀ ts : List (Tree κ),
    leavesAll (afterFirst r ts) = afterFirst r (leavesAll ts)
  | [] => rfl
  | t :: ts => by
    rw [leavesAll, afterFirst_append, ← supports_eq_any, afterFirst]
    by_cases hs : supports r.action r.entity t = true
    · rw [if_pos hs, if_pos hs, leavesAll, leaves_after_of_supports r t hs]
    · rw [if_neg hs, if_neg hs, leavesAll, leavesAll_afterFirst r ts]

end

/-- **Taking up an offer concerns the first leaf that supports the pair.** -/
theorem leaves_after (r : Request) {t : Tree κ} (h : t.isCustom = false) :
    (after r t).leaves = afterFirst r t.leaves := by
  cases t with
  | registry b slots =>
    by_cases hs : supports r.action r.entity (.registry b slots : Tree κ) = true
    · exact leaves_after_of_supports r _ hs
    · rw [leaves, afterFirst, if_neg hs, after, countCall_of_not (Bool.eq_false_iff.2 hs), ite_self,
        leaves, afterFirst]
  | chain b children => exact leavesAll_afterFirst r children
  | custom b behaviour state => cases h

theorem isCustom_after (t : Tree κ) : (t.after r).isCustom = t.isCustom := by
  cases t <;> rfl

mutual

/-- **A setting is passed on to every leaf.** -/
theorem leaves_mapBadges (f : Badge → Badge) : ∀ t : Tree κ,
    (mapBadges f t).leaves = t.leaves.map (mapBadges f)
  | .registry _ _ => rfl
  | .chain _ children => leavesAll_mapBadgesAll f children
  | .custom _ _ _ => rfl

theorem leavesAll_mapBadgesAll (f : Badge → Badge) : ∀ ts : List (Tree κ),
    leavesAll (mapBadgesAll f ts) = (leavesAll ts).map (mapBadges f)
  | [] => rfl
  | t :: ts => by
    rw [mapBadgesAll, leavesAll, leavesAll, leaves_mapBadges f t, leavesAll_mapBadgesAll f ts,
      List.map_append]

end

theorem badge_mapBadges (f : Badge → Badge) (t : Tree κ) : (t.mapBadges f).badge = f t.badge := by
  cases t <;> rfl

theorem isCustom_mapBadges (f : Badge → Badge) (t : Tree κ) :
    (t.mapBadges f).isCustom = t.isCustom := by
  cases t <;> rfl

/-! ## Properties of all leaves -/

/-- A property holds of every leaf. -/
def Everywhere (P : Tree κ → Prop) (t : Tree κ) : Prop := ∀ leaf ∈ t.leaves, P leaf

variable {P : Tree κ → Prop} {t : Tree κ}

theorem Everywhere.after (h : t.Everywhere P) (hP : ∀ leaf, P leaf → P (leaf.after r)) :
    (t.after r).Everywhere P := by
  intro leaf hleaf
  cases ht : t.isCustom with
  | false =>
    rw [leaves_after r ht] at hleaf
    rcases mem_afterFirst hleaf with hleaf | ⟨leaf', hleaf', rfl⟩
    · exact h leaf hleaf
    · exact hP leaf' (h leaf' hleaf')
  | true =>
    cases t with
    | registry b slots => cases ht
    | chain b children => cases ht
    | custom b behaviour state =>
      rw [List.mem_singleton.1 hleaf]
      exact hP _ (h _ (List.mem_singleton_self _))

theorem everywhere_mapBadges {f : Badge → Badge} :
    (t.mapBadges f).Everywhere P ↔ t.Everywhere fun leaf => P (leaf.mapBadges f) := by
  unfold Everywhere
  rw [leaves_mapBadges]
  exact List.forall_mem_map

theorem everywhere_chain {b : Badge} {children : List (Tree κ)} :
    (Tree.chain b children).Everywhere P ↔ ∀ t ∈ children, t.Everywhere P := by
  unfold Everywhere
  simp only [leaves, mem_leavesAll]
  constructor
  · intro h t ht leaf hleaf
    exact h leaf ⟨t, ht, hleaf⟩
  · rintro h leaf ⟨t, ht, hleaf⟩
    exact h t ht leaf hleaf

/-- What a change keeps of any tree is kept when the change is made further down. -/
theorem Everywhere.modifyAt {f : Tree κ → Tree κ}
    (hf : ∀ u : Tree κ, u.Everywhere P → (f u).Everywhere P) (path : List ℕ) (h : t.Everywhere P) :
    (t.modifyAt f path).Everywhere P := by
  induction path generalizing t with
  | nil => exact hf t h
  | cons i path ih =>
    cases t with
    | registry b slots => exact h
    | chain b children =>
      rw [Tree.modifyAt, everywhere_chain]
      rw [everywhere_chain] at h
      intro u hu
      obtain ⟨j, hj⟩ := List.mem_iff_getElem?.1 hu
      rw [List.getElem?_modify] at hj
      obtain ⟨v, hv, rfl⟩ := Option.map_eq_some_iff.1 hj
      have hmem := h v (List.mem_of_getElem? hv)
      -- only the driver at the first position of the path is changed
      split
      · exact ih hmem
      · exact hmem
    | custom b behaviour state => exact h

/-! ## Trees whose functions return -/

/-- No function of a leaf ends the program. -/
def Answers : Tree κ → Prop
  | .registry _ slots => ∀ s ∈ slots, ∀ calls params message,
      s.function calls params ≠ .exit message
  | .chain _ _ => True
  | .custom _ behaviour _ => ∀ b state r message,
      (behaviour.perform b state r).1.reply ≠ .exit message

/-- Every function of the tree answers with a value or a fault. -/
def Returns (t : Tree κ) : Prop := t.Everywhere Answers

theorem Answers.after {leaf : Tree κ} (h : leaf.Answers) : (leaf.after r).Answers := by
  cases leaf with
  | registry b slots =>
    intro s hs
    split at hs
    · exact h s hs
    · obtain ⟨s', hs', rfl⟩ := List.mem_map.1 hs
      have hsame : (if s'.isFor r.action r.entity = true then { s' with calls := s'.calls + 1 }
          else s').function = s'.function := by split <;> rfl
      rw [hsame]
      exact h s' hs'
  | chain b children => exact h
  | custom b behaviour state => exact h

theorem answers_mapBadges {g : Badge → Badge} {leaf : Tree κ} :
    (leaf.mapBadges g).Answers ↔ leaf.Answers := by
  cases leaf <;> rfl

theorem Returns.after (h : t.Returns) : (t.after r).Returns :=
  Everywhere.after h fun _ hleaf => hleaf.after

theorem returns_mapBadges {g : Badge → Badge} : (t.mapBadges g).Returns ↔ t.Returns := by
  unfold Returns
  rw [everywhere_mapBadges]
  simp only [answers_mapBadges]

/-- What a tree offers is nothing, or the offer of one of its leaves. -/
theorem lookup_cases (t : Tree κ) : lookup action entity t = .unsupported ∨
    ∃ leaf ∈ t.leaves, (t.isCustom = false → supports action entity leaf = true) ∧
      lookup action entity t = lookup action entity leaf := by
  cases ht : t.isCustom with
  | false =>
    rw [lookup_eq_leaves ht]
    rcases lookupFirst_cases t.leaves with h | ⟨leaf, hleaf, hs, heq⟩
    · exact Or.inl h
    · exact Or.inr ⟨leaf, hleaf, fun _ => hs, heq⟩
  | true =>
    cases t with
    | registry b slots => cases ht
    | chain b children => cases ht
    | custom b behaviour state =>
      refine Or.inr ⟨_, List.mem_singleton_self _, fun h => ?_, rfl⟩
      cases h

/-- In dry run a request comes to nothing, or it cannot be noted. -/
theorem reply_dryRun (logger : String) (r : Request) :
    ((Offer.dryRun logger).respond r).reply = .value .null ∨
      ∃ f, Value.showParams r.params = .error f ∧
        ((Offer.dryRun logger).respond r).reply = .fault (.ofText f) := by
  unfold Offer.respond dryRunNote
  cases Value.showParams r.params with
  | ok text => exact Or.inl rfl
  | error f => exact Or.inr ⟨f, rfl, rfl⟩

theorem Answers.reply_ne_exit {leaf : Tree κ} (h : leaf.Answers) (hleaf : leaf ∈ t.leaves)
    (r : Request) (message : String) :
    ((lookup r.action r.entity leaf).respond r).reply ≠ .exit message := by
  rcases leaf_cases t hleaf with ⟨b, slots, rfl⟩ | ⟨b, behaviour, state, rfl⟩
  · rw [lookup, Badge.offer]
    split
    · exact nofun
    · rename_i s hs
      split
      · rcases reply_dryRun b.logger r with hreply | ⟨f, -, hreply⟩
        · rw [hreply]
          exact nofun
        · rw [hreply]
          exact nofun
      · exact h s (List.mem_of_find?_eq_some hs) s.calls r.params message
  · exact h b state r message

theorem Returns.reply_ne_exit (h : t.Returns) (r : Request) (message : String) :
    ((lookup r.action r.entity t).respond r).reply ≠ .exit message := by
  rcases @lookup_cases κ r.action r.entity t with hnone | ⟨leaf, hleaf, -, heq⟩
  · rw [hnone]
    exact nofun
  · rw [heq]
    exact (h leaf hleaf).reply_ne_exit hleaf r message

end Provision.Tree
