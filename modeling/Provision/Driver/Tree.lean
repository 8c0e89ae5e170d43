import Provision.Driver.Basic

/-!
# Trees of drivers

A **registry** has functions for pairs of an action and an entity. A **chain** has drivers of
its own, and the first one that supports a pair handles it. Any other driver is **custom**: it has
a state of its own, of a type `κ`, and handles a request in its own way.

Every driver has a badge: its name, whether it is in dry run, and where it logs. Dry run and
logger are passed on from a chain to all drivers below it. In dry run a registry notes what it
would do and runs nothing; a pair it does not support fails all the same, and so does a request
that cannot be noted. What a custom driver makes of its badge is up to the driver.

* `Tree.supports`, `Tree.lookup`: what a driver offers for a pair.
* `Tree.perform`: a request, which counts the calls of the function that is run.
* `Tree.backend`: the tree as a driver whose state is the tree itself.
-/

namespace Provision

/-- A function of a backend. It sees how often it was called before, and the parameters. -/
abbrev Function := Nat → Table Value → Reply

/-- The name of a driver and its two settings. -/
structure Badge where
  name : String
  dryRun : Bool := false
  logger : String
deriving DecidableEq, Repr, Inhabited

/-- The badge of a new driver, which logs under its own name. -/
def Badge.new (name : String) : Badge := ⟨name, false, "stencil.driver.base." ++ name⟩

/-- A function registered for a pair, with the number of its calls. -/
structure Slot where
  action : String
  entity : String
  function : Function
  calls : Nat := 0

/-- Whether a slot is for a pair. -/
def Slot.isFor (s : Slot) (action entity : String) : Bool :=
  s.action = action && s.entity = entity

/-- How a custom driver works: whether it supports a pair, and how it handles a request, both with
its badge and its state. -/
structure Custom (κ : Type) where
  supports : Badge → κ → String → String → Bool
  perform : Badge → κ → Request → Response × κ

/-- A driver, where custom ones have a state of type `κ`. -/
inductive Tree (κ : Type) where
  | registry (badge : Badge) (slots : List Slot)
  | chain (badge : Badge) (children : List (Tree κ))
  | custom (badge : Badge) (behaviour : Custom κ) (state : κ)

variable {κ : Type}

instance : Inhabited (Tree κ) := ⟨.chain default []⟩

/-- What a driver offers for a pair. -/
inductive Offer where
  /-- A function to call, and how often it was called before. -/
  | function (f : Function) (calls : Nat)
  /-- A note in the log of the given name, and nothing else. -/
  | dryRun (logger : String)
  /-- A function that always fails. -/
  | unsupported
  /-- What a custom driver makes of the parameters. -/
  | custom (respond : Table Value → Response)

/-- What is noted for a request in dry run. -/
def dryRunNote (logger : String) (r : Request) : Except TextFault Log.Entry := do
  return ⟨.info, logger, "[dry run] " ++ r.action ++ " " ++ r.entity ++ " " ++
    (← Value.showParams r.params)⟩

/-- The response of an offer to a request. -/
def Offer.respond (r : Request) : Offer → Response
  | .function f calls => { reply := f calls r.params, ran := true }
  | .dryRun logger =>
    match dryRunNote logger r with
    | .ok entry => { reply := .value .null, notes := [entry] }
    | .error f => { reply := .fault (.ofText f) }
  | .unsupported => { reply := .fault (.unsupported r.action r.entity) }
  | .custom respond => respond r.params

/-- What a registry offers for a pair. -/
def Badge.offer (b : Badge) (slots : List Slot) (action entity : String) : Offer :=
  match slots.find? (·.isFor action entity) with
  | none => .unsupported
  | some s => if b.dryRun then .dryRun b.logger else .function s.function s.calls

/-- The slots after a call of the function for a pair. -/
def countCall (action entity : String) (slots : List Slot) : List Slot :=
  slots.map fun s => if s.isFor action entity then { s with calls := s.calls + 1 } else s

/-- The slots with a function for a pair, in place of an earlier one. -/
def addSlot (slots : List Slot) (action entity : String) (f : Function) : List Slot :=
  slots.filter (fun s => !s.isFor action entity) ++ [{ action, entity, function := f }]

namespace Tree

/-- The badge of a driver. -/
def badge : Tree κ → Badge
  | .registry b _ => b
  | .chain b _ => b
  | .custom b _ _ => b

mutual

/-- Whether a driver has a function for a pair. -/
def supports (action entity : String) : Tree κ → Bool
  | .registry _ slots => slots.any (·.isFor action entity)
  | .chain _ children => supportsAny action entity children
  | .custom b behaviour state => behaviour.supports b state action entity

/-- Whether some driver has a function for a pair. -/
def supportsAny (action entity : String) : List (Tree κ) → Bool
  | [] => false
  | t :: ts => supports action entity t || supportsAny action entity ts

end

mutual

/-- What a driver offers for a pair. -/
def lookup (action entity : String) : Tree κ → Offer
  | .registry b slots => b.offer slots action entity
  | .chain _ children => lookupFirst action entity children
  | .custom b behaviour state =>
    .custom fun params => (behaviour.perform b state ⟨action, entity, params⟩).1

/-- What the first driver that supports a pair offers for it. -/
def lookupFirst (action entity : String) : List (Tree κ) → Offer
  | [] => .unsupported
  | t :: ts =>
    if supports action entity t then lookup action entity t else lookupFirst action entity ts

end

mutual

/-- The driver after it was asked for a request. -/
def after (r : Request) : Tree κ → Tree κ
  | .registry b slots =>
    .registry b (if b.dryRun then slots else countCall r.action r.entity slots)
  | .chain b children => .chain b (afterFirst r children)
  | .custom b behaviour state => .custom b behaviour (behaviour.perform b state r).2

/-- The drivers after the first one that supports the pair of a request was asked for it. -/
def afterFirst (r : Request) : List (Tree κ) → List (Tree κ)
  | [] => []
  | t :: ts =>
    if supports r.action r.entity t then after r t :: ts else t :: afterFirst r ts

end

/-- A request to a driver. -/
def perform (t : Tree κ) (r : Request) : Response × Tree κ :=
  ((t.lookup r.action r.entity).respond r, t.after r)

/-- A tree as a driver. -/
def driver : Driver (Tree κ) := ⟨perform⟩

mutual

/-- The badges of a driver and all drivers below it changed. -/
def mapBadges (f : Badge → Badge) : Tree κ → Tree κ
  | .registry b slots => .registry (f b) slots
  | .chain b children => .chain (f b) (mapBadgesAll f children)
  | .custom b behaviour state => .custom (f b) behaviour state

/-- The badges of all drivers of a list changed. -/
def mapBadgesAll (f : Badge → Badge) : List (Tree κ) → List (Tree κ)
  | [] => []
  | t :: ts => mapBadges f t :: mapBadgesAll f ts

end

/-- Dry run switched on or off, here and below. -/
def setDryRun (enabled : Bool) (t : Tree κ) : Tree κ :=
  t.mapBadges fun b => { b with dryRun := enabled }

/-- The logger replaced, here and below. -/
def setLogger (name : String) (t : Tree κ) : Tree κ :=
  t.mapBadges fun b => { b with logger := name }

/-- A tree as a driver with its settings. -/
def backend : Backend (Tree κ) where
  toDriver := driver
  setDryRun := setDryRun
  setLogger := setLogger
  isDryRun t := t.badge.dryRun

/-- A function registered with a registry; other drivers have no place for it. -/
def add (action entity : String) (f : Function) : Tree κ → Tree κ
  | .registry b slots => .registry b (addSlot slots action entity f)
  | t => t

/-- A driver changed somewhere below a chain, by the positions on the way. -/
def modifyAt (f : Tree κ → Tree κ) : List Nat → Tree κ → Tree κ
  | [], t => f t
  | i :: path, .chain b children => .chain b (children.modify i (modifyAt f path))
  | _ :: _, t => t

/-- A driver somewhere below a chain, by the positions on the way. -/
def below? : List Nat → Tree κ → Option (Tree κ)
  | [], t => some t
  | i :: path, .chain _ children => children[i]?.bind (below? path)
  | _ :: _, _ => none

end Tree

end Provision
