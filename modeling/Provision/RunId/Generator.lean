import Provision.RunId.Basic

/-!
# Generating run identifiers

A generator remembers the time and randomness of its last identifier. A later clock reading
gives that time with fresh randomness; a reading that is not later gives the last time with the
last randomness plus one, and the next millisecond with fresh randomness when that is used up.
So identifiers grow, whatever the clock does.

The memory is updated before an identifier is written. A time below zero or of more than 48
bits, or a randomness of more than 80 bits, therefore fails with the memory already moved on.
-/

namespace Provision.RunId

/-- The time and randomness last used. -/
structure Generator where
  lastTime : Int := -1
  lastRandom : Nat := 0
deriving DecidableEq, Repr, Inhabited

/-- Why an identifier cannot be written. -/
inductive RangeError where
  | negative
  | tooBig
deriving DecidableEq, Repr

/-- The wording of an error. -/
def RangeError.message : RangeError → String
  | .negative => "can't convert negative int to unsigned"
  | .tooBig => "int too big to convert"

/-- The identifier of a time and a randomness; the time is judged first. -/
def write (time : Int) (random : Nat) : Except RangeError String :=
  if time < 0 then .error .negative
  else if timeBound ≤ time.toNat then .error .tooBig
  else if randomBound ≤ random then .error .tooBig
  else .ok (encode time.toNat random)

namespace Generator

/-- Whether a reading makes the generator draw fresh randomness. -/
def draws (g : Generator) (reading : Int) : Bool :=
  decide (g.lastTime < reading) || decide (randomBound ≤ g.lastRandom + 1)

/-- The memory after a reading; `fresh` is used only if the generator draws. -/
def advance (g : Generator) (reading : Int) (fresh : Nat) : Generator :=
  if g.lastTime < reading then ⟨reading, fresh⟩
  else if randomBound ≤ g.lastRandom + 1 then ⟨g.lastTime + 1, fresh⟩
  else ⟨g.lastTime, g.lastRandom + 1⟩

/-- The identifier of the memory. -/
def current (g : Generator) : Except RangeError String := write g.lastTime g.lastRandom

/-- Why a call gives no identifier: a source failed, or the result is out of range. -/
inductive Failure (ε : Type) where
  | source (error : ε)
  | range (error : RangeError)
deriving Repr

/-- One call, with what the clock and the source of randomness answer. A source that fails
leaves the memory alone; the second one counts only if the generator draws. -/
def next {ε : Type} (g : Generator) (clock : Except ε Int) (entropy : Except ε Nat) :
    Generator × Except (Failure ε) String :=
  match clock with
  | .error e => (g, .error (.source e))
  | .ok reading =>
    if g.draws reading then
      match entropy with
      | .error e => (g, .error (.source e))
      | .ok fresh =>
        let g' := g.advance reading fresh
        (g', g'.current.mapError .range)
    else
      let g' := g.advance reading 0
      (g', g'.current.mapError .range)

end Generator

end Provision.RunId
