import Provision.Proofs.RunId.Digits
import Provision.RunId.Generator

/-!
# Run identifiers of one generator grow

The memory of a generator is a time and a randomness. Every call whose sources answer moves it to
a **later** one: a greater time, or the same time with a greater randomness (`answer_cases`). This
holds for a clock that stands still, goes backwards or leaves the range of times, and when the
randomness of a millisecond is used up. An identifier is the notation of the memory, and the order
of texts is that of the numbers they denote, so identifiers grow from call to call.

* `later_memory`: the memory never moves back, whatever calls fail.
* `ids_strictly_increase`: **what an identifier says, and that identifiers grow.**
-/

namespace Provision.RunId

variable {ε : Type}

/-- What the clock and the source of randomness answer to one call. -/
structure Call (ε : Type) where
  clock : Except ε Int
  entropy : Except ε ℕ

namespace Generator

/-- One call. -/
def answer (g : Generator) (c : Call ε) : Generator × Except (Failure ε) String :=
  g.next c.clock c.entropy

/-- The memory of a new generator after the first `n` calls. -/
def memoryAt (calls : List (Call ε)) (n : ℕ) : Generator :=
  (calls.take n).foldl (fun g c => (g.answer c).1) {}

/-- Call `n` returns an identifier. -/
def Returns (calls : List (Call ε)) (n : ℕ) (id : String) : Prop :=
  ∃ c, calls[n]? = some c ∧ ((memoryAt calls n).answer c).2 = .ok id

/-- A later memory: a greater time, or the same with a greater randomness. -/
def Later (g g' : Generator) : Prop :=
  g.lastTime < g'.lastTime ∨ (g.lastTime = g'.lastTime ∧ g.lastRandom < g'.lastRandom)

theorem Later.trans {g g' g'' : Generator} (h : Later g g') (h' : Later g' g'') : Later g g'' := by
  unfold Later at *
  omega

/-- **All that a call can do.** A source fails and the memory is kept, or the memory moves on
and the identifier is its notation. -/
theorem answer_cases (g : Generator) (c : Call ε) :
    ((g.answer c).1 = g ∧ ∃ e, (c.clock = .error e ∨ c.entropy = .error e) ∧
      (g.answer c).2 = .error (.source e)) ∨
    (∃ reading, c.clock = .ok reading ∧ reading ≤ (g.answer c).1.lastTime ∧
      Later g (g.answer c).1 ∧
      (g.answer c).2 = (g.answer c).1.current.mapError .range) := by
  unfold answer next
  cases hclock : c.clock with
  | error e => exact Or.inl ⟨rfl, e, Or.inl rfl, rfl⟩
  | ok reading =>
    simp only
    by_cases hdraws : g.draws reading = true
    · rw [if_pos hdraws]
      cases hentropy : c.entropy with
      | error e => exact Or.inl ⟨rfl, e, Or.inr rfl, rfl⟩
      | ok fresh =>
        refine Or.inr ⟨reading, rfl, ?_⟩
        simp only [draws, Bool.or_eq_true, decide_eq_true_eq] at hdraws
        unfold advance
        by_cases hlater : g.lastTime < reading
        · simp only [if_pos hlater]
          exact ⟨le_rfl, Or.inl hlater, trivial⟩
        · -- the randomness is used up: the next millisecond
          have hfull : randomBound ≤ g.lastRandom + 1 := hdraws.resolve_left hlater
          simp only [if_neg hlater, if_pos hfull]
          exact ⟨by omega, Or.inl (by simp), trivial⟩
    · rw [if_neg hdraws]
      refine Or.inr ⟨reading, rfl, ?_⟩
      simp only [draws, Bool.or_eq_true, decide_eq_true_eq, not_or, not_lt, not_le] at hdraws
      obtain ⟨hle, hroom⟩ := hdraws
      unfold advance
      simp only [if_neg (not_lt.2 hle), if_neg (not_le.2 hroom)]
      exact ⟨hle, Or.inr ⟨rfl, by simp⟩, trivial⟩

/-- An identifier is written exactly of a time and a randomness in range. -/
theorem write_eq_ok_iff {time : Int} {random : ℕ} {id : String} :
    write time random = .ok id ↔
      0 ≤ time ∧ time.toNat < timeBound ∧ random < randomBound ∧ id = encode time.toNat random := by
  unfold write
  constructor
  · intro h
    by_cases hneg : time < 0
    · rw [if_pos hneg] at h; cases h
    rw [if_neg hneg] at h
    by_cases hbig : timeBound ≤ time.toNat
    · rw [if_pos hbig] at h; cases h
    rw [if_neg hbig] at h
    by_cases hfull : randomBound ≤ random
    · rw [if_pos hfull] at h; cases h
    rw [if_neg hfull] at h
    exact ⟨not_lt.1 hneg, not_le.1 hbig, not_le.1 hfull, (Except.ok.inj h).symm⟩
  · rintro ⟨hpos, hbound, hrandom, rfl⟩
    rw [if_neg (not_lt.2 hpos), if_neg (not_le.2 hbound), if_neg (not_le.2 hrandom)]

variable {calls : List (Call ε)}

theorem memoryAt_succ {n : ℕ} {c : Call ε} (hc : calls[n]? = some c) :
    memoryAt calls (n + 1) = ((memoryAt calls n).answer c).1 := by
  unfold memoryAt
  rw [List.take_add_one, hc, Option.toList_some, List.foldl_append]
  rfl

/-- **The memory never moves back.** -/
theorem later_memory {m n : ℕ} (hmn : m ≤ n) :
    memoryAt calls n = memoryAt calls m ∨ Later (memoryAt calls m) (memoryAt calls n) := by
  induction n with
  | zero =>
    obtain rfl : m = 0 := by omega
    exact Or.inl rfl
  | succ n ih =>
    rcases Nat.eq_or_lt_of_le hmn with rfl | hlt
    · exact Or.inl rfl
    have hprev := ih (by omega)
    cases hc : calls[n]? with
    | none =>
      -- past the last call nothing changes
      have hlen := List.getElem?_eq_none_iff.1 hc
      unfold memoryAt at hprev ⊢
      rw [List.take_of_length_le (show calls.length ≤ n by omega)] at hprev
      rw [List.take_of_length_le (show calls.length ≤ n + 1 by omega)]
      exact hprev
    | some c =>
      rw [memoryAt_succ hc]
      rcases answer_cases (memoryAt calls n) c with ⟨hsame, -⟩ | ⟨reading, -, -, hlater, -⟩
      · rw [hsame]; exact hprev
      · rcases hprev with heq | hprev
        · rw [← heq]; exact Or.inr hlater
        · exact Or.inr (hprev.trans hlater)

/-- **A call that returns** has moved the memory on, and returns its notation. -/
theorem returned {n : ℕ} {c : Call ε} {id : String} (hc : calls[n]? = some c)
    (h : ((memoryAt calls n).answer c).2 = .ok id) :
    ∃ (reading : Int) (time : ℕ), c.clock = .ok reading ∧ reading ≤ (time : Int) ∧
      (memoryAt calls (n + 1)).lastTime = (time : Int) ∧ time < timeBound ∧
      (memoryAt calls (n + 1)).lastRandom < randomBound ∧
      Later (memoryAt calls n) (memoryAt calls (n + 1)) ∧
      id = encode time (memoryAt calls (n + 1)).lastRandom := by
  rw [memoryAt_succ hc]
  rcases answer_cases (memoryAt calls n) c with ⟨-, e, -, he⟩ | ⟨reading, hclock, hle, hlater, hres⟩
  · rw [he] at h; cases h
  · set g := ((memoryAt calls n).answer c).1
    have hcur : g.current = .ok id := by
      rw [hres] at h
      cases hg : g.current with
      | error e => rw [hg] at h; cases h
      | ok id' => rw [hg] at h; exact congrArg Except.ok (Except.ok.inj h)
    obtain ⟨hpos, hbound, hrandom, rfl⟩ := write_eq_ok_iff.1 hcur
    have htime : ((g.lastTime.toNat : ℕ) : Int) = g.lastTime := Int.toNat_of_nonneg hpos
    exact ⟨reading, g.lastTime.toNat, hclock, by rw [htime]; exact hle, htime.symm, hbound, hrandom,
      hlater, rfl⟩

/-- A call whose sources answer returns, if the memory is then in range. -/
theorem exists_returned {n : ℕ} {c : Call ε} {reading : Int} {fresh : ℕ}
    (hc : calls[n]? = some c) (hclock : c.clock = .ok reading) (hentropy : c.entropy = .ok fresh)
    (hpos : 0 ≤ (memoryAt calls (n + 1)).lastTime)
    (hbound : (memoryAt calls (n + 1)).lastTime.toNat < timeBound)
    (hrandom : (memoryAt calls (n + 1)).lastRandom < randomBound) : ∃ id, Returns calls n id := by
  rw [memoryAt_succ hc] at hpos hbound hrandom
  rcases answer_cases (memoryAt calls n) c with ⟨-, e, hfail, -⟩ | ⟨-, -, -, -, hres⟩
  · rw [hclock, hentropy] at hfail
    rcases hfail with h | h <;> cases h
  · have hcur := write_eq_ok_iff.2 ⟨hpos, hbound, hrandom, rfl⟩
    exact ⟨_, c, hc, by rw [hres, current, hcur, Except.mapError]⟩

end Generator

open Generator

/-- A later memory denotes a greater number. -/
theorem number_lt_of_later {g g' : Generator} {time time' : ℕ} (hg : g.lastTime = (time : Int))
    (hg' : g'.lastTime = (time' : Int)) (hr : g.lastRandom < randomBound) (h : Later g g') :
    number time g.lastRandom < number time' g'.lastRandom := by
  rcases h with h | ⟨h, hrandom⟩
  · exact number_lt_of_time_lt hr (by omega)
  · obtain rfl : time = time' := by omega
    exact Nat.add_lt_add_left hrandom _

/-- **What an identifier says, and that identifiers grow**, over any calls of a new generator. -/
theorem ids_strictly_increase (calls : List (Call ε)) :
    (∀ n c id, calls[n]? = some c → ((memoryAt calls n).answer c).2 = .ok id →
      id.length = 26 ∧ (∀ letter ∈ id.toList, letter ∈ alphabet) ∧ isValid id = true ∧
      (∃ num, decode id = .ok num ∧ timeOf num < timeBound ∧
        (timeOf num : Int) = (memoryAt calls (n + 1)).lastTime ∧
        num % randomBound = (memoryAt calls (n + 1)).lastRandom) ∧
      ∃ reading, c.clock = .ok reading ∧ reading ≤ (memoryAt calls (n + 1)).lastTime) ∧
    (∀ m n earlier later, m < n → Returns calls m earlier → Returns calls n later →
      earlier < later) ∧
    (∀ n c reading fresh, calls[n]? = some c → c.clock = .ok reading → c.entropy = .ok fresh →
      0 ≤ (memoryAt calls (n + 1)).lastTime →
      (memoryAt calls (n + 1)).lastTime.toNat < timeBound →
      (memoryAt calls (n + 1)).lastRandom < randomBound → ∃ id, Returns calls n id) := by
  refine ⟨?content, ?grows, fun n c reading fresh => exists_returned⟩
  case content =>
    intro n c id hc h
    obtain ⟨reading, time, hclock, hle, htime, hbound, hrandom, -, rfl⟩ := returned hc h
    have hdecode := decode_encode hbound hrandom
    refine ⟨length_encode _ _, letters_encode _ _, by unfold isValid; rw [hdecode]; rfl, ?_,
      reading, hclock, by rw [htime]; exact hle⟩
    exact ⟨_, hdecode, by rw [timeOf_number hrandom]; exact hbound,
      by rw [timeOf_number hrandom, htime], number_mod hrandom⟩
  case grows =>
    rintro m n earlier later hmn ⟨c, hc, h⟩ ⟨c', hc', h'⟩
    obtain ⟨-, time, -, -, htime, -, hrandom, -, rfl⟩ := returned hc h
    obtain ⟨-, time', -, -, htime', hbound', hrandom', hlater', rfl⟩ := returned hc' h'
    apply encode_lt_encode hbound' hrandom'
    apply number_lt_of_later htime htime' hrandom
    -- the memory after call `m` is still there before call `n`, or a later one is
    rcases @later_memory ε calls (m + 1) n hmn with heq | hlater
    · rw [← heq]; exact hlater'
    · exact hlater.trans hlater'

/-- A clock that fails and then goes back, with the randomness of a millisecond used up. -/
def turnedBack : List (Call Unit) :=
  [⟨.ok 5, .ok (randomBound - 1)⟩, ⟨.error (), .ok 0⟩, ⟨.ok 3, .ok 7⟩, ⟨.ok 4, .error ()⟩]

theorem ids_increase_turnedBack :
    Returns turnedBack 0 "0000000005ZZZZZZZZZZZZZZZZ" ∧
    Returns turnedBack 2 "00000000060000000000000007" ∧
    Returns turnedBack 3 "00000000060000000000000008" ∧
    "0000000005ZZZZZZZZZZZZZZZZ" < "00000000060000000000000007" ∧
    "00000000060000000000000007" < "00000000060000000000000008" := by
  have first : Returns turnedBack 0 "0000000005ZZZZZZZZZZZZZZZZ" := ⟨_, rfl, rfl⟩
  have second : Returns turnedBack 2 "00000000060000000000000007" := ⟨_, rfl, rfl⟩
  have third : Returns turnedBack 3 "00000000060000000000000008" := ⟨_, rfl, rfl⟩
  have grows := (ids_strictly_increase turnedBack).2.1
  exact ⟨first, second, third, grows 0 2 _ _ (by decide) first second,
    grows 2 3 _ _ (by decide) second third⟩

end Provision.RunId
