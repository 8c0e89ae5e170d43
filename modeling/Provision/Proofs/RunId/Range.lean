import Provision.Proofs.RunId.Growth

/-!
# Run identifiers fail by time only

With sources that answer, a call can fail for one reason only: the time that it has just stored is
out of range. The memory is stored before the identifier is written, so what a failing call leaves
behind decides the calls after it. A time that is too great stays, since the memory never moves
back. A negative reading leaves no trace but a greater randomness: a new generator starts one
millisecond below zero and stays there, until the randomness of that millisecond is used up.

* `Sample`: a reading, and a randomness of ten bytes.
* `advance_of_le`, `advance_of_lt`: what a call does to the memory.
* `memoryAt_of_negative`: the memory after negative readings only.
* `fails_only_out_of_range`: **which calls fail, and for how long.**
-/

namespace Provision.RunId

/-- What the clock and the source of randomness answer to one call: a time, and as much randomness
as an identifier holds. -/
structure Sample where
  reading : Int
  fresh : ℕ
  fresh_lt : fresh < randomBound

/-- The call with these answers. Its sources cannot fail. -/
def Sample.call (s : Sample) : Call Empty := ⟨.ok s.reading, .ok s.fresh⟩

namespace Generator

/-- The calls with given answers, in order. -/
def callsOf (samples : List Sample) : List (Call Empty) := samples.map Sample.call

/-- Call `n` fails, since what it has stored is out of range. -/
def Fails (calls : List (Call Empty)) (n : ℕ) (e : RangeError) : Prop :=
  ∃ c, calls[n]? = some c ∧ ((memoryAt calls n).answer c).2 = .error (.range e)

/-! ## One call -/

/-- A call stores the memory first, and then writes it. -/
theorem answer_call (g : Generator) (s : Sample) : g.answer s.call =
    (g.advance s.reading s.fresh, (g.advance s.reading s.fresh).current.mapError .range) := by
  unfold answer next Sample.call
  simp only
  by_cases hdraws : g.draws s.reading = true
  · rw [if_pos hdraws]
  · -- without a draw the fresh randomness is not looked at
    have hsame : g.advance s.reading 0 = g.advance s.reading s.fresh := by
      simp only [draws, Bool.or_eq_true, decide_eq_true_eq, not_or] at hdraws
      unfold advance
      rw [if_neg hdraws.1, if_neg hdraws.2, if_neg hdraws.1, if_neg hdraws.2]
    rw [if_neg hdraws, hsame]

/-- A later reading is taken with fresh randomness. -/
theorem advance_of_lt {g : Generator} {reading : Int} (h : g.lastTime < reading) (fresh : ℕ) :
    g.advance reading fresh = ⟨reading, fresh⟩ := by
  unfold advance
  rw [if_pos h]

/-- A reading that is not later counts on, as long as there is room. -/
theorem advance_of_le {g : Generator} {reading : Int} (h : reading ≤ g.lastTime)
    (hroom : g.lastRandom + 1 < randomBound) (fresh : ℕ) :
    g.advance reading fresh = ⟨g.lastTime, g.lastRandom + 1⟩ := by
  unfold advance
  rw [if_neg (not_lt.2 h), if_neg (not_le.2 hroom)]

/-- The randomness stays in range, whatever the clock reads. -/
theorem lastRandom_advance_lt (g : Generator) (s : Sample) :
    (g.advance s.reading s.fresh).lastRandom < randomBound := by
  by_cases hlater : g.lastTime < s.reading
  · rw [advance_of_lt hlater]
    exact s.fresh_lt
  by_cases hroom : g.lastRandom + 1 < randomBound
  · rw [advance_of_le (not_lt.1 hlater) hroom]
    exact hroom
  · have hfull : g.advance s.reading s.fresh = ⟨g.lastTime + 1, s.fresh⟩ := by
      unfold advance
      rw [if_neg hlater, if_pos (not_lt.1 hroom)]
    rw [hfull]
    exact s.fresh_lt

/-- **What a memory is written as**, if its randomness is in range: the time alone decides. -/
theorem current_eq {g : Generator} (h : g.lastRandom < randomBound) :
    g.current =
      if g.lastTime < 0 then .error .negative
      else if (timeBound : Int) ≤ g.lastTime then .error .tooBig
      else .ok (encode g.lastTime.toNat g.lastRandom) := by
  unfold current write
  by_cases hneg : g.lastTime < 0
  · rw [if_pos hneg, if_pos hneg]
  rw [if_neg hneg, if_neg hneg]
  by_cases hbig : (timeBound : Int) ≤ g.lastTime
  · rw [if_pos (show timeBound ≤ g.lastTime.toNat by omega), if_pos hbig]
  · rw [if_neg (show ¬ timeBound ≤ g.lastTime.toNat by omega), if_neg hbig, if_neg (not_le.2 h)]

/-! ## Calls one after the other -/

variable {samples : List Sample} {n : ℕ} {s : Sample}

theorem callsOf_getElem? (hs : samples[n]? = some s) : (callsOf samples)[n]? = some s.call := by
  unfold callsOf
  rw [List.getElem?_map, hs]
  rfl

theorem memoryAt_callsOf_succ (hs : samples[n]? = some s) :
    memoryAt (callsOf samples) (n + 1) =
      (memoryAt (callsOf samples) n).advance s.reading s.fresh := by
  rw [memoryAt_succ (callsOf_getElem? hs), answer_call]

/-- The answer to call `n` is the memory that it has stored, as it is written. -/
theorem answer_eq_current (hs : samples[n]? = some s) :
    ((memoryAt (callsOf samples) n).answer s.call).2 =
      (memoryAt (callsOf samples) (n + 1)).current.mapError .range := by
  rw [memoryAt_callsOf_succ hs, answer_call]

theorem lastRandom_memoryAt_succ_lt (hs : samples[n]? = some s) :
    (memoryAt (callsOf samples) (n + 1)).lastRandom < randomBound := by
  rw [memoryAt_callsOf_succ hs]
  exact lastRandom_advance_lt _ s

/-- **The time never decreases.** -/
theorem lastTime_mono {ε : Type} {calls : List (Call ε)} {m n : ℕ} (hmn : m ≤ n) :
    (memoryAt calls m).lastTime ≤ (memoryAt calls n).lastTime := by
  rcases @later_memory ε calls m n hmn with heq | hlater | ⟨heq, -⟩
  · rw [heq]
  · exact le_of_lt hlater
  · exact le_of_eq heq

/-- A call returns exactly if the time it has stored is in range. -/
theorem exists_returns_iff (hs : samples[n]? = some s) :
    (∃ id, Returns (callsOf samples) n id) ↔
      0 ≤ (memoryAt (callsOf samples) (n + 1)).lastTime ∧
        (memoryAt (callsOf samples) (n + 1)).lastTime < timeBound := by
  have hcurrent := current_eq (lastRandom_memoryAt_succ_lt hs)
  constructor
  · rintro ⟨id, c, hc, hid⟩
    rw [callsOf_getElem? hs] at hc
    obtain rfl := Option.some.inj hc
    rw [answer_eq_current hs, hcurrent] at hid
    split at hid
    · cases hid
    split at hid
    · cases hid
    exact ⟨not_lt.1 ‹_›, not_le.1 ‹_›⟩
  · rintro ⟨hpos, hbound⟩
    rw [if_neg (not_lt.2 hpos), if_neg (not_le.2 hbound)] at hcurrent
    exact ⟨_, s.call, callsOf_getElem? hs, by rw [answer_eq_current hs, hcurrent, Except.mapError]⟩

/-- A call fails exactly if the time it has stored is out of range, and says on which side. -/
theorem fails_iff (hs : samples[n]? = some s) (e : RangeError) :
    Fails (callsOf samples) n e ↔
      (e = .negative ∧ (memoryAt (callsOf samples) (n + 1)).lastTime < 0) ∨
        (e = .tooBig ∧ (timeBound : Int) ≤ (memoryAt (callsOf samples) (n + 1)).lastTime) := by
  have hcurrent := current_eq (lastRandom_memoryAt_succ_lt hs)
  have hfails : Fails (callsOf samples) n e ↔
      (memoryAt (callsOf samples) (n + 1)).current = .error e := by
    unfold Fails
    simp only [callsOf_getElem? hs, Option.some.injEq, exists_eq_left', answer_eq_current hs]
    cases (memoryAt (callsOf samples) (n + 1)).current with
    | error e' => simp [Except.mapError]
    | ok id => simp [Except.mapError]
  rw [hfails, hcurrent]
  have htime : (0 : Int) ≤ timeBound := Int.natCast_nonneg _
  by_cases hneg : (memoryAt (callsOf samples) (n + 1)).lastTime < 0
  · have hnot : ¬ (timeBound : Int) ≤ (memoryAt (callsOf samples) (n + 1)).lastTime := by omega
    rw [if_pos hneg]
    simp only [Except.error.injEq, hneg, hnot, and_true, and_false, or_false, eq_comm]
  · rw [if_neg hneg]
    by_cases hbig : (timeBound : Int) ≤ (memoryAt (callsOf samples) (n + 1)).lastTime
    · rw [if_pos hbig]
      simp only [Except.error.injEq, hneg, hbig, and_true, and_false, false_or, eq_comm]
    · rw [if_neg hbig]
      simp only [reduceCtorEq, hneg, hbig, and_false, or_false]

/-- **Negative readings only count on**, from one millisecond below zero. -/
theorem memoryAt_of_negative (hlen : n ≤ samples.length) (hroom : n < randomBound)
    (hneg : ∀ earlier ∈ samples.take n, earlier.reading < 0) :
    memoryAt (callsOf samples) n = ⟨-1, n⟩ := by
  induction n with
  | zero => rfl
  | succ n ih =>
    obtain ⟨s, hs⟩ : ∃ s, samples[n]? = some s := ⟨_, List.getElem?_eq_getElem hlen⟩
    rw [List.take_add_one, hs, Option.toList_some, List.forall_mem_append,
      List.forall_mem_singleton] at hneg
    obtain ⟨hearlier, hreading⟩ := hneg
    rw [memoryAt_callsOf_succ hs, ih (by omega) (by omega) hearlier]
    exact advance_of_le (show s.reading ≤ -1 by omega) hroom s.fresh

end Generator

open Generator

/-- **A call fails exactly if the time it has stored is out of range.** Times never decrease, so one
that is too great makes all later calls fail; negative readings make the calls fail that read them,
and no others. -/
theorem fails_only_out_of_range (samples : List Sample) :
    (∀ n < samples.length,
      ((∃ id, Returns (callsOf samples) n id) ↔
        0 ≤ (memoryAt (callsOf samples) (n + 1)).lastTime ∧
          (memoryAt (callsOf samples) (n + 1)).lastTime < timeBound) ∧
      (Fails (callsOf samples) n .negative ↔
        (memoryAt (callsOf samples) (n + 1)).lastTime < 0) ∧
      (Fails (callsOf samples) n .tooBig ↔
        (timeBound : Int) ≤ (memoryAt (callsOf samples) (n + 1)).lastTime)) ∧
    (∀ m n, m ≤ n →
      (memoryAt (callsOf samples) m).lastTime ≤ (memoryAt (callsOf samples) n).lastTime) ∧
    (∀ m n, m < n → n < samples.length →
      Fails (callsOf samples) m .tooBig → Fails (callsOf samples) n .tooBig) ∧
    (∀ n ≤ samples.length, n < randomBound →
      (∀ earlier ∈ samples.take n, earlier.reading < 0) →
      (∀ m < n, Fails (callsOf samples) m .negative) ∧
      ∀ s, samples[n]? = some s → 0 ≤ s.reading → s.reading < timeBound →
        ∃ id num, Returns (callsOf samples) n id ∧ decode id = .ok num ∧
          (timeOf num : Int) = s.reading ∧ num % randomBound = s.fresh) := by
  have hsample : ∀ {n}, n < samples.length → ∃ s, samples[n]? = some s := fun h =>
    ⟨_, List.getElem?_eq_getElem h⟩
  have hexact : ∀ n < samples.length,
      (Fails (callsOf samples) n .negative ↔ (memoryAt (callsOf samples) (n + 1)).lastTime < 0) ∧
      (Fails (callsOf samples) n .tooBig ↔
        (timeBound : Int) ≤ (memoryAt (callsOf samples) (n + 1)).lastTime) := by
    intro n hn
    obtain ⟨s, hs⟩ := hsample hn
    rw [fails_iff hs, fails_iff hs]
    simp
  refine ⟨fun n hn => ?_, fun m n => lastTime_mono, fun m n hmn hn hm => ?_,
    fun n hlen hroom hneg => ⟨fun m hm => ?_, fun s hs hpos hbound => ?_⟩⟩
  · obtain ⟨s, hs⟩ := hsample hn
    exact ⟨exists_returns_iff hs, hexact n hn⟩
  · have htime := (hexact m (by omega)).2.1 hm
    exact (hexact n hn).2.2 (htime.trans (lastTime_mono (by omega)))
  · -- the memory after call `m` still stands one millisecond below zero
    have hmemory := memoryAt_of_negative (show m + 1 ≤ samples.length by omega) (by omega)
      fun earlier he => hneg earlier ((List.take_subset_take_left samples hm) he)
    rw [(hexact m (by omega)).1, hmemory]
    exact Int.negSucc_lt_zero 0
  · have hmemory : memoryAt (callsOf samples) (n + 1) = ⟨s.reading, s.fresh⟩ := by
      rw [memoryAt_callsOf_succ hs, memoryAt_of_negative hlen hroom hneg]
      exact advance_of_lt (show -1 < s.reading by omega) s.fresh
    have hreturns := answer_eq_current hs
    rw [hmemory, current_eq s.fresh_lt, if_neg (not_lt.2 hpos), if_neg (not_le.2 hbound)]
      at hreturns
    have hdecode := @decode_encode s.reading.toNat s.fresh (by omega) s.fresh_lt
    refine ⟨_, _, ⟨s.call, callsOf_getElem? hs, hreturns⟩, hdecode, ?_, number_mod s.fresh_lt⟩
    rw [timeOf_number s.fresh_lt]
    exact Int.toNat_of_nonneg hpos

/-- A clock that starts below zero, comes into range and leaves it at the other end. -/
def runaway : List Sample :=
  [⟨-5, 9, by decide⟩, ⟨-3, 9, by decide⟩, ⟨7, 9, by decide⟩, ⟨timeBound, 9, by decide⟩,
    ⟨8, 9, by decide⟩]

theorem fails_only_out_of_range_runaway :
    Fails (callsOf runaway) 0 .negative ∧ Fails (callsOf runaway) 1 .negative ∧
    (∃ id num, Returns (callsOf runaway) 2 id ∧ decode id = .ok num ∧ (timeOf num : Int) = 7 ∧
      num % randomBound = 9) ∧
    Fails (callsOf runaway) 3 .tooBig ∧ Fails (callsOf runaway) 4 .tooBig := by
  obtain ⟨hexact, -, hstays, hnegative⟩ := fails_only_out_of_range runaway
  obtain ⟨hfail, hreturn⟩ := hnegative 2 (by decide) (by decide) (by decide)
  have hbig : Fails (callsOf runaway) 3 .tooBig := (hexact 3 (by decide)).2.2.2 (by decide)
  exact ⟨hfail 0 (by decide), hfail 1 (by decide), hreturn _ rfl (by decide) (by decide), hbig,
    hstays 3 4 (by decide) (by decide) hbig⟩

end Provision.RunId
