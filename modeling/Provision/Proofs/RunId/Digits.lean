import Mathlib.Data.String.Basic
import Mathlib.Tactic.NormNum
import Provision.RunId.Basic

/-!
# The base-32 notation of run identifiers

An identifier is written with a fixed number of digits, most significant first. Reading gives the
number back (`decode_encode`), and since the letters of the alphabet are in code point order, the
order of texts is the order of numbers (`encode_lt_encode`).
-/

namespace Provision.RunId

/-- The digits of a number in base 32, most significant first. -/
def digits : ℕ → ℕ → List ℕ
  | 0, _ => []
  | width + 1, n => digits width (n / 32) ++ [n % 32]

/-- The letter of a digit. -/
def letter (d : ℕ) : Char := alphabet.getD d '0'

theorem letters_eq (width n : ℕ) : letters width n = (digits width n).map letter := by
  induction width generalizing n with
  | zero => rfl
  | succ width ih => simp [letters, digits, ih, letter]

@[simp] theorem length_digits (width n : ℕ) : (digits width n).length = width := by
  induction width generalizing n with
  | zero => rfl
  | succ width ih => simp [digits, ih]

theorem digits_lt {width n d : ℕ} (h : d ∈ digits width n) : d < 32 := by
  induction width generalizing n with
  | zero => cases h
  | succ width ih =>
    rcases List.mem_append.1 h with h | h
    · exact ih h
    · rw [List.mem_singleton.1 h]; exact Nat.mod_lt n (by decide)

theorem div_lt_pow {width n : ℕ} (h : n < 32 ^ (width + 1)) : n / 32 < 32 ^ width := by
  rw [pow_succ] at h
  exact Nat.div_lt_of_lt_mul (by omega)

/-- **The digits denote the number**, if there are enough of them. -/
theorem ofDigits_digits {width n : ℕ} (h : n < 32 ^ width) : ofDigits (digits width n) = n := by
  induction width generalizing n with
  | zero =>
    have : n = 0 := by simpa using h
    subst this; rfl
  | succ width ih =>
    have hprev := ih (div_lt_pow h)
    unfold ofDigits at hprev ⊢
    rw [digits, List.foldl_append, hprev]
    simp only [List.foldl_cons, List.foldl_nil]
    omega

theorem headD_digits {width n : ℕ} (h : n < 32 ^ (width + 1)) :
    (digits (width + 1) n).headD 0 = n / 32 ^ width := by
  induction width generalizing n with
  | zero =>
    have : n < 32 := by simpa using h
    simp [digits, Nat.mod_eq_of_lt this]
  | succ width ih =>
    have hne : digits (width + 1) (n / 32) ≠ [] := by
      intro h0; have := congrArg List.length h0; simp at this
    have hprev := ih (div_lt_pow h)
    obtain ⟨d, ds, hds⟩ := List.exists_cons_of_ne_nil hne
    rw [hds, List.headD_cons] at hprev
    rw [digits, hds, List.cons_append, List.headD_cons, hprev, Nat.div_div_eq_div_mul, pow_succ,
      Nat.mul_comm]

/-! ## Letters -/

theorem letter_mem {d : ℕ} (h : d < 32) : letter d ∈ alphabet := by
  have : ∀ d < 32, letter d ∈ alphabet := by decide
  exact this d h

theorem digit?_letter {d : ℕ} (h : d < 32) : digit? (letter d) = some d := by
  have : ∀ d < 32, digit? (letter d) = some d := by decide
  exact this d h

/-- The alphabet is in code point order. -/
theorem letter_lt_letter {c d : ℕ} (hcd : c < d) (hd : d < 32) : letter c < letter d := by
  have : ∀ d < 32, ∀ c < d, letter c < letter d := by decide
  exact this d hd c hcd

/-! ## Reading and order -/

theorem mapM_digit? {ds : List ℕ} (h : ∀ d ∈ ds, d < 32) :
    (ds.map letter).mapM digit? = some ds := by
  induction ds with
  | nil => rfl
  | cons d ds ih =>
    rw [List.map_cons, List.mapM_cons, digit?_letter (h d List.mem_cons_self),
      ih fun c hc => h c (List.mem_cons_of_mem d hc)]
    rfl

/-- The number that a time and a randomness make up. -/
def number (time random : ℕ) : ℕ := time * randomBound + random

theorem timeOf_number {time random : ℕ} (hr : random < randomBound) :
    timeOf (number time random) = time := by
  unfold timeOf number
  rw [Nat.mul_comm, Nat.mul_add_div (by decide), Nat.div_eq_of_lt hr, Nat.add_zero]

theorem number_mod {time random : ℕ} (hr : random < randomBound) :
    number time random % randomBound = random := by
  unfold number
  rw [Nat.mul_comm, Nat.mul_add_mod, Nat.mod_eq_of_lt hr]

/-- Numbers are ordered by their times first. -/
theorem number_lt_of_time_lt {time random time' random' : ℕ} (hr : random < randomBound)
    (h : time < time') : number time random < number time' random' := by
  have hle : (time + 1) * randomBound ≤ time' * randomBound := Nat.mul_le_mul_right _ h
  unfold number
  rw [Nat.add_mul, Nat.one_mul] at hle
  omega

theorem number_lt {time random : ℕ} (ht : time < timeBound) (hr : random < randomBound) :
    number time random < 8 * 32 ^ 25 := by
  have hprod : number timeBound 0 = 8 * 32 ^ 25 := by decide
  rw [← hprod]
  exact number_lt_of_time_lt hr ht

theorem toList_encode (time random : ℕ) :
    (encode time random).toList = (digits 26 (number time random)).map letter := by
  unfold encode
  rw [String.toList_ofList, letters_eq]
  rfl

theorem length_encode (time random : ℕ) : (encode time random).length = 26 := by
  rw [← String.length_toList, toList_encode, List.length_map, length_digits]

theorem letters_encode (time random : ℕ) : ∀ c ∈ (encode time random).toList, c ∈ alphabet := by
  intro c hc
  rw [toList_encode] at hc
  obtain ⟨d, hd, rfl⟩ := List.mem_map.1 hc
  exact letter_mem (digits_lt hd)

/-- **Reading gives back what was written.** -/
theorem decode_encode {time random : ℕ} (ht : time < timeBound) (hr : random < randomBound) :
    decode (encode time random) = .ok (number time random) := by
  have hn := number_lt ht hr
  have hn26 : number time random < 32 ^ 26 := lt_trans hn (by norm_num)
  unfold decode
  simp only [toList_encode, List.length_map, length_digits, ne_eq, not_true_eq_false, if_false]
  rw [mapM_digit? fun d hd => digits_lt hd]
  -- 128 bits leave three of them to the first digit
  have hhead : ¬ 7 < (digits 26 (number time random)).headD 0 := by
    rw [headD_digits hn26, not_lt]
    have : number time random / 32 ^ 25 < 8 := Nat.div_lt_of_lt_mul (by omega)
    omega
  simp only [hhead, if_false, ofDigits_digits hn26]

/-- Texts of equal length are compared before what follows them. -/
theorem append_lt_append {as bs : List Char} (hlen : as.length = bs.length) (h : as < bs)
    (cs ds : List Char) : as ++ cs < bs ++ ds := by
  induction as generalizing bs with
  | nil =>
    have : bs = [] := List.eq_nil_of_length_eq_zero hlen.symm
    subst this; exact absurd h (lt_irrefl _)
  | cons a as ih =>
    cases bs with
    | nil => cases hlen
    | cons b bs =>
      rw [List.cons_append, List.cons_append, List.cons_lt_cons_iff]
      rcases List.cons_lt_cons_iff.1 h with hab | ⟨rfl, hrest⟩
      · exact Or.inl hab
      · exact Or.inr ⟨rfl, ih (by simpa using hlen) hrest⟩

/-- **The order of texts is the order of numbers.** -/
theorem letters_lt_letters {width m n : ℕ} (hmn : m < n) (hn : n < 32 ^ width) :
    letters width m < letters width n := by
  induction width generalizing m n with
  | zero =>
    have : n = 0 := by simpa using hn
    omega
  | succ width ih =>
    simp only [letters]
    rcases Nat.lt_or_ge (m / 32) (n / 32) with hdiv | hdiv
    · exact append_lt_append (by simp [letters_eq]) (ih hdiv (div_lt_pow hn)) _ _
    · -- the leading digits agree, so the last one decides
      have heq : m / 32 = n / 32 := by omega
      have hlast : m % 32 < n % 32 := by omega
      rw [heq]
      apply List.append_left_lt
      exact List.cons_lt_cons_iff.2 (Or.inl (letter_lt_letter hlast (Nat.mod_lt n (by decide))))

theorem encode_lt_encode {time random time' random' : ℕ} (ht : time' < timeBound)
    (hr : random' < randomBound) (h : number time random < number time' random') :
    encode time random < encode time' random' := by
  have hn := number_lt ht hr
  unfold encode
  rw [String.lt_iff_toList_lt, String.toList_ofList, String.toList_ofList]
  exact letters_lt_letters h (lt_trans hn (by norm_num))

end Provision.RunId
