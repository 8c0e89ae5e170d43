import Provision.Json.Reader
import Provision.Json.Writer
import Provision.Proofs.Double.Shortest

/-!
# Numbers read back

A number that is written is followed by something that cannot continue it: a blank, a comma, a
closing bracket, or nothing (`Ends`). So the reader takes exactly the characters that were written,
and gives back the integer (`readValue_int`) or the double (`readValue_double`).
-/

namespace Provision.Json

/-- What may follow a value: a blank, a comma, a closing bracket, or nothing. -/
def Ends (rest : List Char) : Prop :=
  ∀ c ∈ rest.head?, isBlank c = true ∨ c = ',' ∨ c = ']' ∨ c = '\x7d'

/-- The text does not start with a digit. -/
def NoDigit (rest : List Char) : Prop := ∀ c ∈ rest.head?, c.isDigit = false

theorem Ends.noDigit {rest : List Char} (h : Ends rest) : NoDigit rest := by
  intro c hc
  rcases h c hc with hb | rfl | rfl | rfl
  · unfold isBlank at hb
    simp only [Bool.or_eq_true, decide_eq_true_eq] at hb
    rcases hb with ((rfl | rfl) | rfl) | rfl <;> decide
  all_goals decide

theorem Ends.ne_head {rest : List Char} (h : Ends rest) {c : Char}
    (hc : c = '.' ∨ c = 'e' ∨ c = 'E') (cs : List Char) : rest ≠ c :: cs := by
  rintro rfl
  have hhead := h c rfl
  rcases hc with rfl | rfl | rfl <;> revert hhead <;> decide

theorem noDigit_cons {c : Char} (h : c.isDigit = false) (cs : List Char) : NoDigit (c :: cs) := by
  intro d hd
  cases hd
  exact h

/-! ## Digits -/

theorem span_digits {ds rest : List Char} (hds : ∀ c ∈ ds, c.isDigit = true)
    (hrest : NoDigit rest) :
    (ds ++ rest).takeWhile Char.isDigit = ds ∧ (ds ++ rest).dropWhile Char.isDigit = rest := by
  induction ds with
  | nil =>
    cases rest with
    | nil => exact ⟨rfl, rfl⟩
    | cons c cs => simp [hrest c rfl]
  | cons c ds ih =>
    have hc := hds c List.mem_cons_self
    obtain ⟨htake, hdrop⟩ := ih fun d hd => hds d (List.mem_cons_of_mem c hd)
    simp [hc, htake, hdrop]

theorem ofDigits_eq (ds : List Char) : ofDigits ds = Nat.ofDigitChars 10 ds 0 := by
  unfold ofDigits
  rw [Nat.ofDigitChars_eq_foldl]
  simp only [Nat.mul_comm]

theorem ofDigits_toDigits (n : ℕ) : ofDigits (Nat.toDigits 10 n) = n := by
  rw [ofDigits_eq, Nat.ofDigitChars_ten_toDigits]

/-- Zeros in front of digits do not count. -/
theorem ofDigits_zeros_append (zeros : ℕ) (ds : List Char) :
    ofDigits (List.replicate zeros '0' ++ ds) = ofDigits ds := by
  rw [ofDigits_eq, ofDigits_eq, Nat.ofDigitChars_append, Nat.ofDigitChars_replicate_zero,
    Nat.mul_zero]

/-- Zeros behind digits are factors of ten. -/
theorem ofDigits_append_zeros (ds : List Char) (zeros : ℕ) :
    ofDigits (ds ++ List.replicate zeros '0') = ofDigits ds * 10 ^ zeros := by
  rw [ofDigits_eq, ofDigits_eq, Nat.ofDigitChars_append, Nat.ofDigitChars_replicate_zero,
    Nat.mul_comm]

theorem isDigit_toDigits {n : ℕ} : ∀ c ∈ Nat.toDigits 10 n, c.isDigit = true :=
  fun _ hc => Nat.isDigit_of_mem_toDigits (by decide) (by decide) hc

theorem isDigit_zeros (zeros : ℕ) : ∀ c ∈ List.replicate zeros '0', c.isDigit = true := by
  intro c hc
  rw [List.eq_of_mem_replicate hc]
  decide

/-- The first digit of a number is a zero only if the number is. -/
theorem head_toDigits {n : ℕ} (hn : n ≠ 0) : ∀ c ∈ (Nat.toDigits 10 n).head?, c ≠ '0' := by
  induction n using Nat.strongRecOn with
  | _ n ih =>
    by_cases hlt : n < 10
    · intro c hc
      rw [Nat.toDigits_of_lt_base hlt, List.head?_cons, Option.mem_some_iff] at hc
      rw [← hc, ne_eq, Nat.digitChar_eq_zero]
      exact hn
    · have hprev := ih (n / 10) (Nat.div_lt_self (by omega) (by decide)) (by omega)
      rw [Nat.toDigits_of_base_le (by decide) (by omega), List.head?_append,
        Option.or_of_isSome (by simp)]
      exact hprev

/-- The integer part of a number: digits that do not start with a zero, or the zero alone. -/
theorem intDigits?_append {ds rest : List Char} (hne : ds ≠ []) (hds : ∀ c ∈ ds, c.isDigit = true)
    (hhead : ds = ['0'] ∨ ∀ c ∈ ds.head?, c ≠ '0') (hrest : NoDigit rest) :
    intDigits? (ds ++ rest) = some (ds, rest) := by
  cases ds with
  | nil => exact absurd rfl hne
  | cons c ds =>
    rcases hhead with hzero | hhead
    · cases hzero
      rfl
    · obtain ⟨htake, hdrop⟩ := span_digits (fun d hd => hds d (List.mem_cons_of_mem c hd)) hrest
      rw [List.cons_append, intDigits?, if_neg (hhead c rfl), if_pos (hds c List.mem_cons_self),
        htake, hdrop]

theorem intDigits?_toDigits (n : ℕ) {rest : List Char} (hrest : NoDigit rest) :
    intDigits? (Nat.toDigits 10 n ++ rest) = some (Nat.toDigits 10 n, rest) := by
  refine intDigits?_append Nat.toDigits_ne_nil isDigit_toDigits ?_ hrest
  by_cases hn : n = 0
  · exact Or.inl (by rw [hn, Nat.toDigits_zero])
  · exact Or.inr (head_toDigits hn)

theorem fractionDigits_none {rest : List Char} (h : ∀ cs, rest ≠ '.' :: cs) :
    fractionDigits rest = ([], rest) := by
  unfold fractionDigits
  split
  · rename_i cs
    exact absurd rfl (h cs)
  · rfl

theorem fractionDigits_append {fs rest : List Char} (hne : fs ≠ [])
    (hfs : ∀ c ∈ fs, c.isDigit = true) (hrest : NoDigit rest) :
    fractionDigits ('.' :: (fs ++ rest)) = (fs, rest) := by
  obtain ⟨htake, hdrop⟩ := span_digits hfs hrest
  unfold fractionDigits
  simp only [htake, hdrop]
  rw [if_neg (by simpa using hne)]

theorem exponent?_none {rest : List Char} (h : Ends rest) : exponent? rest = none := by
  cases rest with
  | nil => rfl
  | cons c cs =>
    have he : ¬ (c = 'e' ∨ c = 'E') := fun hc => h.ne_head (Or.inr hc) cs rfl
    unfold exponent?
    exact if_neg he

/-- Without an exponent the power is zero. -/
theorem power_of_ends {rest : List Char} (h : Ends rest) :
    (exponent? rest).getD (0, rest) = (0, rest) := by
  rw [exponent?_none h, Option.getD_none]

theorem isDigit_append {ds es : List Char} (hds : ∀ c ∈ ds, c.isDigit = true)
    (hes : ∀ c ∈ es, c.isDigit = true) : ∀ c ∈ ds ++ es, c.isDigit = true := by
  intro c hc
  rcases List.mem_append.1 hc with hc | hc
  · exact hds c hc
  · exact hes c hc

/-- An exponent as it is written: a sign, and at least as many digits as asked for. -/
theorem exponent?_written (width : ℕ) (power : ℤ) {rest : List Char} (hrest : NoDigit rest) :
    exponent? ('e' :: (if power < 0 then '-' else '+') ::
      (Double.padZeros width (Nat.toDigits 10 power.natAbs) ++ rest)) = some (power, rest) := by
  have hall : ∀ c ∈ Double.padZeros width (Nat.toDigits 10 power.natAbs), c.isDigit = true :=
    isDigit_append (isDigit_zeros _) isDigit_toDigits
  have hne : Double.padZeros width (Nat.toDigits 10 power.natAbs) ≠ [] :=
    List.append_ne_nil_of_right_ne_nil _ Nat.toDigits_ne_nil
  have hvalue : ofDigits (Double.padZeros width (Nat.toDigits 10 power.natAbs)) = power.natAbs := by
    unfold Double.padZeros
    rw [ofDigits_zeros_append, ofDigits_toDigits]
  obtain ⟨htake, hdrop⟩ := span_digits hall hrest
  have hempty := List.isEmpty_eq_false_iff.2 hne
  unfold exponent?
  by_cases hneg : power < 0
  · rw [if_pos hneg]
    simp only [true_or, htake, hdrop, hempty, hvalue, Bool.false_eq_true, if_false, if_true,
      Option.some.injEq, Prod.mk.injEq, and_true]
    omega
  · rw [if_neg hneg]
    simp only [true_or, htake, hdrop, hempty, hvalue, Bool.false_eq_true, if_false, if_true,
      Option.some.injEq, Prod.mk.injEq, and_true]
    omega

/-! ## Integers -/

/-- **An integer reads back.** -/
theorem readMagnitude_int (neg : Bool) (whole : List Char) (n : ℕ) {rest : List Char}
    (hlen : (Nat.toDigits 10 n).length ≤ Text.digitLimit) (hrest : Ends rest) :
    readMagnitude neg whole (Nat.toDigits 10 n ++ rest) =
      .ok (.int (if neg then -(n : ℤ) else n), rest) := by
  unfold readMagnitude
  rw [intDigits?_toDigits n hrest.noDigit]
  simp only [fractionDigits_none (hrest.ne_head (Or.inl rfl)), exponent?_none hrest,
    List.isEmpty_nil, Option.isNone_none, and_self, if_true, if_neg (Nat.not_lt.2 hlen),
    ofDigits_toDigits]

/-! ## Doubles -/

/-- A number with a point. -/
theorem readMagnitude_point (neg : Bool) (whole : List Char) {ds fs tail rest : List Char}
    {power : ℤ} (hds : intDigits? (ds ++ '.' :: (fs ++ tail)) = some (ds, '.' :: (fs ++ tail)))
    (hne : fs ≠ []) (hfs : ∀ c ∈ fs, c.isDigit = true) (htail : NoDigit tail)
    (hpower : (exponent? tail).getD (0, tail) = (power, rest)) :
    readMagnitude neg whole (ds ++ '.' :: (fs ++ tail)) =
      .ok (.double (Double.ofDecimal neg (ofDigits (ds ++ fs)) (power - fs.length)), rest) := by
  unfold readMagnitude
  have hempty : fs.isEmpty = false := by simpa using hne
  rw [hds]
  simp only [fractionDigits_append hne hfs htail, hempty, Bool.false_eq_true, false_and, if_false,
    hpower]

/-- A number with an exponent and no point. -/
theorem readMagnitude_exponent (neg : Bool) (whole : List Char) {ds tail rest : List Char}
    {power : ℤ} (hds : intDigits? (ds ++ tail) = some (ds, tail)) (hpoint : ∀ cs, tail ≠ '.' :: cs)
    (hpower : exponent? tail = some (power, rest)) :
    readMagnitude neg whole (ds ++ tail) =
      .ok (.double (Double.ofDecimal neg (ofDigits ds) power), rest) := by
  unfold readMagnitude
  rw [hds]
  simp only [fractionDigits_none hpoint, hpower, Option.isNone_some, Bool.false_eq_true, and_false,
    if_false, Option.getD_some, List.append_nil, List.length_nil, Int.natCast_zero, Int.sub_zero]

/-- Digits that do not start with a zero, as a number other than zero has them. -/
structure Significant (ds : List Char) : Prop where
  ne_nil : ds ≠ []
  digits : ∀ c ∈ ds, c.isDigit = true
  head : ∀ c ∈ ds.head?, c ≠ '0'

theorem significant_toDigits {n : ℕ} (hn : n ≠ 0) : Significant (Nat.toDigits 10 n) :=
  ⟨Nat.toDigits_ne_nil, isDigit_toDigits, head_toDigits hn⟩

section Layouts

variable (neg : Bool) (whole : List Char) {ds rest : List Char}

/-- All digits behind the point, after some zeros. -/
theorem readMagnitude_behind (h : Significant ds) (zeros : ℕ) (hrest : Ends rest) :
    readMagnitude neg whole (['0'] ++ '.' :: (List.replicate zeros '0' ++ ds ++ rest)) =
      .ok (.double (Double.ofDecimal neg (ofDigits ds) (-(zeros + ds.length : ℕ))), rest) := by
  have hint := @intDigits?_append ['0'] ('.' :: (List.replicate zeros '0' ++ ds ++ rest))
    (by decide) (isDigit_zeros 1) (Or.inl rfl) (noDigit_cons (by decide) _)
  have hvalue : ofDigits (['0'] ++ (List.replicate zeros '0' ++ ds)) = ofDigits ds := by
    rw [← List.append_assoc, List.singleton_append, ← List.replicate_succ, ofDigits_zeros_append]
  have hlength : (0 : ℤ) - (List.replicate zeros '0' ++ ds).length = -(zeros + ds.length : ℕ) := by
    rw [List.length_append, List.length_replicate, Int.zero_sub]
  rw [readMagnitude_point neg whole hint (List.append_ne_nil_of_right_ne_nil _ h.ne_nil)
    (isDigit_append (isDigit_zeros zeros) h.digits) hrest.noDigit (power_of_ends hrest), hvalue,
    hlength]

/-- The point among the digits, and perhaps an exponent. -/
theorem readMagnitude_among (h : Significant ds) {before : ℕ} (hpos : 0 < before)
    (hlt : before < ds.length) {tail : List Char} {power : ℤ} (htail : NoDigit tail)
    (hpower : (exponent? tail).getD (0, tail) = (power, rest)) :
    readMagnitude neg whole (ds.take before ++ '.' :: (ds.drop before ++ tail)) =
      .ok (.double (Double.ofDecimal neg (ofDigits ds) (power - (ds.length - before : ℕ))),
        rest) := by
  have htake : ds.take before ≠ [] := by
    rw [ne_eq, List.take_eq_nil_iff]
    exact fun hor => hor.elim (by omega) h.ne_nil
  have hhead : ∀ c ∈ (ds.take before).head?, c ≠ '0' := by
    rw [List.head?_take, if_neg (by omega)]
    exact h.head
  have hint := @intDigits?_append (ds.take before) ('.' :: (ds.drop before ++ tail)) htake
    (fun c hc => h.digits c (List.mem_of_mem_take hc)) (Or.inr hhead) (noDigit_cons (by decide) _)
  have hdrop : ds.drop before ≠ [] := by
    rw [ne_eq, List.drop_eq_nil_iff]
    omega
  rw [readMagnitude_point neg whole hint hdrop
    (fun c hc => h.digits c (List.mem_of_mem_drop hc)) htail hpower, List.take_append_drop,
    List.length_drop]

/-- Zeros up to the point, and one behind it. -/
theorem readMagnitude_before (h : Significant ds) (zeros : ℕ) (hrest : Ends rest) :
    readMagnitude neg whole (ds ++ List.replicate zeros '0' ++ '.' :: (['0'] ++ rest)) =
      .ok (.double (Double.ofDecimal neg (ofDigits ds) zeros), rest) := by
  have hhead : ∀ c ∈ (ds ++ List.replicate zeros '0').head?, c ≠ '0' := by
    rw [List.head?_append, Option.or_of_isSome (by simpa using h.ne_nil)]
    exact h.head
  have hint := @intDigits?_append (ds ++ List.replicate zeros '0') ('.' :: (['0'] ++ rest))
    (List.append_ne_nil_of_left_ne_nil h.ne_nil _) (isDigit_append h.digits (isDigit_zeros zeros))
    (Or.inr hhead) (noDigit_cons (by decide) _)
  have hvalue : ofDigits (ds ++ List.replicate zeros '0' ++ ['0']) =
      ofDigits ds * 10 ^ (zeros + 1) := by
    rw [List.append_assoc, ← List.replicate_succ', ofDigits_append_zeros]
  have hshift := Double.ofDecimal_shift neg (ofDigits ds) zeros (zeros + 1)
  have hpower : (zeros : ℤ) - (zeros + 1 : ℕ) = 0 - ((['0'] : List Char).length : ℕ) := by
    rw [List.length_singleton]
    omega
  rw [readMagnitude_point neg whole hint (by decide) (isDigit_zeros 1) hrest.noDigit
    (power_of_ends hrest), hvalue, ← hpower, hshift]

/-- One digit before the point, and an exponent; a single digit has no point behind it. -/
theorem readMagnitude_scientific (width : ℕ) (power : ℤ) (hrest : Ends rest) :
    Significant ds → readMagnitude neg whole
      ((match ds with | d :: e :: es => d :: '.' :: e :: es | _ => ds) ++
        'e' :: (if power < 0 then '-' else '+') ::
          (Double.padZeros width (Nat.toDigits 10 power.natAbs) ++ rest)) =
      .ok (.double (Double.ofDecimal neg (ofDigits ds) (power - (ds.length - 1 : ℕ))), rest) := by
  intro h
  have hpower := exponent?_written width power hrest.noDigit
  have htail : NoDigit ('e' :: (if power < 0 then '-' else '+') ::
      (Double.padZeros width (Nat.toDigits 10 power.natAbs) ++ rest)) :=
    noDigit_cons (by decide) _
  -- from here on the exponent matters only as what ends the digits
  generalize 'e' :: (if power < 0 then '-' else '+') ::
    (Double.padZeros width (Nat.toDigits 10 power.natAbs) ++ rest) = tail at hpower htail
  rcases ds with _ | ⟨d, _ | ⟨e, es⟩⟩
  · exact absurd rfl h.ne_nil
  · have hint := intDigits?_append h.ne_nil h.digits (Or.inr h.head) htail
    have hpoint : ∀ cs, tail ≠ '.' :: cs := by
      rintro cs rfl
      cases hpower
    have hread := readMagnitude_exponent neg whole hint hpoint hpower
    simpa using hread
  · exact readMagnitude_among neg whole h Nat.one_pos (by simp) htail (by rw [hpower]; rfl)

end Layouts

/-- **A decimal reads back**, however it is laid out. -/
theorem readMagnitude_layOut (neg : Bool) (whole : List Char) (l : Double.Layout) {digits : ℕ}
    (hdigits : digits ≠ 0) (exponent : ℤ) {rest : List Char} (hrest : Ends rest) :
    readMagnitude neg whole ((Double.layOut l digits exponent).toList ++ rest) =
      .ok (.double (Double.ofDecimal neg digits exponent), rest) := by
  have hds := significant_toDigits hdigits
  have hvalue := ofDigits_toDigits digits
  have hlength : 0 < (Nat.toDigits 10 digits).length := Nat.length_toDigits_pos
  unfold Double.layOut
  generalize Nat.toDigits 10 digits = ds at hds hvalue hlength
  simp only
  split
  · split
    · -- the point stands before all digits
      rename_i hle
      have hexponent : -((-(ds.length + exponent)).toNat + ds.length : ℕ) = exponent := by omega
      have hread := readMagnitude_behind neg whole hds (-(ds.length + exponent)).toNat hrest
      rw [hvalue, hexponent] at hread
      rw [String.toList_ofList]
      exact hread
    · split
      · -- the point stands among the digits
        rename_i hpos hlt
        have hexponent : 0 - (ds.length - (ds.length + exponent).toNat : ℕ) = exponent := by omega
        have hread := @readMagnitude_among neg whole ds rest hds (ds.length + exponent).toNat
          (by omega) (by omega) rest 0 hrest.noDigit (power_of_ends hrest)
        rw [hvalue, hexponent] at hread
        rw [String.toList_ofList, List.append_assoc, List.cons_append]
        exact hread
      · -- the point stands behind all digits
        rename_i hpos hge
        have hexponent : ((ds.length + exponent).toNat - ds.length : ℕ) = exponent := by omega
        have hread := readMagnitude_before neg whole hds ((ds.length + exponent).toNat - ds.length)
          hrest
        rw [hvalue, hexponent] at hread
        rw [String.toList_ofList, List.append_assoc]
        exact hread
  · have hexponent : ds.length + exponent - 1 - (ds.length - 1 : ℕ) = exponent := by omega
    have hread := readMagnitude_scientific neg whole l.exponentWidth (ds.length + exponent - 1)
      hrest hds
    rw [hvalue, hexponent] at hread
    rw [String.toList_ofList, List.append_assoc]
    exact hread

/-! ## Numbers among values -/

/-- A character that opens neither a text nor a list nor a table. -/
theorem readValue_scalar (fuel depth : ℕ) {c : Char} (cs : List Char) (hquote : c ≠ '\x22')
    (hlist : c ≠ '[') (htable : c ≠ '\x7b') :
    readValue (fuel + 1) depth (c :: cs) =
      match readWord? (c :: cs) with
      | some found => .ok found
      | none => readNumber (c :: cs) := by
  unfold readValue
  split
  · rename_i heq
    exact absurd (List.cons.inj heq).1 hquote
  · rename_i heq
    exact absurd (List.cons.inj heq).1 hlist
  · rename_i heq
    exact absurd (List.cons.inj heq).1 htable
  · rfl

theorem head_of_readMagnitude {neg : Bool} {whole s : List Char} {r : Value × List Char}
    (h : readMagnitude neg whole s = .ok r) : ∃ c cs, s = c :: cs ∧ c.isDigit = true := by
  unfold readMagnitude at h
  cases s with
  | nil => cases h
  | cons c cs =>
    refine ⟨c, cs, rfl, ?_⟩
    by_contra hc
    have hzero : c ≠ '0' := by
      rintro rfl
      exact hc (by decide)
    rw [intDigits?, if_neg hzero, if_neg hc] at h
    cases h

theorem readNumber_unsigned {c : Char} (h : c ≠ '-') (cs : List Char) :
    readNumber (c :: cs) = readMagnitude false (c :: cs) (c :: cs) := by
  unfold readNumber
  split
  · rename_i heq
    exact absurd (List.cons.inj heq).1 h
  · rfl

/-- No word starts with a digit, or with a sign and a digit. -/
theorem readWord?_digit {c : Char} (cs : List Char) (hc : c.isDigit = true) :
    readWord? (c :: cs) = none ∧ readWord? ('-' :: c :: cs) = none := by
  have hne : ∀ w : Char, w.isDigit = false → w ≠ c := by
    rintro w hw rfl
    rw [hc] at hw
    cases hw
  have hn := hne 'n' (by decide)
  have ht := hne 't' (by decide)
  have hf := hne 'f' (by decide)
  have hN := hne 'N' (by decide)
  have hI := hne 'I' (by decide)
  have hm := hne '-' (by decide)
  simp [readWord?, words, afterWord?, hn, ht, hf, hN, hI, hm]

/-- **A signed number reads back** as a value if its magnitude does. -/
theorem readValue_signed (fuel depth : ℕ) (neg : Bool) {s : List Char} {r : Value × List Char}
    (h : ∀ whole, readMagnitude neg whole s = .ok r) :
    readValue (fuel + 1) depth ((if neg then ['-'] else []) ++ s) = .ok r := by
  obtain ⟨c, cs, rfl, hc⟩ := head_of_readMagnitude (h [])
  obtain ⟨hword, hsigned⟩ := readWord?_digit cs hc
  have hne : ∀ d : Char, d.isDigit = false → c ≠ d := by
    rintro d hd rfl
    rw [hc] at hd
    cases hd
  cases neg with
  | true =>
    have hread := readValue_scalar fuel depth (c :: cs)
      (show '-' ≠ '\x22' by decide) (by decide) (by decide)
    rw [hsigned] at hread
    exact hread.trans (h _)
  | false =>
    have hread := readValue_scalar fuel depth cs (hne '\x22' (by decide)) (hne '[' (by decide))
      (hne '\x7b' (by decide))
    rw [hword] at hread
    exact hread.trans ((readNumber_unsigned (hne '-' (by decide)) cs).trans (h _))

/-- **An integer reads back.** -/
theorem readValue_int (fuel depth : ℕ) {n : ℤ} {rest : List Char}
    (hlen : (Nat.toDigits 10 n.natAbs).length ≤ Text.digitLimit) (hrest : Ends rest) :
    readValue (fuel + 1) depth ((toString n).toList ++ rest) = .ok (.int n, rest) := by
  cases n with
  | ofNat n =>
    have hread := readValue_signed fuel depth false fun whole =>
      readMagnitude_int false whole n hlen hrest
    have htext : (toString (Int.ofNat n)).toList = Nat.toDigits 10 n := by
      rw [show toString (Int.ofNat n) = toString n from rfl, Nat.toString_eq_ofList_toDigits,
        String.toList_ofList]
    rw [htext]
    exact hread
  | negSucc n =>
    have hread := readValue_signed fuel depth true fun whole =>
      readMagnitude_int true whole (n + 1) hlen hrest
    have htext : (toString (Int.negSucc n)).toList = '-' :: Nat.toDigits 10 (n + 1) := by
      rw [show toString (Int.negSucc n) = "-" ++ toString (n + 1) from rfl, String.toList_append,
        Nat.toString_eq_ofList_toDigits]
      simp
    rw [htext]
    exact hread

/-- The decimal of a rank reads back as the rank. -/
theorem readMagnitude_shortest (neg : Bool) (whole : List Char) (l : Double.Layout)
    {rank : Fin (Double.top + 1)} (hzero : rank.val ≠ 0) {rest : List Char} (hrest : Ends rest) :
    readMagnitude neg whole ((Double.layOut l (Double.shortest rank.val).1
      (Double.shortest rank.val).2).toList ++ rest) = .ok (.double (.signed neg rank), rest) := by
  have hne := Double.shortest_ne_zero hzero (Nat.le_of_lt_succ rank.isLt)
  rw [readMagnitude_layOut neg whole l hne _ hrest, Double.ofDecimal_shortest, Double.ofRank_val]

/-- A zero of either sign reads back. -/
theorem readMagnitude_zero (neg : Bool) (whole : List Char) {rank : Fin (Double.top + 1)}
    (hzero : rank.val = 0) {rest : List Char} (hrest : Ends rest) :
    readMagnitude neg whole ("0.0".toList ++ rest) = .ok (.double (.signed neg rank), rest) := by
  have hint := @intDigits?_append ['0'] ('.' :: (['0'] ++ rest)) (by decide) (isDigit_zeros 1)
    (Or.inl rfl) (noDigit_cons (by decide) _)
  have hread := readMagnitude_point neg whole hint (by decide) (isDigit_zeros 1) hrest.noDigit
    (power_of_ends hrest)
  have hdecimal : Double.ofDecimal neg (ofDigits (['0'] ++ ['0']))
      (0 - (['0'] : List Char).length) = .signed neg rank := by
    rw [← Double.ofRank_val, hzero]
    rfl
  rwa [hdecimal] at hread

/-- An infinity is a word with its sign. -/
theorem readValue_infinity (fuel depth : ℕ) (neg : Bool) (rest : List Char) :
    readValue (fuel + 1) depth ((if neg then ['-'] else []) ++ ("Infinity".toList ++ rest)) =
      .ok (.double (Double.infinity neg), rest) := by
  cases neg with
  | true => rfl
  | false => rfl

theorem toList_render (l : Double.Layout) (neg : Bool) (rank : Fin (Double.top + 1)) {body : String}
    (hbody : (if rank.val = Double.top then l.infinityWord
      else if rank.val = 0 then "0.0"
      else Double.layOut l (Double.shortest rank.val).1 (Double.shortest rank.val).2) = body) :
    (Double.render l (.signed neg rank)).toList = (if neg then ['-'] else []) ++ body.toList := by
  subst hbody
  cases neg with
  | true => exact String.toList_append
  | false => rfl

/-- **A double reads back**, whether it is finite or not. -/
theorem readValue_double (fuel depth : ℕ) (x : Double) {rest : List Char} (hrest : Ends rest) :
    readValue (fuel + 1) depth ((x.render Double.storedLayout).toList ++ rest) =
      .ok (.double x, rest) := by
  cases x with
  | nan => rfl
  | signed neg rank =>
    -- an infinity is a word, and a zero is written without its decimal
    by_cases htop : rank.val = Double.top
    · have hread := readValue_infinity fuel depth neg rest
      rw [Double.infinity, ← htop, Double.ofRank_val] at hread
      rw [toList_render Double.storedLayout neg rank (if_pos htop), List.append_assoc]
      exact hread
    · by_cases hzero : rank.val = 0
      · rw [toList_render Double.storedLayout neg rank ((if_neg htop).trans (if_pos hzero)),
          List.append_assoc]
        exact readValue_signed fuel depth neg fun whole => readMagnitude_zero neg whole hzero hrest
      · rw [toList_render Double.storedLayout neg rank ((if_neg htop).trans (if_neg hzero)),
          List.append_assoc]
        exact readValue_signed fuel depth neg fun whole =>
          readMagnitude_shortest neg whole Double.storedLayout hzero hrest

end Provision.Json
