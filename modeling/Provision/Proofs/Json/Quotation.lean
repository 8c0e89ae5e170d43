import Mathlib.Data.Nat.Notation
import Provision.Json.Reader
import Provision.Json.Writer
import Provision.Proofs.Text.Plain

/-!
# Quoted texts read back

A character is written as itself, as a short escape, or as one or two 16-bit units (`unitsOf`).
The reader collects the same units from each of these (`readUnits_escapeChar`), and joining the
units of characters gives the characters (`joinUnits_units`). So a plain text that is quoted reads
back (`readText_quote`).
-/

namespace Provision.Json

open Text

/-- The 16-bit units of a character: itself, or a surrogate pair. -/
def unitsOf (c : Char) : List ℕ :=
  if c.toNat < 0x10000 then [c.toNat]
  else [0xD800 + (c.toNat - 0x10000) / 0x400, 0xDC00 + (c.toNat - 0x10000) % 0x400]

/-! ## Hexadecimal escapes -/

theorem hexDigit?_digitChar : ∀ d < 16, hexDigit? (Nat.digitChar d) = some d := by decide

/-- Four hexadecimal digits, with zeros in front. -/
theorem hex_four {n : ℕ} (h : n < 0x10000) :
    hex 4 n = [Nat.digitChar (n / 4096), Nat.digitChar (n / 256 % 16), Nat.digitChar (n / 16 % 16),
      Nat.digitChar (n % 16)] := by
  have hzero : Nat.digitChar 0 = '0' := rfl
  unfold hex
  -- by the number of digits: those that are missing are zeros
  by_cases h₁ : n < 16
  · rw [Nat.toDigits_of_lt_base h₁, show n / 4096 = 0 by omega, show n / 256 % 16 = 0 by omega,
      show n / 16 % 16 = 0 by omega, show n % 16 = n by omega, hzero]
    rfl
  rw [Nat.toDigits_of_base_le (by decide) (by omega)]
  by_cases h₂ : n < 256
  · rw [Nat.toDigits_of_lt_base (by omega), show n / 4096 = 0 by omega,
      show n / 256 % 16 = 0 by omega, show n / 16 % 16 = n / 16 by omega, hzero]
    rfl
  rw [Nat.toDigits_of_base_le (by decide) (by omega), Nat.div_div_eq_div_mul]
  by_cases h₃ : n < 4096
  · rw [Nat.toDigits_of_lt_base (by omega), show n / 4096 = 0 by omega,
      show n / 256 % 16 = n / 256 by omega, hzero]
    rfl
  rw [Nat.toDigits_of_base_le (by decide) (by omega), Nat.div_div_eq_div_mul,
    Nat.toDigits_of_lt_base (by omega)]
  rfl

/-- The reader takes an escape as the unit that was written, if something follows it. -/
theorem readUnits_unitEscape (opened : ℕ) (acc : List ℕ) {unit : ℕ} (hunit : unit < 0x10000)
    {rest : List Char} (hrest : rest ≠ []) :
    readUnits opened acc (unitEscape unit ++ rest) = readUnits opened (unit :: acc) rest := by
  have hhex : hex4? (Nat.digitChar (unit / 4096)) (Nat.digitChar (unit / 256 % 16))
      (Nat.digitChar (unit / 16 % 16)) (Nat.digitChar (unit % 16)) = some unit := by
    unfold hex4?
    rw [hexDigit?_digitChar _ (by omega), hexDigit?_digitChar _ (by omega),
      hexDigit?_digitChar _ (by omega), hexDigit?_digitChar _ (by omega)]
    simp only [Option.bind_eq_bind, Option.bind_some, Option.pure_def, Option.some.injEq]
    omega
  have hempty : rest.isEmpty = false := List.isEmpty_eq_false_iff.2 hrest
  unfold unitEscape
  rw [hex_four hunit]
  simp only [List.cons_append, List.nil_append]
  rw [readUnits.eq_def]
  simp [hhex, hempty]

/-- Two escapes in a row are a surrogate pair. -/
theorem readUnits_pairEscape (opened : ℕ) (acc : List ℕ) {n : ℕ} (hn : n < 0x100000)
    {rest : List Char} (hrest : rest ≠ []) :
    readUnits opened acc
        (unitEscape (0xD800 + n / 0x400) ++ unitEscape (0xDC00 + n % 0x400) ++ rest)
      = readUnits opened ([0xD800 + n / 0x400, 0xDC00 + n % 0x400].reverse ++ acc) rest := by
  have hsecond : unitEscape (0xDC00 + n % 0x400) ++ rest ≠ [] :=
    List.append_ne_nil_of_right_ne_nil _ hrest
  rw [List.append_assoc, readUnits_unitEscape opened acc (by omega) hsecond,
    readUnits_unitEscape opened _ (by omega) hrest, List.reverse_cons, List.reverse_singleton,
    List.singleton_append, List.cons_append, List.singleton_append]

/-! ## Characters -/

theorem char_valid (c : Char) :
    c.toNat < 0xD800 ∨ 0xDFFF < c.toNat ∧ c.toNat < 0x110000 := c.valid

theorem unitsOf_small {c : Char} (h : c.toNat < 0x10000) : unitsOf c = [c.toNat] := if_pos h

/-- A backslash and a letter stand for one unit. -/
theorem readUnits_simpleEscape (opened : ℕ) (acc : List ℕ) {k c : Char} (hk : k ≠ 'u')
    (hc : simpleEscape? k = some c) (hsmall : c.toNat < 0x10000) (rest : List Char) :
    readUnits opened acc (['\\', k] ++ rest) =
      readUnits opened ((unitsOf c).reverse ++ acc) rest := by
  rw [List.cons_append, List.singleton_append, readUnits.eq_def, unitsOf_small hsmall]
  simp [hk, hc]

/-- **The reader takes the units of a character** from what is written for it. -/
theorem readUnits_escapeChar (opened : ℕ) (acc : List ℕ) (c : Char) {rest : List Char}
    (hrest : rest ≠ []) :
    readUnits opened acc (escapeChar c ++ rest) =
      readUnits opened ((unitsOf c).reverse ++ acc) rest := by
  have hsimple := fun (k d : Char) (h : k ≠ 'u' ∧ simpleEscape? k = some d ∧ d.toNat < 0x10000) =>
    readUnits_simpleEscape opened acc h.1 h.2.1 h.2.2 rest
  unfold escapeChar
  -- the seven characters with a letter of their own
  split
  · subst c
    exact hsimple '\x22' '\x22' (by decide)
  split
  · subst c
    exact hsimple '\\' '\\' (by decide)
  split
  · subst c
    exact hsimple 'n' '\n' (by decide)
  split
  · subst c
    exact hsimple 'r' '\r' (by decide)
  split
  · subst c
    exact hsimple 't' '\t' (by decide)
  split
  · subst c
    exact hsimple 'b' '\x08' (by decide)
  split
  · subst c
    exact hsimple 'f' '\x0c' (by decide)
  -- a printable character, then any other one by its units
  split
  · rename_i hquote hslash _ _ _ _ _ hascii
    rw [unitsOf_small (by omega), List.singleton_append, readUnits.eq_def]
    simp [hquote, hslash, Nat.not_lt.2 hascii.1]
  unfold unitsOf
  split
  · rename_i hunit
    exact readUnits_unitEscape opened acc hunit hrest
  · rename_i hunit
    have hvalid := char_valid c
    exact readUnits_pairEscape opened acc (by omega) hrest

/-- The reader takes the units of characters up to the closing quote. -/
theorem readUnits_characters (opened : ℕ) (acc : List ℕ) (cs rest : List Char) :
    readUnits opened acc (cs.flatMap escapeChar ++ '\x22' :: rest) =
      .ok (acc.reverse ++ cs.flatMap unitsOf, rest) := by
  induction cs generalizing acc with
  | nil =>
    rw [List.flatMap_nil, List.nil_append, readUnits.eq_def]
    simp
  | cons c cs ih =>
    rw [List.flatMap_cons, List.append_assoc, readUnits_escapeChar opened acc c (by simp), ih]
    simp

/-! ## Joining units -/

theorem not_surrogate (c : Char) :
    isHighSurrogate c.toNat = false ∧ isLowSurrogate c.toNat = false := by
  have hvalid := char_valid c
  unfold isHighSurrogate isLowSurrogate
  simp only [Bool.and_eq_false_iff, decide_eq_false_iff_not]
  omega

/-- A unit that is a character stands for itself. -/
theorem joinUnits_char {c : Char} (units : List ℕ) :
    joinUnits (c.toNat :: units) = c :: joinUnits units := by
  obtain ⟨hhigh, hlow⟩ := not_surrogate c
  have hspell : spellUnit c.toNat = [c] := by
    unfold spellUnit
    rw [hhigh, hlow]
    simp
  cases units with
  | nil => exact hspell
  | cons v rest =>
    rw [joinUnits, hhigh, hspell]
    rfl

/-- **Joining the units of characters gives the characters.** -/
theorem joinUnits_units (cs : List Char) : joinUnits (cs.flatMap unitsOf) = spell cs := by
  induction cs with
  | nil => rfl
  | cons c cs ih =>
    rw [List.flatMap_cons, spell_cons, unitsOf]
    split
    · rename_i hunit
      -- the mark is no single unit
      have hmark : c ≠ mark := by
        rintro rfl
        exact absurd hunit (by decide)
      rw [List.singleton_append, joinUnits_char, ih, spelling_of_ne_mark hmark]
      rfl
    · rename_i hunit
      have hvalid := char_valid c
      have hpair : charOfPair (0xD800 + (c.toNat - 0x10000) / 0x400)
          (0xDC00 + (c.toNat - 0x10000) % 0x400) = c := by
        unfold charOfPair
        rw [show 0x10000 + (0xD800 + (c.toNat - 0x10000) / 0x400 - 0xD800) * 0x400 +
          (0xDC00 + (c.toNat - 0x10000) % 0x400 - 0xDC00) = c.toNat by omega, Char.ofNat_toNat]
      have hsurrogates : (isHighSurrogate (0xD800 + (c.toNat - 0x10000) / 0x400) &&
          isLowSurrogate (0xDC00 + (c.toNat - 0x10000) % 0x400)) = true := by
        unfold isHighSurrogate isLowSurrogate
        simp only [Bool.and_eq_true, decide_eq_true_eq]
        omega
      rw [List.cons_append, List.singleton_append, joinUnits, hsurrogates, if_pos rfl, hpair, ih]

/-- **A plain text that is quoted reads back**, whatever follows it. -/
theorem readText_quote {s : String} (h : IsPlain s) (rest : List Char) :
    ∃ tail, (quote s).toList ++ rest = '\x22' :: tail ∧
      ∀ opened, readText opened tail = .ok (s, rest) := by
  obtain ⟨cs, hcs⟩ := isPlain_iff.1 h
  have hescape : (points s.toList).flatMap escape = cs.flatMap escapeChar := by
    rw [hcs, points_spell, List.flatMap_map]
    rfl
  refine ⟨cs.flatMap escapeChar ++ '\x22' :: rest, ?_, fun opened => ?_⟩
  · unfold quote
    rw [String.toList_ofList, hescape, List.cons_append, List.append_assoc, List.singleton_append]
  · unfold readText
    rw [readUnits_characters, List.reverse_nil, List.nil_append]
    simp only [Except.map, joinUnits_units, ← hcs, String.ofList_toList]

end Provision.Json
