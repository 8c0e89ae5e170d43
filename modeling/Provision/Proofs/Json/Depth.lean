import Provision.Proofs.Json.Sound

/-!
# Texts that are not too deep

A text is too deep for the reader only if it has more opening brackets than there are levels
(`read_ne_tooDeep`). So the reader never gives up on a text for want of fuel: every call takes a
character, or hands what it was given to a call that does, and twice the length of the text is
enough for that.
-/

namespace Provision.Json

/-- How many lists and tables are opened in a text, counting brackets in quotes, too. -/
def openings (s : List Char) : ℕ := s.countP fun c => c = '[' || c = '\x7b'

theorem openings_of_suffix {s rest : List Char} (h : rest <:+ s) : openings rest ≤ openings s :=
  h.sublist.countP_le

/-- What is left is behind at least one character of the text. -/
def Consumes (s rest : List Char) : Prop := ∃ c tail, s = c :: tail ∧ rest <:+ tail

theorem consumes_cons {c : Char} {s rest : List Char} (h : rest <:+ s) : Consumes (c :: s) rest :=
  ⟨c, s, rfl, h⟩

theorem Consumes.suffix {s rest : List Char} (h : Consumes s rest) : rest <:+ s := by
  obtain ⟨c, tail, rfl, htail⟩ := h
  exact htail.trans (List.suffix_cons c tail)

theorem Consumes.length_lt {s rest : List Char} (h : Consumes s rest) :
    rest.length < s.length := by
  obtain ⟨c, tail, rfl, htail⟩ := h
  exact Nat.lt_succ_of_le htail.length_le

theorem Consumes.leave {s rest rest' : List Char} (h : Consumes s rest) (h' : rest' <:+ rest) :
    Consumes s rest' := by
  obtain ⟨c, tail, rfl, htail⟩ := h
  exact consumes_cons (h'.trans htail)

theorem Consumes.within {s s' rest : List Char} (h : Consumes s rest) (h' : s <:+ s') :
    Consumes s' rest := by
  obtain ⟨c, tail, rfl, htail⟩ := h
  obtain ⟨front, rfl⟩ := h'
  cases front with
  | nil => exact consumes_cons htail
  | cons d front => exact consumes_cons (htail.trans ⟨front ++ [c], by simp⟩)

theorem skipBlanks_suffix (s : List Char) : skipBlanks s <:+ s := List.dropWhile_suffix _

/-- A reader gets through: it takes something of the text, or finds a fault other than its depth. -/
inductive GetsThrough {α : Type} (s : List Char) : Except Fault (α × List Char) → Prop
  | taken {a : α} {rest : List Char} (h : Consumes s rest) : GetsThrough s (.ok (a, rest))
  | faulty {f : Fault} (h : f ≠ .tooDeep) : GetsThrough s (.error f)

section GetsThrough

variable {α β : Type} {s s' rest : List Char}

theorem getsThrough_refuse (cause : Cause) (rest : List Char) :
    GetsThrough (α := α) s (refuse cause rest) := by
  refine .faulty ?_
  rintro ⟨⟩

theorem GetsThrough.within {x : Except Fault (α × List Char)} (h : GetsThrough s x)
    (hs : s <:+ s') : GetsThrough s' x := by
  cases h with
  | taken h => exact .taken (h.within hs)
  | faulty h => exact .faulty h

/-- A reader that goes on behind another one. -/
theorem GetsThrough.andThen {x : Except Fault (α × List Char)}
    {f : α × List Char → Except Fault (β × List Char)} (h : GetsThrough s x)
    (hf : ∀ a rest, Consumes s rest → GetsThrough s (f (a, rest))) :
    GetsThrough s (x >>= f) := by
  cases h with
  | taken h => exact hf _ _ h
  | faulty h => exact .faulty h

end GetsThrough

/-! ## Leaves -/

theorem suffix_of_readUnits {opened : ℕ} {acc units : List ℕ} {s rest : List Char}
    (h : readUnits opened acc s = .ok (units, rest)) : rest <:+ s := by
  fun_induction readUnits opened acc s with
  | case2 acc tail =>
    cases h
    exact List.suffix_cons _ _
  | case5 acc h₁ h₂ h₃ h₄ more unit hunit hmore hne ih =>
    exact (ih h).trans ⟨['\\', 'u', h₁, h₂, h₃, h₄], rfl⟩
  | case8 acc k tail hk ch hch hne ih => exact (ih h).trans ⟨['\\', k], rfl⟩
  | case11 acc k tail hquote hslash hcontrol ih => exact (ih h).trans (List.suffix_cons k tail)
  | _ => cases h

theorem readUnits_ne_tooDeep (opened : ℕ) (acc : List ℕ) (s : List Char) :
    readUnits opened acc s ≠ .error .tooDeep := by
  fun_induction readUnits opened acc s with
  | case5 acc h₁ h₂ h₃ h₄ more unit hunit hmore hne ih => exact ih
  | case8 acc k tail hk ch hch hne ih => exact ih
  | case11 acc k tail hquote hslash hcontrol ih => exact ih
  | _ => rintro ⟨⟩

theorem getsThrough_readText (opened : ℕ) (c : Char) (s : List Char) :
    GetsThrough (c :: s) (readText opened s) := by
  unfold readText
  cases h : readUnits opened [] s with
  | error f => exact .faulty fun hdeep => readUnits_ne_tooDeep opened [] s (hdeep ▸ h)
  | ok r => exact .taken (consumes_cons (suffix_of_readUnits h))

theorem consumes_of_intDigits? {s ds rest : List Char} (h : intDigits? s = some (ds, rest)) :
    Consumes s rest := by
  unfold intDigits? at h
  split at h
  · cases h
  split at h
  · cases h
    exact consumes_cons (List.suffix_refl _)
  split at h
  · cases h
    exact consumes_cons (List.dropWhile_suffix _)
  · cases h

theorem fractionDigits_suffix (s : List Char) : (fractionDigits s).2 <:+ s := by
  unfold fractionDigits
  split
  · split
    · exact List.suffix_refl _
    · exact (List.dropWhile_suffix _).trans (List.suffix_cons _ _)
  · exact List.suffix_refl _

theorem exponent?_suffix {s rest : List Char} {e : ℤ} (h : exponent? s = some (e, rest)) :
    rest <:+ s := by
  unfold exponent? at h
  split at h
  · cases h
  rename_i c cs
  split at h
  · -- the digits behind the sign, if there is one
    have hdigits : ∀ {neg : Bool} {ds : List Char}, ds <:+ c :: cs →
        (if (ds.takeWhile Char.isDigit).isEmpty then none
          else some (if neg then -(ofDigits (ds.takeWhile Char.isDigit) : ℤ)
            else (ofDigits (ds.takeWhile Char.isDigit) : ℤ), ds.dropWhile Char.isDigit)) =
          some (e, rest) → rest <:+ c :: cs := by
      intro neg ds hds hsome
      split at hsome
      · cases hsome
      · cases hsome
        exact (List.dropWhile_suffix _).trans hds
    refine hdigits ?_ h
    split
    · exact ⟨[c, '-'], rfl⟩
    · exact ⟨[c, '+'], rfl⟩
    · exact List.suffix_cons c _
  · cases h

theorem getsThrough_readMagnitude (neg : Bool) (whole s : List Char) :
    GetsThrough s (readMagnitude neg whole s) := by
  unfold readMagnitude
  split
  · exact getsThrough_refuse _ _
  · rename_i ds rest hds
    have hfraction := (consumes_of_intDigits? hds).leave (fractionDigits_suffix rest)
    simp only
    split
    · split
      · refine .faulty ?_
        rintro ⟨⟩
      · exact .taken hfraction
    · cases hpower : exponent? (fractionDigits rest).2 with
      | none => exact .taken hfraction
      | some power => exact .taken (hfraction.leave (exponent?_suffix hpower))

theorem getsThrough_readNumber (s : List Char) : GetsThrough s (readNumber s) := by
  unfold readNumber
  split
  · exact (getsThrough_readMagnitude true _ _).within (List.suffix_cons _ _)
  · exact getsThrough_readMagnitude false s s

theorem afterWord?_suffix {word s rest : List Char} (h : afterWord? word s = some rest) :
    rest <:+ s := by
  fun_induction afterWord? word s with
  | case1 s =>
    cases h
    exact List.suffix_refl _
  | case3 ws c cs ih => exact (ih h).trans (List.suffix_cons c cs)
  | _ => cases h

theorem consumes_of_readWord? {s rest : List Char} {v : Value} (h : readWord? s = some (v, rest)) :
    Consumes s rest := by
  obtain ⟨⟨word, w⟩, hmem, hfound⟩ := List.exists_of_findSome?_eq_some h
  obtain ⟨rest', hrest, heq⟩ := Option.map_eq_some_iff.1 hfound
  cases heq
  have hwords : ∀ e ∈ words, e.1 ≠ [] := by
    unfold words
    simp
  -- a word is not empty, so its first character is taken
  cases word with
  | nil => exact absurd rfl (hwords _ hmem)
  | cons c word =>
    cases s with
    | nil => cases hrest
    | cons d s =>
      rw [afterWord?] at hrest
      split at hrest
      · exact consumes_cons (afterWord?_suffix hrest)
      · cases hrest

/-! ## Values -/

/-- A bracket takes a level, so there is one. -/
theorem openings_inside {c : Char} {rest : List Char} {depth : ℕ} (hc : c = '[' ∨ c = '\x7b')
    (h : openings (c :: rest) ≤ depth) : depth ≠ 0 ∧ openings rest ≤ depth - 1 := by
  have hstep : openings (c :: rest) = openings rest + 1 := by
    unfold openings
    rw [List.countP_cons_of_pos (by rcases hc with rfl | rfl <;> decide)]
  omega

/-- The readers get through with this fuel: two calls for every character, and one or two more. A
list or table takes one level and its bracket, so the levels last as long as the brackets. -/
structure Fueled (fuel : ℕ) : Prop where
  value : ∀ depth s, 2 * s.length + 1 ≤ fuel → openings s ≤ depth →
    GetsThrough s (readValue fuel depth s)
  items : ∀ depth s, 2 * s.length + 2 ≤ fuel → openings s ≤ depth →
    GetsThrough s (readItems fuel depth s)
  entries : ∀ depth s, 2 * s.length + 2 ≤ fuel → openings s ≤ depth →
    GetsThrough s (readEntries fuel depth s)

section Fueled

variable {α : Type} {fuel depth : ℕ} {s rest : List Char}

/-- A call behind what was taken, from the next character that is no blank: a character was taken,
so there is enough fuel for it. -/
theorem Consumes.goOn {call : ℕ → List Char → Except Fault (α × List Char)} (h : Consumes s rest)
    (hfuel : 2 * s.length + 1 ≤ fuel + 1) (hdepth : openings rest ≤ depth)
    (hcall : ∀ depth s, 2 * s.length + 2 ≤ fuel → openings s ≤ depth →
      GetsThrough s (call depth s)) : GetsThrough s (call depth (skipBlanks rest)) := by
  have hskip := skipBlanks_suffix rest
  have hlength : (skipBlanks rest).length < s.length :=
    Nat.lt_of_le_of_lt hskip.length_le h.length_lt
  have hopenings : openings (skipBlanks rest) ≤ depth := (openings_of_suffix hskip).trans hdepth
  exact (hcall depth _ (by omega) hopenings).within (hskip.trans h.suffix)

variable (hf : Fueled fuel)
include hf

theorem Fueled.readValue_succ (hfuel : 2 * s.length + 1 ≤ fuel + 1) (hdepth : openings s ≤ depth) :
    GetsThrough s (readValue (fuel + 1) depth s) := by
  unfold readValue
  split
  · exact (getsThrough_readText _ _ _).andThen fun a rest h => .taken h
  · rename_i rest
    have hbehind : Consumes ('[' :: rest) rest := consumes_cons (List.suffix_refl _)
    obtain ⟨hne, hopenings⟩ := openings_inside (Or.inl rfl) hdepth
    rw [if_neg hne]
    split
    · rename_i last hlast
      exact .taken (hbehind.leave ((hlast ▸ List.suffix_cons _ _).trans (skipBlanks_suffix _)))
    · exact (hbehind.goOn hfuel hopenings hf.items).andThen fun a rest h => .taken h
  · rename_i rest
    have hbehind : Consumes ('\x7b' :: rest) rest := consumes_cons (List.suffix_refl _)
    obtain ⟨hne, hopenings⟩ := openings_inside (Or.inr rfl) hdepth
    rw [if_neg hne]
    split
    · rename_i last hlast
      exact .taken (hbehind.leave ((hlast ▸ List.suffix_cons _ _).trans (skipBlanks_suffix _)))
    · exact (hbehind.goOn hfuel hopenings hf.entries).andThen fun a rest h => .taken h
  · split
    · rename_i found hfound
      exact .taken (consumes_of_readWord? hfound)
    · exact getsThrough_readNumber _

theorem Fueled.readItems_succ (hfuel : 2 * s.length + 2 ≤ fuel + 1) (hdepth : openings s ≤ depth) :
    GetsThrough s (readItems (fuel + 1) depth s) := by
  rw [readItems]
  refine (hf.value depth s (by omega) hdepth).andThen fun item rest hrest => ?_
  simp only
  have hleft := hrest.leave (skipBlanks_suffix rest)
  split
  · rename_i last hlast
    exact .taken (hleft.leave (hlast ▸ List.suffix_cons _ _))
  · rename_i more hmore
    have hbehind := hleft.leave (hmore ▸ List.suffix_cons _ more)
    have hopenings := (openings_of_suffix hbehind.suffix).trans hdepth
    exact (hbehind.goOn (by omega) hopenings hf.items).andThen fun a rest h => .taken h
  · exact getsThrough_refuse _ _

theorem Fueled.readEntries_succ (hfuel : 2 * s.length + 2 ≤ fuel + 1)
    (hdepth : openings s ≤ depth) : GetsThrough s (readEntries (fuel + 1) depth s) := by
  unfold readEntries
  split
  · refine (getsThrough_readText _ _ _).andThen fun key rest hrest => ?_
    simp only
    have hleft := hrest.leave (skipBlanks_suffix rest)
    split
    · rename_i afterColon hcolon
      have hbehind := hleft.leave (hcolon ▸ List.suffix_cons _ afterColon)
      have hopenings := (openings_of_suffix hbehind.suffix).trans hdepth
      have hvalues : ∀ depth s, 2 * s.length + 2 ≤ fuel → openings s ≤ depth →
          GetsThrough s (readValue fuel depth s) := fun depth s hs => hf.value depth s (by omega)
      have hvalue := hbehind.goOn (by omega) hopenings hvalues
      refine hvalue.andThen fun value rest' hrest' => ?_
      simp only
      have hleft' := hrest'.leave (skipBlanks_suffix rest')
      split
      · rename_i last hlast
        exact .taken (hleft'.leave (hlast ▸ List.suffix_cons _ _))
      · rename_i more hmore
        have hbehind' := hleft'.leave (hmore ▸ List.suffix_cons _ more)
        have hopenings' := (openings_of_suffix hbehind'.suffix).trans hdepth
        exact (hbehind'.goOn (by omega) hopenings' hf.entries).andThen fun a rest h => .taken h
      · exact getsThrough_refuse _ _
    · exact getsThrough_refuse _ _
  · exact getsThrough_refuse _ _

end Fueled

/-- **With enough fuel and levels the readers get through.** -/
theorem fueled (fuel : ℕ) : Fueled fuel := by
  induction fuel with
  | zero =>
    refine ⟨fun depth s h => ?_, fun depth s h => ?_, fun depth s h => ?_⟩
    all_goals omega
  | succ fuel ih =>
    exact ⟨fun _ _ => ih.readValue_succ, fun _ _ => ih.readItems_succ,
      fun _ _ => ih.readEntries_succ⟩

/-- **A text with no more opening brackets than levels is not too deep.** -/
theorem read_ne_tooDeep {text : String} (h : openings text.toList ≤ Value.depthLimit) :
    read text ≠ .error .tooDeep := by
  have hskip := skipBlanks_suffix text.toList
  have hvalue := (fueled (2 * text.toList.length + 2)).value Value.depthLimit
    (skipBlanks text.toList) (by have := hskip.length_le; omega)
    ((openings_of_suffix hskip).trans h)
  have hall : readAll text.toList ≠ .error .tooDeep := by
    unfold readAll
    split
    · rintro ⟨⟩
    · generalize readValue _ _ _ = read at hvalue
      cases hvalue with
      | taken =>
        simp only [bind, Except.bind]
        split
        · rintro ⟨⟩
        · rintro ⟨⟩
      | faulty hfault => exact fun hdeep => hfault (Except.error.inj hdeep)
  show (readAll text.toList).mapError (Error.locate text.toList) ≠ .error .tooDeep
  generalize readAll text.toList = result at hall
  cases result with
  | ok v => rintro ⟨⟩
  | error f =>
    cases f with
    | malformed cause left => rintro ⟨⟩
    | tooManyDigits count => rintro ⟨⟩
    | tooDeep => exact absurd rfl hall

end Provision.Json
