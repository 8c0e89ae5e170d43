import Provision.Proofs.Json.Sound
import Provision.Proofs.Text.Plain
import Provision.Proofs.Time.Calendar
import Provision.Time.Reader

/-!
# Moments read back

A moment that is read, from a text or a number, is one of the calendar (`inCalendar_of_read`), and
the text of such a moment reads back as the same moment (`read_text`).
-/

namespace Provision.Time

open Json (NoDigit span_digits noDigit_cons isDigit_append isDigit_zeros isDigit_toDigits)

/-- A date and a time of day; the offset is a whole number of minutes, and less than a day. -/
structure Moment.Valid (m : Moment) : Prop where
  date : m.date.Valid
  hour : m.hour ≤ 23
  minute : m.minute ≤ 59
  second : m.second ≤ 59
  micro : m.micro < 1000000
  offset : ∀ o ∈ m.offset, o % 60 = 0 ∧ o.natAbs < 86400

/-- A moment of the calendar, which has no year zero. -/
structure Moment.InCalendar (m : Moment) : Prop extends m.Valid where
  year : m.date.year ≠ 0

/-! ## Digits -/

theorem isDigit_padded (width n : ℕ) : ∀ c ∈ (padded width n).toList, c.isDigit = true := by
  unfold padded
  rw [String.toList_ofList]
  exact isDigit_append (isDigit_zeros _) isDigit_toDigits

theorem length_padded {width n : ℕ} (hwidth : 0 < width) (h : n < 10 ^ width) :
    (padded width n).toList.length = width := by
  have hle := (Nat.length_toDigits_le_iff (by decide) hwidth).2 h
  unfold padded
  simp only [String.toList_ofList, List.length_append, List.length_replicate]
  omega

theorem ofDigits_padded (width n : ℕ) : Json.ofDigits (padded width n).toList = n := by
  unfold padded
  simp only [String.toList_ofList]
  rw [Json.ofDigits_zeros_append, Json.ofDigits_toDigits]

theorem digits?_append {ds : List Char} (hds : ∀ c ∈ ds, c.isDigit = true) (acc : ℕ)
    (rest : List Char) : digits? ds.length acc (ds ++ rest) =
      some (ds.foldl (fun n c => n * 10 + (c.toNat - '0'.toNat)) acc, rest) := by
  induction ds generalizing acc with
  | nil => rfl
  | cons c ds ih =>
    have hdigit : digit? c = some (c.toNat - '0'.toNat) := if_pos (hds c List.mem_cons_self)
    rw [List.length_cons, List.cons_append, digits?, hdigit, Option.bind_some,
      ih fun d hd => hds d (List.mem_cons_of_mem c hd)]
    rfl

/-- A number with a fixed count of digits reads back. -/
theorem digits?_padded {width n : ℕ} (hwidth : 0 < width) (h : n < 10 ^ width) (rest : List Char) :
    digits? width 0 ((padded width n).toList ++ rest) = some (n, rest) := by
  have hread := digits?_append (isDigit_padded width n) 0 rest
  rw [length_padded hwidth h] at hread
  rw [hread]
  exact congrArg (fun k => some (k, rest)) (ofDigits_padded width n)

/-- A fixed count of digits bounds the number they write. -/
theorem digits?_lt {count acc n : ℕ} {cs rest : List Char}
    (h : digits? count acc cs = some (n, rest)) : n < (acc + 1) * 10 ^ count := by
  induction count generalizing acc cs with
  | zero =>
    cases h
    omega
  | succ count ih =>
    cases cs with
    | nil => cases h
    | cons c cs =>
      obtain ⟨d, hd, hrest⟩ := Option.bind_eq_some_iff.1 h
      have hdigit : d < 10 := by
        unfold digit? at hd
        split at hd
        · rename_i hc
          cases hd
          exact Json.isDigit_toNat hc
        · cases hd
      have hlt := ih hrest
      have hle : (acc * 10 + d + 1) * 10 ^ count ≤ (acc + 1) * 10 * 10 ^ count :=
        Nat.mul_le_mul_right _ (by omega)
      rw [Nat.pow_succ, Nat.mul_comm (10 ^ count), ← Nat.mul_assoc]
      omega

/-! ## Dates -/

theorem length_toList_loop (bytes : ByteArray) (i : ℕ) (acc : List UInt8) :
    (ByteArray.toList.loop bytes i acc).length = acc.length + (bytes.size - i) := by
  fun_induction ByteArray.toList.loop bytes i acc with
  | case1 i acc h ih =>
    rw [ih, List.length_cons]
    omega
  | case2 i acc h =>
    rw [List.length_reverse]
    omega

theorem toPlain_of_mark_free {s : String} (h : Text.mark ∉ s.toList) : Text.toPlain s = s := by
  have hpoints : Text.points s.toList = s.toList.map .char := by
    conv_lhs => rw [← Text.spell_of_mark_free h]
    exact Text.points_spell _
  unfold Text.toPlain
  rw [hpoints, List.filterMap_map]
  have hid : Text.Point.char? ∘ Text.Point.char = some := rfl
  rw [hid, List.filterMap_some, String.ofList_toList]

/-- A text takes at least one byte for each character. -/
theorem length_encode {s : String} (h : Text.mark ∉ s.toList) :
    s.toList.length ≤ (Utf8.encode s).length := by
  have hsize : ∀ cs : List Char, cs.length ≤ (cs.flatMap String.utf8EncodeChar).length := by
    intro cs
    induction cs with
    | nil => exact Nat.le_refl 0
    | cons c cs ih =>
      have hpos := c.utf8Size_pos
      rw [List.flatMap_cons, List.length_append, String.length_utf8EncodeChar, List.length_cons]
      omega
  have hbytes : s.toUTF8.size = (s.toList.flatMap String.utf8EncodeChar).length := by
    rw [← List.size_toByteArray, ← List.utf8Encode, String.utf8Encode_toList]
    rfl
  unfold Utf8.encode
  rw [toPlain_of_mark_free h, ByteArray.toList, length_toList_loop, hbytes]
  simpa using hsize s.toList

theorem daysInMonth?_le {year month most : ℕ} (h : daysInMonth? year month = some most) :
    month ≤ 12 ∧ most ≤ 31 := by
  unfold daysInMonth? at h
  split at h
  · cases h
    split <;> omega
  split at h
  · rename_i hmonth
    cases h
    simp only [List.contains_eq_mem, List.mem_cons, List.not_mem_nil, or_false,
      decide_eq_true_eq] at hmonth
    omega
  split at h
  · rename_i hmonth
    cases h
    simp only [List.contains_eq_mem, List.mem_cons, List.not_mem_nil, or_false,
      decide_eq_true_eq] at hmonth
    omega
  · cases h

theorem dash_cons (cs : List Char) : dash ('-' :: cs) = .ok cs := rfl

/-- **The text of a date reads back**, whatever follows it. -/
theorem readDate_text {d : Date} (h : d.Valid) {text : String} {rest : List Char}
    (hmark : Text.mark ∉ text.toList)
    (htext : text.toList = (padded 4 d.year).toList ++ '-' :: ((padded 2 d.month).toList ++
      '-' :: ((padded 2 d.day).toList ++ rest))) : readDate text = .ok (d, rest) := by
  obtain ⟨most, hmost, hfirst, hlast⟩ := h.day
  obtain ⟨hmonth, hday⟩ : d.month < 10 ^ 2 ∧ d.day < 10 ^ 2 := by
    obtain ⟨hmonth, hmost⟩ := daysInMonth?_le hmost
    omega
  have hyear : d.year < 10 ^ 4 := Nat.lt_succ_of_le h.year
  -- the length is checked in bytes, and there are at least as many as characters
  have hlong : ¬ (Utf8.encode text).length < 10 := by
    have hle := length_encode hmark
    rw [htext] at hle
    simp only [List.length_append, List.length_cons, length_padded (show 0 < 4 by decide) hyear,
      length_padded (show 0 < 2 by decide) hmonth, length_padded (show 0 < 2 by decide) hday] at hle
    omega
  unfold readDate
  rw [if_neg hlong, htext, digits?_padded (by decide) hyear]
  simp only [dash_cons, digits?_padded (show 0 < 2 by decide) hmonth,
    digits?_padded (show 0 < 2 by decide) hday, hmost, bind, Except.bind, pure, Except.pure]
  rw [if_neg (by omega)]

/-- A date that is read is one of the calendar. -/
theorem valid_of_readDate {text : String} {d : Date} {rest : List Char}
    (h : readDate text = .ok (d, rest)) : d.Valid := by
  unfold readDate at h
  -- a field that is missing ends the reading with an error
  rcases hyear : digits? 4 0 text.toList with _ | ⟨year, cs⟩
  · rw [hyear] at h
    simp only at h
    split at h <;> cases h
  rw [hyear] at h
  simp only at h
  split at h
  · cases h
  obtain ⟨cs, -, h⟩ := ok_of_bind h
  rcases hmonth : digits? 2 0 cs with _ | ⟨month, cs⟩
  · simp only [hmonth] at h
    cases h
  simp only [hmonth] at h
  obtain ⟨cs, -, h⟩ := ok_of_bind h
  rcases hday : digits? 2 0 cs with _ | ⟨day, cs⟩
  · simp only [hday] at h
    cases h
  simp only [hday] at h
  rcases hmost : daysInMonth? year month with _ | most
  · simp only [hmost] at h
    cases h
  simp only [hmost] at h
  split at h
  · cases h
  · rename_i hrange
    cases h
    have hlt : year ≤ 9999 := Nat.le_of_lt_succ (digits?_lt hyear)
    have hfirst : 1 ≤ day ∧ day ≤ most := by omega
    exact ⟨hlt, most, hmost, hfirst⟩

/-! ## Times of day -/

/-- Nothing that could be taken for a fraction. -/
def NoFraction (rest : List Char) : Prop := ∀ c ∈ rest.head?, c ≠ '.' ∧ c ≠ ','

theorem micros?_padded {micro : ℕ} (h : micro < 1000000) {rest : List Char} (hrest : NoDigit rest) :
    micros? ((padded 6 micro).toList ++ rest) = some (micro, rest) := by
  have hlength := length_padded (show 0 < 6 by decide) (show micro < 10 ^ 6 from h)
  obtain ⟨htake, hdrop⟩ := span_digits (isDigit_padded 6 micro) hrest
  have hsix :
      ((padded 6 micro).toList ++ List.replicate 6 '0').take 6 = (padded 6 micro).toList := by
    rw [List.take_append_of_le_length (by omega), List.take_of_length_le (by omega)]
  have hempty : (padded 6 micro).toList.isEmpty = false := by
    rw [List.isEmpty_eq_false_iff, ← List.length_pos_iff]
    omega
  unfold micros?
  simp only [htake, hdrop, hsix, hempty, Bool.false_eq_true, if_false]
  exact congrArg (fun n => some (n, rest)) (ofDigits_padded 6 micro)

/-- Seconds as they are written: the fraction only when there is one. -/
theorem seconds?_text {second micro : ℕ} (hsecond : second ≤ 59) (hmicro : micro < 1000000)
    {rest : List Char} (hdigit : NoDigit rest) (hfraction : NoFraction rest) :
    seconds? ((padded 2 second).toList ++
      ((if micro = 0 then "" else "." ++ padded 6 micro).toList ++ rest)) =
      some ((second, micro), rest) := by
  unfold seconds?
  rw [digits?_padded (by decide) (by omega)]
  simp only [bind, Option.bind, if_neg (Nat.not_lt.2 hsecond)]
  by_cases hzero : micro = 0
  · rw [if_pos hzero, hzero]
    cases rest with
    | nil => rfl
    | cons c rest =>
      obtain ⟨hpoint, hcomma⟩ := hfraction c rfl
      split
      · rename_i heq
        exact absurd (List.cons.inj heq).1 hpoint
      · rename_i heq
        exact absurd (List.cons.inj heq).1 hcomma
      · rfl
  · have htext : ("." ++ padded 6 micro).toList = '.' :: (padded 6 micro).toList := by simp
    rw [if_neg hzero, htext, List.cons_append]
    simp only [micros?_padded hmicro hdigit]
    rfl

theorem micros?_lt {cs rest : List Char} {micro : ℕ} (h : micros? cs = some (micro, rest)) :
    micro < 1000000 := by
  unfold micros? at h
  simp only at h
  split at h
  · cases h
  · cases h
    set six := (cs.takeWhile Char.isDigit ++ List.replicate 6 '0').take 6 with hsix
    have hdigits : ∀ c ∈ six, c.isDigit = true := by
      intro c hc
      have hmem := List.mem_of_mem_take hc
      exact isDigit_append (List.all_eq_true.1 List.all_takeWhile) (isDigit_zeros 6) c hmem
    have hlength : six.length = 6 := by
      rw [hsix, List.length_take, List.length_append, List.length_replicate]
      omega
    have hlt := Json.ofDigits_lt hdigits
    rw [hlength] at hlt
    exact hlt

theorem seconds?_bounds {cs rest : List Char} {second micro : ℕ}
    (h : seconds? cs = some ((second, micro), rest)) : second ≤ 59 ∧ micro < 1000000 := by
  unfold seconds? at h
  obtain ⟨⟨found, cs⟩, -, h⟩ := Option.bind_eq_some_iff.1 h
  simp only at h
  split at h
  · cases h
  · rename_i hsecond
    split at h
    · obtain ⟨⟨fraction, cs⟩, hfraction, h⟩ := Option.bind_eq_some_iff.1 h
      cases h
      exact ⟨Nat.not_lt.1 hsecond, micros?_lt hfraction⟩
    · obtain ⟨⟨fraction, cs⟩, hfraction, h⟩ := Option.bind_eq_some_iff.1 h
      cases h
      exact ⟨Nat.not_lt.1 hsecond, micros?_lt hfraction⟩
    · cases h
      exact ⟨Nat.not_lt.1 hsecond, by decide⟩

/-- The hour, minute, second and microsecond that are read are those of a day. -/
theorem clock?_bounds {cs rest : List Char} {c : Clock} (h : clock? cs = some (c, rest)) :
    c.hour ≤ 23 ∧ c.minute ≤ 59 ∧ c.second ≤ 59 ∧ c.micro < 1000000 := by
  unfold clock? at h
  obtain ⟨⟨hour, cs⟩, -, h⟩ := Option.bind_eq_some_iff.1 h
  simp only at h
  split at h
  · obtain ⟨⟨minute, cs⟩, -, h⟩ := Option.bind_eq_some_iff.1 h
    simp only at h
    split at h
    · cases h
    · rename_i hrange
      obtain ⟨hhour, hminute⟩ : hour ≤ 23 ∧ minute ≤ 59 := by omega
      split at h
      · obtain ⟨⟨⟨second, micro⟩, cs⟩, hseconds, h⟩ := Option.bind_eq_some_iff.1 h
        cases h
        exact ⟨hhour, hminute, seconds?_bounds hseconds⟩
      · cases h
        exact ⟨hhour, hminute, Nat.zero_le 59, Nat.succ_pos _⟩
  · cases h

/-- A time of day as it is written. -/
theorem clock?_text {c : Clock} (hhour : c.hour ≤ 23) (hminute : c.minute ≤ 59)
    (hsecond : c.second ≤ 59) (hmicro : c.micro < 1000000) {rest : List Char}
    (hdigit : NoDigit rest) (hfraction : NoFraction rest) :
    clock? ((padded 2 c.hour).toList ++ ':' :: ((padded 2 c.minute).toList ++
      ':' :: ((padded 2 c.second).toList ++
        ((if c.micro = 0 then "" else "." ++ padded 6 c.micro).toList ++ rest)))) =
      some (c, rest) := by
  unfold clock?
  rw [digits?_padded (by decide) (by omega)]
  simp only [bind, Option.bind]
  rw [digits?_padded (by decide) (by omega)]
  simp only [seconds?_text hsecond hmicro hdigit hfraction]
  rw [if_neg (by omega)]
  rfl

/-! ## Offsets -/

theorem toList_offsetText {o : ℤ} (h : o % 60 = 0) :
    (offsetText o).toList = (if o < 0 then '-' else '+') :: ((padded 2 (o.natAbs / 3600)).toList ++
      ':' :: (padded 2 (o.natAbs / 60 % 60)).toList) := by
  unfold offsetText
  have hwhole : o.natAbs % 60 = 0 := by omega
  simp only [if_pos hwhole, String.toList_append]
  split <;> simp

/-- An offset as it is written. -/
theorem offset?_text {o : ℤ} (h : o % 60 = 0 ∧ o.natAbs < 86400) :
    offset? (offsetText o).toList = some (some o) := by
  have hhours : o.natAbs / 3600 < 10 ^ 2 := by omega
  have hminutes : o.natAbs / 60 % 60 < 10 ^ 2 := by omega
  have hrange : ¬ (59 < o.natAbs / 60 % 60 ∨ 23 < o.natAbs / 3600) := by omega
  have hsum : o.natAbs / 3600 * 3600 + o.natAbs / 60 % 60 * 60 = o.natAbs := by omega
  have hread := digits?_padded (show 0 < 2 by decide) hminutes []
  rw [List.append_nil] at hread
  rw [toList_offsetText h.1]
  unfold offset?
  split
  · rename_i heq
    cases heq
  · rename_i heq
    simp at heq
  · rename_i heq
    simp at heq
  · rename_i sign cs _ _ heq
    obtain ⟨rfl, rfl⟩ := List.cons.inj heq
    rw [digits?_padded (by decide) hhours]
    simp only [bind, Option.bind, hread, ne_eq, not_true_eq_false, false_or, if_neg hrange, hsum]
    by_cases hneg : o < 0
    · rw [if_pos hneg]
      exact congrArg (fun n => some (some n)) (show -(o.natAbs : ℤ) = o by omega)
    · rw [if_neg hneg]
      exact congrArg (fun n => some (some n)) (show (o.natAbs : ℤ) = o by omega)

/-- An offset that is read is a whole number of minutes, and less than a day. -/
theorem offset?_bounds {cs : List Char} {offset : Option ℤ} (h : offset? cs = some offset) :
    ∀ o ∈ offset, o % 60 = 0 ∧ o.natAbs < 86400 := by
  intro o ho
  unfold offset? at h
  split at h
  · cases h
    cases ho
  · cases h
    cases ho
    decide
  · cases h
    cases ho
    decide
  · split at h
    · cases h
    · obtain ⟨⟨hours, cs⟩, -, h⟩ := Option.bind_eq_some_iff.1 h
      obtain ⟨⟨minutes, cs⟩, -, h⟩ := Option.bind_eq_some_iff.1 h
      simp only at h
      split at h
      · cases h
      · rename_i hrange
        cases h
        cases ho
        split <;> omega

/-! ## Moments -/

/-- The text of a moment holds digits and a few marks only. -/
theorem mark_not_mem_text (m : Moment) : Text.mark ∉ m.text.toList := by
  have hpadded : ∀ width n : ℕ, Text.mark ∉ (padded width n).toList := fun width n hmark =>
    absurd (isDigit_padded width n _ hmark) (by decide)
  have hsigns : Text.mark ≠ '-' ∧ Text.mark ≠ '+' ∧ Text.mark ≠ ':' ∧ Text.mark ≠ ' ' ∧
      Text.mark ≠ '.' := by decide
  obtain ⟨hminus, hplus, hcolon, hspace, hpoint⟩ := hsigns
  have hfraction : Text.mark ∉ (if m.micro = 0 then "" else "." ++ padded 6 m.micro).toList := by
    split <;> simp [hpadded, hpoint]
  have hoffset : Text.mark ∉ ((m.offset.map offsetText).getD "").toList := by
    cases m.offset with
    | none => simp
    | some o =>
      unfold offsetText
      simp only [Option.map_some, Option.getD_some]
      split <;> split <;> simp [hpadded, hminus, hplus, hcolon]
  unfold Moment.text
  simp [hpadded, hminus, hcolon, hspace, hfraction, hoffset]

theorem plain_text (m : Moment) : Text.IsPlain m.text :=
  Text.isPlain_of_mark_free (mark_not_mem_text m)

/-- What ends the text of a moment is its offset, which nothing before it can take for its own. -/
theorem offset_end {m : Moment} (h : m.Valid) {rest : List Char}
    (hrest : rest = ((m.offset.map offsetText).getD "").toList) :
    NoDigit rest ∧ NoFraction rest ∧ offset? rest = some m.offset := by
  subst hrest
  cases hoffset : m.offset with
  | none => exact ⟨nofun, nofun, rfl⟩
  | some o =>
    have hbounds := h.offset o hoffset
    refine ⟨?_, ?_, offset?_text hbounds⟩
    · simp only [Option.map_some, Option.getD_some, toList_offsetText hbounds.1]
      split
      · exact noDigit_cons (by decide) _
      · exact noDigit_cons (by decide) _
    · simp only [Option.map_some, Option.getD_some, toList_offsetText hbounds.1]
      intro c hc
      cases hc
      split <;> decide

theorem toList_text (m : Moment) : m.text.toList = (padded 4 m.date.year).toList ++
    '-' :: ((padded 2 m.date.month).toList ++ '-' :: ((padded 2 m.date.day).toList ++
      ' ' :: ((padded 2 m.hour).toList ++ ':' :: ((padded 2 m.minute).toList ++
        ':' :: ((padded 2 m.second).toList ++
          ((if m.micro = 0 then "" else "." ++ padded 6 m.micro).toList ++
            ((m.offset.map offsetText).getD "").toList)))))) := by
  unfold Moment.text
  simp only [String.toList_append, List.append_assoc]
  rfl

/-- **The text of a moment reads back** as a date with a time of day. -/
theorem dateTime?_text {m : Moment} (h : m.Valid) : dateTime? m.text = some m := by
  obtain ⟨hdigit, hfraction, hoffset⟩ := offset_end h rfl
  have hclock := @clock?_text ⟨m.hour, m.minute, m.second, m.micro⟩ h.hour h.minute h.second h.micro
    _ hdigit hfraction
  unfold dateTime?
  rw [readDate_text h.date (mark_not_mem_text m) (toList_text m)]
  simp only [show isSeparator ' ' = true from rfl, if_true, bind, hclock, Option.bind_some, hoffset]
  rfl

/-- **A moment of the calendar reads back** from its text. -/
theorem read_text {m : Moment} (h : m.InCalendar) : read (.text m.text) = .ok m := by
  have htext : readText m.text = .ok m := by
    unfold readText
    simp only [dateTime?_text h.toValid]
  unfold read
  simp only [(plain_text m).hasHalf, Bool.false_eq_true, if_false, htext]
  exact if_neg h.year

/-! ## What is read is a moment of the calendar -/

theorem valid_of_dateTime? {text : String} {m : Moment} (h : dateTime? text = some m) :
    m.Valid := by
  unfold dateTime? at h
  split at h
  · cases h
  · rename_i date sep cs hdate
    split at h
    · obtain ⟨⟨clock, cs⟩, hclock, h⟩ := Option.bind_eq_some_iff.1 h
      obtain ⟨offset, hoffset, h⟩ := Option.bind_eq_some_iff.1 h
      cases h
      obtain ⟨hhour, hminute, hsecond, hmicro⟩ := clock?_bounds hclock
      exact ⟨valid_of_readDate hdate, hhour, hminute, hsecond, hmicro, offset?_bounds hoffset⟩
    · cases h
  · cases h

/-- A count of seconds within the calendar gives a valid moment. -/
theorem valid_of_ofSeconds {seconds : ℤ} {micros : ℕ} {m : Moment}
    (h : ofSeconds seconds micros = .ok m) : m.Valid := by
  unfold ofSeconds at h
  simp only at h
  split at h
  · cases h
  split at h
  · cases h
  · rename_i hfirst hlast
    cases h
    unfold firstSecond at hfirst
    unfold lastSecond at hlast
    -- the fields depend on the whole seconds only
    generalize seconds + (micros / 1000000 : ℕ) = whole at hfirst hlast
    have hwhole : (whole * 1000000 + (micros % 1000000 : ℕ)) / 1000000 = whole := by omega
    unfold Moment.ofMicros
    simp only [hwhole]
    refine ⟨dateOfDays_valid (by omega) (by omega), ?_, ?_, ?_, ?_, ?_⟩
    · simp only
      omega
    · simp only
      omega
    · simp only
      omega
    · simp only
      omega
    · intro o ho
      cases ho
      decide

theorem valid_of_ofMillis {millis : ℤ} {micros : ℕ} {m : Moment}
    (h : ofMillis millis micros = .ok m) : m.Valid := valid_of_ofSeconds h

theorem valid_of_ofInteger {stamp : ℤ} {m : Moment} (h : ofInteger stamp = .ok m) : m.Valid := by
  unfold ofInteger at h
  split at h
  · exact valid_of_ofSeconds h
  · exact valid_of_ofMillis h

theorem valid_of_ofDouble {x : Double} {m : Moment} (h : ofDouble x = .ok m) : m.Valid := by
  unfold ofDouble at h
  split at h
  · simp only at h
    split at h
    · exact valid_of_ofSeconds h
    · exact valid_of_ofMillis h
  · split at h
    · cases h
    · exact valid_of_ofInteger h

theorem valid_of_readText {text : String} {m : Moment} (h : readText text = .ok m) : m.Valid := by
  unfold readText at h
  simp only at h
  split at h
  · rename_i found hfound
    cases h
    exact valid_of_dateTime? hfound
  split at h
  · exact valid_of_ofInteger h
  split at h
  · rename_i found hfound
    cases h
    obtain ⟨x, -, hx⟩ := Option.bind_eq_some_iff.1 hfound
    cases hdouble : ofDouble x with
    | error why =>
      rw [hdouble] at hx
      cases hx
    | ok n =>
      rw [hdouble] at hx
      cases hx
      exact valid_of_ofDouble hdouble
  · obtain ⟨⟨date, rest⟩, hdate, h⟩ := ok_of_bind h
    simp only at h
    split at h
    · cases h
      exact ⟨valid_of_readDate hdate, Nat.zero_le 23, Nat.zero_le 59, Nat.zero_le 59,
        Nat.succ_pos _, nofun⟩
    · cases h

theorem Moment.Valid.inCalendar {found m : Moment} (hvalid : found.Valid)
    (h : inCalendar found = .ok m) : m.InCalendar := by
  unfold Time.inCalendar at h
  split at h
  · cases h
  · rename_i hyear
    cases h
    exact ⟨hvalid, hyear⟩

/-- **A moment that is read is one of the calendar.** -/
theorem inCalendar_of_read {v : Value} {m : Moment} (h : read v = .ok m) : m.InCalendar := by
  unfold read at h
  simp only at h
  split at h
  · split at h
    · cases h
    · obtain ⟨found, hfound, h⟩ := ok_of_bind h
      exact (valid_of_readText (ok_of_mapError hfound)).inCalendar h
  · obtain ⟨found, hfound, h⟩ := ok_of_bind h
    unfold readInteger at hfound
    split at hfound
    · cases hfound
    · exact (valid_of_ofInteger (ok_of_mapError hfound)).inCalendar h
  · obtain ⟨found, hfound, h⟩ := ok_of_bind h
    exact (valid_of_ofDouble (ok_of_mapError hfound)).inCalendar h
  · cases h

end Provision.Time
