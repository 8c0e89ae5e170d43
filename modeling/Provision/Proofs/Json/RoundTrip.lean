import Mathlib.Data.List.Forall2
import Provision.Proofs.Except
import Provision.Proofs.Json.Number
import Provision.Proofs.Json.Quotation
import Provision.Proofs.Value.Nested

/-!
# Documents read back

The text of a value **reads back** (`Reads`) if the reader takes exactly that text from whatever it
stands in front of, and finds the value. Leaves do so by what is known about texts and numbers; a
list or table does so if its items or entries do (`reads_list`, `reads_table`). By induction over
the value, what is read from the text of a value is the value as it is stored (`read_write`).

Nothing here depends on the layout, as long as only blanks stand around items (`Layout.Spaced`).
-/

namespace Provision.Json

open Text

/-! ## Blanks -/

/-- Nothing but blanks. -/
def Blanks (gap : List Char) : Prop := ∀ c ∈ gap, isBlank c = true

theorem skipBlanks_append {gap : List Char} (h : Blanks gap) (s : List Char) :
    skipBlanks (gap ++ s) = skipBlanks s :=
  List.dropWhile_append_of_pos h

theorem skipBlanks_cons {c : Char} (h : isBlank c = false) (cs : List Char) :
    skipBlanks (c :: cs) = c :: cs :=
  List.dropWhile_cons_of_neg (by simp [h])

theorem ends_cons {c : Char} (hc : c = ',' ∨ c = ']' ∨ c = '\x7d') (rest : List Char) :
    Ends (c :: rest) := by
  intro d hd
  cases hd
  exact Or.inr hc

/-- Blanks, and a comma or closing bracket behind them. -/
theorem ends_append {gap : List Char} (h : Blanks gap) {c : Char}
    (hc : c = ',' ∨ c = ']' ∨ c = '\x7d') (rest : List Char) : Ends (gap ++ c :: rest) := by
  cases gap with
  | nil => exact ends_cons hc rest
  | cons d gap =>
    intro e he
    cases he
    exact Or.inl (h d List.mem_cons_self)

theorem ends_nil : Ends [] := by
  intro c hc
  cases hc

/-- A layout with blanks only around the items, and one comma between two of them. -/
structure Layout.Spaced (l : Layout) : Prop where
  opening : ∀ depth, Blanks (l.opening depth).toList
  between : ∀ depth, ∃ gap, (l.between depth).toList = ',' :: gap ∧ Blanks gap
  closing : ∀ depth, Blanks (l.closing depth).toList

theorem blanks_newLine (depth : ℕ) : Blanks (newLine depth).toList := by
  intro c hc
  unfold newLine at hc
  rw [String.toList_ofList] at hc
  rcases List.mem_cons.1 hc with rfl | hc
  · rfl
  · rw [List.eq_of_mem_replicate hc]
    rfl

theorem Layout.indented_spaced : Layout.indented.Spaced where
  opening depth := blanks_newLine (depth + 1)
  between depth := ⟨(newLine (depth + 1)).toList, String.toList_append, blanks_newLine (depth + 1)⟩
  closing depth := blanks_newLine depth

theorem Layout.oneLine_spaced : Layout.oneLine.Spaced where
  opening _ := List.forall_mem_nil _
  between _ := ⟨[' '], show ", ".toList = [',', ' '] from rfl, List.forall_mem_singleton.2 rfl⟩
  closing _ := List.forall_mem_nil _

/-! ## Texts that read back -/

/-- The reader takes exactly this text, and finds the value. Twice its length is fuel enough. -/
def Reads (depth : ℕ) (text : List Char) (v : Value) : Prop :=
  ∀ fuel rest, 2 * text.length ≤ fuel + 1 → Ends rest →
    readValue fuel depth (text ++ rest) = .ok (v, rest)

/-- A character that can open a value. -/
def Opens (c : Char) : Prop := isBlank c = false ∧ c ≠ ']' ∧ c ≠ '\uFEFF'

/-- Nothing is read from a character that is no digit and opens no word, text, list or table. -/
theorem readValue_stranger (fuel depth : ℕ) {c : Char} (cs : List Char)
    (hc : c.isDigit = false) (hother : c ∉ ['\x22', '[', '\x7b', '-', 'n', 't', 'f', 'N', 'I'])
    (r : Value × List Char) : readValue (fuel + 1) depth (c :: cs) ≠ .ok r := by
  simp only [List.mem_cons, List.not_mem_nil, or_false, not_or] at hother
  obtain ⟨hquote, hlist, htable, hminus, hn, ht, hf, hN, hI⟩ := hother
  have hword : readWord? (c :: cs) = none := by
    simp [readWord?, words, afterWord?, Ne.symm hn, Ne.symm ht, Ne.symm hf, Ne.symm hN, Ne.symm hI,
      Ne.symm hminus]
  rw [readValue_scalar fuel depth cs hquote hlist htable, hword]
  intro h
  -- so it would have to be a number, which starts with a digit
  have hnumber : readMagnitude false (c :: cs) (c :: cs) = .ok r := by
    rw [← readNumber_unsigned hminus]
    exact h
  obtain ⟨d, ds, heq, hd⟩ := head_of_readMagnitude hnumber
  rw [← (List.cons.inj heq).1, hc] at hd
  cases hd

/-- A value opens with neither a blank nor a closing bracket. -/
theorem opens_of_readValue {fuel depth : ℕ} {s : List Char} {r : Value × List Char}
    (h : readValue fuel depth s = .ok r) : ∃ c cs, s = c :: cs ∧ Opens c := by
  cases fuel with
  | zero =>
    rw [readValue] at h
    cases h
  | succ fuel =>
    cases s with
    | nil =>
      have hempty : readValue (fuel + 1) depth [] = refuse .expectingValue [] := rfl
      rw [hempty] at h
      cases h
    | cons c cs =>
      refine ⟨c, cs, rfl, ?_, ?_, ?_⟩
      · by_contra hblank
        unfold isBlank at hblank
        simp only [Bool.not_eq_false, Bool.or_eq_true, decide_eq_true_eq] at hblank
        rcases hblank with ((rfl | rfl) | rfl) | rfl
        all_goals exact readValue_stranger fuel depth cs (by decide) (by decide) r h
      · rintro rfl
        exact readValue_stranger fuel depth cs (by decide) (by decide) r h
      · rintro rfl
        exact readValue_stranger fuel depth cs (by decide) (by decide) r h

theorem Reads.opens {depth : ℕ} {text : List Char} {v : Value} (h : Reads depth text v) :
    ∃ c cs, text = c :: cs ∧ Opens c := by
  have hread := h (2 * text.length) [] (Nat.le_succ _) ends_nil
  rw [List.append_nil] at hread
  exact opens_of_readValue hread

theorem Reads.skipBlanks {depth : ℕ} {text : List Char} {v : Value} (h : Reads depth text v)
    (rest : List Char) : skipBlanks (text ++ rest) = text ++ rest := by
  obtain ⟨c, cs, rfl, hc⟩ := h.opens
  exact skipBlanks_cons hc.1 _

/-! ## Series -/

/-- Texts that are listed with commas and blanks between them. -/
def listed (gap : List Char) (texts : List (List Char)) : List Char :=
  (',' :: gap).intercalate texts

theorem listed_cons (gap t u : List Char) (texts : List (List Char)) :
    listed gap (t :: u :: texts) = t ++ ',' :: (gap ++ listed gap (u :: texts)) := by
  unfold listed
  rw [List.intercalate_cons_cons, List.append_assoc, List.cons_append]

theorem listed_singleton (gap t : List Char) : listed gap [t] = t := List.intercalate_singleton

/-- What is listed opens as its first text does. -/
theorem listed_opens {gap : List Char} {t : List Char} {c : Char} {cs : List Char}
    (ht : t = c :: cs) (texts : List (List Char)) : ∃ ds, listed gap (t :: texts) = c :: ds := by
  subst ht
  cases texts with
  | nil => exact ⟨cs, listed_singleton gap _⟩
  | cons u texts => exact ⟨_, listed_cons gap _ u texts⟩

/-- A reader of one or more parts up to a closing character, by what it does with a text that is a
part: it reads on behind a comma. -/
structure Series {α : Type} (read : ℕ → List Char → Except Fault (List α × List Char))
    (close : Char) (Part : List Char → α → Prop) : Prop where
  closes : close = ']' ∨ close = '\x7d'
  opens : ∀ {text : List Char} {a : α}, Part text a →
    ∃ c cs, text = c :: cs ∧ isBlank c = false ∧ c ≠ close
  last : ∀ {fuel : ℕ} {text rest last : List Char} {a : α}, Part text a →
    2 * text.length ≤ fuel + 1 → Ends rest → skipBlanks rest = close :: last →
    read (fuel + 1) (text ++ rest) = .ok ([a], last)
  more : ∀ {fuel : ℕ} {text rest more last : List Char} {a : α} {as : List α}, Part text a →
    2 * text.length ≤ fuel + 1 → Ends rest → skipBlanks rest = ',' :: more →
    read fuel (skipBlanks more) = .ok (as, last) →
    read (fuel + 1) (text ++ rest) = .ok (a :: as, last)

namespace Series

variable {α : Type} {read : ℕ → List Char → Except Fault (List α × List Char)} {close : Char}
  {Part : List Char → α → Prop} {gap closing : List Char} {texts : List (List Char)} {as : List α}

theorem not_blank (hs : Series read close Part) : isBlank close = false := by
  rcases hs.closes with rfl | rfl
  · decide
  · decide

/-- What is listed opens as a part does. -/
theorem opens_listed (hs : Series read close Part) (h : List.Forall₂ Part texts as)
    (hne : texts ≠ []) : ∃ c cs, listed gap texts = c :: cs ∧ isBlank c = false ∧ c ≠ close := by
  cases h with
  | nil => exact absurd rfl hne
  | @cons t a texts as ht _ =>
    obtain ⟨c, cs, htext, hc⟩ := hs.opens ht
    obtain ⟨ds, hds⟩ := @listed_opens gap t c cs htext texts
    exact ⟨c, ds, hds, hc⟩

/-- The blanks before a list are skipped, and nothing else. -/
theorem skipBlanks_listed (hs : Series read close Part) (h : List.Forall₂ Part texts as)
    (hne : texts ≠ []) {blanks : List Char} (hblanks : Blanks blanks) (rest : List Char) :
    skipBlanks (blanks ++ (listed gap texts ++ rest)) = listed gap texts ++ rest := by
  obtain ⟨c, cs, htext, hc, -⟩ := @opens_listed _ _ _ _ gap _ _ hs h hne
  rw [skipBlanks_append hblanks, htext, List.cons_append, skipBlanks_cons hc]

/-- **A list of parts is read** up to the closing character. -/
theorem read_listed (hs : Series read close Part) (hgap : Blanks gap) (hclosing : Blanks closing)
    (h : List.Forall₂ Part texts as) (hne : texts ≠ []) {fuel : ℕ}
    (hfuel : 2 * (listed gap texts).length ≤ fuel) (last : List Char) :
    read fuel (listed gap texts ++ (closing ++ close :: last)) = .ok (as, last) := by
  induction h generalizing fuel with
  | nil => exact absurd rfl hne
  | @cons t a texts as ht hrest ih =>
    -- a part is not empty, so there is fuel for it
    obtain ⟨c, cs, htext, -⟩ := hs.opens ht
    have hpos : 0 < t.length := by rw [htext]; exact Nat.succ_pos _
    cases texts with
    | nil =>
      cases hrest
      rw [listed_singleton] at hfuel ⊢
      obtain ⟨fuel, rfl⟩ : ∃ f, fuel = f + 1 := ⟨fuel - 1, by omega⟩
      have hclose : skipBlanks (closing ++ close :: last) = close :: last := by
        rw [skipBlanks_append hclosing, skipBlanks_cons hs.not_blank]
      exact hs.last ht (by omega) (ends_append hclosing (Or.inr hs.closes) last) hclose
    | cons u texts =>
      rw [listed_cons] at hfuel ⊢
      simp only [List.length_append, List.length_cons] at hfuel
      obtain ⟨fuel, rfl⟩ : ∃ f, fuel = f + 1 := ⟨fuel - 1, by omega⟩
      have hmore := @ih (by simp) fuel (by omega)
      rw [← hs.skipBlanks_listed hrest (by simp) hgap] at hmore
      rw [List.append_assoc, List.cons_append, List.append_assoc]
      exact hs.more ht (by omega) (ends_cons (Or.inl rfl) _) (skipBlanks_cons (by decide) _) hmore

end Series

/-! ## Lists -/

section Lists

variable {fuel depth : ℕ} {s rest more last : List Char}

theorem readItems_last {item : Value} (hitem : readValue fuel depth s = .ok (item, rest))
    (hclose : skipBlanks rest = ']' :: last) :
    readItems (fuel + 1) depth s = .ok ([item], last) := by
  rw [readItems, hitem]
  simp only [bind, Except.bind, hclose]
  rfl

theorem readItems_more {item : Value} {items : List Value}
    (hitem : readValue fuel depth s = .ok (item, rest)) (hcomma : skipBlanks rest = ',' :: more)
    (hitems : readItems fuel depth (skipBlanks more) = .ok (items, last)) :
    readItems (fuel + 1) depth s = .ok (item :: items, last) := by
  rw [readItems, hitem]
  simp only [bind, Except.bind, hcomma, hitems]
  rfl

theorem readValue_emptyList (hclose : skipBlanks s = ']' :: last) :
    readValue (fuel + 1) (depth + 1) ('[' :: s) = .ok (.list [], last) := by
  rw [readValue]
  simp only [Nat.succ_ne_zero, if_false, hclose]

theorem readValue_list {items : List Value} (hopen : ∀ cs, skipBlanks s ≠ ']' :: cs)
    (hitems : readItems fuel depth (skipBlanks s) = .ok (items, last)) :
    readValue (fuel + 1) (depth + 1) ('[' :: s) = .ok (.list items, last) := by
  rw [readValue]
  simp only [Nat.succ_ne_zero, if_false, Nat.add_sub_cancel]
  rw [hitems]
  rfl

/-- **Items are read** one after the other, up to the closing bracket. -/
theorem readItems_series : Series (fun fuel => readItems fuel depth) ']' (Reads depth) where
  closes := Or.inl rfl
  opens h := by
    obtain ⟨c, cs, htext, hblank, hclose, -⟩ := h.opens
    exact ⟨c, cs, htext, hblank, hclose⟩
  last h hfuel hrest hclose := readItems_last (h _ _ hfuel hrest) hclose
  more h hfuel hrest hcomma hitems := readItems_more (h _ _ hfuel hrest) hcomma hitems

end Lists

/-! ## Tables -/

section Tables

variable {fuel depth : ℕ} {s rest more last : List Char}

/-- A key, a colon and a value, with blanks between them, at the head of a text. -/
def HeadsEntry (fuel depth : ℕ) (s : List Char) (e : String × Value) (rest : List Char) : Prop :=
  ∃ tail afterKey afterColon, s = '\x22' :: tail ∧
    readText s.length tail = .ok (e.1, afterKey) ∧ skipBlanks afterKey = ':' :: afterColon ∧
    readValue fuel depth (skipBlanks afterColon) = .ok (e.2, rest)

theorem readEntries_last {e : String × Value} (he : HeadsEntry fuel depth s e rest)
    (hclose : skipBlanks rest = '\x7d' :: last) :
    readEntries (fuel + 1) depth s = .ok ([e], last) := by
  obtain ⟨tail, afterKey, afterColon, rfl, hkey, hcolon, hvalue⟩ := he
  rw [readEntries, hkey]
  simp only [bind, Except.bind, hcolon, hvalue, hclose]
  rfl

theorem readEntries_more {e : String × Value} {entries : List (String × Value)}
    (he : HeadsEntry fuel depth s e rest) (hcomma : skipBlanks rest = ',' :: more)
    (hentries : readEntries fuel depth (skipBlanks more) = .ok (entries, last)) :
    readEntries (fuel + 1) depth s = .ok (e :: entries, last) := by
  obtain ⟨tail, afterKey, afterColon, rfl, hkey, hcolon, hvalue⟩ := he
  rw [readEntries, hkey]
  simp only [bind, Except.bind, hcolon, hvalue, hcomma, hentries]
  rfl

theorem readValue_emptyTable (hclose : skipBlanks s = '\x7d' :: last) :
    readValue (fuel + 1) (depth + 1) ('\x7b' :: s) = .ok (.table [], last) := by
  rw [readValue]
  simp only [Nat.succ_ne_zero, if_false, hclose]

theorem readValue_table {entries : List (String × Value)}
    (hopen : ∀ cs, skipBlanks s ≠ '\x7d' :: cs)
    (hentries : readEntries fuel depth (skipBlanks s) = .ok (entries, last)) :
    readValue (fuel + 1) (depth + 1) ('\x7b' :: s) =
      .ok (.table (Table.ofEntries entries), last) := by
  rw [readValue]
  simp only [Nat.succ_ne_zero, if_false, Nat.add_sub_cancel]
  rw [hentries]
  rfl

/-- The text of an entry reads back if its key is plain and the text of its value reads back. -/
def ReadsEntry (depth : ℕ) (text : List Char) (e : String × Value) : Prop :=
  IsPlain e.1 ∧ ∃ value, text = (quote e.1).toList ++ ':' :: ' ' :: value ∧ Reads depth value e.2

theorem ReadsEntry.opens {text : List Char} {e : String × Value} (h : ReadsEntry depth text e) :
    ∃ cs, text = '\x22' :: cs := by
  obtain ⟨hkey, value, rfl, -⟩ := h
  obtain ⟨tail, htail, -⟩ := readText_quote hkey (':' :: ' ' :: value)
  exact ⟨tail, htail⟩

theorem ReadsEntry.heads {text : List Char} {e : String × Value} (h : ReadsEntry depth text e)
    (hfuel : 2 * text.length ≤ fuel + 1) (hrest : Ends rest) :
    HeadsEntry fuel depth (text ++ rest) e rest := by
  obtain ⟨hkey, value, rfl, hvalue⟩ := h
  obtain ⟨tail, htail, hread⟩ := readText_quote hkey (':' :: ' ' :: (value ++ rest))
  have hlength : 2 * value.length ≤ fuel + 1 := by
    simp only [List.length_append, List.length_cons] at hfuel
    omega
  refine ⟨tail, ':' :: ' ' :: (value ++ rest), ' ' :: (value ++ rest), ?_, hread _,
    skipBlanks_cons (by decide) _, ?_⟩
  · rw [List.append_assoc, List.cons_append, List.cons_append, htail]
  · have hgap : Blanks [' '] := List.forall_mem_singleton.2 rfl
    rw [← List.singleton_append, skipBlanks_append hgap, hvalue.skipBlanks]
    exact hvalue fuel rest hlength hrest

/-- **Entries are read** one after the other, up to the closing brace. -/
theorem readEntries_series :
    Series (fun fuel => readEntries fuel depth) '\x7d' (ReadsEntry depth) where
  closes := Or.inr rfl
  opens h := by
    obtain ⟨cs, htext⟩ := h.opens
    exact ⟨_, cs, htext, by decide, by decide⟩
  last h hfuel hrest hclose := readEntries_last (h.heads hfuel hrest) hclose
  more h hfuel hrest hcomma hentries := readEntries_more (h.heads hfuel hrest) hcomma hentries

end Tables

/-! ## Enclosed items -/

section Enclosed

variable {l : Layout} {depth : ℕ}

/-- What is enclosed between brackets, as characters. -/
theorem toList_enclose (hl : l.Spaced) (level : ℕ) {left right : String} {a b : Char}
    (hleft : left.toList = [a]) (hright : right.toList = [b]) {texts : List String}
    (hne : texts ≠ []) : ∃ opening gap closing, Blanks opening ∧ Blanks gap ∧ Blanks closing ∧
      (enclose l level left right texts).toList =
        a :: (opening ++ (listed gap (texts.map String.toList) ++ (closing ++ [b]))) := by
  obtain ⟨gap, hbetween, hgap⟩ := hl.between level
  refine ⟨_, gap, _, hl.opening level, hgap, hl.closing level, ?_⟩
  unfold enclose
  split
  · exact absurd rfl hne
  · simp only [String.toList_append, String.toList_intercalate, hbetween, hleft, hright, listed,
      List.append_assoc, List.cons_append, List.nil_append]

/-- **What is enclosed is read** behind its opening bracket. -/
theorem Series.read_enclosed {α : Type} {read : ℕ → List Char → Except Fault (List α × List Char)}
    {a b : Char} {Part : List Char → α → Prop} (hs : Series read b Part) (hl : l.Spaced) (level : ℕ)
    {left right : String} (hleft : left.toList = [a]) (hright : right.toList = [b])
    {texts : List String} {as : List α}
    (h : List.Forall₂ (fun t v => Part t.toList v) texts as) (hne : texts ≠ []) {fuel : ℕ}
    (hfuel : 2 * (enclose l level left right texts).toList.length ≤ fuel + 1) (rest : List Char) :
    ∃ f s, fuel = f + 1 ∧ (enclose l level left right texts).toList ++ rest = a :: s ∧
      (∀ cs, skipBlanks s ≠ b :: cs) ∧ read f (skipBlanks s) = .ok (as, rest) := by
  obtain ⟨opening, gap, closing, hopening, hgap, hclosing, htext⟩ :=
    @toList_enclose l hl level left right a b hleft hright texts hne
  rw [htext] at hfuel ⊢
  simp only [List.length_append, List.length_cons, List.length_nil] at hfuel
  have hparts : List.Forall₂ Part (texts.map String.toList) as := List.forall₂_map_left_iff.2 h
  have hsome : texts.map String.toList ≠ [] := by simpa using hne
  refine ⟨fuel - 1, opening ++ (listed gap (texts.map String.toList) ++ (closing ++ b :: rest)),
    by omega, ?_, ?_, ?_⟩
  · simp only [List.cons_append, List.append_assoc, List.nil_append]
  · intro cs hcs
    obtain ⟨c, ds, hds, -, hc⟩ := @Series.opens_listed _ _ _ _ gap _ _ hs hparts hsome
    rw [hs.skipBlanks_listed hparts hsome hopening, hds, List.cons_append] at hcs
    exact hc (List.cons.inj hcs).1
  · rw [hs.skipBlanks_listed hparts hsome hopening]
    exact hs.read_listed hgap hclosing hparts hsome (by omega) rest

/-- **A list reads back** if its items do. -/
theorem reads_list (hl : l.Spaced) (level : ℕ) {texts : List String} {items : List Value}
    (h : List.Forall₂ (fun t v => Reads depth t.toList v) texts items) :
    Reads (depth + 1) (enclose l level "[" "]" texts).toList (.list items) := by
  intro fuel rest hfuel hrest
  by_cases hne : texts = []
  · subst hne
    cases h
    have htext : (enclose l level "[" "]" []).toList = ['[', ']'] := by simp [enclose]
    rw [htext] at hfuel ⊢
    obtain ⟨fuel, rfl⟩ : ∃ f, fuel = f + 1 := ⟨fuel - 1, by simp at hfuel; omega⟩
    exact readValue_emptyList (skipBlanks_cons (by decide) rest)
  · have hleft : "[".toList = ['['] := rfl
    obtain ⟨f, s, rfl, htext, hopen, hitems⟩ :=
      readItems_series.read_enclosed hl level hleft rfl h hne hfuel rest
    rw [htext]
    exact readValue_list hopen hitems

/-- **A table reads back** if its entries do. -/
theorem reads_table (hl : l.Spaced) (level : ℕ) {texts : List String}
    {entries : List (String × Value)} (hdistinct : Table.Distinct entries)
    (h : List.Forall₂ (fun t e => ReadsEntry depth t.toList e) texts entries) :
    Reads (depth + 1) (enclose l level "\x7b" "\x7d" texts).toList (.table entries) := by
  intro fuel rest hfuel hrest
  by_cases hne : texts = []
  · subst hne
    cases h
    have htext : (enclose l level "\x7b" "\x7d" []).toList = ['\x7b', '\x7d'] := by
      simp [enclose]
    rw [htext] at hfuel ⊢
    obtain ⟨fuel, rfl⟩ : ∃ f, fuel = f + 1 := ⟨fuel - 1, by simp at hfuel; omega⟩
    exact readValue_emptyTable (skipBlanks_cons (by decide) rest)
  · have hleft : "\x7b".toList = ['\x7b'] := rfl
    obtain ⟨f, s, rfl, htext, hopen, hentries⟩ :=
      readEntries_series.read_enclosed hl level hleft rfl h hne hfuel rest
    rw [htext, ← Table.ofEntries_of_distinct hdistinct]
    exact readValue_table hopen hentries

end Enclosed

/-! ## Values -/

section Leaves

variable {depth : ℕ} {text : List Char} {v : Value}

/-- A text that reads back with any fuel but none. -/
theorem reads_leaf
    (h : ∀ fuel rest, Ends rest → readValue (fuel + 1) depth (text ++ rest) = .ok (v, rest)) :
    Reads depth text v := by
  intro fuel rest hfuel hrest
  obtain ⟨c, cs, hcs, -⟩ := opens_of_readValue (h 0 [] ends_nil)
  rw [List.append_nil] at hcs
  have hlength : text.length = cs.length + 1 := congrArg List.length hcs
  obtain ⟨fuel, rfl⟩ : ∃ f, fuel = f + 1 := ⟨fuel - 1, by omega⟩
  exact h fuel rest hrest

theorem reads_quote {s : String} (h : IsPlain s) : Reads depth (quote s).toList (.text s) := by
  refine reads_leaf fun fuel rest _ => ?_
  obtain ⟨tail, htail, hread⟩ := readText_quote h rest
  rw [htail, readValue, hread]
  rfl

end Leaves

theorem writeItems_eq (l : Layout) (level : ℕ) (items : List Value) :
    writeItems l level items = items.mapM (writeAt l level) := by
  induction items with
  | nil => rfl
  | cons v items ih => rw [writeItems, ih, List.mapM_cons]

/-- An entry of a table as it is written. -/
def writeEntry (l : Layout) (level : ℕ) (e : String × Value) : Except TextFault String :=
  (quote e.1 ++ ": " ++ ·) <$> writeAt l level e.2

theorem writeEntries_eq (l : Layout) (level : ℕ) (entries : List (String × Value)) :
    writeEntries l level entries = entries.mapM (writeEntry l level) := by
  induction entries with
  | nil => rfl
  | cons e entries ih =>
    obtain ⟨k, v⟩ := e
    rw [writeEntries, ih, List.mapM_cons, writeEntry]
    cases writeAt l level v <;> rfl

theorem readsEntry_written {depth : ℕ} {k text : String} {v : Value} (hk : IsPlain k)
    (hv : Reads depth text.toList v) :
    ReadsEntry depth (quote k ++ ": " ++ text).toList (k, v) := by
  refine ⟨hk, text.toList, ?_, hv⟩
  simp

/-- The record of a failed mark reads back. -/
theorem reads_failed {l : Layout} (hl : l.Spaced) (level : ℕ) {error : String} (h : IsPlain error)
    {depth : ℕ} : Reads (depth + 1) (enclose l level "\x7b" "\x7d"
      [quote "kind" ++ ": " ++ quote "failed", quote "error" ++ ": " ++ quote error]).toList
      (Value.failed error).stored := by
  have hkind : IsPlain "kind" := isPlain_of_mark_free (by decide)
  have hfailed : IsPlain "failed" := isPlain_of_mark_free (by decide)
  have herror : IsPlain "error" := isPlain_of_mark_free (by decide)
  rw [Value.stored]
  refine reads_table hl level (by simp [Table.Distinct, Table.keys]) (.cons ?_ (.cons ?_ .nil))
  · exact readsEntry_written hkind (reads_quote hfailed)
  · exact readsEntry_written herror (reads_quote h)

theorem exists_writeEntry {l : Layout} {level : ℕ} {e : String × Value}
    (h : ∃ text, writeAt l level e.2 = .ok text) : ∃ text, writeEntry l level e = .ok text := by
  obtain ⟨text, htext⟩ := h
  rw [writeEntry, htext]
  exact ⟨_, rfl⟩

/-- **A value is written** in every layout, if its integers are short and it is not nested too
deep. -/
theorem exists_writeAt (l : Layout) {v : Value} (hformed : v.Throughout Value.Formed)
    (hshort : v.Throughout Value.Short) {level : ℕ} (hlevel : level + v.depth ≤ Value.depthLimit) :
    ∃ text, writeAt l level v = .ok text := by
  induction v using Value.nestedInduction generalizing level with
  | null => exact ⟨_, rfl⟩
  | bool b => exact ⟨_, rfl⟩
  | int n => exact ⟨_, if_pos (hshort _ (.self _))⟩
  | double x => exact ⟨_, rfl⟩
  | text s => exact ⟨_, rfl⟩
  | list items ih =>
    obtain ⟨texts, htexts⟩ := exists_mapM_ok fun v hv => ih v hv
      ((Value.throughout_list.1 hformed).2 v hv) ((Value.throughout_list.1 hshort).2 v hv)
      (show level + 1 + v.depth ≤ _ by
        have hlt := Value.depth_item hv
        omega)
    rw [Value.depth] at hlevel
    rw [writeAt, if_pos (by omega), writeItems_eq, htexts]
    exact ⟨_, rfl⟩
  | table entries ih =>
    have hentry : ∀ e ∈ entries, ∃ text, writeEntry l (level + 1) e = .ok text := by
      intro e he
      have hlt := Value.depth_entry he
      exact exists_writeEntry (ih e he ((Value.throughout_table.1 hformed).2 e he)
        ((Value.throughout_table.1 hshort).2 e he) (by omega))
    obtain ⟨texts, htexts⟩ := exists_mapM_ok hentry
    rw [Value.depth] at hlevel
    rw [writeAt, if_pos (by omega), writeEntries_eq, htexts]
    exact ⟨_, rfl⟩
  | failed error =>
    rw [Value.depth] at hlevel
    rw [writeAt, if_pos (by omega)]
    exact ⟨_, rfl⟩
  | handle shown quoted stored ih =>
    obtain ⟨v, rfl⟩ : ∃ v, stored = .ok v := hformed _ (.self _)
    rw [Value.depth] at hlevel
    rw [writeAt]
    exact ih v rfl ((Value.throughout_handle.1 hformed).2 v rfl)
      ((Value.throughout_handle.1 hshort).2 v rfl) hlevel

/-- **A value with an integer that is too long is not written.** -/
theorem writeAt_of_long (l : Layout) {v : Value} (hformed : v.Throughout Value.Formed)
    (hlong : ¬ v.Throughout Value.Short) {level : ℕ} (hlevel : level + v.depth ≤ Value.depthLimit) :
    writeAt l level v = .error .tooManyDigits := by
  induction v using Value.nestedInduction generalizing level with
  | int n => exact if_neg fun hdigits => hlong (Value.throughout_leaf trivial hdigits)
  | list items ih =>
    have hitems := (Value.throughout_list.1 hformed).2
    have hsome : ∃ v ∈ items, ¬ v.Throughout Value.Short := by
      by_contra hall
      push Not at hall
      exact hlong (Value.throughout_list.2 ⟨trivial, hall⟩)
    have hbelow : ∀ v ∈ items, level + 1 + v.depth ≤ Value.depthLimit := by
      intro v hv
      have hlt := Value.depth_item hv
      omega
    have hwrite : items.mapM (writeAt l (level + 1)) = .error .tooManyDigits := by
      refine mapM_eq_error (fun v hv => ?_) ?_
      · by_cases hshort : v.Throughout Value.Short
        · exact Or.inl (exists_writeAt l (hitems v hv) hshort (hbelow v hv))
        · exact Or.inr (ih v hv (hitems v hv) hshort (hbelow v hv))
      · obtain ⟨v, hv, hshort⟩ := hsome
        exact ⟨v, hv, ih v hv (hitems v hv) hshort (hbelow v hv)⟩
    rw [Value.depth] at hlevel
    rw [writeAt, if_pos (by omega), writeItems_eq, hwrite]
    rfl
  | table entries ih =>
    have hentries := (Value.throughout_table.1 hformed).2
    have hsome : ∃ e ∈ entries, ¬ e.2.Throughout Value.Short := by
      by_contra hall
      push Not at hall
      exact hlong (Value.throughout_table.2 ⟨trivial, hall⟩)
    have hbelow : ∀ e ∈ entries, level + 1 + e.2.depth ≤ Value.depthLimit := by
      intro e he
      have hlt := Value.depth_entry he
      omega
    have hlongEntry : ∀ e ∈ entries, ¬ e.2.Throughout Value.Short →
        writeEntry l (level + 1) e = .error .tooManyDigits := by
      intro e he hshort
      rw [writeEntry, ih e he (hentries e he) hshort (hbelow e he)]
      rfl
    have hwrite : entries.mapM (writeEntry l (level + 1)) = .error .tooManyDigits := by
      refine mapM_eq_error (fun e he => ?_) ?_
      · by_cases hshort : e.2.Throughout Value.Short
        · exact Or.inl (exists_writeEntry (exists_writeAt l (hentries e he) hshort (hbelow e he)))
        · exact Or.inr (hlongEntry e he hshort)
      · obtain ⟨e, he, hshort⟩ := hsome
        exact ⟨e, he, hlongEntry e he hshort⟩
    rw [Value.depth] at hlevel
    rw [writeAt, if_pos (by omega), writeEntries_eq, hwrite]
    rfl
  | handle shown quoted stored ih =>
    obtain ⟨v, rfl⟩ : ∃ v, stored = .ok v := hformed _ (.self _)
    rw [Value.depth] at hlevel
    rw [writeAt]
    refine ih v rfl ((Value.throughout_handle.1 hformed).2 v rfl) (fun hshort => hlong ?_) hlevel
    refine Value.throughout_handle.2 ⟨trivial, ?_⟩
    rintro w ⟨⟩
    exact hshort
  | _ => exact (hlong (Value.throughout_leaf trivial trivial)).elim

/-- **What is written reads back** as the value that is stored, in every layout. -/
theorem reads_of_writeAt {l : Layout} (hl : l.Spaced) {v : Value}
    (hformed : v.Throughout Value.Formed) (hplain : v.Throughout Value.Plain) {level : ℕ}
    {text : String} (hwrite : writeAt l level v = .ok text) {depth : ℕ} (hdepth : v.depth ≤ depth) :
    Reads depth text.toList v.stored := by
  induction v using Value.nestedInduction generalizing level text depth with
  | null =>
    cases hwrite
    exact reads_leaf fun fuel rest _ => rfl
  | bool b =>
    cases hwrite
    cases b with
    | true => exact reads_leaf fun fuel rest _ => rfl
    | false => exact reads_leaf fun fuel rest _ => rfl
  | int n =>
    have hdigits : (Nat.toDigits 10 n.natAbs).length ≤ Text.digitLimit := by
      by_contra hlong
      rw [writeAt, Value.integerText, if_neg hlong] at hwrite
      cases hwrite
    rw [writeAt, Value.integerText, if_pos hdigits] at hwrite
    cases hwrite
    exact reads_leaf fun fuel rest => readValue_int fuel depth hdigits
  | double x =>
    cases hwrite
    exact reads_leaf fun fuel rest => readValue_double fuel depth x
  | text s =>
    cases hwrite
    exact reads_quote (hplain _ (.self _))
  | list items ih =>
    rw [writeAt, writeItems_eq] at hwrite
    split at hwrite
    · obtain ⟨texts, htexts, rfl⟩ := ok_of_map hwrite
      -- the brackets use up one level of depth
      obtain ⟨depth, rfl⟩ : ∃ d, depth = d + 1 := ⟨depth - 1, by rw [Value.depth] at hdepth; omega⟩
      have hreads : List.Forall₂ (fun v text => Reads depth text.toList v.stored) items texts :=
        (forall₂_of_mapM htexts).imp fun v text h => by
          obtain ⟨hv, htext⟩ := h
          have hlt := Value.depth_item hv
          exact ih v hv ((Value.throughout_list.1 hformed).2 v hv)
            ((Value.throughout_list.1 hplain).2 v hv) htext (by omega)
      rw [Value.stored_list]
      exact reads_list hl level (List.forall₂_map_right_iff.2 hreads.flip)
    · cases hwrite
  | table entries ih =>
    obtain ⟨hkeys, hvalues⟩ := Value.throughout_table.1 hplain
    have hdistinct : Table.Distinct entries := hformed _ (.self _)
    rw [writeAt, writeEntries_eq] at hwrite
    split at hwrite
    · obtain ⟨texts, htexts, rfl⟩ := ok_of_map hwrite
      obtain ⟨depth, rfl⟩ : ∃ d, depth = d + 1 := ⟨depth - 1, by rw [Value.depth] at hdepth; omega⟩
      have hreads : List.Forall₂ (fun e text => ReadsEntry depth text.toList (e.1, e.2.stored))
          entries texts :=
        (forall₂_of_mapM htexts).imp fun e text h => by
          obtain ⟨he, htext⟩ := h
          have hlt := Value.depth_entry he
          obtain ⟨value, hvalue, rfl⟩ := ok_of_map htext
          exact readsEntry_written (hkeys e.1 (List.mem_map_of_mem he))
            (ih e he ((Value.throughout_table.1 hformed).2 e he) (hvalues e he) hvalue (by omega))
      rw [Value.stored_table]
      refine reads_table hl level ?_ (List.forall₂_map_right_iff.2 hreads.flip)
      unfold Table.Distinct
      rw [Table.keys_mapValues]
      exact hdistinct
    · cases hwrite
  | failed error =>
    rw [writeAt] at hwrite
    split at hwrite
    · cases hwrite
      obtain ⟨depth, rfl⟩ : ∃ d, depth = d + 1 := ⟨depth - 1, by rw [Value.depth] at hdepth; omega⟩
      exact reads_failed hl level (hplain _ (.self _))
    · cases hwrite
  | handle shown quoted stored ih =>
    obtain ⟨v, rfl⟩ : ∃ v, stored = .ok v := hformed _ (.self _)
    rw [Value.depth] at hdepth
    rw [writeAt] at hwrite
    rw [Value.stored]
    exact ih v rfl ((Value.throughout_handle.1 hformed).2 v rfl)
      ((Value.throughout_handle.1 hplain).2 v rfl) hwrite hdepth

/-- A whole text that reads back. -/
theorem readAll_of_reads {text : List Char} {v : Value} (h : Reads Value.depthLimit text v) :
    readAll text = .ok v := by
  have hvalue := h (2 * text.length + 2) [] (by omega) ends_nil
  have hskip := h.skipBlanks []
  obtain ⟨c, cs, rfl, hopens⟩ := h.opens
  rw [List.append_nil] at hvalue hskip
  unfold readAll
  split
  · rename_i heq
    exact absurd (List.cons.inj heq).1 hopens.2.2
  · rw [hskip, hvalue]
    rfl

/-- A text that was written reads back. -/
theorem read_of_writeAt {l : Layout} (hl : l.Spaced) {v : Value}
    (hformed : v.Throughout Value.Formed) (hplain : v.Throughout Value.Plain)
    (hdepth : v.depth ≤ Value.depthLimit) {text : String} (hwrite : writeAt l 0 v = .ok text) :
    read text = .ok v.stored := by
  unfold read
  simp only [readAll_of_reads (reads_of_writeAt hl hformed hplain hwrite hdepth)]
  rfl

/-- **A document is written** if its integers are short and it is not nested too deep. -/
theorem exists_write {v : Value} (hformed : v.Throughout Value.Formed)
    (hshort : v.Throughout Value.Short) (hdepth : v.depth ≤ Value.depthLimit) :
    ∃ text, write v = .ok text :=
  exists_writeAt .indented hformed hshort (by omega)

/-- **A document with an integer that is too long is not written.** -/
theorem write_of_long {v : Value} (hformed : v.Throughout Value.Formed)
    (hlong : ¬ v.Throughout Value.Short) (hdepth : v.depth ≤ Value.depthLimit) :
    write v = .error .tooManyDigits :=
  writeAt_of_long .indented hformed hlong (by omega)

/-- **A document is written, and it reads back** as the value that is stored. -/
theorem read_write {v : Value} (hformed : v.Throughout Value.Formed)
    (hshort : v.Throughout Value.Short) (hplain : v.Throughout Value.Plain)
    (hdepth : v.depth ≤ Value.depthLimit) :
    ∃ text, write v = .ok text ∧ read text = .ok v.stored := by
  obtain ⟨text, hwrite⟩ := exists_write hformed hshort hdepth
  exact ⟨text, hwrite, read_of_writeAt Layout.indented_spaced hformed hplain hdepth hwrite⟩

/-- **A JSON value is written on one line, and it reads back**, if its integers are short. -/
theorem read_writeLine {v : Value} (h : v.IsJson) (hshort : v.Throughout Value.Short)
    (hdepth : v.depth ≤ Value.depthLimit) : ∃ text, writeLine v = .ok text ∧ read text = .ok v := by
  obtain ⟨text, hwrite⟩ : ∃ text, writeLine v = .ok text :=
    exists_writeAt .oneLine h.formed hshort (by omega)
  have hread := read_of_writeAt Layout.oneLine_spaced h.formed h.plain hdepth hwrite
  rw [Value.stored_of_data h.data] at hread
  exact ⟨text, hwrite, hread⟩

end Provision.Json
