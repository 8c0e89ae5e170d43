import Provision.Proofs.Display.Layout

/-!
# Texts that fit on a line

A text is neither broken nor cropped if it takes no more cells than the console has. That is not
plain arithmetic: what a character takes depends on those in front of it, and a line is measured
word by word. But a word ends with a blank, to which no joiner belongs, so its cells and those of
the rest never add up to more than the cells of the whole line (`cellsFrom_append_le`).

* `Display.breaks_of_cells_le`: **a line that is narrow enough is not broken.**
* `Display.Spanned.Fits`, `Display.Spanned.OneLine`: a text that fits on a line.
* `Display.Spanned.OneLine.laidOut`, `Display.Spanned.OneLine.printedLines`: **such a text is
  printed as it is.**
* `Display.fits_of_short`: a text that is short enough fits.
-/

namespace Provision.Display

open Text (Point)

variable {last : Option Point} {p : Point} {ps : List Point} {width : ℕ}

/-! ## Cells of a text and of its parts -/

theorem cellsFrom_selector (last : Option Point) (ps : List Point) :
    cellsFrom last (selector :: ps) = widening last + cellsFrom none ps := by
  cases ps with
  | nil => rfl
  | cons q qs => rw [cellsFrom, if_neg (by decide), if_pos rfl]

theorem cellsFrom_singleton (hj : p ≠ joiner) (hs : p ≠ selector) :
    cellsFrom last [p] = pointCells p := by
  rw [cellsFrom, if_neg hj, if_neg hs]

theorem cellsFrom_empty (hj : p ≠ joiner) (hs : p ≠ selector) (h : pointCells p = 0) :
    cellsFrom last (p :: ps) = cellsFrom last ps := by
  cases ps with
  | nil => exact (cellsFrom_singleton hj hs).trans h
  | cons q qs => rw [cellsFrom, if_neg hj, if_neg hs, if_pos h]

theorem cellsFrom_drawn (hj : p ≠ joiner) (hs : p ≠ selector) (h : pointCells p ≠ 0) :
    cellsFrom last (p :: ps) = pointCells p + cellsFrom (some p) ps := by
  cases ps with
  | nil => exact cellsFrom_singleton hj hs
  | cons q qs => rw [cellsFrom, if_neg hj, if_neg hs, if_neg h]

/-- A text takes no fewer cells behind another one. -/
theorem cellsFrom_none_le (last : Option Point) (ps : List Point) :
    cellsFrom none ps ≤ cellsFrom last ps := by
  fun_induction cellsFrom last ps with
  | case1 => exact Nat.le_refl _
  | case2 => exact Nat.le_refl _
  | case3 last => exact Nat.zero_le _
  | case4 last p hj hs => exact Nat.le_of_eq (cellsFrom_singleton hj hs)
  | case5 last next ps ih => exact ih
  | case6 last next ps =>
    rw [cellsFrom_selector]
    exact Nat.add_le_add_right (Nat.zero_le _) _
  | case7 last p next ps hj hs h ih =>
    rw [cellsFrom_empty hj hs h]
    exact ih
  | case8 last p next ps hj hs h ih => exact Nat.le_of_eq (cellsFrom_drawn hj hs h)

/-- A point in front of a text: it takes as many cells as it takes alone, at least. -/
theorem cellsFrom_cons_le (last : Option Point) (ps : List Point) (hj : p ≠ joiner) :
    cellsFrom last [p] + cellsFrom none ps ≤ cellsFrom last (p :: ps) := by
  by_cases hs : p = selector
  · subst hs
    rw [cellsFrom_selector, cellsFrom_selector]
    exact Nat.le_refl _
  · by_cases h : pointCells p = 0
    · rw [cellsFrom_empty hj hs h, cellsFrom_empty hj hs h, cellsFrom, Nat.zero_add]
      exact cellsFrom_none_le last ps
    · rw [cellsFrom_drawn hj hs h, cellsFrom_drawn hj hs h]
      exact Nat.add_le_add_left (cellsFrom_none_le _ ps) _

/-- **Parts take no more cells than the whole**, if no joiner is cut off. -/
theorem cellsFrom_append_le (last : Option Point) (ps qs : List Point)
    (h : ps.getLast? ≠ some joiner) :
    cellsFrom last ps + cellsFrom none qs ≤ cellsFrom last (ps ++ qs) := by
  fun_induction cellsFrom last ps with
  | case1 last =>
    rw [Nat.zero_add]
    exact cellsFrom_none_le last qs
  | case2 => exact absurd rfl h
  | case3 last =>
    exact Nat.le_of_eq (by rw [List.singleton_append, cellsFrom_selector])
  | case4 last p hj hs =>
    have hcons := cellsFrom_cons_le last qs hj
    rw [cellsFrom_singleton hj hs] at hcons
    exact hcons
  | case5 last next ps ih =>
    -- the joiner and what it joins are read together, and the rest is as it was
    have hrest : ps.getLast? ≠ some joiner := by
      cases ps with
      | nil => exact Option.some_ne_none _ |>.symm
      | cons q ps => exact h
    exact ih hrest
  | case6 last next ps _ ih =>
    rw [List.cons_append, cellsFrom_selector, Nat.add_assoc]
    exact Nat.add_le_add_left (ih h) _
  | case7 last p next ps hj hs hp ih =>
    rw [List.cons_append, cellsFrom_empty hj hs hp]
    exact ih h
  | case8 last p next ps hj hs hp ih =>
    rw [List.cons_append, cellsFrom_drawn hj hs hp, Nat.add_assoc]
    exact Nat.add_le_add_left (ih h) _

/-- A part at the start takes no more cells than the whole. -/
theorem cellsFrom_le_append (last : Option Point) (ps qs : List Point) :
    cellsFrom last ps ≤ cellsFrom last (ps ++ qs) := by
  fun_induction cellsFrom last ps with
  | case1 => exact Nat.zero_le _
  | case2 => exact Nat.zero_le _
  | case3 last =>
    rw [List.singleton_append, cellsFrom_selector]
    exact Nat.le_add_right _ _
  | case4 last p hj hs =>
    have hcons := cellsFrom_cons_le last qs hj
    rw [cellsFrom_singleton hj hs] at hcons
    exact Nat.le_trans (Nat.le_add_right _ _) hcons
  | case5 last next ps ih => exact ih
  | case6 last next ps _ ih =>
    rw [List.cons_append, cellsFrom_selector]
    exact Nat.add_le_add_left ih _
  | case7 last p next ps hj hs hp ih =>
    rw [List.cons_append, cellsFrom_empty hj hs hp]
    exact ih
  | case8 last p next ps hj hs hp ih =>
    rw [List.cons_append, cellsFrom_drawn hj hs hp]
    exact Nat.add_le_add_left ih _

/-! ## Words -/

theorem flatten_wordsFrom (stage : Stage) (word ps : List Point) :
    (wordsFrom stage word ps).flatten = word.reverse ++ ps := by
  fun_induction wordsFrom stage word ps with
  | case1 stage word h => rw [List.isEmpty_iff.1 h]; rfl
  | case2 stage word h => simp
  | case3 stage word p ps hp ih => rw [ih]; simp
  | case4 word p ps hp ih => rw [List.flatten_cons, ih]; simp
  | case5 stage word p ps hp hstage ih => rw [ih]; simp

/-- A word that is followed by another one ends with a blank. -/
theorem blank_of_mem_wordsFrom (stage : Stage) (word ps : List Point)
    (h : stage = .after → ∃ p, word.head? = some p ∧ isBlankPoint p = true) :
    ∀ w ∈ (wordsFrom stage word ps).dropLast, ∃ p, w.getLast? = some p ∧ isBlankPoint p = true := by
  fun_induction wordsFrom stage word ps with
  | case1 stage word hw => exact List.forall_mem_nil _
  | case2 stage word hw => exact List.forall_mem_nil _
  | case3 stage word p ps hp ih => exact ih fun _ => ⟨p, rfl, hp⟩
  | case4 word p ps hp ih =>
    -- a word starts at `p`, so the one before is complete, and a blank was read last
    obtain ⟨q, hq, hblank⟩ := h rfl
    have hrest := ih fun hafter => by cases hafter
    cases hwords : wordsFrom .inside [p] ps with
    | nil => exact List.forall_mem_nil _
    | cons w ws =>
      rw [hwords] at hrest
      refine List.forall_mem_cons.2 ⟨⟨q, ?_, hblank⟩, hrest⟩
      rw [List.getLast?_reverse, hq]
  | case5 stage word p ps hp hstage ih => exact ih fun hafter => by cases hafter

theorem cells_trimEnd_le (ps : List Point) : cells (trimEnd ps) ≤ cells ps := by
  have hsplit : ps = trimEnd ps ++ (ps.reverse.takeWhile isBlankPoint).reverse := by
    unfold trimEnd
    rw [← List.reverse_append, List.takeWhile_append_dropWhile, List.reverse_reverse]
  calc cells (trimEnd ps)
    _ ≤ cells (trimEnd ps ++ (ps.reverse.takeWhile isBlankPoint).reverse) :=
      cellsFrom_le_append none _ _
    _ = cells ps := by rw [← hsplit]

theorem joiner_not_blank : isBlankPoint joiner = false := by decide

/-- The words of a line that is narrow enough leave it in one. -/
theorem breaksFrom_of_cells_le {words : List (List Point)}
    (h : ∀ w ∈ words.dropLast, w.getLast? ≠ some joiner) (first column : ℕ)
    (hfits : column + cells words.flatten ≤ width) : breaksFrom width first column words = [] := by
  induction words generalizing first column with
  | nil => rfl
  | cons word words ih =>
    rw [List.flatten_cons] at hfits
    have htrimmed := cells_trimEnd_le word
    have hword : cells word ≤ cells (word ++ words.flatten) := cellsFrom_le_append none _ _
    rw [breaksFrom, if_pos (by omega)]
    cases words with
    | nil => rfl
    | cons next words =>
      obtain ⟨hlast, hrest⟩ := List.forall_mem_cons.1 h
      -- the next word starts where this one ends, and the line has room for both
      refine ih hrest _ _ ?_
      have hparts : cells word + cells (next :: words).flatten ≤
          cells (word ++ (next :: words).flatten) := cellsFrom_append_le none _ _ hlast
      omega

/-- **A line that is narrow enough is not broken.** -/
theorem breaks_of_cells_le (h : cells ps ≤ width) : breaks width ps = [] := by
  have hwords : ∀ w ∈ (lineWords ps).dropLast, w.getLast? ≠ some joiner := by
    intro w hw hjoiner
    obtain ⟨p, hp, hblank⟩ := blank_of_mem_wordsFrom .before [] ps (fun h => by cases h) w hw
    rw [hjoiner] at hp
    rw [← Option.some.inj hp, joiner_not_blank] at hblank
    cases hblank
  have hflat : (lineWords ps).flatten = ps := flatten_wordsFrom .before [] ps
  unfold breaks
  rw [breaksFrom_of_cells_le hwords 0 0 (by rw [hflat, Nat.zero_add]; exact h)]
  rfl

/-! ## Lines -/

/-- A console is wide enough for a text: neither the text nor its pieces are too wide. -/
structure Spanned.Fits (t : Spanned) (width : ℕ) : Prop where
  short : t.points.length ≤ width
  narrow : cells t.points ≤ width
  pieces : pieceCells t.pieces ≤ width

/-- A text that fits on a line of a console, without line ends and tabs. -/
structure Spanned.OneLine (t : Spanned) (width : ℕ) : Prop extends t.Fits width where
  ends : .char '\n' ∉ t.points
  tabs : .char '\t' ∉ t.points

theorem positionsFrom_of_not_mem {c : Char} (h : .char c ∉ ps) (i : ℕ) :
    Spanned.positionsFrom c i ps = [] := by
  induction ps generalizing i with
  | nil => rfl
  | cons p ps ih =>
    obtain ⟨hp, hps⟩ := not_or.1 (mt List.mem_cons.2 h)
    rw [Spanned.positionsFrom, if_neg (Ne.symm hp), ih hps]

namespace Spanned.OneLine

variable {t : Spanned}

theorem lines (h : t.OneLine width) : t.lines = [t] := by
  have hpositions : t.positions '\n' = [] := positionsFrom_of_not_mem h.ends 0
  have hne : t.points ≠ [.char '\n'] := by
    intro heq
    have hends := h.ends
    rw [heq] at hends
    exact hends List.mem_cons_self
  unfold Spanned.lines
  rw [hpositions]
  exact List.filter_eq_self.2 (List.forall_mem_singleton.2 (decide_eq_true hne))

theorem expandTabs (h : t.OneLine width) : t.expandTabs = t := by
  have hpositions : t.positions '\t' = [] := positionsFrom_of_not_mem h.tabs 0
  unfold Spanned.expandTabs
  rw [hpositions]

theorem wrap (h : t.OneLine width) : Display.wrap width t = [t] := by
  have hkeep : cropBlanks width t = t := by
    have hall : ∀ blanks, t.keep (t.points.length - min blanks
        (t.points.length - width)) = t := by
      intro blanks
      rw [Nat.sub_eq_zero_of_le h.short, Nat.min_zero]
      exact if_pos (Nat.le_refl _)
    exact hall _
  have hcrop : crop width t = t := if_pos h.narrow
  unfold Display.wrap
  simp only [h.expandTabs, breaks_of_cells_le h.narrow]
  show [crop width (cropBlanks width t)] = [t]
  rw [hkeep, hcrop]

/-- **A text that fits on a line is not broken.** -/
theorem laidOut (h : t.OneLine width) : Display.laidOut width t = [t] := by
  unfold Display.laidOut
  rw [h.lines, List.flatMap_cons, List.flatMap_nil, List.append_nil, h.wrap]

end Spanned.OneLine

/-! ## Pieces -/

theorem flatten_piecesFrom (cuts : List ℕ) (first : ℕ) (ps : List Point) :
    (Spanned.piecesFrom first cuts ps).flatten = ps := by
  induction cuts generalizing first ps with
  | nil => exact List.flatten_singleton
  | cons cut cuts ih => rw [Spanned.piecesFrom, List.flatten_cons, ih, List.take_append_drop]

theorem flatten_pieces (t : Spanned) : t.pieces.flatten = t.points := by
  unfold Spanned.pieces
  rw [List.flatten_filter_ne_nil, flatten_piecesFrom]

/-- **A text on a line is printed as it is.** -/
theorem Spanned.OneLine.printedLines {t : Spanned} (h : t.OneLine width) :
    Display.printedLines width [t] = Text.ofPoints t.points ++ "\n" := by
  have hpieces : atMost width t.pieces = t.pieces := if_pos h.pieces
  have hjoined : joined t.pieces = Text.ofPoints t.points := by
    unfold joined
    rw [flatten_pieces]
  unfold Display.printedLines
  rw [List.map_singleton, hpieces, hjoined]
  rfl

/-! ## Markup on a line -/

/-- What is printed of markup is what it looks like, laid out. -/
theorem printed_of_printedMarkup {markup text : String}
    (h : printedMarkup width markup = .ok text) : ∃ t, Markup.render markup = .ok t ∧
      text = Display.printedLines width (laidOut width t) := by
  unfold printedMarkup at h
  simp only [bind, Except.bind] at h
  split at h
  · cases h
  · rename_i t hrender
    refine ⟨t, hrender, ?_⟩
    unfold withColours at h
    split at h
    · cases h
    · rename_i lines hlines
      split at hlines
      · cases hlines
      · cases hlines
        cases h
        rfl

/-- **Markup that takes one line** is printed as it looks. -/
theorem printedMarkup_of_oneLine {markup : String} {t : Spanned}
    (hrender : Markup.render markup = .ok t)
    (hcolours : ∀ s ∈ t.stretches, isColoured s.style = true) (h : t.OneLine width) :
    printedMarkup width markup = .ok (Text.ofPoints t.points ++ "\n") := by
  have hlines : withColours (laidOut width t) = .ok [t] := by
    rw [h.laidOut]
    exact withColours_eq (P := fun _ => True)
      (List.forall_mem_singleton.2 ⟨fun _ _ => trivial, hcolours⟩)
  unfold printedMarkup
  rw [hrender]
  show (withColours (laidOut width t) >>= fun lines =>
    pure (Display.printedLines width lines)) = _
  rw [hlines, ← h.printedLines]
  rfl

/-! ## Short texts -/

theorem pointCells_le (p : Point) : pointCells p ≤ 2 := by
  cases p with
  | half unit => exact Nat.le_succ 1
  | char c =>
    show charCells c ≤ 2
    unfold charCells
    split
    · exact Nat.le_succ 1
    · split
      · exact Nat.zero_le 2
      · split
        · exact Nat.le_refl 2
        · exact Nat.le_succ 1

theorem widening_le (last : Option Point) : widening last ≤ 1 := by
  unfold widening
  split
  · exact Nat.le_refl 1
  · exact Nat.zero_le 1

theorem cellsFrom_le (last : Option Point) (ps : List Point) :
    cellsFrom last ps ≤ 2 * ps.length := by
  fun_induction cellsFrom last ps with
  | case1 => exact Nat.zero_le _
  | case2 => exact Nat.zero_le _
  | case3 last => exact Nat.le_trans (widening_le last) (Nat.le_succ 1)
  | case4 last p hj hs => exact pointCells_le p
  | case5 last next ps ih =>
    rw [List.length_cons, List.length_cons]
    omega
  | case6 last next ps _ ih =>
    have hwidening := widening_le last
    rw [List.length_cons]
    omega
  | case7 last p next ps hj hs hp ih =>
    rw [List.length_cons]
    omega
  | case8 last p next ps hj hs hp ih =>
    have hpoint := pointCells_le p
    rw [List.length_cons]
    omega

theorem pieceCells_le (pieces : List (List Point)) :
    pieceCells pieces ≤ 2 * pieces.flatten.length := by
  have hfrom : ∀ start, (pieces.map cells).foldl (· + ·) start ≤
      start + 2 * pieces.flatten.length := by
    induction pieces with
    | nil => exact fun start => Nat.le_refl _
    | cons piece pieces ih =>
      intro start
      have hpiece : cells piece ≤ 2 * piece.length := cellsFrom_le none piece
      have hrest := ih (start + cells piece)
      rw [List.map_cons, List.foldl_cons, List.flatten_cons, List.length_append]
      omega
  exact Nat.le_trans (hfrom 0) (Nat.le_of_eq (Nat.zero_add _))

/-- A point takes two cells at most, so half as many points as there are cells always fit. -/
theorem fits_of_short {t : Spanned} (h : 2 * t.points.length ≤ width) : t.Fits width where
  short := by omega
  narrow := Nat.le_trans (cellsFrom_le none t.points) h
  pieces := by
    have hpieces := pieceCells_le t.pieces
    rw [flatten_pieces] at hpieces
    exact Nat.le_trans hpieces h

end Provision.Display
