import Mathlib.Data.List.Basic
import Provision.Display.Console
import Provision.Proofs.Text.Plain

/-!
# What laying out adds

However a text is cut into lines, broken, filled up and cropped, every point of what is printed is
one of the text or a blank, and every style is one of the text.

* `Display.Spanned.Of`: all points of a text, and all its styles, are of given kinds.
* `Display.laidOut_of`: laying out keeps the kinds.
* `Display.plain_printedLines`: **what is printed of a text without lone halves has none**, so it
  can be encoded (`Text.IsPlain.unencodable?`).
* `Display.prints_markup`, `Display.prints_panel`: sound markup can be printed.
* `Markup.isSound_heading`: a heading over plain text is sound markup.
-/

namespace Provision

open Text (Point IsPlain)

theorem Text.IsPlain.isChar {s : String} (h : IsPlain s) :
    ∀ p ∈ Text.points s.toList, p.isChar = true := by
  have hhalf := h.hasHalf
  unfold Text.hasHalf at hhalf
  intro p hp
  simpa using List.any_eq_false.1 hhalf p hp

/-- A plain text can be encoded. -/
theorem Text.IsPlain.unencodable? {s : String} (h : IsPlain s) : Text.unencodable? s = none := by
  have hchars := h.isChar
  unfold Text.unencodable?
  generalize Text.points s.toList = ps at hchars
  generalize 0 = first
  induction ps generalizing first with
  | nil => rfl
  | cons p ps ih =>
    obtain ⟨hp, hps⟩ := List.forall_mem_cons.1 hchars
    rw [Text.stretch?, hp]
    exact ih hps (first + 1)

namespace Display

variable {P : Point → Prop} {Q : String → Prop}

/-! ## Cells -/

/-- Cutting a text into what is drawn together loses nothing. -/
theorem flatMap_clustersFrom (ps : List Point) (current : Cluster) (last : Option Point) :
    (clustersFrom current last ps).flatMap Cluster.points = current.points ++ ps := by
  fun_induction clustersFrom current last ps <;> simp_all [Cluster.grow]

theorem flatMap_clusters (ps : List Point) : (clusters ps).flatMap Cluster.points = ps := by
  cases ps with
  | nil => rfl
  | cons p ps =>
    rw [clusters]
    split
    · exact flatMap_clustersFrom ps ⟨[p], 0⟩ none
    · exact flatMap_clustersFrom ps ⟨[p], pointCells p⟩ (some p)

theorem cutClusters_all (hblank : P blank) {cs : List Cluster} (room : ℕ)
    (h : ∀ c ∈ cs, ∀ p ∈ c.points, P p) : ∀ p ∈ cutClusters room cs, P p := by
  induction cs generalizing room with
  | nil => exact List.forall_mem_nil _
  | cons c cs ih =>
    obtain ⟨hc, hcs⟩ := List.forall_mem_cons.1 h
    unfold cutClusters
    split
    · exact List.forall_mem_nil _
    · split
      · exact List.forall_mem_singleton.2 hblank
      · exact List.forall_mem_append.2 ⟨hc, ih _ hcs⟩

theorem forall_mem_replicate {count : ℕ} {p : Point} (h : P p) :
    ∀ q ∈ List.replicate count p, P q := by
  intro q hq
  rw [List.eq_of_mem_replicate hq]
  exact h

theorem fitCells_all (hblank : P blank) {ps : List Point} (width : ℕ) (h : ∀ p ∈ ps, P p) :
    ∀ p ∈ fitCells width ps, P p := by
  unfold fitCells
  split
  · exact List.forall_mem_append.2 ⟨h, forall_mem_replicate hblank⟩
  · refine cutClusters_all hblank width fun c hc p hp => h p ?_
    rw [← flatMap_clusters ps]
    exact List.mem_flatMap.2 ⟨c, hc, hp⟩

/-! ## Texts with stretches -/

/-- All points of a text, and all its styles, are of given kinds. -/
structure Spanned.Of (P : Point → Prop) (Q : String → Prop) (t : Spanned) : Prop where
  points : ∀ p ∈ t.points, P p
  styles : ∀ s ∈ t.stretches, Q s.style

namespace Spanned.Of

variable {t u : Spanned}

theorem between (h : t.Of P Q) (first last : ℕ) : (t.between first last).Of P Q where
  points p hp := h.points p (List.mem_of_mem_drop (List.mem_of_mem_take hp))
  styles s hs := by
    obtain ⟨s', hs', hcut⟩ := List.mem_filterMap.1 hs
    unfold Stretch.between? at hcut
    simp only at hcut
    split at hcut
    · cases hcut
      exact h.styles s' hs'
    · cases hcut

theorem partsFrom (h : t.Of P Q) (first : ℕ) (cuts : List ℕ) :
    ∀ u ∈ t.partsFrom first cuts, u.Of P Q := by
  induction cuts generalizing first with
  | nil => exact List.forall_mem_singleton.2 (h.between first _)
  | cons cut cuts ih => exact List.forall_mem_cons.2 ⟨h.between first cut, ih cut⟩

theorem divide (h : t.Of P Q) (cuts : List ℕ) : ∀ u ∈ t.divide cuts, u.Of P Q := by
  unfold Spanned.divide
  split
  · exact List.forall_mem_singleton.2 h
  · exact h.partsFrom 0 cuts

theorem lines (h : t.Of P Q) : ∀ u ∈ t.lines, u.Of P Q := by
  intro u hu
  exact h.divide _ u (List.mem_of_mem_filter hu)

theorem append (h : t.Of P Q) (h' : u.Of P Q) : (t.append u).Of P Q where
  points := List.forall_mem_append.2 ⟨h.points, h'.points⟩
  styles := by
    refine List.forall_mem_append.2 ⟨h.styles, fun s hs => ?_⟩
    obtain ⟨s', hs', rfl⟩ := List.mem_map.1 hs
    exact h'.styles s' hs'

theorem extend (hblank : P blank) (h : t.Of P Q) (count : ℕ) : (t.extend count).Of P Q where
  points := List.forall_mem_append.2 ⟨h.points, forall_mem_replicate hblank⟩
  styles s hs := by
    obtain ⟨s', hs', rfl⟩ := List.mem_map.1 hs
    have hstyle := h.styles s' hs'
    -- a stretch that reaches the end grows with the text, in its own style
    split
    · exact hstyle
    · exact hstyle

theorem keep (h : t.Of P Q) (count : ℕ) : (t.keep count).Of P Q := by
  unfold Spanned.keep
  split
  · exact h
  · refine ⟨fun p hp => h.points p (List.mem_of_mem_take hp), fun s hs => ?_⟩
    obtain ⟨s', hs', rfl⟩ := List.mem_map.1 hs
    exact h.styles s' (List.mem_of_mem_filter hs')

theorem fillTab (hblank : P blank) (h : t.Of P Q) (column : ℕ) : (t.fillTab column).Of P Q := by
  have hpoints : ∀ p ∈ t.points.dropLast ++ [blank], P p := by
    refine List.forall_mem_append.2 ⟨fun p hp => ?_, List.forall_mem_singleton.2 hblank⟩
    exact h.points p ((List.dropLast_sublist _).subset hp)
  exact extend hblank (t := { t with points := t.points.dropLast ++ [blank] }) ⟨hpoints, h.styles⟩ _

theorem fillTabs (hblank : P blank) (ts : List Spanned) (column : ℕ) (h : ∀ t ∈ ts, t.Of P Q) :
    (Spanned.fillTabs column ts).Of P Q := by
  fun_induction Spanned.fillTabs column ts with
  | case1 => exact ⟨List.forall_mem_nil _, List.forall_mem_nil _⟩
  | case2 column t => exact h t List.mem_cons_self
  | case3 column t ts _ filled added column' ih =>
    obtain ⟨ht, hts⟩ := List.forall_mem_cons.1 h
    exact (fillTab hblank ht column).append (ih hts)

theorem expandTabs (hblank : P blank) (h : t.Of P Q) : t.expandTabs.Of P Q := by
  unfold Spanned.expandTabs
  split
  · exact h
  · exact fillTabs hblank _ 0 (h.partsFrom 0 _)

theorem cropBlanks (h : t.Of P Q) (width : ℕ) : (Display.cropBlanks width t).Of P Q := h.keep _

theorem crop (hblank : P blank) (h : t.Of P Q) (width : ℕ) : (Display.crop width t).Of P Q := by
  unfold Display.crop
  split
  · exact h
  · exact ⟨fitCells_all hblank width h.points, (h.keep _).styles⟩

theorem wrap (hblank : P blank) (h : t.Of P Q) (width : ℕ) :
    ∀ u ∈ Display.wrap width t, u.Of P Q := by
  intro u hu
  obtain ⟨line, hline, rfl⟩ := List.mem_map.1 hu
  have hdivided := (h.expandTabs hblank).divide _ line hline
  exact (hdivided.cropBlanks width).crop hblank width

end Spanned.Of

/-- **Laying out adds blanks only.** -/
theorem laidOut_of (hblank : P blank) {t : Spanned} (h : t.Of P Q) (width : ℕ) :
    ∀ u ∈ laidOut width t, u.Of P Q := by
  intro u hu
  obtain ⟨line, hline, hu⟩ := List.mem_flatMap.1 hu
  exact (h.lines line hline).wrap hblank width u hu

/-! ## Pieces -/

theorem piecesFrom_all (cuts : List ℕ) (first : ℕ) {ps : List Point} (h : ∀ p ∈ ps, P p) :
    ∀ piece ∈ Spanned.piecesFrom first cuts ps, ∀ p ∈ piece, P p := by
  induction cuts generalizing first ps with
  | nil => exact List.forall_mem_singleton.2 h
  | cons cut cuts ih =>
    refine List.forall_mem_cons.2 ⟨fun p hp => h p (List.mem_of_mem_take hp), ?_⟩
    exact ih cut fun p hp => h p (List.mem_of_mem_drop hp)

theorem pieces_all {t : Spanned} (h : t.Of P Q) : ∀ piece ∈ t.pieces, ∀ p ∈ piece, P p := by
  intro piece hpiece
  exact piecesFrom_all _ 0 h.points piece (List.mem_of_mem_filter hpiece)

theorem cropPieces_all (hblank : P blank) {pieces : List (List Point)} (width : ℕ)
    (h : ∀ piece ∈ pieces, ∀ p ∈ piece, P p) :
    ∀ piece ∈ cropPieces width pieces, ∀ p ∈ piece, P p := by
  induction pieces generalizing width with
  | nil => exact List.forall_mem_nil _
  | cons piece pieces ih =>
    obtain ⟨hpiece, hpieces⟩ := List.forall_mem_cons.1 h
    unfold cropPieces
    split
    · exact List.forall_mem_cons.2 ⟨hpiece, ih _ hpieces⟩
    · exact List.forall_mem_singleton.2 (fitCells_all hblank width hpiece)

theorem atMost_all (hblank : P blank) {pieces : List (List Point)} (width : ℕ)
    (h : ∀ piece ∈ pieces, ∀ p ∈ piece, P p) :
    ∀ piece ∈ atMost width pieces, ∀ p ∈ piece, P p := by
  unfold atMost
  split
  · exact h
  · exact cropPieces_all hblank width h

theorem exactly_all (hblank : P blank) {pieces : List (List Point)} (width : ℕ)
    (h : ∀ piece ∈ pieces, ∀ p ∈ piece, P p) :
    ∀ piece ∈ exactly width pieces, ∀ p ∈ piece, P p := by
  unfold exactly
  split
  · exact List.forall_mem_append.2 ⟨h, List.forall_mem_singleton.2 (forall_mem_replicate hblank)⟩
  · exact atMost_all hblank width h

/-! ## Printing -/

theorem plain_ofPoints {ps : List Point} (h : ∀ p ∈ ps, p.isChar = true) :
    IsPlain (Text.ofPoints ps) := by
  refine Text.isPlain_iff.2 ⟨ps.filterMap Point.char?, ?_⟩
  unfold Text.ofPoints Text.spell
  rw [String.toList_ofList]
  induction ps with
  | nil => rfl
  | cons p ps ih =>
    obtain ⟨hp, hps⟩ := List.forall_mem_cons.1 h
    cases p with
    | char c =>
      rw [List.flatMap_cons, ih hps]
      rfl
    | half unit => cases hp

theorem plain_joined {pieces : List (List Point)}
    (h : ∀ piece ∈ pieces, ∀ p ∈ piece, p.isChar = true) : IsPlain (joined pieces) := by
  refine plain_ofPoints fun p hp => ?_
  obtain ⟨piece, hpiece, hp⟩ := List.mem_flatten.1 hp
  exact h piece hpiece p hp

theorem plain_join {parts : List String} (h : ∀ part ∈ parts, IsPlain part) :
    IsPlain (String.join parts) := by
  -- joining goes from the left, so the part joined so far has to be any plain text
  have hfrom : ∀ start, IsPlain start → IsPlain (parts.foldl (fun r s => r ++ s) start) := by
    induction parts with
    | nil => exact fun start hstart => hstart
    | cons part parts ih =>
      obtain ⟨hpart, hparts⟩ := List.forall_mem_cons.1 h
      exact fun start hstart => ih hparts (start ++ part) (hstart.append hpart)
  exact hfrom "" ⟨"", rfl⟩

/-- **What is printed of a text without lone halves has none.** -/
theorem plain_printedLines {lines : List Spanned} (width : ℕ)
    (h : ∀ t ∈ lines, t.Of (fun p => p.isChar = true) Q) :
    IsPlain (printedLines width lines) := by
  refine plain_join fun part hpart => ?_
  obtain ⟨line, hline, rfl⟩ := List.mem_map.1 hpart
  have hblank : blank.isChar = true := rfl
  have hpieces := atMost_all hblank width (pieces_all (h line hline))
  exact (plain_joined hpieces).append (Text.isPlain_of_mark_free (by decide +kernel))

theorem plain_framed {lines : List Spanned} (width : ℕ)
    (h : ∀ t ∈ lines, t.Of (fun p => p.isChar = true) Q) : IsPlain (framed width lines) := by
  have hblank : blank.isChar = true := rfl
  have hbar : IsPlain (String.ofList (List.replicate (width + 2) '─')) := by
    refine Text.isPlain_of_mark_free fun hmark => ?_
    rw [String.toList_ofList] at hmark
    exact absurd (List.eq_of_mem_replicate hmark) (by decide +kernel)
  have hlines : IsPlain (String.join (lines.map (panelLine width))) := by
    refine plain_join fun part hpart => ?_
    obtain ⟨line, hline, rfl⟩ := List.mem_map.1 hpart
    have hinside := exactly_all hblank width (pieces_all (h line hline))
    have hedge : ∀ p ∈ [blank], p.isChar = true := List.forall_mem_singleton.2 hblank
    have hline := exactly_all hblank (width + 2) (List.forall_mem_cons.2
      ⟨hedge, List.forall_mem_append.2 ⟨hinside, List.forall_mem_singleton.2 hedge⟩⟩)
    refine (IsPlain.append ?_ (plain_joined hline)).append ?_
    all_goals exact Text.isPlain_of_mark_free (by decide +kernel)
  unfold framed
  refine ((((IsPlain.append ?_ hbar).append ?_).append hlines).append ?_ |>.append hbar).append ?_
  all_goals exact Text.isPlain_of_mark_free (by decide +kernel)

/-- A styled text without lone halves is printed without any. -/
theorem plain_printed {pieces : List Piece} (width : ℕ) (h : IsPlain (plain pieces)) :
    IsPlain (printed width pieces) := by
  have hpieces : (spannedPieces pieces).Of (fun p => p.isChar = true) fun _ => True :=
    ⟨h.isChar, fun _ _ => trivial⟩
  have hlines := laidOut_of (show blank.isChar = true from rfl) hpieces width
  exact plain_printedLines width hlines

/-! ## Markup -/

/-- What is shown can be printed: its markup makes sense, and it can be encoded. -/
inductive Prints : Except Markup.Error String → Prop
  | shown {text : String} (h : Text.unencodable? text = none) : Prints (.ok text)

/-- Whether the colours of a style can be looked up. -/
def isColoured (style : String) : Bool := (normalStyle style).toOption.isSome

/-- Whether markup can be shown, without a lone half. -/
def isSound (markup : String) : Bool :=
  match Markup.render markup with
  | .ok t => t.points.all Point.isChar && t.stretches.all fun s => isColoured s.style
  | .error _ => false

variable {markup : String}

theorem render_of_isSound (h : isSound markup = true) : ∃ t, Markup.render markup = .ok t ∧
    t.Of (fun p => p.isChar = true) fun style => isColoured style = true := by
  unfold isSound at h
  split at h
  · rename_i t hrender
    obtain ⟨hpoints, hstyles⟩ := Bool.and_eq_true_iff.1 h
    exact ⟨t, hrender, List.all_eq_true.1 hpoints, List.all_eq_true.1 hstyles⟩
  · cases h

theorem colourFault?_eq_none {styles : List String}
    (h : ∀ style ∈ styles, isColoured style = true) : Markup.colourFault? styles = none := by
  induction styles with
  | nil => rfl
  | cons style styles ih =>
    obtain ⟨hstyle, hstyles⟩ := List.forall_mem_cons.1 h
    unfold isColoured at hstyle
    rw [Markup.colourFault?]
    split
    · rename_i hfault
      rw [hfault] at hstyle
      cases hstyle
    · exact ih hstyles

theorem withColours_eq {lines : List Spanned}
    (h : ∀ t ∈ lines, t.Of P fun style => isColoured style = true) :
    withColours lines = .ok lines := by
  have hnone : Markup.colourFault?
      (lines.flatMap fun t => t.stretches.map Stretch.style) = none := by
    refine colourFault?_eq_none fun style hstyle => ?_
    obtain ⟨line, hline, hstyle⟩ := List.mem_flatMap.1 hstyle
    obtain ⟨s, hs, rfl⟩ := List.mem_map.1 hstyle
    exact (h line hline).styles s hs
  unfold withColours
  rw [hnone]

/-- **A line of sound markup can be printed.** -/
theorem prints_markup (width : ℕ) (h : isSound markup = true) :
    Prints (printedMarkup width markup) := by
  obtain ⟨t, hrender, ht⟩ := render_of_isSound h
  have hlines := laidOut_of (show blank.isChar = true from rfl) ht width
  unfold printedMarkup
  rw [hrender]
  show Prints (withColours (laidOut width t) >>= fun lines => pure (printedLines width lines))
  rw [withColours_eq hlines]
  exact .shown (plain_printedLines width hlines).unencodable?

/-- **A panel of sound markup can be printed.** -/
theorem prints_panel (width : ℕ) (h : isSound markup = true) :
    Prints (printedPanel width markup) := by
  obtain ⟨t, hrender, ht⟩ := render_of_isSound h
  have hlines := laidOut_of (show blank.isChar = true from rfl) ht
    (min (measure t.points) (width - 4))
  unfold printedPanel
  rw [hrender]
  show Prints (withColours (laidOut (min (measure t.points) (width - 4)) t) >>= fun lines =>
    pure (framed (min (measure t.points) (width - 4)) lines))
  rw [withColours_eq hlines]
  exact .shown (plain_framed _ hlines).unencodable?

/-! ## Headings -/

/-- Only a colour in three parts can have a number that is none. -/
theorem readColour_cases {word : String} (h : inParentheses? "rgb" word = none) :
    readColour word = .ok () ∨ readColour word = .error .unknown := by
  unfold readColour
  simp only [h]
  exact ite_eq_or_eq _ _ _

theorem ofWords_two {first second : String} {p q : StyleParts}
    (h : Text.lower first ∉ ["on", "not", "link"]) (hadd : p.add (Text.lower first) = .ok q) :
    StyleParts.ofWords [first, second] p = q.add (Text.lower second) := by
  simp only [List.mem_cons, List.not_mem_nil, or_false, not_or] at h
  rw [StyleParts.ofWords, if_neg h.1, if_neg h.2.1, if_neg h.2.2, hadd]
  rfl

/-- Bold, and one word more: a word that is no colour leaves the name of the style as it is. -/
theorem normalStyle_bold {style : String} (word : String)
    (hplain : String.ofList (Text.trim style.toList) = style) (hnone : style ≠ "none")
    (hwords : Text.words style = ["bold", word])
    (hattribute : attributeOf? (Text.lower word) = none)
    (hparts : inParentheses? "rgb" (Text.lower word) = none)
    (hjoined : " ".intercalate ["bold", Text.lower word] = style)
    (hlower : Text.lower style = style) :
    normalStyle style = .ok style := by
  have hbold : StyleParts.add {} (Text.lower "bold") = .ok { attributes := [("bold", true)] } := by
    decide +kernel
  have hshown : StyleParts.words
      { attributes := [("bold", true)], colour := some (Text.lower word) } =
        ["bold", Text.lower word] := rfl
  unfold normalStyle
  simp only [hplain, if_neg hnone]
  rw [hwords, ofWords_two (by decide +kernel) hbold, StyleParts.add, hattribute]
  rcases readColour_cases hparts with h | h
  · rw [h]
    show Except.ok (if (StyleParts.words _).isEmpty then "none" else
      " ".intercalate (StyleParts.words _)) = _
    rw [hshown, hjoined]
    rfl
  · rw [h]
    exact congrArg Except.ok hlower

end Display

namespace Markup

variable {s : Screen} {inside : List Char} {name normal : String}

/-- A tag without a slash opens a style. -/
theorem afterTag_opening (position : ℕ) (hopening : (Tag.ofInside inside).closing? = none)
    (hnormal : Display.normalStyle (Tag.ofInside inside).name = .ok normal) :
    s.afterTag position inside = .ok { s with
      opened := ⟨s.shown.length, { Tag.ofInside inside with name := normal }⟩ :: s.opened } := by
  unfold Screen.afterTag normalName
  simp only [hopening, hnormal]
  rfl

/-- A tag with a slash closes the last style of its name. -/
theorem afterTag_closing (position : ℕ) {o : Opened} (hname : name ≠ "")
    (hclosing : (Tag.ofInside inside).closing? = some name)
    (hnormal : Display.normalStyle name = .ok normal)
    (hfind : s.opened.find? (·.tag.name = normal) = some o) :
    s.afterTag position inside = s.close o (s.opened.erase o) := by
  unfold Screen.afterTag normalName
  simp only [hclosing, hnormal, Except.mapError, bind, Except.bind, hfind]

theorem afterTokens_tag {position : ℕ} {s' : Screen} (h : s.afterTag position inside = .ok s')
    (ts : List Token) :
    Screen.afterTokens (.tag position inside :: ts) s = Screen.afterTokens ts s' := by
  rw [Screen.afterTokens, h]

/-- A style that can be opened and closed by its name. -/
structure IsHeadingStyle (style : String) : Prop where
  normal : Display.normalStyle style = .ok style
  opening : Tag.ofInside style.toList = { name := style }
  opens : ({ name := style } : Tag).closing? = none
  closes : (Tag.ofInside ('/' :: style.toList)).closing? = some style
  styled : ({ name := style } : Tag).isHandler = false
  nonempty : style ≠ ""

theorem isHeadingStyle_boldBlue : IsHeadingStyle "bold blue" where
  normal := Display.normalStyle_bold "blue" (by decide +kernel) (by decide) (by decide +kernel)
    (by decide +kernel) (by decide +kernel) (by decide +kernel) (by decide +kernel)
  opening := by decide +kernel
  opens := by decide +kernel
  closes := by decide +kernel
  styled := by decide +kernel
  nonempty := by decide

/-- A heading in a style of its own, and what follows it. -/
theorem afterTokens_heading {style : String} (h : IsHeadingStyle style) (heading : List Char)
    (i j : ℕ) (ts : List Token) :
    Screen.afterTokens (.tag i style.toList :: .text heading :: .tag j ('/' :: style.toList) :: ts)
      {} = Screen.afterTokens ts
        { shown := showText heading
          stretches := [⟨0, (showText heading).length, style⟩] } := by
  have hopen : Screen.afterTag {} i style.toList = .ok { opened := [⟨0, { name := style }⟩] } := by
    rw [afterTag_opening i (by rw [h.opening]; exact h.opens) (by rw [h.opening]; exact h.normal),
      h.opening]
    rfl
  have hclose : ∀ shown, Screen.afterTag { shown, opened := [⟨0, { name := style }⟩] } j
      ('/' :: style.toList) = .ok { shown, stretches := [⟨0, shown.length, style⟩] } := by
    intro shown
    rw [afterTag_closing j (o := ⟨0, { name := style }⟩) h.nonempty h.closes h.normal (by simp),
      List.erase_cons_head]
    have hstyle : ({ name := style } : Tag).style = style := String.append_empty
    unfold Screen.close Screen.stretch
    rw [if_neg (by rw [h.styled]; exact Bool.false_ne_true), hstyle]
  rw [afterTokens_tag hopen, Screen.afterTokens]
  simp only [List.nil_append]
  exact afterTokens_tag (hclose _) ts

/-- **A heading in bold blue is sound markup**, if nothing behind it is a tag. -/
theorem isSound_heading {markup : String} (heading rest : List Char) (i j : ℕ)
    (htokens : tokens markup =
      [.tag i "bold blue".toList, .text heading, .tag j "/bold blue".toList, .text rest])
    (hshown : (showText heading ++ showText rest).all Point.isChar = true) :
    Display.isSound markup = true := by
  have hrender : render markup = .ok ⟨showText heading ++ showText rest,
      [⟨0, (showText heading).length, "bold blue"⟩]⟩ := by
    unfold render
    rw [htokens, show "/bold blue".toList = '/' :: "bold blue".toList from rfl,
      afterTokens_heading isHeadingStyle_boldBlue, Screen.afterTokens, Screen.afterTokens]
    simp only [Except.map, Screen.spanned, List.reverse_nil, List.map_nil, List.nil_append,
      List.mergeSort_singleton]
  unfold Display.isSound Display.isColoured
  rw [hrender]
  simp only [hshown, List.all_cons, List.all_nil, isHeadingStyle_boldBlue.normal]
  rfl

end Markup

end Provision
