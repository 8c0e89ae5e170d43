import Provision.Proofs.Display.Line
import Provision.Proofs.Text.Spelled

/-!
# Markup that shows itself

A text is put into a line with markup as it is, so what looks like a tag in it is one. Characters
are **literal** (`Markup.isLiteral`) if no tag starts in them, and no bracket has a backslash in
front. Literal characters are one stretch of text, which is shown as it is. Of any others less is
shown: with every tag a bracket is lost, and with every escape a backslash. So the number of
brackets and backslashes tells whether a text is shown character for character.

* `Markup.tokensFrom_of_tagFree`, `Markup.unescapeBrackets_of_escapeFree`: literal characters.
* `Markup.countP_kept_lt`: **what is not literal loses brackets or backslashes.**
* `Markup.points_render`: **what is shown of a text** is the text without its tags and escapes.
-/

namespace Provision.Markup

variable {cs inside rest : List Char}

/-! ## Literal characters -/

/-- The characters that tags and escapes are made with. -/
def isMarkup (c : Char) : Bool := c = '[' || c = '\\'

/-- Whether no tag starts in the characters. -/
def tagFree : List Char → Bool
  | [] => true
  | c :: cs => (readTag (c :: cs)).isNone && tagFree cs

/-- Whether no opening bracket has a backslash in front. -/
def escapeFree : List Char → Bool
  | '\\' :: '[' :: _ => false
  | _ :: cs => escapeFree cs
  | [] => true

/-- Whether characters are shown as they are. -/
def isLiteral (cs : List Char) : Bool := tagFree cs && escapeFree cs

theorem readTag_of_tagFree (h : tagFree cs = true) : readTag cs = none := by
  cases cs with
  | nil => rfl
  | cons c cs => exact Option.isNone_iff_eq_none.1 (Bool.and_eq_true_iff.1 h).1

theorem readTag_of_ne {c : Char} (h : c ≠ '[') (cs : List Char) : readTag (c :: cs) = none := by
  unfold readTag
  split
  · rename_i heq
    exact absurd (List.cons.inj heq).1 h
  · rfl

/-- Text without brackets and backslashes is literal, and what follows it counts. -/
theorem isLiteral_append (text cs : List Char) (h : ∀ c ∈ text, isMarkup c = false) :
    isLiteral (text ++ cs) = isLiteral cs := by
  induction text with
  | nil => rfl
  | cons c text ih =>
    obtain ⟨hc, htext⟩ := List.forall_mem_cons.1 h
    have htag : tagFree (c :: (text ++ cs)) = tagFree (text ++ cs) := by
      rw [tagFree, readTag_of_ne (by rintro rfl; cases hc)]
      rfl
    have hescape : escapeFree (c :: (text ++ cs)) = escapeFree (text ++ cs) := by
      rw [escapeFree]
      intro ds heq
      cases heq
      cases hc
    rw [List.cons_append, isLiteral, htag, hescape]
    exact ih htext

theorem tagFree_drop (h : tagFree cs = true) (n : ℕ) : tagFree (cs.drop n) = true := by
  induction n generalizing cs with
  | zero => exact h
  | succ n ih =>
    cases cs with
    | nil => rfl
    | cons c cs => exact ih (Bool.and_eq_true_iff.1 h).2

/-- How many backslashes are in front. -/
def slashes (cs : List Char) : ℕ := (cs.takeWhile (· = '\\')).length

theorem slashes_cons_of_ne {c : Char} (h : c ≠ '\\') (cs : List Char) : slashes (c :: cs) = 0 := by
  unfold slashes
  rw [List.takeWhile_cons_of_neg (by simpa using h)]
  rfl

theorem slashes_cons_slash (cs : List Char) : slashes ('\\' :: cs) = slashes cs + 1 := by
  unfold slashes
  rw [List.takeWhile_cons_of_pos rfl, List.length_cons]

/-- No tag starts with a backslash. -/
theorem tagFree_drop_slashes (cs : List Char) : tagFree (cs.drop (slashes cs)) = tagFree cs := by
  induction cs with
  | nil => rfl
  | cons c cs ih =>
    by_cases hc : c = '\\'
    · subst hc
      rw [slashes_cons_slash, List.drop_succ_cons, ih]
      rfl
    · rw [slashes_cons_of_ne hc, List.drop_zero]

/-- Characters that start no tag can be passed over. -/
theorem tagFree_pass {c : Char} (h : readTag ((c :: cs).drop (slashes (c :: cs))) = none) :
    tagFree ((c :: cs).drop (max 1 (slashes (c :: cs)))) = tagFree (c :: cs) := by
  have hslashes := tagFree_drop_slashes (c :: cs)
  cases hcount : slashes (c :: cs) with
  | zero =>
    rw [hcount, List.drop_zero] at h
    rw [tagFree, h]
    rfl
  | succ n =>
    rw [hcount] at hslashes
    rw [Nat.max_eq_right (Nat.succ_le_succ (Nat.zero_le n)), hslashes]

theorem unescapeBrackets_of_escapeFree (h : escapeFree cs = true) : unescapeBrackets cs = cs := by
  fun_induction unescapeBrackets cs with
  | case1 cs ih => cases h
  | case2 c cs hne ih =>
    have hrest : escapeFree cs = true := by
      rw [escapeFree] at h
      · exact h
      · exact hne
    rw [ih hrest]
  | case3 => rfl

/-! ## Steps of a reader -/

theorem tokensFrom_tag {c : Char}
    (h : readTag ((c :: cs).drop (slashes (c :: cs))) = some (inside, rest)) (fuel position : ℕ)
    (before : List Char) :
    tokensFrom (fuel + 1) position before (c :: cs) =
      textToken before ++ tagTokens position (slashes (c :: cs)) inside ++
        tokensFrom fuel (position + slashes (c :: cs) + inside.length + 2) [] rest := by
  unfold slashes at h
  rw [tokensFrom]
  simp only [h]
  rfl

theorem tokensFrom_pass {c : Char} (h : readTag ((c :: cs).drop (slashes (c :: cs))) = none)
    (fuel position : ℕ) (before : List Char) :
    tokensFrom (fuel + 1) position before (c :: cs) =
      tokensFrom fuel (position + max 1 (slashes (c :: cs)))
        (before ++ (c :: cs).take (max 1 (slashes (c :: cs))))
        ((c :: cs).drop (max 1 (slashes (c :: cs)))) := by
  unfold slashes at h
  rw [tokensFrom]
  simp only [h]
  rfl

/-- **Without a tag characters are one stretch of text.** -/
theorem tokensFrom_of_tagFree (h : tagFree cs = true) (fuel position : ℕ) (before : List Char) :
    tokensFrom fuel position before cs = textToken (before ++ cs) := by
  induction fuel generalizing position before cs with
  | zero => rfl
  | succ fuel ih =>
    cases cs with
    | nil => rw [tokensFrom, List.append_nil]
    | cons c cs =>
      rw [tokensFrom_pass (readTag_of_tagFree (tagFree_drop h _)), ih (tagFree_drop h _),
        List.append_assoc, List.take_append_drop]

/-- Text without brackets and backslashes is passed over. -/
theorem tokensFrom_chars {text : List Char} (h : ∀ c ∈ text, isMarkup c = false)
    (rest : List Char) (fuel position : ℕ) (before : List Char) :
    tokensFrom (fuel + text.length) position before (text ++ rest) =
      tokensFrom fuel (position + text.length) (before ++ text) rest := by
  induction text generalizing position before with
  | nil => rw [List.append_nil]; rfl
  | cons c text ih =>
    obtain ⟨hc, htext⟩ := List.forall_mem_cons.1 h
    have hslashes : slashes (c :: (text ++ rest)) = 0 :=
      slashes_cons_of_ne (by rintro rfl; cases hc) _
    have hnone : readTag (c :: (text ++ rest)) = none := readTag_of_ne (by rintro rfl; cases hc) _
    rw [List.length_cons, ← Nat.add_assoc, List.cons_append,
      tokensFrom_pass (by rw [hslashes]; exact hnone), hslashes]
    show tokensFrom _ (position + 1) (before ++ [c]) (text ++ rest) = _
    rw [ih htext, List.append_assoc, Nat.add_assoc, Nat.add_comm 1]
    rfl

theorem untilBracket_append (h : ∀ c ∈ inside, c ≠ '[' ∧ c ≠ ']') (rest : List Char) :
    untilBracket (inside ++ ']' :: rest) = some (inside, rest) := by
  induction inside with
  | nil => rfl
  | cons c inside ih =>
    obtain ⟨⟨hopening, hclosing⟩, hinside⟩ := List.forall_mem_cons.1 h
    rw [List.cons_append, untilBracket, if_neg hclosing, if_neg hopening, ih hinside]
    rfl

/-- A tag is a token. -/
theorem tokensFrom_opening {c : Char} (hc : startsTag c = true)
    (h : ∀ d ∈ inside, d ≠ '[' ∧ d ≠ ']') (rest : List Char) (fuel position : ℕ)
    (before : List Char) :
    tokensFrom (fuel + 1) position before ('[' :: c :: (inside ++ ']' :: rest)) =
      textToken before ++ .tag position (c :: inside) ::
        tokensFrom fuel (position + (inside.length + 1) + 2) [] rest := by
  have hread : readTag ('[' :: c :: (inside ++ ']' :: rest)) = some (c :: inside, rest) := by
    rw [readTag, if_pos hc, untilBracket_append h]
    rfl
  have hslashes : slashes ('[' :: c :: (inside ++ ']' :: rest)) = 0 :=
    slashes_cons_of_ne (by decide) _
  rw [tokensFrom_tag (by rw [hslashes]; exact hread), hslashes, List.append_assoc]
  rfl

/-- **A heading between tags**, and what follows it. -/
theorem tokensFrom_heading (c : Char) (inside heading rest : List Char) (hc : startsTag c = true)
    (hstyle : ∀ d ∈ c :: inside, d ≠ '[' ∧ d ≠ ']') (hheading : heading ≠ [])
    (htext : ∀ d ∈ heading, isMarkup d = false) (fuel : ℕ) : ∃ i j k,
    tokensFrom (fuel + 1 + heading.length + 1) 0 []
        ('[' :: c :: (inside ++ ']' :: (heading ++
          '[' :: '/' :: (c :: inside ++ ']' :: rest)))) =
      .tag i (c :: inside) :: .text heading :: .tag j ('/' :: c :: inside) ::
        tokensFrom fuel k [] rest := by
  have htoken : textToken ([] ++ heading) = [.text heading] := by
    unfold textToken
    rw [List.nil_append, if_neg (mt List.isEmpty_iff.1 hheading)]
  rw [tokensFrom_opening hc (List.forall_mem_cons.1 hstyle).2, tokensFrom_chars htext,
    tokensFrom_opening rfl hstyle, htoken]
  exact ⟨_, _, _, rfl⟩

/-! ## What is lost -/

/-- The text of a token; a tag has none. -/
def Token.stretch : Token → List Char
  | .text cs => cs
  | .tag _ _ => []

/-- The characters of tokens that are shown. -/
def kept (ts : List Token) : List Char := ts.flatMap fun t => unescapeBrackets t.stretch

theorem kept_append (ts us : List Token) : kept (ts ++ us) = kept ts ++ kept us :=
  List.flatMap_append

theorem kept_textToken (cs : List Char) : kept (textToken cs) = unescapeBrackets cs := by
  unfold textToken
  split
  · rename_i h
    rw [List.isEmpty_iff.1 h]
    rfl
  · exact List.append_nil _

/-- Every escape loses a backslash. -/
theorem countP_unescapeBrackets (cs : List Char) :
    (unescapeBrackets cs).countP isMarkup ≤ cs.countP isMarkup ∧
      (escapeFree cs = false → (unescapeBrackets cs).countP isMarkup < cs.countP isMarkup) := by
  fun_induction unescapeBrackets cs with
  | case1 cs ih =>
    have hbracket : isMarkup '[' = true := rfl
    have hslash : isMarkup '\\' = true := rfl
    simp only [List.countP_cons, hbracket, hslash, if_true]
    omega
  | case2 c cs hne ih =>
    rw [escapeFree, List.countP_cons, List.countP_cons]
    · exact ⟨Nat.add_le_add_right ih.1 _, fun h => Nat.add_lt_add_right (ih.2 h) _⟩
    · exact hne
  | case3 => exact ⟨Nat.le_refl _, fun h => by cases h⟩

theorem countP_slashes (n : ℕ) : (List.replicate n '\\').countP isMarkup = n := by
  rw [List.countP_replicate]
  rfl

/-- Backslashes in front are counted apart. -/
theorem countP_drop_slashes (cs : List Char) :
    cs.countP isMarkup = slashes cs + (cs.drop (slashes cs)).countP isMarkup := by
  induction cs with
  | nil => rfl
  | cons c cs ih =>
    by_cases hc : c = '\\'
    · subst hc
      rw [slashes_cons_slash, List.drop_succ_cons, List.countP_cons_of_pos rfl, ih]
      omega
    · rw [slashes_cons_of_ne hc, List.drop_zero, Nat.zero_add]

theorem countP_tag (inside rest : List Char) :
    ('[' :: inside ++ ']' :: rest).countP isMarkup =
      inside.countP isMarkup + rest.countP isMarkup + 1 := by
  rw [List.cons_append, List.countP_cons_of_pos rfl, List.countP_append,
    List.countP_cons_of_neg (by decide)]

/-- A tag is put between brackets. -/
theorem eq_of_readTag (h : readTag cs = some (inside, rest)) :
    cs = '[' :: inside ++ ']' :: rest := by
  have huntil : ∀ {ds inside}, untilBracket ds = some (inside, rest) →
      ds = inside ++ ']' :: rest := by
    intro ds inside hds
    fun_induction untilBracket ds generalizing inside with
    | case1 => cases hds
    | case2 ds =>
      cases hds
      rfl
    | case3 => cases hds
    | case4 d ds hclosing hopening ih =>
      obtain ⟨⟨found, behind⟩, hfound, heq⟩ := Option.map_eq_some_iff.1 hds
      cases heq
      rw [ih hfound]
      rfl
  unfold readTag at h
  split at h
  · rename_i c ds
    split at h
    · obtain ⟨⟨found, behind⟩, hfound, heq⟩ := Option.map_eq_some_iff.1 h
      cases heq
      rw [huntil hfound]
      rfl
    · cases h
  · cases h

/-- Every tag loses a bracket, or a backslash in front of it. -/
theorem countP_tagTokens (position slashes : ℕ) (inside : List Char) :
    (kept (tagTokens position slashes inside)).countP isMarkup <
      slashes + 1 + inside.countP isMarkup := by
  have hslashes := (countP_unescapeBrackets (List.replicate (slashes / 2) '\\')).1
  rw [countP_slashes] at hslashes
  unfold tagTokens
  rw [kept_append, List.countP_append, kept_textToken]
  split
  · have htag := (countP_unescapeBrackets ('[' :: inside ++ [']'])).1
    have hkept : kept [.text ('[' :: inside ++ [']'])] =
        unescapeBrackets ('[' :: inside ++ [']']) := List.append_nil _
    rw [countP_tag inside [], List.countP_nil] at htag
    rw [hkept]
    omega
  · have hkept : kept [.tag (position + slashes) inside] = [] := rfl
    rw [hkept, List.countP_nil]
    omega

/-- **What is lost with tags and escapes**: never is there more than before, and with a tag there is
less. -/
theorem countP_tokensFrom (fuel position : ℕ) (before cs : List Char) :
    (kept (tokensFrom fuel position before cs)).countP isMarkup ≤
        (before ++ cs).countP isMarkup ∧
      (cs.length < fuel → tagFree cs = false →
        (kept (tokensFrom fuel position before cs)).countP isMarkup <
          (before ++ cs).countP isMarkup) := by
  -- `before` holds what was passed over, brackets that start no tag among it
  induction fuel generalizing position before cs with
  | zero =>
    rw [tokensFrom, kept_textToken]
    exact ⟨(countP_unescapeBrackets _).1, fun h => absurd h (Nat.not_lt_zero _)⟩
  | succ fuel ih =>
    cases cs with
    | nil =>
      rw [tokensFrom, kept_textToken, List.append_nil]
      exact ⟨(countP_unescapeBrackets _).1, fun _ h => by cases h⟩
    | cons c cs =>
      cases htag : readTag ((c :: cs).drop (slashes (c :: cs))) with
      | some found =>
        obtain ⟨inside, rest⟩ := found
        -- the text before, the backslashes, the tag and the rest are counted one by one
        have hcount := countP_drop_slashes (c :: cs)
        rw [eq_of_readTag htag, countP_tag] at hcount
        have hbefore := (countP_unescapeBrackets before).1
        have hlost := countP_tagTokens position (slashes (c :: cs)) inside
        have hrest := (ih (position + slashes (c :: cs) + inside.length + 2) [] rest).1
        rw [List.nil_append] at hrest
        rw [tokensFrom_tag htag, kept_append, kept_append, kept_textToken, List.countP_append,
          List.countP_append, List.countP_append]
        omega
      | none =>
        -- characters go over to `before`, so none is lost yet
        have hstep := ih (position + max 1 (slashes (c :: cs)))
          (before ++ (c :: cs).take (max 1 (slashes (c :: cs))))
          ((c :: cs).drop (max 1 (slashes (c :: cs))))
        rw [List.append_assoc, List.take_append_drop, tagFree_pass htag] at hstep
        rw [tokensFrom_pass htag]
        refine ⟨hstep.1, fun hlength hfree => hstep.2 ?_ hfree⟩
        rw [List.length_cons] at hlength
        rw [List.length_drop, List.length_cons]
        omega

/-- **Characters that are not literal lose some of their brackets and backslashes.** -/
theorem countP_kept_lt (h : isLiteral cs = false) (fuel position : ℕ) (hfuel : cs.length < fuel) :
    (kept (tokensFrom fuel position [] cs)).countP isMarkup < cs.countP isMarkup := by
  cases htag : tagFree cs with
  | false => exact (countP_tokensFrom fuel position [] cs).2 hfuel htag
  | true =>
    have hescape : escapeFree cs = false := by
      rw [isLiteral, htag, Bool.true_and] at h
      exact h
    rw [tokensFrom_of_tagFree htag, List.nil_append, kept_textToken]
    exact (countP_unescapeBrackets cs).2 hescape

/-! ## What is shown -/

/-- Closing a tag shows nothing. -/
theorem shown_close {s s' : Screen} {o : Opened} {opened : List Opened}
    (h : s.close o opened = .ok s') : s'.shown = s.shown := by
  unfold Screen.close at h
  split at h
  · -- a handler may have parameters that make no sense
    simp only [bind, Except.bind] at h
    split at h
    · split at h
      · cases h
      · cases h
        rfl
    · cases h
      rfl
  · cases h
    rfl

/-- A tag shows nothing. -/
theorem shown_afterTag {s s' : Screen} {position : ℕ}
    (h : s.afterTag position inside = .ok s') : s'.shown = s.shown := by
  unfold Screen.afterTag at h
  simp only [bind, Except.bind] at h
  split at h
  · split at h
    · cases h
    · exact shown_close h
  · split at h
    · cases h
    · split at h
      · cases h
      · exact shown_close h
  · split at h
    · cases h
    · cases h
      rfl

theorem showText_nil : showText [] = [] := by decide +kernel

/-- **What is shown of tokens** is what is shown of their texts. -/
theorem shown_afterTokens {ts : List Token} {s s' : Screen} (h : Screen.afterTokens ts s = .ok s') :
    s'.shown = s.shown ++ ts.flatMap fun t => showText t.stretch := by
  induction ts generalizing s with
  | nil =>
    cases h
    exact (List.append_nil _).symm
  | cons t ts ih =>
    rw [List.flatMap_cons]
    cases t with
    | text cs =>
      rw [Screen.afterTokens] at h
      rw [ih h, List.append_assoc]
      rfl
    | tag position inside =>
      rw [Screen.afterTokens] at h
      split at h
      · cases h
      · rename_i after hafter
        rw [ih h, shown_afterTag hafter]
        show _ = s.shown ++ (showText [] ++ _)
        rw [showText_nil, List.nil_append]

theorem unescapeBrackets_sublist (cs : List Char) : (unescapeBrackets cs).Sublist cs := by
  fun_induction unescapeBrackets cs with
  | case1 cs ih => exact (ih.cons_cons '[').cons '\\'
  | case2 c cs hne ih => exact ih.cons_cons c
  | case3 => exact List.Sublist.refl _

/-- A stretch of text is shown as it is, up to its escapes, if it has no controls and names no
pictograph. -/
theorem showText_eq (hcontrols : ∀ c ∈ cs, 0x20 ≤ c.toNat)
    (hpictures : Display.replaceEmoji (String.ofList (unescapeBrackets cs)) =
      String.ofList (unescapeBrackets cs)) :
    showText cs = Text.points (unescapeBrackets cs) := by
  have hshown : (unescapeBrackets cs).filter (fun c => !Display.isDropped c) =
      unescapeBrackets cs := by
    refine List.filter_eq_self.2 fun c hc => ?_
    have hc' := hcontrols c ((unescapeBrackets_sublist cs).subset hc)
    rw [Display.isDropped, Bool.not_eq_true', ← Bool.not_eq_true, List.contains_iff_mem]
    simp only [List.mem_cons, List.not_mem_nil, or_false]
    omega
  unfold showText Display.shown
  rw [hpictures, String.toList_ofList, String.toList_ofList, hshown]

/-- The texts of tokens are made of the characters they were read from. -/
theorem forall_mem_tokensFrom {P : Char → Prop} (hslash : P '\\') {before : List Char}
    (hbefore : ∀ c ∈ before, P c) (h : ∀ c ∈ cs, P c) (fuel position : ℕ) :
    ∀ t ∈ tokensFrom fuel position before cs, ∀ c ∈ t.stretch, P c := by
  have htext : ∀ {ds : List Char}, (∀ c ∈ ds, P c) →
      ∀ t ∈ textToken ds, ∀ c ∈ t.stretch, P c := by
    intro ds hds t ht
    unfold textToken at ht
    split at ht
    · cases ht
    · rw [List.mem_singleton.1 ht]
      exact hds
  induction fuel generalizing position before cs with
  | zero => exact htext (List.forall_mem_append.2 ⟨hbefore, h⟩)
  | succ fuel ih =>
    cases cs with
    | nil => exact htext hbefore
    | cons c cs =>
      cases htag : readTag ((c :: cs).drop (slashes (c :: cs))) with
      | some found =>
        obtain ⟨inside, rest⟩ := found
        have hread : ∀ d ∈ '[' :: inside ++ ']' :: rest, P d := by
          rw [← eq_of_readTag htag]
          exact fun d hd => h d (List.mem_of_mem_drop hd)
        obtain ⟨hinside, hclosing⟩ := List.forall_mem_append.1 hread
        obtain ⟨hbracket, hrest⟩ := List.forall_mem_cons.1 hclosing
        rw [tokensFrom_tag htag, List.append_assoc]
        refine List.forall_mem_append.2 ⟨htext hbefore, List.forall_mem_append.2 ⟨?_, ?_⟩⟩
        · refine List.forall_mem_append.2 ⟨htext fun d hd => ?_, ?_⟩
          · rw [List.eq_of_mem_replicate hd]
            exact hslash
          · split
            · exact List.forall_mem_singleton.2 (List.forall_mem_append.2
                ⟨hinside, List.forall_mem_singleton.2 hbracket⟩)
            · exact List.forall_mem_singleton.2 (List.forall_mem_nil _)
        · exact ih (List.forall_mem_nil _) hrest _
      | none =>
        rw [tokensFrom_pass htag]
        refine ih (List.forall_mem_append.2 ⟨hbefore, fun d hd => ?_⟩) (fun d hd => ?_) _
        · exact h d (List.mem_of_mem_take hd)
        · exact h d (List.mem_of_mem_drop hd)

/-! ## What is shown of a text -/

/-- A token with the place of a tag counted in points. -/
def Token.relocated (cs : List Char) : Token → Token
  | .tag position inside => .tag (Text.count (cs.take position)) inside
  | .text ds => .text ds

@[simp] theorem stretch_relocated (cs : List Char) (t : Token) :
    (t.relocated cs).stretch = t.stretch := by
  cases t <;> rfl

theorem tokens_eq (s : String) : tokens s =
    (tokensFrom (s.toList.length + 1) 0 [] s.toList).map (Token.relocated s.toList) := by
  unfold tokens
  refine List.map_congr_left fun t _ => ?_
  cases t <;> rfl

theorem kept_relocated (cs : List Char) (ts : List Token) :
    kept (ts.map (Token.relocated cs)) = kept ts := by
  unfold kept
  rw [List.flatMap_map]
  simp only [stretch_relocated]

/-- No stretch of a text names a pictograph. -/
def NamesNoPicture (s : String) : Prop :=
  ∀ cs, .text cs ∈ tokens s → Display.replaceEmoji (String.ofList (unescapeBrackets cs)) =
    String.ofList (unescapeBrackets cs)

/-- A text without its tags and escapes. -/
def stripped (s : String) : List Text.Point :=
  (tokens s).flatMap fun t => Text.points (unescapeBrackets t.stretch)

variable {s : String} {t : Display.Spanned}

/-- The texts of tokens have no controls if there are none in the text. -/
theorem controls_tokens (h : ∀ c ∈ s.toList, 0x20 ≤ c.toNat) :
    ∀ t ∈ tokens s, ∀ c ∈ t.stretch, 0x20 ≤ c.toNat := by
  have hfrom := forall_mem_tokensFrom (P := fun c => 0x20 ≤ c.toNat) (by decide)
    (List.forall_mem_nil _) h (s.toList.length + 1) 0
  rw [tokens_eq]
  intro t ht
  obtain ⟨token, htoken, rfl⟩ := List.mem_map.1 ht
  rw [stretch_relocated]
  exact hfrom token htoken

/-- **What a text looks like**: its stretches without their escapes. -/
theorem points_render (hrender : render s = .ok t) (hcontrols : ∀ c ∈ s.toList, 0x20 ≤ c.toNat)
    (hpictures : NamesNoPicture s) : t.points = stripped s := by
  unfold render at hrender
  cases hscreen : Screen.afterTokens (tokens s) {} with
  | error e =>
    rw [hscreen] at hrender
    cases hrender
  | ok screen =>
    rw [hscreen] at hrender
    cases hrender
    show screen.shown = _
    rw [shown_afterTokens hscreen, List.nil_append]
    refine List.flatMap_congr fun t ht => ?_
    cases t with
    | text cs => exact showText_eq (controls_tokens hcontrols _ ht) (hpictures cs ht)
    | tag position inside => exact showText_nil

/-- What is shown of a text without controls has none. -/
theorem controls_render (hrender : render s = .ok t) (hcontrols : ∀ c ∈ s.toList, 0x20 ≤ c.toNat)
    (hpictures : NamesNoPicture s) {c : Char} (hc : .char c ∈ t.points) : 0x20 ≤ c.toNat := by
  rw [points_render hrender hcontrols hpictures] at hc
  obtain ⟨token, htoken, hc⟩ := List.mem_flatMap.1 hc
  have hmem : c ∈ unescapeBrackets token.stretch := Text.mem_of_char_mem_points hc
  exact controls_tokens hcontrols token htoken c ((unescapeBrackets_sublist _).subset hmem)

/-- Of every kind of characters as many are printed as tokens keep. -/
theorem countP_render (hrender : render s = .ok t) (hcontrols : ∀ c ∈ s.toList, 0x20 ≤ c.toNat)
    (hpictures : NamesNoPicture s) {P : Char → Bool} (hmark : P Text.mark = false) :
    (Text.ofPoints t.points).toList.countP P = (kept (tokens s)).countP P := by
  rw [points_render hrender hcontrols hpictures]
  unfold Text.ofPoints kept stripped
  rw [String.toList_ofList, List.flatMap_assoc, List.countP_flatMap, List.countP_flatMap]
  congr 1
  exact List.map_congr_left fun token _ => Text.countP_spelling hmark _

end Provision.Markup
