import Mathlib.Data.Bool.AllAny
import Provision.Proofs.Command.Run
import Provision.Proofs.Display.Literal

/-!
# What a complaint shows

A complaint is a line with markup: a heading in bold red, and a message behind it. The message is
put into the line as it is, with all that a user wrote: the name of a driver, or the names of holes.
So it is read as markup, too. It is shown character for character exactly if it is literal.

* `Command.tokens_errorLine`: what an error line is read as.
* `Command.Legible`: a message for which the console is wide enough.
* `Command.printed_of_literal`, `Command.lost_of_printed`: what is printed of a literal message, and
  of another one.
* `Command.error_line_literal_iff`: **which complaints tell what they are about.**
-/

namespace Provision.Command

open Display (Prints printedMarkup)
open Markup (Token isLiteral isMarkup kept)

variable {σ ε α : Type} {w : World σ ε} {width : ℕ} {message text : String}

/-! ## Error lines -/

theorem isHeadingStyle_boldRed : Markup.IsHeadingStyle "bold red" where
  normal := Display.normalStyle_bold "red" (by decide +kernel) (by decide) (by decide +kernel)
    (by decide +kernel) (by decide +kernel) (by decide +kernel) (by decide +kernel)
  opening := by decide +kernel
  opens := by decide +kernel
  closes := by decide +kernel
  styled := by decide +kernel
  nonempty := by decide

theorem isHeadingStyle_bold : Markup.IsHeadingStyle "bold" where
  normal := by decide +kernel
  opening := by decide +kernel
  opens := by decide +kernel
  closes := by decide +kernel
  styled := by decide +kernel
  nonempty := by decide

theorem isColoured_of_isHeadingStyle {style : String} (h : Markup.IsHeadingStyle style) :
    Display.isColoured style = true := by
  unfold Display.isColoured
  rw [h.normal]
  rfl

/-- **An error line** is a heading between tags, and the tokens of the message. -/
theorem tokens_errorLine (message : String) : ∃ i j k,
    Markup.tokens (errorLine message) = .tag i "bold red".toList :: .text "✗ Error:".toList ::
      .tag j ('/' :: "bold red".toList) ::
        (Markup.tokensFrom (message.toList.length + 21) k [] (' ' :: message.toList)).map
          (Token.relocated (errorLine message).toList) := by
  have hprefix : "[bold red]✗ Error:[/bold red] ".toList =
      '[' :: 'b' :: ("old red".toList ++ ']' :: ("✗ Error:".toList ++
        '[' :: '/' :: ('b' :: "old red".toList ++ [']', ' ']))) := by decide +kernel
  have hchars : (errorLine message).toList =
      '[' :: 'b' :: ("old red".toList ++ ']' :: ("✗ Error:".toList ++
        '[' :: '/' :: ('b' :: "old red".toList ++ ']' :: ' ' :: message.toList))) := by
    unfold errorLine
    rw [String.toList_append, hprefix]
    simp only [List.cons_append, List.append_assoc, List.nil_append]
  -- a tag, a heading of eight characters and another tag are read in ten steps
  have hlength : (errorLine message).toList.length + 1 =
      message.toList.length + 21 + 1 + "✗ Error:".toList.length + 1 := by
    unfold errorLine
    rw [String.toList_append, List.length_append,
      show "[bold red]✗ Error:[/bold red] ".toList.length = 30 from rfl,
      show "✗ Error:".toList.length = 8 from rfl]
    omega
  obtain ⟨i, j, k, hheading⟩ := Markup.tokensFrom_heading 'b' "old red".toList "✗ Error:".toList
    (' ' :: message.toList) rfl (List.all_iff_forall_prop.1 (by decide +kernel)) (by decide)
    (List.all_iff_forall_prop.1 (by decide +kernel)) (message.toList.length + 21)
  rw [← hchars, ← hlength] at hheading
  rw [Markup.tokens_eq, hheading]
  exact ⟨_, _, k, rfl⟩

theorem controls_errorLine (h : ∀ c ∈ message.toList, 0x20 ≤ c.toNat) :
    ∀ c ∈ (errorLine message).toList, 0x20 ≤ c.toNat := by
  unfold errorLine
  rw [String.toList_append]
  exact List.forall_mem_append.2 ⟨List.all_iff_forall_prop.1 (by decide +kernel), h⟩

/-- A message with which the error line is one line of encodable text: it has no controls and no
lone halves, no pictographs are named, and the console is wide enough. -/
structure Legible (width : ℕ) (message : String) : Prop where
  plain : Text.IsPlain message
  controls : ∀ c ∈ message.toList, 0x20 ≤ c.toNat
  pictures : Markup.NamesNoPicture (errorLine message)
  fits : ∀ t, Markup.render (errorLine message) = .ok t → t.Fits width

namespace Legible

variable {t : Display.Spanned}

theorem oneLine (h : Legible width message) (hrender : Markup.render (errorLine message) = .ok t) :
    t.OneLine width where
  toFits := h.fits t hrender
  ends hmem := by
    have hcontrol := Markup.controls_render hrender (controls_errorLine h.controls) h.pictures hmem
    exact absurd hcontrol (by decide)
  tabs hmem := by
    have hcontrol := Markup.controls_render hrender (controls_errorLine h.controls) h.pictures hmem
    exact absurd hcontrol (by decide)

/-- A message in known styles is printed without its tags and escapes. -/
theorem printed (h : Legible width message) (hrender : Markup.render (errorLine message) = .ok t)
    (hstyles : ∀ s ∈ t.stretches, Display.isColoured s.style = true) :
    printedMarkup width (errorLine message) =
      .ok (Text.ofPoints (Markup.stripped (errorLine message)) ++ "\n") := by
  rw [Display.printedMarkup_of_oneLine hrender hstyles (h.oneLine hrender),
    Markup.points_render hrender (controls_errorLine h.controls) h.pictures]

/-- **A literal message is printed as it is.** -/
theorem printed_of_literal (h : Legible width message)
    (hliteral : isLiteral message.toList = true) :
    printedMarkup width (errorLine message) = .ok ("✗ Error: " ++ message ++ "\n") := by
  have hfree : Markup.tagFree (' ' :: message.toList) = true ∧
      Markup.escapeFree (' ' :: message.toList) = true := by
    rw [← Bool.and_eq_true_iff]
    exact (Markup.isLiteral_append [' '] message.toList
      (List.forall_mem_singleton.2 rfl)).trans hliteral
  -- behind the heading there is one stretch of text, and no style
  obtain ⟨i, j, k, htokens⟩ := tokens_errorLine message
  rw [Markup.tokensFrom_of_tagFree hfree.1] at htokens
  have htokens' : Markup.tokens (errorLine message) = [.tag i "bold red".toList,
      .text "✗ Error:".toList, .tag j ('/' :: "bold red".toList), .text (' ' :: message.toList)] :=
    htokens
  obtain ⟨t, hrender, hstyles⟩ : ∃ t, Markup.render (errorLine message) = .ok t ∧
      ∀ s ∈ t.stretches, Display.isColoured s.style = true := by
    unfold Markup.render
    rw [htokens', Markup.afterTokens_heading isHeadingStyle_boldRed, Markup.Screen.afterTokens,
      Markup.Screen.afterTokens]
    refine ⟨_, rfl, fun s hs => ?_⟩
    rw [List.mem_singleton.1 ((List.mergeSort_perm _ _).mem_iff.1 hs)]
    exact isColoured_of_isHeadingStyle isHeadingStyle_boldRed
  have hheading : Text.IsSpelled "✗ Error:" :=
    (Text.isPlain_of_mark_free (by decide +kernel)).isSpelled
  have hbehind : Text.IsSpelled (" " ++ message) :=
    ((Text.isPlain_of_mark_free (by decide +kernel)).append h.plain).isSpelled
  have hstripped : Markup.stripped (errorLine message) =
      Text.points "✗ Error:".toList ++ Text.points (" " ++ message).toList := by
    unfold Markup.stripped
    rw [htokens', String.toList_append]
    show Text.points (Markup.unescapeBrackets "✗ Error:".toList) ++
      (Text.points (Markup.unescapeBrackets (' ' :: message.toList)) ++ []) = _
    rw [Markup.unescapeBrackets_of_escapeFree hfree.2, List.append_nil]
    rfl
  rw [h.printed hrender hstyles, hstripped, Text.ofPoints_append, hheading.ofPoints_points,
    hbehind.ofPoints_points, ← String.append_assoc]
  rfl

/-- A tag that opens a style is not printed. -/
theorem printed_of_styled (h : Legible width message) {style : String}
    (hstyle : Markup.IsHeadingStyle style) {i j k : ℕ} {before after : List Char}
    (htokens : Markup.tokens (errorLine message) = [.tag i "bold red".toList,
      .text "✗ Error:".toList, .tag j ('/' :: "bold red".toList), .text before,
      .tag k style.toList, .text after]) :
    printedMarkup width (errorLine message) =
      .ok (Text.ofPoints (Markup.stripped (errorLine message)) ++ "\n") := by
  obtain ⟨t, hrender, hstyles⟩ : ∃ t, Markup.render (errorLine message) = .ok t ∧
      ∀ s ∈ t.stretches, Display.isColoured s.style = true := by
    have hopens : (Markup.Tag.ofInside style.toList).closing? = none := by
      rw [hstyle.opening]
      exact hstyle.opens
    have hnormal : Display.normalStyle (Markup.Tag.ofInside style.toList).name = .ok style := by
      rw [hstyle.opening]
      exact hstyle.normal
    unfold Markup.render
    rw [htokens, Markup.afterTokens_heading isHeadingStyle_boldRed, Markup.Screen.afterTokens,
      Markup.afterTokens_tag (Markup.afterTag_opening k hopens hnormal), hstyle.opening,
      Markup.Screen.afterTokens, Markup.Screen.afterTokens]
    refine ⟨_, rfl, fun s hs => ?_⟩
    rcases List.mem_append.1 ((List.mergeSort_perm _ _).mem_iff.1 hs) with hs | hs
    · rw [List.mem_singleton.1 hs]
      show Display.isColoured ({ name := style } : Markup.Tag).style = true
      rw [show ({ name := style } : Markup.Tag).style = style from String.append_empty]
      exact isColoured_of_isHeadingStyle hstyle
    · rw [List.mem_singleton.1 hs]
      exact isColoured_of_isHeadingStyle isHeadingStyle_boldRed
  exact h.printed hrender hstyles

/-- **Of a message that is not literal less is printed**: it has more brackets and backslashes than
the error line. -/
theorem lost_of_printed (h : Legible width message) (hliteral : isLiteral message.toList = false)
    (hprinted : printedMarkup width (errorLine message) = .ok text) : ∃ line : String,
    text = line ++ "\n" ∧ '\n' ∉ line.toList ∧
      line.toList.countP isMarkup < message.toList.countP isMarkup := by
  obtain ⟨t, hrender, rfl⟩ := Display.printed_of_printedMarkup hprinted
  have hline := h.oneLine hrender
  have hcontrols := controls_errorLine h.controls
  refine ⟨Text.ofPoints t.points, ?_, ?_, ?_⟩
  · rw [hline.laidOut, hline.printedLines]
  · have hnone : (kept (Markup.tokens (errorLine message))).countP (· = '\n') = 0 := by
      refine List.countP_eq_zero.2 fun c hc => ?_
      obtain ⟨token, htoken, hc⟩ := List.mem_flatMap.1 hc
      have hcontrol := Markup.controls_tokens hcontrols token htoken c
        ((Markup.unescapeBrackets_sublist _).subset hc)
      rintro heq
      rw [of_decide_eq_true heq] at hcontrol
      exact absurd hcontrol (by decide)
    rw [← Markup.countP_render hrender hcontrols h.pictures (by decide +kernel),
      List.countP_eq_zero] at hnone
    exact fun hmem => hnone _ hmem (by decide)
  · obtain ⟨i, j, k, htokens⟩ := tokens_errorLine message
    have hbehind : isLiteral (' ' :: message.toList) = false :=
      (Markup.isLiteral_append [' '] message.toList
        (List.forall_mem_singleton.2 rfl)).trans hliteral
    have hlost := Markup.countP_kept_lt hbehind (message.toList.length + 21) k
      (by rw [List.length_cons]; omega)
    rw [List.countP_cons_of_neg (by decide)] at hlost
    rw [Markup.countP_render hrender hcontrols h.pictures (by decide +kernel), htokens]
    -- there are no brackets in the heading, and the tags of its style are gone
    show (Markup.unescapeBrackets "✗ Error:".toList ++ kept _).countP isMarkup < _
    rw [List.countP_append, Markup.kept_relocated,
      show (Markup.unescapeBrackets "✗ Error:".toList).countP isMarkup = 0 from rfl, Nat.zero_add]
    exact hlost

end Legible

/-! ## Complaints -/

/-- A command ends with code 1, and a text is in the first line that it prints. -/
def Result.Tells (r : Result σ ε) (text : String) : Prop :=
  r.ending = .exit 1 ∧ text.toList <:+: r.transcript.output.toList.takeWhile (· ≠ '\n')

/-- The hints of complaints can be printed. -/
def Hinted (width : ℕ) (hint : Option String) : Prop :=
  ∀ h, hint = some h → Prints (printedMarkup width (dimLine ("Hint: " ++ h)))

/-- A complaint that can be printed ends a command with code 1. -/
theorem ends_complain_exit {hint : Option String} (hhint : Hinted w.width hint)
    (hprinted : printedMarkup w.width (errorLine message) = .ok text)
    (hencodable : Text.unencodable? text = none) (tr : Transcript σ) : ∃ rest,
    (hint = none → rest = "") ∧ Ends (complain w message hint : Step σ ε α) tr (.exit 1)
      { tr with output := tr.output ++ text ++ rest } := by
  have hline : Continues (printLine w (errorLine message)) tr ()
      { tr with output := tr.output ++ text } := by
    unfold printLine
    rw [hprinted]
    exact continues_put hencodable tr
  cases hint with
  | none =>
    refine ⟨"", fun _ => rfl, hline.bind_ends ?_⟩
    rw [String.append_empty]
    rfl
  | some hint =>
    obtain ⟨rest, hrest⟩ := continues_putShown (ε := ε) (hhint hint rfl)
      { tr with output := tr.output ++ text }
    exact ⟨rest, fun h => (by cases h), hline.bind_ends (hrest.bind_ends rfl)⟩

/-- **All that a complaint can do**: it is printed and the command ends with code 1, or its line
cannot be printed and the command fails. -/
theorem ends_complain_cases (message : String) {hint : Option String} (hhint : Hinted w.width hint)
    (tr : Transcript σ) :
    (∃ text rest, printedMarkup w.width (errorLine message) = .ok text ∧ (hint = none → rest = "") ∧
      Ends (complain w message hint : Step σ ε α) tr (.exit 1)
        { tr with output := tr.output ++ text ++ rest }) ∨
    ∃ f, Ends (complain w message hint : Step σ ε α) tr (.failed f) tr := by
  have hfails : ∀ f, Ends (printLine w (errorLine message)) tr (.failed f) tr →
      Ends (complain w message hint : Step σ ε α) tr (.failed f) tr := fun f hf => hf.bind
  cases hprinted : printedMarkup w.width (errorLine message) with
  | error e =>
    refine Or.inr ⟨.markup e, hfails _ ?_⟩
    unfold printLine
    rw [hprinted]
    rfl
  | ok text =>
    cases hencodable : Text.unencodable? text with
    | some u =>
      refine Or.inr ⟨.unprinted u, hfails _ ?_⟩
      unfold printLine
      rw [hprinted]
      show Ends (put text) tr _ tr
      unfold put
      rw [hencodable]
      rfl
    | none =>
      obtain ⟨rest, hrest, hends⟩ := ends_complain_exit (α := α) hhint hprinted hencodable tr
      exact Or.inl ⟨text, rest, rfl, hrest, hends⟩

theorem exists_ends_complain (message : String) {hint : Option String} (hhint : Hinted w.width hint)
    (tr : Transcript σ) : ∃ r : Result σ ε,
    Ends (complain w message hint : Step σ ε α) tr r.ending r.transcript := by
  rcases ends_complain_cases (α := α) message hhint tr with
    ⟨text, rest, -, -, hends⟩ | ⟨f, hends⟩
  · exact ⟨⟨_, _⟩, hends⟩
  · exact ⟨⟨_, _⟩, hends⟩

/-- The first line of what is printed. -/
theorem takeWhile_line {line : String} (h : '\n' ∉ line.toList) (rest : String) :
    (line ++ "\n" ++ rest).toList.takeWhile (· ≠ '\n') = line.toList := by
  have hline : ∀ c ∈ line.toList, decide (c ≠ '\n') = true := by
    intro c hc
    refine decide_eq_true fun heq => h ?_
    rw [← heq]
    exact hc
  have hrest : ("\n" ++ rest).toList = '\n' :: rest.toList := by
    rw [String.toList_append]
    rfl
  rw [String.append_assoc, String.toList_append, List.takeWhile_append_of_pos hline, hrest,
    List.takeWhile_cons_of_neg (by decide), List.append_nil]

/-- **A complaint tells its message exactly if the message is literal.** -/
theorem tells_iff_literal (h : Legible w.width message) (part : String)
    (hpart : part.toList <:+: message.toList)
    (hcount : part.toList.countP isMarkup = message.toList.countP isMarkup) {hint : Option String}
    (hhint : Hinted w.width hint) {tr : Transcript σ} (hstart : tr.output = "") {r : Result σ ε}
    (hends : Ends (complain w message hint : Step σ ε α) tr r.ending r.transcript) :
    (r.Tells part ↔ isLiteral message.toList = true) ∧
      (isLiteral message.toList = true → r.ending = .exit 1 ∧ ∃ rest, (hint = none → rest = "") ∧
        r.transcript.output = "✗ Error: " ++ message ++ "\n" ++ rest) := by
  obtain ⟨ending, transcript⟩ := r
  -- a step has one result, so it is the one of the cases below
  have hresult : ∀ {e after}, Ends (complain w message hint : Step σ ε α) tr e after →
      ending = e ∧ transcript = after := by
    intro e after hends'
    have heq := hends.symm.trans hends'
    exact ⟨Except.error.inj (Prod.mk.inj heq).1, (Prod.mk.inj heq).2⟩
  cases hliteral : isLiteral message.toList with
  | true =>
    have hplain : Text.IsPlain ("✗ Error: " ++ message ++ "\n") :=
      ((Text.isPlain_of_mark_free (by decide +kernel)).append h.plain).append
        (Text.isPlain_of_mark_free (by decide +kernel))
    obtain ⟨rest, hrest, hends'⟩ := ends_complain_exit (α := α) hhint
      (h.printed_of_literal hliteral) hplain.unencodable? tr
    obtain ⟨rfl, rfl⟩ := hresult hends'
    have houtput : tr.output ++ ("✗ Error: " ++ message ++ "\n") ++ rest =
        "✗ Error: " ++ message ++ "\n" ++ rest := by rw [hstart, String.empty_append]
    have hline : '\n' ∉ ("✗ Error: " ++ message).toList := by
      rw [String.toList_append]
      intro hmem
      rcases List.mem_append.1 hmem with hmem | hmem
      · exact absurd hmem (by decide)
      · exact absurd (h.controls _ hmem) (by decide)
    refine ⟨⟨fun _ => rfl, fun _ => ⟨rfl, ?_⟩⟩, fun _ => ⟨rfl, rest, hrest, houtput⟩⟩
    show part.toList <:+: (tr.output ++ ("✗ Error: " ++ message ++ "\n") ++ rest).toList.takeWhile _
    rw [houtput, takeWhile_line hline, String.toList_append]
    exact hpart.trans (List.suffix_append _ _).isInfix
  | false =>
    refine ⟨⟨fun htells => ?_, fun htrue => by cases htrue⟩, fun htrue => by cases htrue⟩
    obtain ⟨hexit, hinfix⟩ := htells
    rcases ends_complain_cases (α := α) message hhint tr with
      ⟨text, rest, hprinted, -, hends'⟩ | ⟨f, hends'⟩
    · -- the first line has too few brackets and backslashes
      obtain ⟨-, rfl⟩ := hresult hends'
      obtain ⟨line, rfl, hline, hlost⟩ := h.lost_of_printed hliteral hprinted
      have hfirst : part.toList <:+: line.toList := by
        rw [← takeWhile_line hline rest]
        have houtput : tr.output ++ (line ++ "\n") ++ rest = line ++ "\n" ++ rest := by
          rw [hstart, String.empty_append]
        rw [← houtput]
        exact hinfix
      have hle := hfirst.sublist.countP_le (p := isMarkup)
      omega
    · rw [(hresult hends').1] at hexit
      cases hexit

/-! ## What a run command complains about -/

namespace Inputs

variable {o : RunOptions} (i : Inputs w o) {e : Ending ε} {tr after : Transcript σ}

/-- A driver that is rejected is complained about. -/
theorem closes_rejected {error : Catalogue.Error ε} (hspec : i.spec ≠ "")
    (hload : w.catalogue.load i.spec = .error error)
    (hmessage : error.configuration? = some message)
    (h : Ends (complain w message : Step σ ε σ) tr e after) :
    Closes (runCommand w o) tr e after := by
  have hdriver : loadDriver w i.spec = complain w message := by
    unfold loadDriver
    rw [hload]
    cases error with
    | relative owner => cases hmessage
    | failed failure => cases hmessage
    | malformed spec => cases hmessage; rfl
    | unimportable owner why => cases hmessage; rfl
    | noAttribute owner attr => cases hmessage; rfl
    | unbuildable spec why => cases hmessage; rfl
    | notDriver spec => cases hmessage; rfl
  refine i.closes_runCommand hspec (Or.inl ?_)
  unfold rest
  rw [hdriver]
  exact h.bind

/-- Holes that are left are complained about. -/
theorem closes_missing {driver : σ} (hload : w.catalogue.load i.spec = .ok driver)
    (hleft : i.prepared.left ≠ []) (hi : o.interactive = false)
    (h : Ends (complain w
      ("Missing values for holes: " ++ Text.listing (Template.holeNames i.prepared.left))
      (some "pass --fill hole=value or use --interactive") : Step σ ε Template)
      { tr with log := tr.log ++ i.prepared.notes } e after) :
    Closes (runCommand w o) tr e after := by
  refine i.closes_loaded hload (Or.inl ?_)
  unfold withDriver
  rw [hi, completeHoles_refused w hleft]
  exact h.bind

end Inputs

theorem hinted_none (width : ℕ) : Hinted width none := fun h hh => by cases hh

theorem hinted_fill (width : ℕ) :
    Hinted width (some "pass --fill hole=value or use --interactive") := by
  rintro h ⟨⟩
  exact prints_hint width

/-! ## Complaints in the office -/

/-- A message that is short enough is legible. -/
theorem legible_of_short (hmark : Text.mark ∉ message.toList)
    (hall : message.toList.all (fun c => 0x20 ≤ c.toNat) = true)
    (hpictures : ∀ t ∈ Markup.tokens (errorLine message),
      Display.replaceEmoji (String.ofList (Markup.unescapeBrackets t.stretch)) =
        String.ofList (Markup.unescapeBrackets t.stretch))
    (hshort : 2 * (Markup.stripped (errorLine message)).length ≤ width) :
    Legible width message := by
  have hcontrols := List.all_iff_forall_prop.1 hall
  have hnames : Markup.NamesNoPicture (errorLine message) := fun cs hcs => hpictures (.text cs) hcs
  refine ⟨Text.isPlain_of_mark_free hmark, hcontrols, hnames, fun t hrender => ?_⟩
  refine Display.fits_of_short ?_
  rw [Markup.points_render hrender (controls_errorLine hcontrols) hnames]
  exact hshort

theorem legible_rack : Legible 200 "Driver must be given as 'module:attribute', got 'rack'" :=
  legible_of_short (by decide +kernel) (by decide +kernel) (by decide +kernel) (by decide +kernel)

theorem legible_bold : Legible 200 "Driver must be given as 'module:attribute', got '[bold]'" :=
  legible_of_short (by decide +kernel) (by decide +kernel) (by decide +kernel) (by decide +kernel)

theorem legible_gb : Legible 200 ("Missing values for holes: " ++ Text.listing ["gb"]) :=
  legible_of_short (by decide +kernel) (by decide +kernel) (by decide +kernel) (by decide +kernel)

/-- A run of the template in the office, with a driver. -/
def officeRunWith (spec : String) : RunOptions where
  file := { names := ["site.json"] }
  driver := some spec

/-- What such a run reads. -/
def officeInputs (spec : String) : Inputs (office Int.ofNat) (officeRunWith spec) where
  settings := {}
  template := unsized
  fills := []
  overrides := []
  aliases := []
  settings_ok := settings_office
  template_ok := load_unsized
  fills_ok := rfl
  overrides_ok := rfl
  aliases_ok := rfl

theorem ofArguments_officeRunWith : ∀ spec ∈ ["rack", "[bold]", "rack:servers"],
    Invocation.ofArguments ["run", "site.json", "--driver", spec] =
      .ok (.run (officeRunWith spec)) := by decide +kernel

/-! ## Which complaints tell what they are about -/

/-- **A run command tells why it gives up exactly if that is literal text.** A driver that is
rejected and holes without values end it with code 1 and an error line. All of the message is in
that line, or the names of all missing holes, in order, if nothing in them can be read as markup;
and otherwise it is not. -/
theorem error_line_literal_iff {w : World σ ε} {o : RunOptions} {args : List String}
    (hargs : Invocation.ofArguments args = .ok (.run o)) (i : Inputs w o) :
    (∀ error message, i.spec ≠ "" → w.catalogue.load i.spec = .error error →
      error.configuration? = some message → Legible w.width message →
      ((execute w args).Tells message ↔ isLiteral message.toList = true) ∧
      (isLiteral message.toList = true → (execute w args).ending = .exit 1 ∧
        (execute w args).transcript.output = "✗ Error: " ++ message ++ "\n")) ∧
    (∀ driver missing names, w.catalogue.load i.spec = .ok driver →
      (((i.template.merge i.overrides).resolveAliases i.aliases).resolve false i.fills).2 =
        .ok missing →
      missing ≠ [] → o.interactive = false → names = Template.holeNames missing →
      Legible w.width ("Missing values for holes: " ++ Text.listing names) →
      (∀ name, name ∈ names ↔ ∃ hole ∈ missing, hole.hole = name) ∧
      names.Pairwise (fun a b => Text.precedes a b = true) ∧
      ((execute w args).Tells (Text.listing names) ↔
        isLiteral (Text.listing names).toList = true) ∧
      (isLiteral (Text.listing names).toList = true → (execute w args).ending = .exit 1 ∧
        ∃ hint, (execute w args).transcript.output =
          "✗ Error: Missing values for holes: " ++ Text.listing names ++ "\n" ++ hint)) := by
  refine ⟨?rejected, ?missing⟩
  case rejected =>
    intro error message hspec hload hmessage hlegible
    obtain ⟨r, hends⟩ : ∃ r : Result σ ε, Ends (complain w message : Step σ ε σ)
        { files := w.files } r.ending r.transcript :=
      exists_ends_complain message (hinted_none _) _
    -- nothing is printed before, so the complaint is the first line
    rw [execute_of_closes hargs (i.closes_rejected hspec hload hmessage hends)]
    obtain ⟨hiff, hliteral⟩ := tells_iff_literal hlegible message List.infix_rfl rfl
      (hinted_none _) rfl hends
    refine ⟨hiff, fun h => ?_⟩
    obtain ⟨hexit, rest, hrest, houtput⟩ := hliteral h
    rw [hrest rfl, String.append_empty] at houtput
    exact ⟨hexit, houtput⟩
  case missing =>
    rintro driver missing names hload hmissing hne hi rfl hlegible
    obtain rfl : i.prepared.left = missing := Except.ok.inj hmissing
    have hmem : ∀ name, name ∈ Template.holeNames i.prepared.left ↔
        ∃ hole ∈ i.prepared.left, hole.hole = name := by
      intro name
      unfold Template.holeNames
      rw [(Text.sorted_perm _).mem_iff, Text.mem_distinct, List.mem_map]
    have htext := @String.toList_append "Missing values for holes: "
      (Text.listing (Template.holeNames i.prepared.left))
    obtain ⟨r, hends⟩ : ∃ r : Result σ ε, Ends (complain w
        ("Missing values for holes: " ++ Text.listing (Template.holeNames i.prepared.left))
        (some "pass --fill hole=value or use --interactive") : Step σ ε Template)
        { files := w.files, log := [] ++ i.prepared.notes } r.ending r.transcript :=
      exists_ends_complain _ (hinted_fill _) _
    rw [execute_of_closes hargs (i.closes_missing hload hne hi hends)]
    -- the words in front of the names have no brackets, so all that is lost is lost of the names
    obtain ⟨hiff, hliteral⟩ := tells_iff_literal hlegible
      (Text.listing (Template.holeNames i.prepared.left))
      (by rw [htext]; exact (List.suffix_append _ _).isInfix)
      (by rw [htext, List.countP_append]; exact (Nat.zero_add _).symm) (hinted_fill _) rfl hends
    have hfree : ∀ c ∈ "Missing values for holes: ".toList, isMarkup c = false :=
      List.all_iff_forall_prop.1 (by decide +kernel)
    rw [htext, Markup.isLiteral_append _ _ hfree] at hiff hliteral
    refine ⟨hmem, Text.sorted_pairwise _, hiff, fun h => ?_⟩
    obtain ⟨hexit, rest, -, houtput⟩ := hliteral h
    rw [← String.append_assoc] at houtput
    exact ⟨hexit, rest, houtput⟩

/-- In the office a driver without a colon, and a size that is not told, are complained about in
full; a driver in brackets is not. -/
theorem error_line_literal_iff_office :
    Legible 200 "Driver must be given as 'module:attribute', got 'rack'" ∧
    Legible 200 "Driver must be given as 'module:attribute', got '[bold]'" ∧
    Legible 200 ("Missing values for holes: " ++ Text.listing ["gb"]) ∧
    (execute (office Int.ofNat) ["run", "site.json", "--driver", "rack"]).transcript.output =
      "✗ Error: Driver must be given as 'module:attribute', got 'rack'\n" ∧
    ¬ (execute (office Int.ofNat) ["run", "site.json", "--driver", "[bold]"]).Tells
      "Driver must be given as 'module:attribute', got '[bold]'" ∧
    (execute (office Int.ofNat) ["run", "site.json", "--driver", "rack:servers"]).Tells "gb" := by
  have hargs := ofArguments_officeRunWith
  have hrack := (error_line_literal_iff (hargs "rack" (by decide)) (officeInputs "rack")).1
    (.malformed "rack") "Driver must be given as 'module:attribute', got 'rack'" (by decide) rfl
    (by decide +kernel) legible_rack
  have hbold := (error_line_literal_iff (hargs "[bold]" (by decide)) (officeInputs "[bold]")).1
    (.malformed "[bold]") "Driver must be given as 'module:attribute', got '[bold]'" (by decide) rfl
    (by decide +kernel) legible_bold
  obtain ⟨-, -, hgb, -⟩ := (error_line_literal_iff (hargs "rack:servers" (by decide))
    (officeInputs "rack:servers")).2 (servers Int.ofNat) _ ["gb"] rfl rfl (by decide +kernel) rfl
    (by decide +kernel) legible_gb
  refine ⟨legible_rack, legible_bold, legible_gb, (hrack.2 (by decide +kernel)).2, ?_,
    hgb.2 (by decide +kernel)⟩
  rw [hbold.1]
  decide +kernel

/-- **A driver in brackets is complained about without its name**, which is read as a style. -/
theorem bracketed_driver_not_told :
    (office Int.ofNat).catalogue.load "[bold]" = .error (.malformed "[bold]") ∧
    (Catalogue.Error.malformed "[bold]" : Catalogue.Error String).configuration? =
      some "Driver must be given as 'module:attribute', got '[bold]'" ∧
    (execute (office Int.ofNat) ["run", "site.json", "--driver", "[bold]"]).ending = .exit 1 ∧
    (execute (office Int.ofNat) ["run", "site.json", "--driver", "[bold]"]).transcript.output =
      "✗ Error: Driver must be given as 'module:attribute', got ''\n" ∧
    ¬ (execute (office Int.ofNat) ["run", "site.json", "--driver", "[bold]"]).Tells
      "Driver must be given as 'module:attribute', got '[bold]'" := by
  have hstripped : Text.ofPoints (Markup.stripped
      (errorLine "Driver must be given as 'module:attribute', got '[bold]'")) ++ "\n" =
        "✗ Error: Driver must be given as 'module:attribute', got ''\n" := by decide +kernel
  have htokens : Markup.tokens
      (errorLine "Driver must be given as 'module:attribute', got '[bold]'") =
        [.tag 0 "bold red".toList, .text "✗ Error:".toList, .tag 18 ('/' :: "bold red".toList),
          .text " Driver must be given as 'module:attribute', got '".toList, .tag 79 "bold".toList,
          .text "'".toList] := by decide +kernel
  have hprinted := legible_bold.printed_of_styled isHeadingStyle_bold htokens
  rw [hstripped] at hprinted
  obtain ⟨rest, hrest, hends⟩ := ends_complain_exit (w := office Int.ofNat) (α := Tree Unit)
    (hinted_none _) hprinted (by decide +kernel) { files := officeFiles }
  rw [hrest rfl] at hends
  have hload : (office Int.ofNat).catalogue.load (officeInputs "[bold]").spec =
      .error (.malformed "[bold]") := rfl
  have hexecute := execute_of_closes (ofArguments_officeRunWith "[bold]" (by decide))
    ((officeInputs "[bold]").closes_rejected (by decide) hload (by decide +kernel) hends)
  rw [hexecute]
  refine ⟨rfl, by decide +kernel, rfl, by decide +kernel, fun htells => ?_⟩
  exact absurd htells.2 (by decide +kernel)

end Provision.Command
