import Provision.Command.Execute
import Provision.Proofs.Display.Layout
import Provision.Proofs.Files.Store
import Provision.Proofs.Report.Summary
import Provision.Proofs.Run.Consistency
import Provision.Proofs.Run.Invariant
import Provision.Proofs.Template.Questions
import Provision.Proofs.Template.Reload
import Provision.Proofs.Value.Equality

/-!
# What a run command does

The command that runs a template completes it, runs it, prints a summary, writes a report and ends
with an exit code. With a template, assignments and a driver that can be read, and with all that it
prints and writes getting through, it never starts a run with a hole, and its exit code, the last
line of its summary and its report tell the same.

There are runs without such an end. A value that the backend answers with may have no text, and
then there is no summary of the run, or no report, and the command fails after all was done.

* `Command.Continues`, `Command.Ends`, `Command.Closes`: what one step does to the transcript, and
  what the last one does.
* `Command.Inputs`, `Command.Setup`: all that a run command reads before it looks for the driver,
  and before it starts.
* `Command.Setup.refused`, `Command.Setup.reaches_run`: **the two ways a run command goes.**
* `Command.continues_publish`, `Command.ends_publish_unshown`, `Command.ends_publish_unwritten`:
  what comes of a report.
* `Command.Account`: what is told of a run.
* `Command.exit_summary_and_report_agree`: **what a run command tells agrees**, and
  `Command.long_number_is_not_told`: where there is nothing to tell it by.
-/

namespace Provision.Command

open Display (Piece Prints printed printedMarkup printedPanel)

variable {σ ε α β : Type}

/-! ## Steps -/

/-- The step gives a value and leaves a transcript. -/
def Continues (x : Step σ ε α) (before : Transcript σ) (a : α) (after : Transcript σ) : Prop :=
  x.run.run before = (.ok a, after)

/-- The step ends the command and leaves a transcript. -/
def Ends (x : Step σ ε α) (before : Transcript σ) (e : Ending ε) (after : Transcript σ) : Prop :=
  x.run.run before = (.error e, after)

/-- The step is the last one of a command, which ends well if nothing else ends it. -/
def Closes (x : Step σ ε Unit) (before : Transcript σ) (e : Ending ε) (after : Transcript σ) :
    Prop :=
  Ends x before e after ∨ e = .exit 0 ∧ Continues x before () after

section Steps

variable {x : Step σ ε α} {f : α → Step σ ε β} {g : α → Step σ ε Unit} {a : α} {b : β}
  {e : Ending ε} {before midway after : Transcript σ} {w : World σ ε}

theorem Continues.bind (hx : Continues x before a midway) (hf : Continues (f a) midway b after) :
    Continues (x >>= f) before b after := by
  unfold Continues at *
  rw [ExceptT.run_bind, StateT.run_bind, hx]
  exact hf

theorem Continues.bind_ends (hx : Continues x before a midway) (hf : Ends (f a) midway e after) :
    Ends (x >>= f) before e after := by
  unfold Continues Ends at *
  rw [ExceptT.run_bind, StateT.run_bind, hx]
  exact hf

theorem Continues.bind_closes (hx : Continues x before a midway)
    (hg : Closes (g a) midway e after) : Closes (x >>= g) before e after :=
  hg.imp hx.bind_ends fun ⟨he, hcontinues⟩ => ⟨he, hx.bind hcontinues⟩

theorem Ends.bind (hx : Ends x before e after) : Ends (x >>= f) before e after := by
  unfold Ends at *
  rw [ExceptT.run_bind, StateT.run_bind, hx]
  rfl

theorem continues_put {text : String} (h : Text.unencodable? text = none) (tr : Transcript σ) :
    Continues (put text : Step σ ε Unit) tr () { tr with output := tr.output ++ text } := by
  unfold put
  rw [h]
  rfl

theorem continues_putShown {shown : Except Markup.Error String} (h : Prints shown)
    (tr : Transcript σ) : ∃ text,
    Continues (putShown shown : Step σ ε Unit) tr () { tr with output := tr.output ++ text } := by
  obtain ⟨h⟩ := h
  exact ⟨_, continues_put h tr⟩

/-- A complaint ends a command with code 1, and does nothing but print. -/
theorem ends_complain {message hint : String}
    (hmessage : Prints (printedMarkup w.width (errorLine message)))
    (hhint : Prints (printedMarkup w.width (dimLine ("Hint: " ++ hint)))) (tr : Transcript σ) :
    ∃ text, Ends (complain w message (some hint) : Step σ ε α) tr (.exit 1)
      { tr with output := tr.output ++ text } := by
  obtain ⟨first, hfirst⟩ := continues_putShown hmessage tr
  obtain ⟨second, hsecond⟩ := continues_putShown hhint { tr with output := tr.output ++ first }
  refine ⟨first ++ second, hfirst.bind_ends (hsecond.bind_ends ?_)⟩
  rw [← String.append_assoc]
  rfl

end Steps

/-- The hint beside the complaint about holes can be printed. -/
theorem prints_hint (width : ℕ) : Prints (printedMarkup width
    (dimLine ("Hint: " ++ "pass --fill hole=value or use --interactive"))) :=
  Display.prints_markup width (by decide +kernel)

/-! ## After the run -/

section Publish

variable {w : World σ ε} {r : Report} {pieces : List Piece} {path : Option Files.Path}
  {f : TextFault}

/-- What a published report leaves behind. -/
structure Published (w : World σ ε) (r : Report) (pieces : List Piece) (path : Option Files.Path)
    (before after : Transcript σ) : Prop where
  conclusion : after.conclusion = before.conclusion
  asked : after.asked = before.asked
  output : ∃ text, after.output = before.output ++ printed w.width pieces ++ text
  written : ∀ p json, path = some p → r.toJson = .ok json →
    after.files.read p = .ok (Utf8.encode json)

/-- **A report is printed and written** if there is a text for all that is in it. -/
theorem continues_publish (tr : Transcript σ) (hsummary : r.summary = .ok pieces)
    (hprints : Text.unencodable? (printed w.width pieces) = none)
    (hjson : ∀ p, path = some p → ∃ json, r.toJson = .ok json)
    (hfile : ∀ p, path = some p → ∀ bytes, ∃ files, tr.files.write p bytes = .ok files)
    (hline : ∀ p, path = some p →
      Prints (printedMarkup w.width (dimLine ("Report written to " ++ p.text)))) :
    ∃ after, Continues (publish w r path) tr () after ∧ Published w r pieces path tr after := by
  have hshown : Continues (shown r.summary : Step σ ε (List Piece)) tr pieces tr := by
    rw [hsummary]
    rfl
  have hput := continues_put (ε := ε) hprints tr
  cases path with
  | none =>
    refine ⟨_, hshown.bind (hput.bind rfl), rfl, rfl, ⟨"", ?_⟩, fun p json hp => by cases hp⟩
    rw [String.append_empty]
  | some p =>
    obtain ⟨json, hjson⟩ := hjson p rfl
    obtain ⟨files, hfiles⟩ := hfile p rfl (Utf8.encode json)
    obtain ⟨text, htext⟩ := continues_putShown (ε := ε) (hline p rfl)
      { tr with output := tr.output ++ printed w.width pieces, files := files }
    -- the file is there before the line about it is printed
    have hwrite : Continues (writeReport w r p)
        { tr with output := tr.output ++ printed w.width pieces } ()
        { tr with output := tr.output ++ printed w.width pieces ++ text, files := files } := by
      unfold writeReport
      rw [hjson]
      refine Continues.bind (a := json) rfl (Continues.bind (x := get) rfl ?_)
      simp only [hfiles]
      exact Continues.bind (x := modify _) rfl htext
    refine ⟨_, hshown.bind (hput.bind hwrite), rfl, rfl, ⟨text, rfl⟩, ?_⟩
    rintro p json' ⟨⟩ hjson'
    obtain rfl : json = json' := Except.ok.inj (hjson.symm.trans hjson')
    exact Files.Store.read_write hfiles

/-- Without a summary nothing is printed, and no file is written. -/
theorem ends_publish_unshown (tr : Transcript σ) (h : r.summary = .error f) :
    Ends (publish w r path) tr (.failed (.unshown f)) tr := by
  refine Ends.bind ?_
  rw [h]
  rfl

/-- A report that cannot be written leaves all files as they are. -/
theorem ends_publish_unwritten (tr : Transcript σ) (hsummary : r.summary = .ok pieces)
    (hprints : Text.unencodable? (printed w.width pieces) = none) {p : Files.Path}
    (hpath : path = some p) (hjson : r.toJson = .error f) :
    Ends (publish w r path) tr (.failed (.unshown f))
      { tr with output := tr.output ++ printed w.width pieces } := by
  subst hpath
  have hshown : Continues (shown r.summary : Step σ ε (List Piece)) tr pieces tr := by
    rw [hsummary]
    rfl
  refine hshown.bind_ends ((continues_put hprints tr).bind_ends (Ends.bind ?_))
  rw [hjson]
  rfl

end Publish

/-! ## The run -/

section Performed

variable {w : World σ ε} {start : σ} {path : Option Files.Path} {t : Template} {id : String}
  {r : Report} {e : Ending ε} {tr after : Transcript σ}

/-- The transcript after a run. -/
def Transcript.afterRun (tr : Transcript σ) (c : Run.Conclusion σ) : Transcript σ :=
  { tr with conclusion := some c, log := tr.log ++ c.progress.log }

/-- Without an identifier nothing is run. -/
theorem ends_performRun_outside {failure : ε} (h : w.runId = .error failure) (tr : Transcript σ) :
    Ends (performRun w start path t) tr (.failed (.outside failure)) tr := by
  unfold performRun
  rw [h]
  rfl

/-- If the report of a run cannot be published, then that is the end. -/
theorem ends_performRun_unpublished (hid : w.runId = .ok id)
    (hr : (t.run w.backend.toDriver start id w.started w.finished).ending.report? = some r)
    (hpublish : Ends (publish w r path)
      (tr.afterRun (t.run w.backend.toDriver start id w.started w.finished)) e after) :
    Ends (performRun w start path t) tr e after := by
  unfold performRun
  rw [hid]
  refine Continues.bind_ends (x := modify _) rfl ?_
  cases hending : (t.run w.backend.toDriver start id w.started w.finished).ending with
  | complete r' =>
    rw [hending] at hr
    cases hr
    exact hpublish.bind
  | aborted name r' =>
    rw [hending] at hr
    cases hr
    exact hpublish.bind
  | exited message =>
    rw [hending] at hr
    cases hr
  | broken b =>
    rw [hending] at hr
    cases hr

/-- **Once its report is published, a run has code 0 iff it is complete and has no errors.** -/
theorem closes_performRun (hid : w.runId = .ok id)
    (hr : (t.run w.backend.toDriver start id w.started w.finished).ending.report? = some r)
    (hpublish : Continues (publish w r path)
      (tr.afterRun (t.run w.backend.toDriver start id w.started w.finished)) () after) :
    ∃ code, Closes (performRun w start path t) tr (.exit code) after ∧ code ≤ 1 ∧
      (code = 0 ↔ (t.run w.backend.toDriver start id w.started w.finished).ending = .complete r ∧
        r.hasErrors = false) := by
  unfold performRun
  rw [hid]
  have hnoted : ∀ (f : Unit → Step σ ε Unit) (code : ℕ),
      Closes (f ()) (tr.afterRun (t.run w.backend.toDriver start id w.started w.finished))
        (.exit code) after →
      Closes (modify (fun s => s.afterRun (t.run w.backend.toDriver start id w.started w.finished))
        >>= f) tr (.exit code) after :=
    fun f code => Continues.bind_closes (x := modify _) rfl
  cases hending : (t.run w.backend.toDriver start id w.started w.finished).ending with
  | complete r' =>
    rw [hending] at hr
    cases hr
    cases herrors : r.hasErrors with
    | true =>
      refine ⟨1, hnoted _ _ ?_, Nat.le_refl _, by simp⟩
      simp only [hending, herrors]
      exact hpublish.bind_closes (Or.inl rfl)
    | false =>
      refine ⟨0, hnoted _ _ ?_, Nat.zero_le _, by simp⟩
      simp only [hending, herrors]
      exact hpublish.bind_closes (Or.inr ⟨rfl, rfl⟩)
  | aborted name r' =>
    rw [hending] at hr
    cases hr
    refine ⟨1, hnoted _ _ ?_, Nat.le_refl _, by simp⟩
    simp only [hending]
    exact hpublish.bind_closes (Or.inl rfl)
  | exited message =>
    rw [hending] at hr
    cases hr
  | broken b =>
    rw [hending] at hr
    cases hr

end Performed

/-! ## Before the run -/

/-- The names of every expression of a template that was loaded are distinct. -/
theorem valid_of_load {files : Files.Store} {path : Files.Path} {t : Template}
    (h : Template.load files path = .ok t) : t.Valid := by
  unfold Template.load at h
  split at h
  · split at h <;> cases h
  · split at h
    · cases h
    · intro e he
      obtain ⟨s, hs, rfl⟩ := List.mem_map.1 he
      exact (Template.wellRead_of_ofJson (ok_of_mapError h) s hs).expression.clash

theorem continues_assignments {option : String} {items : List String} {values : Table Value}
    (h : readAssignments option items = .ok values) (tr : Transcript σ) :
    Continues (assignments option items : Step σ ε (Table Value)) tr values tr := by
  unfold assignments
  rw [h]
  rfl

theorem continues_askAll {input : List String} {t : Template}
    (h : (t.ask askHole ({ input } : Dialogue)).2.failure = none) (tr : Transcript σ) :
    Continues (askAll input t : Step σ ε Template) tr (t.ask askHole ({ input } : Dialogue)).1
      { tr with
        output := tr.output ++ (t.ask askHole ({ input } : Dialogue)).2.state.output
        asked := (t.ask askHole ({ input } : Dialogue)).2.asked } := by
  unfold askAll
  generalize t.ask askHole ({ input } : Dialogue) = answered at h ⊢
  refine Continues.bind (x := modify _) rfl ?_
  rw [h]
  rfl

/-- Without answers holes that are left are complained about. -/
theorem completeHoles_refused (w : World σ ε) {p : Prepared} (h : p.left ≠ []) :
    completeHoles w false p = complain w
      ("Missing values for holes: " ++ Text.listing (Template.holeNames p.left))
      (some "pass --fill hole=value or use --interactive") := by
  unfold completeHoles
  rw [if_neg fun hempty => h (List.isEmpty_iff.1 hempty)]
  rfl

/-! ## What is read first -/

/-- All that a run command reads before it looks for the driver, and that it can be read. -/
structure Inputs (w : World σ ε) (o : RunOptions) where
  settings : Settings
  template : Template
  fills : Table Value
  overrides : Table Value
  aliases : Table Value
  settings_ok : Settings.read w.environment w.files = .ok settings
  template_ok : Template.load w.files o.file = .ok template
  fills_ok : readAssignments "--fill" o.fills = .ok fills
  overrides_ok : readAssignments "--set" o.overrides = .ok overrides
  aliases_ok : readAssignments "--alias" o.aliases = .ok aliases

namespace Inputs

variable {w : World σ ε} {o : RunOptions} (i : Inputs w o) {e : Ending ε} {tr after : Transcript σ}

/-- The name of the driver. -/
def spec : String := driverSpec o.driver i.settings

/-- The template with overrides, aliases and fills. -/
def prepared : Prepared := prepare i.overrides i.aliases i.fills i.template

/-- The driver as it is when the run starts. -/
def configured (start : σ) : σ :=
  w.backend.setLogger "stencil.driver"
    (w.backend.setDryRun (o.dryRun || i.settings.dryRun) start)

/-- What is left to do once there is a driver. -/
def withDriver (start : σ) : Step σ ε Unit := do
  let template ← completeHoles w o.interactive i.prepared
  putShown (printedPanel w.width
    (banner o.file i.spec (w.backend.isDryRun (i.configured start))))
  performRun w (i.configured start) o.report template

/-- What is left to do. -/
def rest : Step σ ε Unit := do
  let start ← loadDriver w i.spec
  note i.prepared.notes
  i.withDriver start

/-- Reading does nothing. -/
theorem closes_runCommand (hspec : i.spec ≠ "") (h : Closes i.rest tr e after) :
    Closes (runCommand w o) tr e after := by
  have htemplate : Continues (loadTemplate w o.file) tr i.template tr := by
    unfold loadTemplate
    rw [i.template_ok]
    rfl
  have hfills := continues_assignments i.fills_ok tr (ε := ε)
  have hoverrides := continues_assignments i.overrides_ok tr (ε := ε)
  have haliases := continues_assignments i.aliases_ok tr (ε := ε)
  unfold runCommand
  rw [i.settings_ok]
  refine Continues.bind_closes (x := pure i.settings) rfl ?_
  refine htemplate.bind_closes (hfills.bind_closes (hoverrides.bind_closes
    (haliases.bind_closes ?_)))
  rw [if_neg (show driverSpec o.driver i.settings ≠ "" from hspec)]
  exact h

/-- A driver that can be loaded has a name; loading it does nothing but take notes. -/
theorem closes_loaded {start : σ} (hload : w.catalogue.load i.spec = .ok start)
    (h : Closes (i.withDriver start) { tr with log := tr.log ++ i.prepared.notes } e after) :
    Closes (runCommand w o) tr e after := by
  have hspec : i.spec ≠ "" := by
    intro hempty
    rw [hempty] at hload
    cases hload
  have hdriver : Continues (loadDriver w i.spec) tr start tr := by
    unfold loadDriver
    rw [hload]
    rfl
  refine i.closes_runCommand hspec ?_
  exact hdriver.bind_closes (Continues.bind_closes (x := note i.prepared.notes) rfl h)

end Inputs

/-- All that a run command reads before it starts, and that it can be read. -/
structure Setup (w : World σ ε) (o : RunOptions) extends Inputs w o where
  driver : σ
  driver_ok : w.catalogue.load toInputs.spec = .ok driver

namespace Setup

variable {w : World σ ε} {o : RunOptions} (s : Setup w o)

/-- The driver as it is when the run starts. -/
def start : σ := s.configured s.driver

/-- The questions for the holes that are left. -/
def asking : Template × Template.Asking Dialogue NoAnswer :=
  s.prepared.template.ask askHole { input := w.input }

/-- The template as it is when the run starts. -/
def completed : Template :=
  if s.prepared.left.isEmpty then s.prepared.template else s.asking.1

/-- The run with a given identifier. -/
def conclusion (id : String) : Run.Conclusion σ :=
  s.completed.run w.backend.toDriver s.start id w.started w.finished

/-- All that the command prints on its way can be printed. -/
structure Printable : Prop where
  missing : s.prepared.left ≠ [] → o.interactive = false →
    Prints (printedMarkup w.width (errorLine
      ("Missing values for holes: " ++ Text.listing (Template.holeNames s.prepared.left))))
  banner : Prints (printedPanel w.width (banner o.file s.spec (w.backend.isDryRun s.start)))
  summary : ∀ id r pieces, w.runId = .ok id → (s.conclusion id).ending.report? = some r →
    r.summary = .ok pieces → Text.unencodable? (printed w.width pieces) = none
  written : ∀ path, o.report = some path →
    Prints (printedMarkup w.width (dimLine ("Report written to " ++ path.text)))

/-- The holes that are left, as they are found in the template. -/
theorem openHoles_prepared : s.prepared.template.openHoles = s.prepared.left := by
  have hmerged := (Pass.edits (.merge s.overrides) s.template).valid (valid_of_load s.template_ok)
  exact Template.openHoles_fill
    ((Pass.edits (.resolveAliases s.aliases) (s.template.merge s.overrides)).valid hmerged) s.fills

/-- **The template of a run has no hole.** -/
theorem holes_completed (h : s.prepared.left = [] ∨ s.asking.2.failure = none) :
    ∀ a ∈ s.completed.statements, a.expression.holes = [] := by
  unfold completed
  by_cases hleft : s.prepared.left.isEmpty = true
  · rw [if_pos hleft]
    exact Template.holes_of_openHoles (s.openHoles_prepared.trans (List.isEmpty_iff.1 hleft))
  · -- the questions go over the same template as the passes left it
    rw [if_neg hleft]
    exact Template.holes_ask (h.resolve_left fun hnil => hleft (List.isEmpty_iff.2 hnil))

/-- Completing a template asks for the holes that are left, and does nothing else but print. -/
theorem continues_completeHoles (tr : Transcript σ) (hnone : tr.asked = [])
    (h : s.prepared.left = [] ∨ o.interactive = true ∧ s.asking.2.failure = none) : ∃ text,
    Continues (completeHoles w o.interactive s.prepared) tr s.completed
      { tr with
        output := tr.output ++ text, asked := s.prepared.left.map Template.OpenHole.hole } := by
  unfold completeHoles completed
  by_cases hleft : s.prepared.left.isEmpty = true
  · rw [if_pos hleft, if_pos hleft, List.isEmpty_iff.1 hleft]
    refine ⟨"", ?_⟩
    rw [String.append_empty, List.map_nil, ← hnone]
    rfl
  · rw [if_neg hleft, if_neg hleft]
    obtain ⟨hinteractive, hanswered⟩ :=
      h.resolve_left fun hnil => hleft (List.isEmpty_iff.2 hnil)
    rw [if_pos hinteractive, ← s.openHoles_prepared, ← Template.asked_eq hanswered]
    exact ⟨s.asking.2.state.output, continues_askAll hanswered tr⟩

/-- **Without answers for its holes a template is not run.** -/
theorem refused (hp : s.Printable) (hleft : s.prepared.left ≠ []) (hi : o.interactive = false)
    (tr : Transcript σ) : ∃ text, Closes (s.withDriver s.driver) tr (.exit 1)
      { tr with output := tr.output ++ text } := by
  obtain ⟨text, htext⟩ := ends_complain (α := Template) (hp.missing hleft hi)
    (prints_hint w.width) tr
  refine ⟨text, Or.inl (Ends.bind ?_)⟩
  rw [hi, completeHoles_refused w hleft]
  exact htext

/-- **A template without holes gets to its run**, once the questions and the panel are printed. -/
theorem reaches_run (hp : s.Printable)
    (h : s.prepared.left = [] ∨ o.interactive = true ∧ s.asking.2.failure = none)
    (tr : Transcript σ) (hnone : tr.asked = []) : ∃ text, ∀ e after,
      Closes (performRun w s.start o.report s.completed)
        { tr with
          output := tr.output ++ text
          asked := s.prepared.left.map Template.OpenHole.hole } e after →
      Closes (s.withDriver s.driver) tr e after := by
  obtain ⟨questions, hcomplete⟩ := s.continues_completeHoles tr hnone h
  obtain ⟨panel, hpanel⟩ := continues_putShown (ε := ε) hp.banner
    { tr with
      output := tr.output ++ questions, asked := s.prepared.left.map Template.OpenHole.hole }
  refine ⟨questions ++ panel, fun e after hrun => hcomplete.bind_closes (hpanel.bind_closes ?_)⟩
  rw [← String.append_assoc] at hrun
  exact hrun

/-- **A run has a report**, and one without errors is the report of a complete run. -/
theorem exists_report {I : σ → Prop} (hI : w.backend.toDriver.Safe I) (hstart : I s.start)
    (id : String) : ∃ r, (s.conclusion id).ending.report? = some r ∧
    ((s.conclusion id).ending = .complete r → r.aborted = "") ∧
    ((∀ a ∈ r.statements, a.outcome.error = "") → (s.conclusion id).ending = .complete r) := by
  unfold conclusion
  rcases hI.run_cases (t := s.completed) id w.started w.finished hstart with
    ⟨r, hr, hc⟩ | ⟨i, a, name, r, hr, ha⟩
  · exact ⟨r, by rw [hr]; rfl, fun _ => hc.aborted, fun _ => hr⟩
  · -- the statement that aborted the run has an error
    refine ⟨r, by rw [hr]; rfl, fun hcomplete => ?_, fun hnone => ?_⟩
    · rw [hr] at hcomplete
      cases hcomplete
    · have haborted : r.aborted ≠ "" := by
        rw [ha.aborted]
        exact undeclaredMessage_ne_empty name
      have herrors := ha.reports.consistent.hasErrors haborted
      rw [r.hasErrors_eq_false_iff.2 hnone] at herrors
      cases herrors

end Setup

theorem execute_of_closes {w : World σ ε} {o : RunOptions} {args : List String} {e : Ending ε}
    {after : Transcript σ} (hargs : Invocation.ofArguments args = .ok (.run o))
    (h : Closes (runCommand w o) { files := w.files } e after) : execute w args = ⟨e, after⟩ := by
  have hdispatch : dispatch w args = runCommand w o := by
    unfold dispatch
    rw [hargs]
    rfl
  unfold execute
  rw [hdispatch]
  rcases h with hends | ⟨rfl, hcontinues⟩
  · rw [show (runCommand w o).run.run { files := w.files } = (.error e, after) from hends]
  · rw [show (runCommand w o).run.run { files := w.files } = (.ok (), after) from hcontinues]

/-! ## What is told of a run -/

/-- A summary was printed. -/
def Transcript.Shows (tr : Transcript σ) (w : World σ ε) (pieces : List Piece) : Prop :=
  ∃ earlier later, tr.output = earlier ++ printed w.width pieces ++ later

/-- What a command tells of a run that has a report, by its ending and by what it leaves behind. -/
inductive Account (w : World σ ε) (path : Option Files.Path) (c : Run.Conclusion σ) (r : Report) :
    Ending ε → Transcript σ → Prop
  /-- There is no summary: nothing is told, no file is written, and the command fails. -/
  | unshown {f : TextFault} {after : Transcript σ} (hsummary : r.summary = .error f)
      (hfiles : after.files = w.files) : Account w path c r (.failed (.unshown f)) after
  /-- There is a summary, but no report for the file, and the command fails. -/
  | unwritten {pieces : List Piece} {p : Files.Path} {f : TextFault} {after : Transcript σ}
      (hsummary : r.summary = .ok pieces) (hshows : after.Shows w pieces) (hpath : path = some p)
      (hjson : r.toJson = .error f) (hfiles : after.files = w.files) :
      Account w path c r (.failed (.unshown f)) after
  /-- The summary is printed, the report is in its file, and the exit code and the last line of the
  summary tell how the run went. -/
  | told {pieces : List Piece} {code : ℕ} {after : Transcript σ} (hsummary : r.summary = .ok pieces)
      (hshows : after.Shows w pieces)
      (hwritten : ∀ p, path = some p → ∃ json, r.toJson = .ok json ∧
        after.files.read p = .ok (Utf8.encode json))
      (hcode : code ≤ 1)
      (hcomplete : code = 0 ↔
        c.ending = .complete r ∧ ∀ a ∈ r.statements, a.outcome.error = "")
      (hpraises : code = 0 ↔ ∃ line, pieces.getLast? = some line ∧ line.Praises) :
      Account w path c r (.exit code) after

/-- There is a text for all that a report holds. -/
structure Tellable (r : Report) : Prop where
  shown : ∀ a ∈ r.statements, a.outcome.error = "" → a.Showable
  formed : r.toValue.Throughout Value.Formed
  short : r.toValue.Throughout Value.Short
  depth : r.toValue.depth ≤ Value.depthLimit

theorem Tellable.exists_toJson {r : Report} (h : Tellable r) : ∃ json, r.toJson = .ok json :=
  Json.exists_write h.formed h.short h.depth

section Account

variable {w : World σ ε} {path : Option Files.Path} {c : Run.Conclusion σ} {r : Report}
  {e : Ending ε} {after : Transcript σ}

/-- **A command ends with code 0** iff the run is complete and without errors, and there was a
summary and a report to tell of it. -/
theorem Account.code_eq_zero_iff (h : Account w path c r e after) :
    e.code = 0 ↔ (c.ending = .complete r ∧ ∀ a ∈ r.statements, a.outcome.error = "") ∧
      (∃ pieces, r.summary = .ok pieces) ∧ ∀ p, path = some p → ∃ json, r.toJson = .ok json := by
  cases h with
  | unshown hsummary hfiles =>
    refine iff_of_false Nat.one_ne_zero ?_
    rintro ⟨-, ⟨pieces, hpieces⟩, -⟩
    cases hsummary.symm.trans hpieces
  | unwritten hsummary hshows hpath hjson hfiles =>
    refine iff_of_false Nat.one_ne_zero ?_
    rintro ⟨-, -, hwritten⟩
    obtain ⟨json, hok⟩ := hwritten _ hpath
    cases hjson.symm.trans hok
  | told hsummary hshows hwritten hcode hcomplete hpraises =>
    refine hcomplete.trans ⟨fun h => ⟨h, ⟨_, hsummary⟩, fun p hp => ?_⟩, And.left⟩
    obtain ⟨json, hjson, -⟩ := hwritten p hp
    exact ⟨json, hjson⟩

/-- A report is in its file if there is a summary. -/
theorem Account.read_report (h : Account w path c r e after) {pieces : List Piece}
    (hpieces : r.summary = .ok pieces) {p : Files.Path} (hpath : path = some p) {json : String}
    (hjson : r.toJson = .ok json) : after.files.read p = .ok (Utf8.encode json) := by
  cases h with
  | unshown hsummary hfiles => cases hsummary.symm.trans hpieces
  | unwritten hsummary hshows hpath hnone hfiles => cases hnone.symm.trans hjson
  | told hsummary hshows hwritten hcode hcomplete hpraises =>
    obtain ⟨json', hjson', hread⟩ := hwritten p hpath
    rw [hread, Except.ok.inj (hjson'.symm.trans hjson)]

end Account

namespace Setup

variable {w : World σ ε} {o : RunOptions} (s : Setup w o)

/-- **Every run comes to an account.** -/
theorem exists_account (hp : s.Printable)
    (hw : ∀ path, o.report = some path → ∀ bytes, ∃ files, w.files.write path bytes = .ok files)
    {id : String} (hid : w.runId = .ok id) {r : Report}
    (hr : (s.conclusion id).ending.report? = some r)
    (haborted : (s.conclusion id).ending = .complete r → r.aborted = "")
    (hnone : (∀ a ∈ r.statements, a.outcome.error = "") → (s.conclusion id).ending = .complete r)
    (tr : Transcript σ) (hfiles : tr.files = w.files) :
    ∃ e after, Closes (performRun w s.start o.report s.completed) tr e after ∧
      after.asked = tr.asked ∧ after.conclusion = some (s.conclusion id) ∧
      Account w o.report (s.conclusion id) r e after := by
  cases hsummary : r.summary with
  | error f =>
    exact ⟨_, _, Or.inl (ends_performRun_unpublished hid hr (ends_publish_unshown _ hsummary)),
      rfl, rfl, .unshown hsummary hfiles⟩
  | ok pieces =>
    have hprints := hp.summary id r pieces hid hr hsummary
    have hcases : (∀ p, o.report = some p → ∃ json, r.toJson = .ok json) ∨
        ∃ p f, o.report = some p ∧ r.toJson = .error f := by
      cases hwrite : r.toJson with
      | ok json => exact Or.inl fun _ _ => ⟨json, rfl⟩
      | error f =>
        cases hpath : o.report with
        | none => exact Or.inl fun p hp => by cases hp
        | some p => exact Or.inr ⟨p, f, rfl, rfl⟩
    rcases hcases with hjson | ⟨p, f, hpath, hwrite⟩
    · obtain ⟨after, hpublish, hpublished⟩ := continues_publish (tr.afterRun (s.conclusion id))
        hsummary hprints hjson (fun p hpath => hfiles ▸ hw p hpath) hp.written
      obtain ⟨code, hcloses, hcode, hcomplete⟩ := closes_performRun hid hr hpublish
      rw [r.hasErrors_eq_false_iff] at hcomplete
      obtain ⟨text, htext⟩ := hpublished.output
      refine ⟨_, _, hcloses, hpublished.asked, hpublished.conclusion,
        .told hsummary ⟨_, text, htext⟩ (fun p hpath => ?_) hcode hcomplete ?_⟩
      · obtain ⟨json, hok⟩ := hjson p hpath
        exact ⟨json, hok, hpublished.written p json hpath hok⟩
      · rw [hcomplete, r.getLast?_summary hsummary]
        constructor
        · rintro ⟨hending, herrors⟩
          exact ⟨_, rfl, r.praises_lastLine_iff.2 ⟨haborted hending, herrors⟩⟩
        · rintro ⟨line, ⟨⟩, hpraises⟩
          have herrors := (r.praises_lastLine_iff.1 hpraises).2
          exact ⟨hnone herrors, herrors⟩
    · have hends := ends_publish_unwritten (tr.afterRun (s.conclusion id)) hsummary hprints hpath
        hwrite
      refine ⟨_, _, Or.inl (ends_performRun_unpublished hid hr hends), rfl, rfl,
        .unwritten hsummary ⟨tr.output, "", ?_⟩ hpath hwrite hfiles⟩
      rw [String.append_empty]
      rfl

/-- **A command that gets to its run gives an account of it.** -/
theorem execute_account {args : List String} (hargs : Invocation.ofArguments args = .ok (.run o))
    (hp : s.Printable)
    (hready : s.prepared.left = [] ∨ o.interactive = true ∧ s.asking.2.failure = none)
    (hw : ∀ path, o.report = some path → ∀ bytes, ∃ files, w.files.write path bytes = .ok files)
    {id : String} (hid : w.runId = .ok id) {r : Report}
    (hr : (s.conclusion id).ending.report? = some r)
    (haborted : (s.conclusion id).ending = .complete r → r.aborted = "")
    (hnone : (∀ a ∈ r.statements, a.outcome.error = "") →
      (s.conclusion id).ending = .complete r) :
    (execute w args).transcript.asked = s.prepared.left.map Template.OpenHole.hole ∧
    (execute w args).transcript.conclusion = some (s.conclusion id) ∧
    Account w o.report (s.conclusion id) r (execute w args).ending (execute w args).transcript := by
  obtain ⟨text, hreaches⟩ := s.reaches_run hp hready
    { files := w.files, log := s.prepared.notes } rfl
  obtain ⟨e, after, hcloses, haccount⟩ := s.exists_account hp hw hid hr haborted hnone
    { files := w.files
      log := s.prepared.notes
      output := "" ++ text
      asked := s.prepared.left.map Template.OpenHole.hole } rfl
  rw [execute_of_closes hargs (s.closes_loaded s.driver_ok (hreaches e after hcloses))]
  exact haccount

end Setup

/-- **A run command never starts a run with a hole, and all it tells agrees**: its exit code, the
last line of its summary, and its report. It ends with code 0 iff the run is complete and without
errors, if there is a text for all that the report holds; otherwise it may fail after a run that
went well. -/
theorem exit_summary_and_report_agree {w : World σ ε} {o : RunOptions} {args : List String}
    (hargs : Invocation.ofArguments args = .ok (.run o)) (s : Setup w o) {I : σ → Prop}
    (hI : w.backend.toDriver.Safe I) (hstart : I s.start) (hp : s.Printable)
    (hanswered : o.interactive = true → s.asking.2.failure = none)
    (hw : ∀ path, o.report = some path → ∀ bytes, ∃ files, w.files.write path bytes = .ok files)
    {missing : List Template.OpenHole}
    (hmissing : (((s.template.merge s.overrides).resolveAliases s.aliases).resolve false
      s.fills).2 = .ok missing) :
    let result := execute w args
    (missing ≠ [] → o.interactive = false →
      result.ending = .exit 1 ∧ result.transcript.conclusion = none ∧
      result.transcript.asked = [] ∧ result.transcript.files = w.files) ∧
    (missing = [] ∨ o.interactive = true →
      result.transcript.asked = missing.map Template.OpenHole.hole ∧
      (∀ a ∈ s.completed.statements, a.expression.holes = []) ∧
      (∀ failure, w.runId = .error failure → result.ending = .failed (.outside failure) ∧
        result.transcript.conclusion = none ∧ result.transcript.files = w.files) ∧
      ∀ id, w.runId = .ok id → ∃ r,
        (s.conclusion id).ending.report? = some r ∧
        result.transcript.conclusion = some (s.conclusion id) ∧
        Account w o.report (s.conclusion id) r result.ending result.transcript ∧
        (result.ending.code = 0 ↔
          ((s.conclusion id).ending = .complete r ∧ ∀ a ∈ r.statements, a.outcome.error = "") ∧
          (∃ pieces, r.summary = .ok pieces) ∧
          ∀ path, o.report = some path → ∃ json, r.toJson = .ok json) ∧
        (Tellable r → (∃ pieces, r.summary = .ok pieces) ∧ ∃ json, r.toJson = .ok json)) := by
  -- a fill that is not strict gives the holes that are left, as they are prepared
  obtain rfl : s.prepared.left = missing := Except.ok.inj hmissing
  intro result
  refine ⟨fun hleft hi => ?_, fun hready => ?_⟩
  · obtain ⟨text, hcloses⟩ := s.refused hp hleft hi { files := w.files, log := s.prepared.notes }
    have hresult : result = _ := execute_of_closes hargs (s.closes_loaded s.driver_ok hcloses)
    rw [hresult]
    exact ⟨rfl, rfl, rfl, rfl⟩
  · replace hready : s.prepared.left = [] ∨ o.interactive = true ∧ s.asking.2.failure = none :=
      hready.imp_right fun hi => ⟨hi, hanswered hi⟩
    have hholes := s.holes_completed (hready.imp_right And.right)
    cases hrunId : w.runId with
    | error failure =>
      obtain ⟨text, hreaches⟩ := s.reaches_run hp hready
        { files := w.files, log := s.prepared.notes } rfl
      have hresult : result = _ := execute_of_closes hargs (s.closes_loaded s.driver_ok
        (hreaches _ _ (Or.inl (ends_performRun_outside hrunId _))))
      rw [hresult]
      refine ⟨rfl, hholes, fun failure' hfailure' => ?_, fun id hid => ?_⟩
      · obtain rfl : failure = failure' := Except.error.inj hfailure'
        exact ⟨rfl, rfl, rfl⟩
      · cases hid
    | ok id =>
      obtain ⟨r, hr, haborted, hnone⟩ := s.exists_report hI hstart id
      obtain ⟨hasked, hconclusion, haccount⟩ :=
        s.execute_account hargs hp hready hw hrunId hr haborted hnone
      refine ⟨hasked, hholes, fun failure hfailure => ?_, fun id' hid' => ?_⟩
      · cases hfailure
      · obtain rfl : id = id' := Except.ok.inj hid'
        exact ⟨r, hr, hconclusion, haccount, haccount.code_eq_zero_iff,
          fun h => ⟨r.exists_summary h.shown, h.exists_toJson⟩⟩

/-! ## A command that asks -/

/-- A server of a size that is still to be told. -/
def unsized : Template where
  statements :=
    [{ node := .expression { action := "create", entity := "server", holes := [("size", "gb")] }
       line := "create server size=\x7bgb\x7d" }]

/-- The document of that template. -/
def unsizedDocument : String :=
  "\x7b\"statements\":[\x7b\"node\":\x7b\"kind\":\"expression\",\"action\":\"create\"," ++
    "\"entity\":\"server\",\"holes\":\x7b\"size\":\"gb\"\x7d\x7d\x7d]\x7d"

/-- Servers are numbered. -/
def servers (number : ℕ → Int) : Tree Unit :=
  .registry (Badge.new "servers")
    [{ action := "create", entity := "server"
       function := fun calls _ => .value (.int (number calls)) }]

/-- The files of the office. -/
def officeFiles : Files.Store := [({ names := ["site.json"] }, .file (Utf8.encode unsizedDocument))]

/-- The first answer to a question is empty. -/
def office (number : ℕ → Int) : World (Tree Unit) String where
  width := 200
  files := officeFiles
  input := ["", "40"]
  backend := Tree.backend
  catalogue := [("rack", .found { attributes := [("servers", .driver (servers number))] })]
  runId := .ok "first"
  started := default
  finished := default

/-- What is asked for in the office. -/
def officeRun : RunOptions where
  file := { names := ["site.json"] }
  driver := some "rack:servers"
  interactive := true
  report := some { names := ["report.json"] }

/-- How it is asked for. -/
def officeArguments : List String :=
  ["run", "site.json", "--driver", "rack:servers", "-i", "--report=report.json"]

theorem ofArguments_office : Invocation.ofArguments officeArguments = .ok (.run officeRun) := by
  decide +kernel

theorem load_unsized : Template.load officeFiles officeRun.file = .ok unsized := by
  have hread : officeFiles.readText officeRun.file = .ok unsizedDocument := by decide +kernel
  obtain ⟨item, hfind⟩ : ∃ item, officeFiles.find officeRun.file = .ok item := ⟨_, rfl⟩
  have hload : Template.ofJson unsizedDocument = .ok unsized := by decide +kernel
  unfold Template.load
  rw [hfind, hread]
  exact congrArg (Except.mapError Template.LoadError.invalid) hload

theorem settings_office : Settings.read [] officeFiles = .ok {} := by
  decide +kernel

theorem load_servers (number : ℕ → Int) :
    (office number).catalogue.load "rack:servers" = .ok (servers number) := rfl

/-- All that is read in the office. -/
def officeSetup (number : ℕ → Int) : Setup (office number) officeRun where
  settings := {}
  template := unsized
  fills := []
  overrides := []
  aliases := []
  driver := servers number
  settings_ok := settings_office
  template_ok := load_unsized
  fills_ok := rfl
  overrides_ok := rfl
  aliases_ok := rfl
  driver_ok := load_servers number

theorem servers_returns (number : ℕ → Int) : (officeSetup number).start.Returns := by
  intro leaf hleaf
  rw [List.mem_singleton.1 hleaf]
  intro s hs calls params message h
  rw [List.mem_singleton.1 hs] at h
  cases h

theorem answered_office (number : ℕ → Int) : (officeSetup number).asking.2.failure = none := by
  have h : (unsized.ask askHole ({ input := ["", "40"] } : Dialogue)).2.failure = none := by
    decide +kernel
  exact h

theorem writable_office (number : ℕ → Int) : ∀ path, officeRun.report = some path →
    ∀ bytes, ∃ files, (office number).files.write path bytes = .ok files := by
  intro path hpath bytes
  obtain rfl := Option.some.inj hpath
  exact ⟨_, rfl⟩

/-- A server of the size that is told. -/
def sized : Statement where
  node := .expression { action := "create", entity := "server", params := [("size", .int 40)] }
  line := "create server size=\x7bgb\x7d"

theorem completed_office (number : ℕ → Int) : (officeSetup number).completed = ⟨[sized]⟩ := by
  have h : (unsized.ask askHole ({ input := ["", "40"] } : Dialogue)).1 = ⟨[sized]⟩ := rfl
  exact h

/-- The report of the run in the office. -/
def officeReport (number : ℕ → Int) : Report where
  id := "first"
  statements := [sized.settled { result := .int (number 0) }]
  started := default
  finished := some default

theorem ending_office (number : ℕ → Int) :
    ((officeSetup number).conclusion "first").ending = .complete (officeReport number) := by
  unfold Setup.conclusion
  rw [completed_office]
  exact run_single _ _ _ (.returned [("size", .int 40)] _ _ _ rfl rfl rfl)

theorem errors_office (number : ℕ → Int) :
    ∀ a ∈ (officeReport number).statements, a.outcome.error = "" :=
  List.forall_mem_singleton.2 rfl

/-- What is printed in the office can be printed, if the summary can. -/
theorem printable_office {number : ℕ → Int} (h : ∀ pieces,
    (officeReport number).summary = .ok pieces →
      Text.unencodable? (printed 200 pieces) = none) : (officeSetup number).Printable where
  missing _ hi := by cases hi
  banner := by
    have hbanner : Prints (printedPanel 200 (banner officeRun.file "rack:servers" false)) := by
      refine Display.prints_panel _ (Markup.isSound_heading "Stencil Run".toList
        "\nTemplate: site.json\nDriver: rack:servers".toList 0 22 ?_ ?_)
      all_goals decide +kernel
    exact hbanner
  summary id r pieces hid hr hpieces := by
    obtain rfl : "first" = id := Except.ok.inj hid
    rw [ending_office] at hr
    obtain rfl := Option.some.inj hr
    exact h pieces hpieces
  written path hpath := by
    obtain rfl := Option.some.inj hpath
    exact Display.prints_markup _ (by decide +kernel)

/-- A number that is too long has no place in a summary. -/
theorem summary_of_long :
    (officeReport fun _ => Value.longInteger).summary = .error .tooManyDigits := by
  have hplain : (Value.int Value.longInteger).plain = .error .tooManyDigits :=
    Value.integerText_longInteger
  have hlines : (sized.settled { result := .int Value.longInteger }).resultLines =
      .error .tooManyDigits := by
    show ((Value.int Value.longInteger).plain >>= fun text =>
      pure [Display.styled .attribute ("    => " ++ text ++ "\n")]) = _
    rw [hplain]
    rfl
  unfold Report.summary officeReport
  rw [List.mapM_cons, Statement.summary, hlines]
  rfl

/-- The account of the command in the office. -/
theorem account_office {number : ℕ → Int} (hp : (officeSetup number).Printable) :
    Account (office number) officeRun.report ((officeSetup number).conclusion "first")
      (officeReport number) (execute (office number) officeArguments).ending
      (execute (office number) officeArguments).transcript :=
  ((officeSetup number).execute_account ofArguments_office hp
    (Or.inr ⟨rfl, answered_office number⟩) (writable_office number) rfl
    (by rw [ending_office]; rfl) (fun _ => rfl) (fun _ => ending_office number)).2.2

/-- **A run may go well and the command fail**: a server has a number that is too long to be shown,
so there is no summary, no report file, and code 1. -/
theorem long_number_is_not_told :
    (officeSetup fun _ => Value.longInteger).start.Returns ∧
    (officeSetup fun _ => Value.longInteger).Printable ∧
    ((officeSetup fun _ => Value.longInteger).conclusion "first").ending =
      .complete (officeReport fun _ => Value.longInteger) ∧
    (∀ a ∈ (officeReport fun _ => Value.longInteger).statements, a.outcome.error = "") ∧
    ∃ result, result = execute (office fun _ => Value.longInteger) officeArguments ∧
      result.ending = .failed (.unshown .tooManyDigits) ∧ result.ending.code = 1 ∧
      result.transcript.files = officeFiles := by
  have hp : (officeSetup fun _ => Value.longInteger).Printable := by
    refine printable_office fun pieces hpieces => ?_
    rw [summary_of_long] at hpieces
    cases hpieces
  refine ⟨servers_returns _, hp, ending_office _, errors_office _, _, rfl, ?_⟩
  have haccount := account_office hp
  generalize execute (office fun _ => Value.longInteger) officeArguments = result at haccount
  obtain ⟨ending, transcript⟩ := result
  cases haccount with
  | unshown hsummary hfiles =>
    cases summary_of_long.symm.trans hsummary
    exact ⟨rfl, rfl, hfiles⟩
  | unwritten hsummary hshows hpath hjson hfiles => cases summary_of_long.symm.trans hsummary
  | told hsummary hshows hwritten hcode hcomplete hpraises =>
    cases summary_of_long.symm.trans hsummary

/-- The command in the office asks for the size, twice, and goes well. -/
theorem exit_summary_and_report_agree_office :
    Invocation.ofArguments officeArguments = .ok (.run officeRun) ∧
    (officeSetup Int.ofNat).start.Returns ∧ (officeSetup Int.ofNat).Printable ∧
    (officeSetup Int.ofNat).asking.2.failure = none ∧ ∃ result json,
      result = execute (office Int.ofNat) officeArguments ∧
      result.ending.code = 0 ∧ result.transcript.asked = ["gb"] ∧
      (officeReport Int.ofNat).toJson = .ok json ∧
      result.transcript.files.read { names := ["report.json"] } = .ok (Utf8.encode json) := by
  have hp : (officeSetup Int.ofNat).Printable := by
    refine printable_office fun pieces hpieces => ?_
    have hplain : ((officeReport Int.ofNat).summary.toOption.all fun pieces =>
        !(Display.plain pieces).toList.contains Text.mark) = true := by decide +kernel
    rw [hpieces] at hplain
    have hmark : Text.mark ∉ (Display.plain pieces).toList := by
      simpa [Except.toOption] using hplain
    exact (Display.plain_printed 200 (Text.isPlain_of_mark_free hmark)).unencodable?
  obtain ⟨hasked, -, -, hrun⟩ := (exit_summary_and_report_agree ofArguments_office
    (officeSetup Int.ofNat) Tree.safe_returns (servers_returns _) hp
    (fun _ => answered_office _) (writable_office _) rfl).2 (Or.inr rfl)
  obtain ⟨r, hr, -, haccount, hzero, -⟩ := hrun "first" rfl
  obtain rfl : officeReport Int.ofNat = r := by
    rw [ending_office] at hr
    exact Option.some.inj hr
  obtain ⟨pieces, hpieces⟩ : ∃ pieces, (officeReport Int.ofNat).summary = .ok pieces := ⟨_, rfl⟩
  obtain ⟨json, hjson⟩ : ∃ json, (officeReport Int.ofNat).toJson = .ok json := ⟨_, rfl⟩
  refine ⟨ofArguments_office, servers_returns _, hp, answered_office _, _, json, rfl, ?_, ?_, hjson,
    haccount.read_report hpieces rfl hjson⟩
  · exact hzero.2 ⟨⟨ending_office _, errors_office _⟩, ⟨pieces, hpieces⟩, fun _ _ => ⟨json, hjson⟩⟩
  · rw [hasked]
    decide +kernel

end Provision.Command
