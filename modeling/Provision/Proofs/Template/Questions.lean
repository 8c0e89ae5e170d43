import Provision.Proofs.Template.Holes

/-!
# Holes that are asked for

A pass that asks goes through the holes of a template in order, and stops where the questioner gives
up. What a questioner says to a list of questions is `Template.replies`; the pass puts its answers
into the holes, the first answer into the first hole and so on (`Template.ask_eq`). All that is
known of such a pass follows from this equation.

* `Template.asked_eq`, `Template.holes_ask`: a questioner that never gives up is asked for every
  hole, and then there is none.
* `asks_until_refusal`: **every hole is asked for once, in order, until the questioner gives up**,
  and the answers are all that has changed then.
* `asking_equals_filling`: a questioner that answers by the name of the hole leaves what filling
  from a table leaves.
-/

namespace Provision

theorem zip_append_eq {α β : Type} (xs ys : List α) (zs : List β) :
    (xs ++ ys).zip zs = xs.zip zs ++ ys.zip (zs.drop xs.length) := by
  induction xs generalizing zs with
  | nil => rfl
  | cons x xs ih =>
    cases zs with
    | nil => simp
    | cons z zs => simp [ih]

theorem map_fst_zip_eq {α β : Type} (xs : List α) (ys : List β) :
    (xs.zip ys).map Prod.fst = xs.take ys.length := by
  induction xs generalizing ys with
  | nil => simp
  | cons x xs ih =>
    cases ys with
    | nil => simp
    | cons y ys => simp [ih]

namespace Template

variable {σ ε : Type} {asker : Asker σ ε}

/-! ## What a questioner says -/

/-- What a questioner says to questions: its answers, and what made it give up. -/
structure Replies (σ ε : Type) where
  values : List Value
  failure : Option ε
  state : σ

/-- Replies that come after other answers. -/
def Replies.after (r : Replies σ ε) (earlier : List Value) : Replies σ ε :=
  { r with values := earlier ++ r.values }

/-- Questions put to a questioner, one after the other, until it gives up. -/
def replies (asker : Asker σ ε) : List String → σ → Replies σ ε
  | [], state => ⟨[], none, state⟩
  | hole :: holes, state =>
    match asker hole state with
    | (.ok v, state) => (replies asker holes state).after [v]
    | (.error err, state) => ⟨[], some err, state⟩

theorem replies_answered {hole : String} {state next : σ} {v : Value}
    (h : asker hole state = (.ok v, next)) (holes : List String) :
    replies asker (hole :: holes) state = (replies asker holes next).after [v] := by
  rw [replies, h]

theorem replies_refused {hole : String} {state next : σ} {err : ε}
    (h : asker hole state = (.error err, next)) (holes : List String) :
    replies asker (hole :: holes) state = ⟨[], some err, next⟩ := by
  rw [replies, h]

/-- **Either all questions are answered, or one is left at which the questioner gave up.** -/
theorem replies_cases (asker : Asker σ ε) (holes : List String) (state : σ) :
    ((replies asker holes state).failure = none ∧
      (replies asker holes state).values.length = holes.length) ∨
    ((replies asker holes state).failure.isSome = true ∧
      (replies asker holes state).values.length < holes.length) := by
  induction holes generalizing state with
  | nil => exact Or.inl ⟨rfl, rfl⟩
  | cons hole holes ih =>
    rcases hanswer : asker hole state with ⟨err | v, next⟩
    · rw [replies_refused hanswer]
      exact Or.inr ⟨rfl, Nat.succ_pos _⟩
    · rw [replies_answered hanswer]
      rcases ih next with ⟨hnone, hlength⟩ | ⟨hsome, hlength⟩
      · exact Or.inl ⟨hnone, congrArg (· + 1) hlength⟩
      · exact Or.inr ⟨hsome, Nat.succ_lt_succ hlength⟩

theorem length_replies {holes : List String} {state : σ}
    (h : (replies asker holes state).failure = none) :
    (replies asker holes state).values.length = holes.length := by
  rcases replies_cases asker holes state with ⟨-, hlength⟩ | ⟨hsome, -⟩
  · exact hlength
  · rw [h] at hsome
    cases hsome

/-- Further questions are put to a questioner that has answered all before. -/
theorem replies_append_of_answered {holes : List String} {state : σ}
    (h : (replies asker holes state).failure = none) (more : List String) :
    replies asker (holes ++ more) state =
      (replies asker more (replies asker holes state).state).after
        (replies asker holes state).values := by
  induction holes generalizing state with
  | nil => rfl
  | cons hole holes ih =>
    rw [List.cons_append]
    rcases hanswer : asker hole state with ⟨err | v, next⟩
    · rw [replies_refused hanswer] at h
      cases h
    · rw [replies_answered hanswer] at h
      rw [replies_answered hanswer, replies_answered hanswer, ih h]
      rfl

/-- A questioner that gave up is asked nothing more. -/
theorem replies_append_of_refused {holes : List String} {state : σ}
    (h : (replies asker holes state).failure.isSome = true) (more : List String) :
    replies asker (holes ++ more) state = replies asker holes state := by
  induction holes generalizing state with
  | nil => cases h
  | cons hole holes ih =>
    rw [List.cons_append]
    rcases hanswer : asker hole state with ⟨err | v, next⟩
    · rw [replies_refused hanswer, replies_refused hanswer]
    · rw [replies_answered hanswer] at h
      rw [replies_answered hanswer, replies_answered hanswer, ih h]

/-- A questioner that answers by the name of the hole. -/
theorem replies_of_answers {f : String → Value}
    (h : ∀ hole state, (asker hole state).1 = .ok (f hole)) (holes : List String) (state : σ) :
    (replies asker holes state).failure = none ∧
      (replies asker holes state).values = holes.map f := by
  induction holes generalizing state with
  | nil => exact ⟨rfl, rfl⟩
  | cons hole holes ih =>
    have hanswer : asker hole state = (.ok (f hole), (asker hole state).2) :=
      Prod.ext (h hole state) rfl
    obtain ⟨hnone, hvalues⟩ := ih (asker hole state).2
    rw [replies_answered hanswer]
    exact ⟨hnone, congrArg (f hole :: ·) hvalues⟩

/-! ## Answers put into holes -/

/-- Answers put into the holes of statements, the first answer into the first hole. -/
def putAnswers : List Statement → List Value → List Statement
  | [], _ => []
  | s :: ss, values =>
    s.mapExpression (fun e => e.setAll (e.holes.keys.zip values)) ::
      putAnswers ss (values.drop s.expression.holes.length)

/-- Without answers, statements stay as they are. -/
theorem putAnswers_nil (ss : List Statement) : putAnswers ss [] = ss := by
  induction ss with
  | nil => rfl
  | cons s ss ih =>
    unfold putAnswers
    rw [List.drop_nil, ih]
    congr 1
    refine Statement.mapExpression_self ?_
    rw [List.zip_nil_right]
    rfl

/-- Answers to all holes of the first statement, and more. -/
theorem putAnswers_cons {s : Statement} {answers : List Value}
    (h : answers.length = s.expression.holes.length) (ss : List Statement) (more : List Value) :
    putAnswers (s :: ss) (answers ++ more) =
      s.mapExpression (fun e => e.setAll (e.holes.keys.zip answers)) :: putAnswers ss more := by
  have hkeys : s.expression.holes.keys.length = answers.length := by
    rw [h]
    exact List.length_map _
  have hzip : s.expression.holes.keys.zip (answers ++ more) =
      s.expression.holes.keys.zip answers := by
    have happend := @List.zip_append _ _ s.expression.holes.keys [] answers more hkeys
    rw [List.append_nil, List.zip_nil_left, List.append_nil] at happend
    exact happend
  rw [putAnswers, ← h, List.drop_left, ← Statement.mapExpression_const, hzip,
    Statement.mapExpression_const fun e => e.setAll (e.holes.keys.zip answers)]

/-- Answers that do not go beyond the holes of the first statement. -/
theorem putAnswers_cons_of_le {s : Statement} {answers : List Value}
    (h : answers.length ≤ s.expression.holes.length) (ss : List Statement) :
    putAnswers (s :: ss) answers =
      s.mapExpression (fun e => e.setAll (e.holes.keys.zip answers)) :: ss := by
  rw [putAnswers, List.drop_eq_nil_of_le h, putAnswers_nil]

/-- Enough answers leave no hole. -/
theorem holes_putAnswers {ss : List Statement} {values : List Value}
    (h : values.length = (ss.flatMap fun s => s.expression.holes.map Prod.snd).length) :
    ∀ s ∈ putAnswers ss values, s.expression.holes = [] := by
  induction ss generalizing values with
  | nil => exact List.forall_mem_nil _
  | cons s ss ih =>
    rw [List.flatMap_cons, List.length_append, List.length_map] at h
    have hfirst : (values.take s.expression.holes.length).length = s.expression.holes.length := by
      rw [List.length_take]
      omega
    have hrest : (values.drop s.expression.holes.length).length =
        (ss.flatMap fun s => s.expression.holes.map Prod.snd).length := by
      rw [List.length_drop]
      omega
    rw [← List.take_append_drop s.expression.holes.length values, putAnswers_cons hfirst]
    refine List.forall_mem_cons.2 ⟨?_, ih hrest⟩
    have hkeys : s.expression.holes.keys.length ≤
        (values.take s.expression.holes.length).length := by
      rw [hfirst]
      exact Nat.le_of_eq (List.length_map _)
    rw [Statement.expression_mapExpression, Expression.setAll_holes, List.map_fst_zip hkeys]
    exact Table.without_keys _

/-! ## The pass -/

/-- A pass that asks, after these questions got these replies. -/
def Asking.after (a : Asking σ ε) (holes : List String) (r : Replies σ ε) : Asking σ ε :=
  ⟨r.state, a.asked ++ holes.take (r.values.length + 1), r.failure⟩

/-- More questions, after all before were answered. -/
theorem Asking.after_after (a : Asking σ ε) {here : List String} {r : Replies σ ε}
    (h : r.values.length = here.length) (later : List String) (r' : Replies σ ε) :
    (a.after here r).after later r' = a.after (here ++ later) (r'.after r.values) := by
  unfold Asking.after Replies.after
  rw [List.length_append, h, Nat.add_assoc, List.take_length_add_append,
    List.take_of_length_le (Nat.le_succ _), List.append_assoc]

/-- Questions that are not put any more. -/
theorem Asking.after_append (a : Asking σ ε) {here : List String} {r : Replies σ ε}
    (h : r.values.length < here.length) (later : List String) :
    a.after (here ++ later) r = a.after here r := by
  unfold Asking.after
  rw [List.take_append_of_le_length h]

/-- The questions for the holes of one expression. -/
theorem askHoles_eq (holes : List (String × String)) (e : Expression) (a : Asking σ ε)
    (ha : a.failure = none) :
    askHoles asker holes e a =
      (e.setAll ((holes.map Prod.fst).zip (replies asker (holes.map Prod.snd) a.state).values),
        a.after (holes.map Prod.snd) (replies asker (holes.map Prod.snd) a.state)) := by
  induction holes generalizing e a with
  | nil =>
    obtain ⟨state, asked, failure⟩ := a
    obtain rfl : failure = none := ha
    simp [askHoles, replies, Asking.after, Expression.setAll]
  | cons x holes ih =>
    obtain ⟨param, hole⟩ := x
    rw [List.map_cons, List.map_cons, askHoles]
    rcases hanswer : asker hole a.state with ⟨err | v, next⟩
    · rw [replies_refused hanswer]
      rfl
    · rw [replies_answered hanswer]
      simp only
      rw [ih (e.set param v) ⟨next, a.asked ++ [hole], a.failure⟩ ha]
      simp [Asking.after, Replies.after, Expression.setAll]

/-- The questions for the holes of statements. -/
theorem askStatements_eq (ss : List Statement) (a : Asking σ ε) (ha : a.failure = none) :
    askStatements asker ss a =
      (putAnswers ss (replies asker
          (ss.flatMap fun s => s.expression.holes.map Prod.snd) a.state).values,
        a.after (ss.flatMap fun s => s.expression.holes.map Prod.snd) (replies asker
          (ss.flatMap fun s => s.expression.holes.map Prod.snd) a.state)) := by
  induction ss generalizing a with
  | nil =>
    obtain ⟨state, asked, failure⟩ := a
    obtain rfl : failure = none := ha
    simp [askStatements, replies, Asking.after, putAnswers]
  | cons s ss ih =>
    rw [askStatements, askHoles_eq _ _ a ha, List.flatMap_cons]
    set here := s.expression.holes.map Prod.snd
    set later := ss.flatMap fun s => s.expression.holes.map Prod.snd
    set r := replies asker here a.state with hr
    have hhere : here.length = s.expression.holes.length := List.length_map _
    have hfirst : (s.mapExpression fun _ => s.expression.setAll
        ((s.expression.holes.map Prod.fst).zip r.values)) =
        s.mapExpression fun e => e.setAll (e.holes.keys.zip r.values) :=
      Statement.mapExpression_const (fun e => e.setAll (e.holes.keys.zip r.values)) s
    rcases replies_cases asker here a.state with ⟨hnone, hlength⟩ | ⟨hsome, hlength⟩
    · -- all holes of this statement are answered, and the others come next
      have hgoes : ¬ (a.after here r).failure.isSome = true := by
        rw [show (a.after here r).failure = none from hnone]
        exact Bool.false_ne_true
      simp only [if_neg hgoes, hfirst]
      rw [replies_append_of_answered hnone, ih (a.after here r) hnone, ← hr,
        show (a.after here r).state = r.state from rfl, a.after_after hlength, Replies.after,
        putAnswers_cons (hlength.trans hhere)]
    · -- the questioner gave up at this statement, and the others stay as they are
      have hstops : (a.after here r).failure.isSome = true := hsome
      simp only [if_pos hstops, hfirst]
      rw [replies_append_of_refused hsome, ← hr, a.after_append hlength,
        putAnswers_cons_of_le (Nat.le_of_lt (hhere ▸ hlength))]

variable {state : σ} {t : Template}

/-- **A pass that asks** puts the answers into the holes, in the order of the template. -/
theorem ask_eq (asker : Asker σ ε) (state : σ) (t : Template) :
    t.ask asker state =
      (⟨putAnswers t.statements (replies asker (t.openHoles.map OpenHole.hole) state).values⟩,
        { state := (replies asker (t.openHoles.map OpenHole.hole) state).state
          asked := (t.openHoles.map OpenHole.hole).take
            ((replies asker (t.openHoles.map OpenHole.hole) state).values.length + 1)
          failure := (replies asker (t.openHoles.map OpenHole.hole) state).failure }) := by
  rw [names_openHoles, ask, askStatements_eq t.statements _ rfl]
  rfl

/-- **A questioner that never gives up is asked for every hole**, in the order of the template. -/
theorem asked_eq (h : (t.ask asker state).2.failure = none) :
    (t.ask asker state).2.asked = t.openHoles.map OpenHole.hole := by
  rw [ask_eq] at h ⊢
  exact List.take_of_length_le (length_replies h ▸ Nat.le_succ _)

/-- **Once every question is answered, there is no hole.** -/
theorem holes_ask (h : (t.ask asker state).2.failure = none) :
    ∀ s ∈ (t.ask asker state).1.statements, s.expression.holes = [] := by
  rw [ask_eq] at h ⊢
  have hlength := length_replies h
  rw [names_openHoles] at hlength ⊢
  exact holes_putAnswers hlength

/-! ## What an interrupted pass leaves -/

/-- The expression of statement `i` when some holes of the template have answers and others are
left: its answers are its last literal parameters, and its holes are among those left. -/
def withAnswers (answered : List (OpenHole × Value)) (left : List OpenHole) (i : ℕ)
    (e : Expression) : Expression :=
  { e with
    params := e.params ++
      (answered.filter fun x => x.1.statement = i).map fun x => (x.1.param, x.2)
    holes := (left.filter fun o => o.statement = i).map fun o => (o.param, o.hole) }

/-- The template with its first holes answered, and nothing else changed. -/
def answered (t : Template) (values : List Value) : Template where
  statements := t.statements.mapIdx fun i => Statement.mapExpression
    (withAnswers (t.openHoles.zip values) (t.openHoles.drop values.length) i)

section Answered

variable {here later : List OpenHole} {values : List Value} {i : ℕ} {e : Expression}

/-- Holes of other statements do not count, whether they come after the holes of statement `i` … -/
theorem withAnswers_append_left (h : ∀ o ∈ later, o.statement ≠ i) (e : Expression) :
    withAnswers ((here ++ later).zip values) ((here ++ later).drop values.length) i e =
      withAnswers (here.zip values) (here.drop values.length) i e := by
  have hanswers : (later.zip (values.drop here.length)).filter (fun x => x.1.statement = i) = [] :=
    List.filter_eq_nil_iff.2 fun x hx => by simpa using h x.1 (List.of_mem_zip hx).1
  have hleft : (later.drop (values.length - here.length)).filter (fun o => o.statement = i) = [] :=
    List.filter_eq_nil_iff.2 fun o ho => by simpa using h o (List.mem_of_mem_drop ho)
  unfold withAnswers
  rw [zip_append_eq, List.drop_append, List.filter_append, List.filter_append, hanswers, hleft,
    List.append_nil, List.append_nil]

/-- … or before them. -/
theorem withAnswers_append_right (h : ∀ o ∈ here, o.statement ≠ i) (e : Expression) :
    withAnswers ((here ++ later).zip values) ((here ++ later).drop values.length) i e =
      withAnswers (later.zip (values.drop here.length))
        (later.drop (values.drop here.length).length) i e := by
  have hanswers : (here.zip values).filter (fun x => x.1.statement = i) = [] :=
    List.filter_eq_nil_iff.2 fun x hx => by simpa using h x.1 (List.of_mem_zip hx).1
  have hleft : (here.drop values.length).filter (fun o => o.statement = i) = [] :=
    List.filter_eq_nil_iff.2 fun o ho => by simpa using h o (List.mem_of_mem_drop ho)
  unfold withAnswers
  rw [zip_append_eq, List.drop_append, List.filter_append, List.filter_append, hanswers, hleft,
    List.nil_append, List.nil_append, List.length_drop]

/-- **Answers put into the holes of one expression**: as no other parameter has the name of a hole,
they come after the literal parameters, and nothing but holes is taken out. -/
theorem setAll_answers (hv : e.clash? = none) (values : List Value) :
    e.setAll (e.holes.keys.zip values) =
      { e with
        params := e.params ++ e.holes.keys.zip values
        holes := e.holes.drop values.length } := by
  obtain ⟨⟨hp, -, -, hh⟩, hparams, hrefs, haliases⟩ :=
    (Expression.names_nodup_iff e).1 ((Expression.clash?_eq_none_iff e).1 hv)
  have hnames : (e.holes.keys.zip values).map Prod.fst = e.holes.keys.take values.length :=
    map_fst_zip_eq _ _
  have htaken : ∀ name ∈ e.holes.keys.take values.length, name ∈ e.holes.keys := fun _ h =>
    List.mem_of_mem_take h
  have hnew : (e.params.keys ++ Table.keys (e.holes.keys.zip values)).Nodup := by
    rw [show Table.keys (e.holes.keys.zip values) = _ from hnames]
    refine List.nodup_append.2 ⟨hp, List.Nodup.sublist (List.take_sublist _ _) hh, ?_⟩
    rintro name hname _ hhole rfl
    exact (hparams name hname).2.2 (htaken name hhole)
  rw [Expression.setAll_eq, Table.update_of_nodup _ _ hnew, hnames, Table.without_take hh,
    Table.without_of_disjoint fun name hname href => (hrefs name href).2 (htaken name hname),
    Table.without_of_disjoint fun name hname halias => haliases name halias (htaken name hname)]

/-- The answers and the holes left of one expression, out of those of its statement. -/
theorem withAnswers_numbered (e : Expression) (values : List Value) (n : ℕ) :
    withAnswers ((numberedHoles n e).zip values) ((numberedHoles n e).drop values.length) n e =
      { e with
        params := e.params ++ e.holes.keys.zip values
        holes := e.holes.drop values.length } := by
  have hanswered : ((numberedHoles n e).zip values).filter (fun x => x.1.statement = n) =
      (numberedHoles n e).zip values :=
    List.filter_eq_self.2 fun x hx => decide_eq_true
      (statement_of_mem_numberedHoles (List.of_mem_zip hx).1)
  have hleft : ((numberedHoles n e).drop values.length).filter (fun o => o.statement = n) =
      (numberedHoles n e).drop values.length :=
    List.filter_eq_self.2 fun o ho => decide_eq_true
      (statement_of_mem_numberedHoles (List.mem_of_mem_drop ho))
  have hparams : ((numberedHoles n e).zip values).map (fun x => (x.1.param, x.2)) =
      e.holes.keys.zip values := by
    unfold numberedHoles Table.keys
    rw [List.zip_map_left, List.zip_map_left, List.map_map]
    rfl
  have hholes : ((numberedHoles n e).drop values.length).map (fun o => (o.param, o.hole)) =
      e.holes.drop values.length := by
    unfold numberedHoles
    rw [List.map_drop, List.map_map]
    exact congrArg _ (List.map_id _)
  unfold withAnswers
  rw [hanswered, hleft, hparams, hholes]

/-- **Answers put into holes** are literal parameters, and the other holes are left. -/
theorem putAnswers_eq {ss : List Statement} (hv : ∀ s ∈ ss, s.expression.clash? = none)
    (values : List Value) (n : ℕ) :
    putAnswers ss values = (ss.zipIdx n).map fun x => x.1.mapExpression
      (withAnswers ((openHolesFrom n ss).zip values) ((openHolesFrom n ss).drop values.length)
        x.2) := by
  induction ss generalizing values n with
  | nil => rfl
  | cons s ss ih =>
    obtain ⟨hfirst, hrest⟩ := List.forall_mem_cons.1 hv
    rw [putAnswers, List.zipIdx_cons, List.map_cons, openHolesFrom_cons, ih hrest _ (n + 1)]
    congr 1
    · refine Statement.mapExpression_congr ?_
      have hlater : ∀ o ∈ openHolesFrom (n + 1) ss, o.statement ≠ n := fun o ho =>
        Nat.ne_of_gt (le_of_mem_openHolesFrom ho)
      rw [withAnswers_append_left hlater, withAnswers_numbered, setAll_answers hfirst]
    · refine List.map_congr_left fun x hx => Statement.mapExpression_congr ?_
      have hhere : ∀ o ∈ numberedHoles n s.expression, o.statement ≠ x.2 := by
        intro o ho
        rw [statement_of_mem_numberedHoles ho]
        exact Nat.ne_of_lt (List.le_snd_of_mem_zipIdx hx)
      rw [withAnswers_append_right hhere, numberedHoles, List.length_map]

/-- The holes left by answers put into holes. -/
theorem openHolesFrom_putAnswers {ss : List Statement}
    (hv : ∀ s ∈ ss, s.expression.clash? = none) (values : List Value) (n : ℕ) :
    openHolesFrom n (putAnswers ss values) = (openHolesFrom n ss).drop values.length := by
  induction ss generalizing values n with
  | nil => exact List.drop_nil.symm
  | cons s ss ih =>
    obtain ⟨hfirst, hrest⟩ := List.forall_mem_cons.1 hv
    have hlength : (numberedHoles n s.expression).length = s.expression.holes.length :=
      List.length_map _
    rw [putAnswers, openHolesFrom_cons, openHolesFrom_cons, ih hrest,
      Statement.expression_mapExpression, setAll_answers hfirst, List.drop_append, hlength,
      List.length_drop]
    congr 1
    exact List.map_drop

/-- **What a pass that asks leaves**, wherever the questioner gave up. -/
theorem ask_eq_answered {t : Template} (hv : t.Valid) (asker : Asker σ ε) (state : σ) :
    (t.ask asker state).1 =
      t.answered (replies asker (t.openHoles.map OpenHole.hole) state).values := by
  rw [ask_eq, putAnswers_eq (fun _ => clash?_of_valid hv) _ 0, answered,
    List.mapIdx_eq_zipIdx_map]
  rfl

theorem openHoles_ask {t : Template} (hv : t.Valid) (asker : Asker σ ε) (state : σ) :
    (t.ask asker state).1.openHoles = t.openHoles.drop
      (replies asker (t.openHoles.map OpenHole.hole) state).values.length := by
  rw [ask_eq]
  exact openHolesFrom_putAnswers (fun _ => clash?_of_valid hv) _ 0

end Answered

/-! ## Questions and fills -/

/-- Answers by the name of the hole, put into all holes. -/
theorem putAnswers_map (f : String → Value) (ss : List Statement) :
    putAnswers ss ((ss.flatMap fun s => s.expression.holes.map Prod.snd).map f) =
      ss.map (Statement.mapExpression fun e => e.setAll (e.holes.map fun x => (x.1, f x.2))) := by
  induction ss with
  | nil => rfl
  | cons s ss ih =>
    have hlength : ((s.expression.holes.map Prod.snd).map f).length =
        s.expression.holes.length := by
      rw [List.length_map, List.length_map]
    rw [List.flatMap_cons, List.map_append, putAnswers_cons hlength, ih, List.map_cons]
    congr 1
    refine Statement.mapExpression_congr ?_
    rw [Table.keys, List.map_map, List.zip_map']
    rfl

/-- Fills for all holes. -/
theorem fill_of_answers {t : Template} {f : String → Value} {fills : Table Value}
    (h : ∀ o ∈ t.openHoles, fills.get? o.hole = some (f o.hole)) :
    t.fill fills =
      t.mapExpressions fun e => e.setAll (e.holes.map fun x => (x.1, f x.2)) := by
  have hnames : ∀ hole ∈ t.openHoles.map OpenHole.hole, fills.get? hole = some (f hole) := by
    intro hole hhole
    obtain ⟨o, ho, rfl⟩ := List.mem_map.1 hhole
    exact h o ho
  rw [names_openHoles] at hnames
  rw [fill_eq]
  unfold mapExpressions
  congr 1
  refine List.map_congr_left fun s hs => Statement.mapExpression_congr ?_
  congr 1
  unfold fillings
  rw [← List.filterMap_eq_map']
  refine List.filterMap_congr fun x hx => ?_
  have hx' : fills.get? x.2 = some (f x.2) :=
    hnames x.2 (List.mem_flatMap.2 ⟨s, hs, List.mem_map_of_mem hx⟩)
  simp only [hx', Option.map_some]

end Template

open Template

/-- **A questioner that answers by the name of the hole leaves what filling from a table leaves**,
if the table has the same value for every hole: the same template, down to the order of the
parameters. Then no hole is missing, and none is left. -/
theorem asking_equals_filling {σ ε : Type} {t : Template} {f : String → Value} {fills : Table Value}
    (hfills : ∀ o ∈ t.openHoles, fills.get? o.hole = some (f o.hole)) {asker : Asker σ ε}
    (hasker : ∀ hole state, (asker hole state).1 = .ok (f hole)) (state : σ) (strict : Bool) :
    (t.ask asker state).1 = (t.resolve strict fills).1 ∧
    (t.ask asker state).2.failure = none ∧
    (t.resolve strict fills).2 = .ok [] ∧
    ∀ e ∈ (t.resolve strict fills).1.expressions, e.holes = [] := by
  obtain ⟨hnone, hvalues⟩ := replies_of_answers hasker (t.openHoles.map OpenHole.hole) state
  have hsame : (t.ask asker state).1 = (t.resolve strict fills).1 := by
    rw [ask_eq, hvalues, names_openHoles, putAnswers_map]
    exact (fill_of_answers hfills).symm
  have hanswered : (t.ask asker state).2.failure = none := by
    rw [ask_eq]
    exact hnone
  have hfilled : t.unfilled fills = [] := by
    rw [unfilled_eq]
    refine List.filter_eq_nil_iff.2 fun o ho => ?_
    rw [Table.has, hfills o ho]
    exact Bool.false_ne_true
  refine ⟨hsame, hanswered, ?_, ?_⟩
  · rw [resolve_eq, hfilled, List.isEmpty_nil, Bool.not_true, Bool.and_false]
    rfl
  · rw [← hsame]
    exact List.forall_mem_map.2 (holes_ask hanswered)

/-- Two statements whose holes wait for few names: the first waits twice for the same. -/
def twinDisks : Template where
  statements :=
    [{ node := .declaration { name := "web" }
        { action := "create", entity := "server", params := [("zone", .text "north")],
          holes := [("size", "size"), ("disk", "size")] } },
     { node := .expression
        { action := "attach", entity := "disk", refs := [("server", "web")],
          holes := [("size", "size"), ("label", "name")] } }]

/-- A questioner that answers every question with the name of the hole, and counts. -/
def echoes : Asker ℕ String := fun hole n => (.ok (.text hole), n + 1)

/-- A table with the same answers, and one that is not asked for. -/
def echoFills : Table Value :=
  [("spare", .null), ("name", .text "name"), ("size", .text "size")]

theorem asking_equals_filling_twinDisks :
    twinDisks.openHoles.map OpenHole.hole = ["size", "size", "size", "name"] ∧
    (twinDisks.ask echoes 0).1 = (twinDisks.resolve true echoFills).1 ∧
    (twinDisks.resolve true echoFills).2 = .ok [] := by
  have hfills : ∀ o ∈ twinDisks.openHoles, echoFills.get? o.hole = some (.text o.hole) := by
    intro o ho
    have hmem : o ∈ [⟨0, "size", "size"⟩, ⟨0, "disk", "size"⟩, ⟨1, "size", "size"⟩,
        (⟨1, "label", "name"⟩ : OpenHole)] := ho
    simp only [List.mem_cons, List.not_mem_nil, or_false] at hmem
    rcases hmem with rfl | rfl | rfl | rfl <;> rfl
  have hanswers : ∀ hole n, (echoes hole n).1 = .ok (.text hole) := fun _ _ => rfl
  obtain ⟨hsame, -, hnone, -⟩ := asking_equals_filling hfills hanswers 0 true
  exact ⟨rfl, hsame, hnone⟩

/-- **Every hole is asked for once, in the order of the template, until the questioner gives up.**
The pass fails as the questioner did. The answers it got are literal parameters in place of the
first holes; all other holes are left, and nothing else has changed. -/
theorem asks_until_refusal {σ ε : Type} {t : Template} (hv : t.Valid) (asker : Asker σ ε)
    (state : σ) :
    let holes := t.openHoles.map OpenHole.hole
    let said := replies asker holes state
    (t.ask asker state).2 = ⟨said.state, holes.take (said.values.length + 1), said.failure⟩ ∧
    (said.failure = none ∧ said.values.length = holes.length ∨
      said.failure.isSome ∧ said.values.length < holes.length) ∧
    (t.ask asker state).1 = t.answered said.values ∧
    (t.ask asker state).1.openHoles = t.openHoles.drop said.values.length := by
  intro holes said
  refine ⟨?_, replies_cases asker holes state, ask_eq_answered hv asker state,
    openHoles_ask hv asker state⟩
  rw [ask_eq]

/-- The second question repeats the first, gets no answer, and leaves three holes. -/
theorem asks_until_refusal_twinDisks : twinDisks.Valid ∧
    (twinDisks.ask answersOnce true).2.asked = ["size", "size"] ∧
    (twinDisks.ask answersOnce true).2.failure = some "gone" ∧
    (twinDisks.ask answersOnce true).1 = twinDisks.answered [.text "size"] ∧
    (twinDisks.answered [.text "size"]).expressions.map Expression.params =
      [[("zone", .text "north"), ("size", .text "size")], []] ∧
    (twinDisks.ask answersOnce true).1.openHoles =
      [⟨0, "disk", "size"⟩, ⟨1, "size", "size"⟩, ⟨1, "label", "name"⟩] := by
  have hv : ∀ e ∈ twinDisks.expressions, e.clash? = none := by decide
  obtain ⟨hpass, -, hleft, hopen⟩ := asks_until_refusal hv answersOnce true
  refine ⟨hv, ?_, ?_, hleft, rfl, hopen⟩
  · rw [hpass]
    rfl
  · rw [hpass]
    rfl

end Provision
