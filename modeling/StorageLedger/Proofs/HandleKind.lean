import StorageLedger.Proofs.TimelessCall

namespace StorageLedger.Ledger
open StorageLedger.Store

abbrev FaultyCall := Call × Option Failure

def FaultyCall.fault (c : FaultyCall) : Option Fault := c.2.map (⟨.execute, ·⟩)

/-- The step that makes a call through a handle. -/
def FaultyCall.through (handle : Handle) (c : FaultyCall) : Action := .call c.1 handle c.fault

/-- Calls made in turn on one table, with some number of steps from each to the next: the table at
the end, and the answers. -/
def inTurn (stride step : Nat) (t : Table) : List FaultyCall → Table × List Answer
  | [] => (t, [])
  | c :: cs =>
    let run := c.1.run { now := stamp (step + 1) } .connection c.fault t
    let rest := inTurn stride (step + stride) run.table cs
    (rest.1, .call run.result run.logs :: rest.2)

theorem inTurn_cons (stride step : Nat) (t : Table) (c : FaultyCall) (cs : List FaultyCall) :
    inTurn stride step t (c :: cs) =
      let run := c.1.run { now := stamp (step + 1) } .connection c.fault t
      ((inTurn stride (step + stride) run.table cs).1,
        .call run.result run.logs :: (inTurn stride (step + stride) run.table cs).2) := rfl

theorem Session.step_caller_call (s : Session) (h : handle ≠ .engine) (c : FaultyCall) :
    let run := c.1.run s.nextStore .connection c.fault s.visible
    (s.step (c.through handle)).2 = .call run.result run.logs ∧
      (s.step (c.through handle)).1.visible = run.table := by
  rw [← Call.run_of_ne_engine c.1 h (by decide)]
  exact ⟨(s.step_caller c.1 _ h).1, s.step_caller_visible c.1 _ h⟩

theorem Session.run_caller_in_turn (s : Session) (h : handle ≠ .engine) (cs : List FaultyCall) :
    (s.run (cs.map (·.through handle))).1.visible = (inTurn 1 s.steps s.visible cs).1 ∧
      (s.run (cs.map (·.through handle))).2 = (inTurn 1 s.steps s.visible cs).2 := by
  induction cs generalizing s with
  | nil => exact ⟨rfl, rfl⟩
  | cons c cs ih =>
    obtain ⟨hanswer, hview⟩ := s.step_caller_call h c
    obtain ⟨hvisible, hanswers⟩ := ih (s.step (c.through handle)).1
    rw [Session.step_steps, hview] at hvisible hanswers
    rw [List.map_cons, Session.run_cons, inTurn_cons, hanswer, hvisible, hanswers]
    exact ⟨rfl, rfl⟩

theorem Session.run_committed_in_turn (s : Session) (h : s.transaction = none)
    (hh : handle ≠ .engine) (cs : List FaultyCall) :
    (s.run (cs.map (·.through handle) ++ [.commit])).1.committed =
        (inTurn 1 s.steps s.committed cs).1 ∧
      (s.run (cs.map (·.through handle) ++ [.commit])).2 =
        (inTurn 1 s.steps s.committed cs).2 ++ [.done] := by
  obtain ⟨hvisible, hanswers⟩ := s.run_caller_in_turn hh cs
  rw [Session.visible_of_no_transaction h] at hvisible hanswers
  rw [Session.run_append, ← hvisible, ← hanswers]
  exact ⟨rfl, rfl⟩

theorem FaultyCall.faultAt_eq_none (c : FaultyCall) (h : point ≠ .execute) :
    faultAt c.fault point = none := by
  obtain ⟨c, failure⟩ := c
  cases failure with
  | none => rfl
  | some failure => exact if_neg fun he => h he.symm

theorem Session.step_engine_call (s : Session) (c : FaultyCall)
    (hc : ∀ w fileId, c.1 ≠ .delete w fileId) :
    let run := c.1.run s.nextStore .connection c.fault s.committed
    (s.step (c.through .engine)).2 = .call run.result run.logs ∧
      (s.step (c.through .engine)).1.committed = run.table := by
  intro run
  have hplan := Call.plan_of_not_delete hc .engine .connection
  have hconnect := c.faultAt_eq_none (show FaultPoint.connect ≠ .execute by decide)
  have hcommit := c.faultAt_eq_none (show FaultPoint.commit ≠ .execute by decide)
  obtain ⟨hresult, hlogs, htable⟩ :=
    Call.run_engine s.nextStore s.committed hplan (by decide) hconnect hcommit
  rw [FaultyCall.through, Session.step_engine]
  dsimp only
  rw [hresult, hlogs, htable]
  exact ⟨rfl, rfl⟩

theorem Session.run_engine_in_turn (s : Session) (cs : List FaultyCall)
    (hcs : ∀ c ∈ cs, ∀ w fileId, c.1 ≠ .delete w fileId) :
    (s.run (cs.map (·.through .engine))).1.committed = (inTurn 1 s.steps s.committed cs).1 ∧
      (s.run (cs.map (·.through .engine))).2 = (inTurn 1 s.steps s.committed cs).2 := by
  induction cs generalizing s with
  | nil => exact ⟨rfl, rfl⟩
  | cons c cs ih =>
    obtain ⟨hc, hrest⟩ := List.forall_mem_cons.1 hcs
    obtain ⟨hanswer, htable⟩ := s.step_engine_call c hc
    obtain ⟨hcommitted, hanswers⟩ := ih (s.step (c.through .engine)).1 hrest
    rw [Session.step_steps, htable] at hcommitted hanswers
    rw [List.map_cons, Session.run_cons, inTurn_cons, hanswer, hcommitted, hanswers]
    exact ⟨rfl, rfl⟩

/-- The steps that make calls through a connection and commit each before the next. -/
def oneByOne (cs : List FaultyCall) : List Action :=
  cs.flatMap fun c => [c.through .connection, .commit]

theorem Session.run_one_by_one_in_turn (s : Session) (h : s.transaction = none)
    (cs : List FaultyCall) :
    (s.run (oneByOne cs)).1.committed = (inTurn 2 s.steps s.committed cs).1 ∧
      (s.run (oneByOne cs)).2 =
        (inTurn 2 s.steps s.committed cs).2.flatMap (fun a => [a, .done]) := by
  induction cs generalizing s with
  | nil => exact ⟨rfl, rfl⟩
  | cons c cs ih =>
    -- Each call takes two steps, and the second commits the rows that the first left.
    let s₁ := (s.step (c.through .connection)).1
    let s₂ := (s₁.step .commit).1
    obtain ⟨hanswer, hview⟩ := s.step_caller_call (show Handle.connection ≠ .engine by decide) c
    rw [Session.visible_of_no_transaction h] at hanswer hview
    have hsteps : s₂.steps = s.steps + 2 := by
      rw [Session.step_steps, Session.step_steps]
    have htable : s₂.committed = s₁.visible := rfl
    obtain ⟨hcommitted, hanswers⟩ := ih s₂ rfl
    rw [hsteps, htable, hview] at hcommitted hanswers
    have hrun : s.run (oneByOne (c :: cs)) = ((s₂.run (oneByOne cs)).1,
        (s.step (c.through .connection)).2 :: .done :: (s₂.run (oneByOne cs)).2) := rfl
    rw [hrun, inTurn_cons, hanswer, hcommitted, hanswers]
    exact ⟨rfl, rfl⟩

/-- Calls made in turn leave the same rows and answer the same, times apart, however many steps go
by between them and whenever the rows before them were written. -/
theorem inTurn_timeless (cs : List FaultyCall) (hcs : ∀ c ∈ cs, c.1.reports)
    {t t' : Table} (ht : t.timeless = t'.timeless) :
    (inTurn stride step t cs).1.timeless = (inTurn stride' step' t' cs).1.timeless ∧
      (inTurn stride step t cs).2.map Answer.timeless =
        (inTurn stride' step' t' cs).2.map Answer.timeless := by
  induction cs generalizing t t' step step' with
  | nil => exact ⟨ht, rfl⟩
  | cons c cs ih =>
    obtain ⟨hc, hrest⟩ := List.forall_mem_cons.1 hcs
    have htimes := (stamp_timeless (step + 1)).trans (stamp_timeless (step' + 1)).symm
    have hrun :
        (c.1.run { now := stamp (step + 1) } .connection c.fault t).timeless Outcome.timeless =
          (c.1.run { now := stamp (step' + 1) } .connection c.fault t').timeless Outcome.timeless :=
      Call.run_at_any_time hc htimes ht
    obtain ⟨hrows, hanswers⟩ := ih hrest (congrArg Run.table hrun)
    refine ⟨hrows, ?_⟩
    have hresult := congrArg Run.result hrun
    have hlogs := congrArg Run.logs hrun
    simp only [Run.timeless] at hresult hlogs
    simp only [inTurn_cons, List.map_cons, Answer.timeless, hresult, hlogs, hanswers]

/-- The kind of the handle does not change what calls do. From any committed rows, at any step,
calls made through a connection and committed together answer the same and leave the same rows as
through a session, and, if none of them is a removal, as through an engine. If each is committed
before the next, more steps go by, and the answers and the rows are the same up to times of
writing. -/
theorem Session.handle_kinds_agree (committed : Table) (steps : Nat) (cs : List FaultyCall)
    (hcs : ∀ c ∈ cs, c.1.reports) :
    let s : Session := ⟨committed, none, steps⟩
    let together := s.run (cs.map (·.through .connection) ++ [.commit])
    let inSession := s.run (cs.map (·.through .session) ++ [.commit])
    let eachCommitted := s.run (oneByOne cs)
    let byEngine := s.run (cs.map (·.through .engine))
    ∃ answers answers' : List Answer,
      together.2 = answers ++ [.done] ∧
      (inSession.2 = answers ++ [.done] ∧ inSession.1.committed = together.1.committed) ∧
      (eachCommitted.2 = answers'.flatMap (fun a => [a, .done]) ∧
        answers'.map Answer.timeless = answers.map Answer.timeless ∧
        eachCommitted.1.committed.timeless = together.1.committed.timeless) ∧
      ((∀ c ∈ cs, ∀ w fileId, c.1 ≠ .delete w fileId) →
        byEngine.2 = answers ∧ byEngine.1.committed = together.1.committed) := by
  intro s together inSession eachCommitted byEngine
  obtain ⟨hrows, hanswers⟩ :=
    s.run_committed_in_turn rfl (show Handle.connection ≠ .engine by decide) cs
  obtain ⟨hrows₁, hanswers₁⟩ :=
    s.run_committed_in_turn rfl (show Handle.session ≠ .engine by decide) cs
  obtain ⟨hrows₂, hanswers₂⟩ := s.run_one_by_one_in_turn rfl cs
  refine ⟨_, _, hanswers, ⟨hanswers₁, hrows₁.trans hrows.symm⟩, ⟨hanswers₂, ?_, ?_⟩, ?_⟩
  · exact (inTurn_timeless cs hcs rfl).2
  · exact (congrArg Table.timeless hrows₂).trans
      ((inTurn_timeless cs hcs rfl).1.trans (congrArg Table.timeless hrows.symm))
  · intro hkinds
    obtain ⟨hrows₃, hanswers₃⟩ := s.run_engine_in_turn cs hkinds
    exact ⟨hanswers₃, hrows₃.trans hrows.symm⟩

theorem Session.handle_kinds_agree_on_mixed_calls :
    let w : WorkspaceId := ⟨7, by decide⟩
    let cs : List FaultyCall :=
      [(.upsert w "o_a" "text/plain" (.int 3), none),
        (.insertBulk w (.entries [⟨"o", "b", "text/css", 1⟩, ⟨"o", "c", "text/css", -1⟩]), none),
        (.get w "o_a", none), (.usage w, some (.timeout "late"))]
    let together := Session.start.run (cs.map (·.through .connection) ++ [.commit])
    let byEngine := Session.start.run (cs.map (·.through .engine))
    (∀ c ∈ cs, c.1.reports) ∧ (∀ c ∈ cs, ∀ w fileId, c.1 ≠ .delete w fileId) ∧
      together.2 = byEngine.2 ++ [.done] ∧ byEngine.1.committed = together.1.committed ∧
      together.1.committed.rows.length = 1 := by
  intro w cs together byEngine
  have hcs : ∀ c ∈ cs, c.1.reports := by
    simp [cs, Call.reports]
  have hkinds : ∀ c ∈ cs, ∀ w fileId, c.1 ≠ .delete w fileId := by
    simp [cs]
  obtain ⟨answers, _, htogether, _, _, hengine⟩ := Session.handle_kinds_agree .empty 0 cs hcs
  obtain ⟨hanswers, hrows⟩ := hengine hkinds
  refine ⟨hcs, hkinds, ?_, hrows, rfl⟩
  exact htogether.trans (congrArg (· ++ [.done]) hanswers.symm)

end StorageLedger.Ledger
