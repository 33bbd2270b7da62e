import StorageLedger.Proofs.TimelessCall
import StorageLedger.Proofs.Wording

namespace StorageLedger.Ledger
open StorageLedger.Store

variable {store : Store} {handle : Handle} {fault : Option Fault} {t : Table} {c : Call}
variable {read : Reply → Except Failure Reply}
variable {conclude : Reply → Except LedgerError Outcome × List LogRecord}

theorem performRead_of_ok {fault : Option Failure}
    (h : (performRead store fault statements read t).result = .ok reply) :
    performRead store fault statements read t = performRead store none statements read t := by
  cases statements with
  | nil => rfl
  | cons s rest =>
    cases fault with
    | none => rfl
    | some failure => cases h

theorem Call.table_of_ok (h : (c.run store handle fault t).result = .ok o) :
    (c.run store handle fault t).table = (c.run store handle none t).table := by
  cases hplan : c.plan handle with
  | answer result => rw [Call.run_answer hplan, Call.run_answer hplan]
  | send statements read conclude =>
    rw [Call.run_send hplan] at h ⊢
    rw [Call.run_send hplan]
    let work (fault : Option Failure) := performRead store fault statements read
    show (carryOut handle fault (work (faultAt fault .execute)) t).table =
      (carryOut handle none (work none) t).table
    cases hr : (carryOut handle fault (work (faultAt fault .execute)) t).result with
    | error failure =>
      simp only [Call.conclude, Run.finish, work, hr] at h
      cases h
    | ok reply =>
      obtain ⟨hwork, htable⟩ := carryOut_ok hr
      have hsame : work (faultAt fault .execute) t = work none t := performRead_of_ok hwork
      rw [hsame] at hwork htable
      rw [htable, (carryOut_ok (carryOut_faultless hwork)).2]

theorem dispose_not_mem_perform {fault : Option Failure} :
    .dispose ∉ (perform store fault last statements t).events := by
  induction statements generalizing fault last t with
  | nil => exact List.not_mem_nil
  | cons s rest ih =>
    cases fault with
    | some failure => simp [perform]
    | none =>
      simp only [perform]
      split
      · simp
      · exact List.not_mem_cons_of_ne_of_not_mem (by decide) ih

theorem dispose_not_mem_ownTransaction {work : Table → Run ε α}
    {connectFault commitFault : Option ε} (h : .dispose ∉ (work t).events) :
    .dispose ∉ (ownTransaction connectFault commitFault work t).events := by
  cases connectFault with
  | some e => simp [ownTransaction]
  | none =>
    cases hr : (work t).result with
    | error e =>
      rw [ownTransaction_of_error hr]
      simp [Run.between, h]
    | ok a =>
      cases commitFault with
      | some e =>
        rw [ownTransaction_of_commit_fault hr]
        simp [Run.between, h]
      | none =>
        rw [ownTransaction_of_ok hr]
        simp [Run.between, h]

theorem Call.dispose_not_mem (c : Call) (store : Store) (handle : Handle) (fault : Option Fault)
    (t : Table) : .dispose ∉ (c.run store handle fault t).events := by
  cases hplan : c.plan handle with
  | answer result =>
    rw [Call.run_answer hplan]
    exact List.not_mem_nil
  | send statements read conclude =>
    rw [Call.run_send hplan]
    show .dispose ∉ (carryOut handle fault _ t).events
    by_cases hh : handle = .engine
    · rw [carryOut_of_engine hh]
      exact dispose_not_mem_ownTransaction dispose_not_mem_perform
    · rw [carryOut_of_caller hh]
      exact dispose_not_mem_perform

end StorageLedger.Ledger

namespace StorageLedger.Command
open StorageLedger.Calendar StorageLedger.Console StorageLedger.Ledger StorageLedger.Store

def Surroundings.request? (s : Surroundings) (args : List String) : Option Request :=
  match Opening.read args with
  | .ok .help => some .help
  | .ok (.command v verbose rest) =>
    match s.level verbose with
    | .ok _ => (v.read s.files rest).toOption
    | .error _ => none
  | _ => none

def Request.fileId? : Request → Option String
  | .inspect _ fileId => some fileId
  | .put _ fileId _ _ => some fileId
  | .remove _ fileId => some fileId
  | _ => none

/-- The question that comes before a reset is answered with yes. -/
def Surroundings.confirms (s : Surroundings) : Bool :=
  (confirm resetQuestion.toList (inputLines s.input.toList)).answer == some true

/-- A reset that is forced or confirmed. -/
def Surroundings.resets (s : Surroundings) : Request → Bool
  | .resetSchema force => force || s.confirms
  | _ => false

def actionsIn (workspace : String) (actions : WorkspaceId → List Action) : List Action :=
  ((WorkspaceId.ofSpelling? workspace.toList).map actions).getD []

/-- The actions of a session with the ledger that a request stands for. A removal is committed by
the caller, the other writes commit themselves. -/
def Request.actions : Request → List Action
  | .put workspace fileId fileType fileSize =>
    actionsIn workspace fun w => [.call (.upsert w fileId fileType (.int fileSize)) .engine none]
  | .remove workspace fileId =>
    actionsIn workspace fun w => [.call (.delete w fileId) .connection none, .commit]
  | .load workspace manifest =>
    actionsIn workspace fun w =>
      match Entry.ofManifest manifest.content with
      | .ok es => [.call (.insertBulk w (.entries es)) .engine none]
      | .error _ => []
  | _ => []

/-- The rows that a request asks for, made of a table by the ledger after some steps. -/
def Surroundings.rowsAsked (s : Surroundings) (t : Table) (request : Request) (steps : Nat) :
    Table :=
  if s.resets request then .empty
  else (Session.run ⟨t, none, steps⟩ request.actions).1.committed

/-- A request for which the store is opened: its workspace can be read, its manifest too, and if it
is a reset it is forced or confirmed. -/
def Surroundings.opens (s : Surroundings) : Request → Bool
  | .help => false
  | .createSchema => true
  | .resetSchema force => s.resets (.resetSchema force)
  | .usage workspace => (WorkspaceId.ofSpelling? workspace.toList).isSome
  | .list workspace _ => (WorkspaceId.ofSpelling? workspace.toList).isSome
  | .inspect workspace _ => (WorkspaceId.ofSpelling? workspace.toList).isSome
  | .put workspace _ _ _ => (WorkspaceId.ofSpelling? workspace.toList).isSome
  | .remove workspace _ => (WorkspaceId.ofSpelling? workspace.toList).isSome
  | .load workspace manifest =>
    (WorkspaceId.ofSpelling? workspace.toList).isSome &&
      (Entry.ofManifest manifest.content).toOption.isSome

/-- What an effect leaves behind agrees with how it ends. -/
structure Effect.Faithful (e : Effect) (t : Table) (asked : Nat → Table) (opened : Bool) :
    Prop where
  /-- Success leaves the rows that were asked for, whenever they are written. -/
  success : e.output.ending = .exit 0 → ∀ steps, e.table.timeless = (asked steps).timeless
  /-- Any other end leaves the rows as they were. -/
  failure : e.output.ending ≠ .exit 0 → e.table = t
  /-- The store is closed, last of all and once. -/
  closed : opened = true → ∃ events, e.events = events ++ [.dispose] ∧ .dispose ∉ events
  /-- A store that is not opened is not told anything. -/
  unopened : opened = false → e.events = []

variable {s : Surroundings} {t : Table} {asked : Nat → Table}

theorem Output.say_ending (code : Nat) (text : String) :
    (Output.say code text).ending = .exit code ∨
      ∃ f, (Output.say code text).ending = .escape (.markup f) := by
  rw [Output.say]
  split
  · exact .inl rfl
  · exact .inr ⟨_, rfl⟩

theorem Output.say_of_prints {text : String} (code : Nat)
    (h : ∃ cs, print text.toList = .ok cs) : (Output.say code text).ending = .exit code := by
  obtain ⟨cs, hcs⟩ := h
  rw [Output.say, hcs]

theorem Output.say_one_ne_success (text : String) : (Output.say 1 text).ending ≠ .exit 0 := by
  rcases Output.say_ending 1 text with h | ⟨f, h⟩ <;> rw [h] <;> nofun

theorem failed_ne_success (e : LedgerError) : (failed e).ending ≠ .exit 0 := by
  cases e with
  | storeFailure operation cause => exact Output.say_one_ne_success _
  | _ => nofun

theorem Effect.Faithful.idle (o : Output) : (Effect.idle t o).Faithful t (fun _ => t) false :=
  ⟨fun _ _ => rfl, fun _ => rfl, nofun, fun _ => rfl⟩

theorem Effect.Faithful.refused {o : Output} (h : o.ending ≠ .exit 0) :
    (Effect.idle t o).Faithful t asked false :=
  ⟨fun he => absurd he h, fun _ => rfl, nofun, fun _ => rfl⟩

/-- Work on a store that keeps the rows if it fails, and whose success is reported. -/
theorem Effect.Faithful.ofRun {run : Run LedgerError α} {conclude : Except LedgerError α → Output}
    (hevents : .dispose ∉ run.events)
    (hok : ∀ a, run.result = .ok a → (∀ steps, run.table.timeless = (asked steps).timeless) ∧
      (run.table = t ∨ (conclude (.ok a)).ending = .exit 0))
    (herror : ∀ e, run.result = .error e →
      run.table = t ∧ (conclude (.error e)).ending ≠ .exit 0) :
    (Effect.ofRun run conclude).Faithful t asked true := by
  refine ⟨?_, ?_, fun _ => ⟨run.events, rfl, hevents⟩, nofun⟩
  · intro hend
    cases hr : run.result with
    | ok a => exact (hok a hr).1
    | error e =>
      simp only [Effect.ofRun, hr] at hend
      exact absurd hend (herror e hr).2
  · intro hend
    cases hr : run.result with
    | error e => exact (herror e hr).1
    | ok a =>
      rcases (hok a hr).2 with htable | hsuccess
      · exact htable
      · simp only [Effect.ofRun, hr] at hend
        exact absurd hsuccess hend

theorem Effect.Faithful.ofQuery {c : Call} {conclude : Except LedgerError Outcome → Output}
    {read : Reply → Except Failure Reply}
    {conclude' : Reply → Except LedgerError Outcome × List LogRecord}
    (hplan : c.plan .engine = .send [statement] read conclude') (hquery : statement.isQuery)
    (herror : ∀ e, (conclude (.error e)).ending ≠ .exit 0) :
    (Effect.ofRun (s.call t c) conclude).Faithful t (fun _ => t) true := by
  have htable : (s.call t c).table = t := Call.table_of_query hplan hquery
  apply Effect.Faithful.ofRun (c.dispose_not_mem _ _ _ _)
  · intro o _
    exact ⟨fun _ => congrArg Table.timeless htable, .inl htable⟩
  · intro e _
    exact ⟨htable, herror e⟩

theorem Effect.Faithful.ofWrite {c : Call} {succeeded : Outcome → Output}
    (hstore : s.store = { now := stamp step }) (hc : c.reports)
    (hsucceeded : ∀ o, (s.call t c).result = .ok o → (succeeded o).ending = .exit 0) :
    (Effect.ofRun (s.call t c) (concluded succeeded)).Faithful t
      (fun steps => (Session.run ⟨t, none, steps⟩ [.call c .engine none]).1.committed) true := by
  apply Effect.Faithful.ofRun (c.dispose_not_mem _ _ _ _)
  · intro o ho
    refine ⟨?_, .inr (hsucceeded o ho)⟩
    intro steps
    have htimes := (stamp_timeless step).trans (stamp_timeless (steps + 1)).symm
    rw [hstore] at ho ⊢
    rw [Call.table_of_ok ho]
    exact congrArg Run.table (Call.run_at_any_time hc htimes rfl)
  · intro e he
    exact ⟨Call.run_error he, failed_ne_success e⟩

theorem Effect.Faithful.in_workspace {workspace : String} {work : WorkspaceId → Effect}
    {opened : Bool} (h : ∀ w, WorkspaceId.ofSpelling? workspace.toList = some w →
      (work w).Faithful t asked opened) :
    (inWorkspace t workspace work).Faithful t asked
      ((WorkspaceId.ofSpelling? workspace.toList).isSome && opened) := by
  rw [inWorkspace]
  cases hw : WorkspaceId.ofSpelling? workspace.toList with
  | none => exact .refused (Output.say_one_ne_success _)
  | some w => exact h w hw

theorem Effect.Faithful.opened_in_workspace {workspace : String} {work : WorkspaceId → Effect}
    (h : ∀ w, WorkspaceId.ofSpelling? workspace.toList = some w → (work w).Faithful t asked true) :
    (inWorkspace t workspace work).Faithful t asked
      (WorkspaceId.ofSpelling? workspace.toList).isSome := by
  rw [← Bool.and_true (WorkspaceId.ofSpelling? workspace.toList).isSome]
  exact .in_workspace h

theorem actionsIn_of_some {workspace : String} (actions : WorkspaceId → List Action)
    (h : WorkspaceId.ofSpelling? workspace.toList = some w) :
    actionsIn workspace actions = actions w := by
  rw [actionsIn, h]
  rfl

theorem Effect.Faithful.remove (w : WorkspaceId) (hstore : s.store = { now := stamp step })
    {fileId : String} (h : '[' ∉ fileId.toList) :
    (Effect.ofRun (s.remove t w fileId) (concluded fun _ => .say 0 (removedText fileId))).Faithful t
      (fun steps => (Session.run ⟨t, none, steps⟩
        [.call (.delete w fileId) .connection none, .commit]).1.committed) true := by
  let c : Call := .delete w fileId
  apply Effect.Faithful.ofRun (dispose_not_mem_ownTransaction (c.dispose_not_mem _ _ _ _))
  · intro o ho
    refine ⟨?_, .inr (Output.say_of_prints 0 (removedText_prints h))⟩
    intro steps
    have htimes := (stamp_timeless step).trans (stamp_timeless (steps + 1)).symm
    obtain ⟨hwork, htable⟩ := ownTransaction_ok ho
    have hcommitted := Session.step_caller_visible ⟨t, none, steps⟩ c none
      (show Handle.connection ≠ .engine by decide)
    rw [htable, Call.table_of_ok hwork, hstore]
    refine Eq.trans ?_ (congrArg Table.timeless hcommitted.symm)
    exact congrArg Run.table (Call.run_at_any_time rfl htimes rfl)
  · intro e he
    exact ⟨ownTransaction_error he, failed_ne_success e⟩

theorem Effect.Faithful.reset (hstore : s.store = { now := stamp step }) :
    (s.reset t).Faithful t (fun _ => .empty) true := by
  apply Effect.Faithful.ofRun (Call.dispose_not_mem _ _ _ _ _)
  · intro o ho
    rw [hstore] at ho ⊢
    rw [Call.table_of_ok ho]
    exact ⟨fun _ => rfl, .inr (Output.say_of_prints 0 resetText_prints)⟩
  · intro e he
    exact ⟨Call.run_error he, failed_ne_success e⟩

theorem Effect.Faithful.after {e : Effect} (h : e.Faithful t asked opened) (cs : List Char) :
    Effect.Faithful { e with output := e.output.after cs } t asked opened :=
  ⟨h.success, h.failure, h.closed, h.unopened⟩

theorem Effect.Faithful.confirm_reset (hstore : s.store = { now := stamp step }) :
    s.confirmReset t |>.Faithful t (fun _ => if s.confirms then .empty else t) s.confirms := by
  rw [Surroundings.confirmReset, Surroundings.confirms]
  cases hanswer : (confirm resetQuestion.toList (inputLines s.input.toList)).answer with
  | none => exact .refused nofun
  | some confirmed =>
    cases confirmed with
    | false => exact .idle _
    | true => exact (Effect.Faithful.reset hstore).after _

theorem Effect.Faithful.load (hstore : s.store = { now := stamp step }) {workspace : String}
    (hw : WorkspaceId.ofSpelling? workspace.toList = some w) (manifest : File) :
    (s.load t w manifest).Faithful t (s.rowsAsked t (.load workspace manifest))
      (Entry.ofManifest manifest.content).toOption.isSome := by
  have hactions : (Request.load workspace manifest).actions = _ := actionsIn_of_some _ hw
  rw [Surroundings.load]
  unfold Surroundings.rowsAsked
  rw [hactions]
  cases hes : Entry.ofManifest manifest.content with
  | error r => exact .refused (Output.say_one_ne_success _)
  | ok es =>
    apply Effect.Faithful.ofWrite hstore rfl
    intro o _
    cases o with
    | count inserted => exact Output.say_of_prints 0 (insertedText_prints _ _)
    | _ => rfl

theorem Effect.Faithful.perform (hstore : s.store = { now := stamp step }) (request : Request)
    (hplain : ∀ fileId, request.fileId? = some fileId → '[' ∉ fileId.toList) :
    (s.perform t request).Faithful t (s.rowsAsked t request) (s.opens request) := by
  cases request with
  | help => exact .idle _
  | createSchema => exact .ofQuery rfl rfl failed_ne_success
  | resetSchema force =>
    cases force with
    | true => exact .reset hstore
    | false => exact .confirm_reset hstore
  | usage workspace =>
    exact .opened_in_workspace fun w _ => .ofQuery rfl rfl failed_ne_success
  | list workspace idsOnly =>
    apply Effect.Faithful.opened_in_workspace
    intro w _
    cases idsOnly with
    | true => exact .ofQuery rfl rfl failed_ne_success
    | false => exact .ofQuery rfl rfl failed_ne_success
  | inspect workspace fileId =>
    apply Effect.Faithful.opened_in_workspace
    intro w _
    apply Effect.Faithful.ofQuery rfl rfl
    intro e
    cases e with
    | notFound w' fileId' => exact Output.say_one_ne_success _
    | _ => exact failed_ne_success _
  | put workspace fileId fileType fileSize =>
    apply Effect.Faithful.opened_in_workspace
    intro w hw
    have hactions : (Request.put workspace fileId fileType fileSize).actions = _ :=
      actionsIn_of_some _ hw
    unfold Surroundings.rowsAsked
    rw [hactions]
    apply Effect.Faithful.ofWrite hstore rfl
    exact fun _ _ => Output.say_of_prints 0 (recordedText_prints fileSize (hplain fileId rfl))
  | remove workspace fileId =>
    apply Effect.Faithful.opened_in_workspace
    intro w hw
    have hactions : (Request.remove workspace fileId).actions = _ := actionsIn_of_some _ hw
    unfold Surroundings.rowsAsked
    rw [hactions]
    exact .remove w hstore (hplain fileId rfl)
  | load workspace manifest =>
    exact .in_workspace fun w hw => .load hstore hw manifest

theorem Surroundings.request?_of_read {v : Verb} {level : Level}
    (hopening : Opening.read args = .ok (.command v verbose rest))
    (hlevel : s.level verbose = .ok level) (hread : v.read s.files rest = .ok request) :
    s.request? args = some request := by
  rw [Surroundings.request?, hopening]
  dsimp only
  rw [hlevel, hread]
  rfl

theorem Surroundings.run_of_request (t : Table) (h : s.request? args = some request) :
    ∃ level, s.run t args = .ofEffect level (s.perform t request) := by
  unfold Surroundings.request? at h
  unfold Surroundings.run
  split at h
  · next hopening =>
    cases h
    rw [hopening]
    exact ⟨defaultLevel, rfl⟩
  · next v verbose rest hopening =>
    rw [hopening]
    dsimp only
    unfold Surroundings.runCommand
    split at h
    · next level hlevel =>
      have hread : v.read s.files rest = .ok request := by
        cases hr : v.read s.files rest with
        | error m => rw [hr] at h; cases h
        | ok request' => rw [hr] at h; cases h; rfl
      rw [hlevel, hread]
      exact ⟨level, rfl⟩
    · cases h
  · cases h

theorem Surroundings.output_of_request (t : Table) (h : s.request? args = some request) :
    (s.run t args).effect.output = (s.perform t request).output := by
  obtain ⟨level, hrun⟩ := Surroundings.run_of_request t h
  rw [hrun]
  rfl

theorem Surroundings.run_without_request (t : Table) (h : s.request? args = none) :
    ∃ o, (s.run t args).effect = .idle t o ∧ o.ending ≠ .exit 0 := by
  unfold Surroundings.request? at h
  unfold Surroundings.run
  cases hopening : Opening.read args with
  | error m => exact ⟨_, rfl, nofun⟩
  | ok opening =>
    rw [hopening] at h
    cases opening with
    | bare => exact ⟨_, rfl, nofun⟩
    | help => cases h
    | command v verbose rest =>
      dsimp only at h ⊢
      unfold Surroundings.runCommand
      cases hlevel : s.level verbose with
      | error name => exact ⟨_, rfl, nofun⟩
      | ok level =>
        rw [hlevel] at h
        cases hread : v.read s.files rest with
        | error m => exact ⟨_, rfl, nofun⟩
        | ok request =>
          rw [hread] at h
          cases h

/-- What calls keep, commands keep. -/
theorem Surroundings.perform_preserves {P : Table → Prop}
    (hcall : ∀ (c : Call) (store : Store) (handle : Handle) (fault : Option Fault) (t : Table),
      P t → P (c.run store handle fault t).table)
    (h : P t) (request : Request) : P (s.perform t request).table := by
  have hwithin {workspace : String} {work : WorkspaceId → Effect} (hwork : ∀ w, P (work w).table) :
      P (inWorkspace t workspace work).table := by
    rw [inWorkspace]
    cases WorkspaceId.ofSpelling? workspace.toList with
    | none => exact h
    | some w => exact hwork w
  have hasked (c : Call) : P (s.call t c).table := hcall c s.store .engine s.fault t h
  cases request with
  | help => exact h
  | createSchema => exact hasked .createSchema
  | resetSchema force =>
    cases force with
    | true => exact hasked .resetSchema
    | false =>
      change P (s.confirmReset t).table
      rw [Surroundings.confirmReset]
      cases (confirm resetQuestion.toList (inputLines s.input.toList)).answer with
      | none => exact h
      | some confirmed =>
        cases confirmed with
        | false => exact h
        | true => exact hasked .resetSchema
  | usage workspace => exact hwithin fun w => hasked (.usage w)
  | list workspace idsOnly => exact hwithin fun _ => hasked _
  | inspect workspace fileId => exact hwithin fun w => hasked (.get w fileId)
  | put workspace fileId fileType fileSize => exact hwithin fun _ => hasked _
  | remove workspace fileId =>
    apply hwithin
    intro w
    change P (s.remove t w fileId).table
    cases hremove : (s.remove t w fileId).result with
    | error e =>
      rw [Surroundings.remove] at hremove ⊢
      rw [ownTransaction_error hremove]
      exact h
    | ok o =>
      rw [Surroundings.remove] at hremove ⊢
      rw [(ownTransaction_ok hremove).2]
      exact hcall _ _ _ _ _ h
  | load workspace manifest =>
    apply hwithin
    intro w
    rw [Surroundings.load]
    cases Entry.ofManifest manifest.content with
    | error r => exact h
    | ok es => exact hasked (.insertBulk w (.entries es))

theorem Surroundings.run_preserves {P : Table → Prop}
    (hcall : ∀ (c : Call) (store : Store) (handle : Handle) (fault : Option Fault) (t : Table),
      P t → P (c.run store handle fault t).table)
    (h : P t) (args : List String) : P (s.run t args).effect.table := by
  cases hrequest : s.request? args with
  | none =>
    obtain ⟨o, heffect, -⟩ := Surroundings.run_without_request t hrequest
    rw [heffect]
    exact h
  | some request =>
    obtain ⟨level, hrun⟩ := Surroundings.run_of_request t hrequest
    rw [hrun]
    exact Surroundings.perform_preserves hcall h request

/-- What a command line does, told by how it ends. Its command may print, fail at any point where
the store does, or be refused. If it exits with 0, the rows are those that the ledger makes at its
request, times of writing apart; if it ends in any other way, no row has changed. The store is
closed once and last of all if it was opened, and is not told anything otherwise. -/
theorem Surroundings.run_faithful (s : Surroundings) (t : Table) (args : List String) (step : Nat)
    (hstore : s.store = { now := stamp step })
    (hplain : ∀ request fileId, s.request? args = some request →
      request.fileId? = some fileId → '[' ∉ fileId.toList) :
    (s.run t args).effect.Faithful t
      (fun steps => (s.request? args).elim t fun request => s.rowsAsked t request steps)
      ((s.request? args).any s.opens) := by
  cases hrequest : s.request? args with
  | none =>
    obtain ⟨o, heffect, ho⟩ := Surroundings.run_without_request t hrequest
    rw [heffect]
    exact .refused ho
  | some request =>
    obtain ⟨level, hrun⟩ := Surroundings.run_of_request t hrequest
    have h : (s.perform t request).Faithful t _ _ :=
      .perform hstore request (hplain request · hrequest)
    rw [hrun]
    exact ⟨h.success, h.failure, h.closed, h.unopened⟩

theorem Surroundings.removal_committed_or_not :
    let w : WorkspaceId := ⟨7, by decide⟩
    let t : Table := ⟨[⟨w, "o_a", "text/plain", 5, clockZero⟩]⟩
    let args := ["--verbose", "rm", "00000000-0000-0000-0000-000000000007", "o_a"]
    let s (fault : Option Fault) : Surroundings := ⟨"INFO", "", [], { now := stamp 1 }, fault⟩
    let late : Fault := ⟨.commit, .timeout "late"⟩
    ((s none).run t args).effect.output.ending = .exit 0 ∧
      ((s none).run t args).effect.table.timeless = .empty ∧
      ((s (some late)).run t args).effect.output.ending ≠ .exit 0 ∧
      ((s (some late)).run t args).effect.table = t := by
  intro w t args s late
  let request : Request := .remove "00000000-0000-0000-0000-000000000007" "o_a"
  have hrequest (fault : Option Fault) : (s fault).request? args = some request := rfl
  have hw : WorkspaceId.ofSpelling? "00000000-0000-0000-0000-000000000007".toList = some w := by
    decide +kernel
  have hrun (fault : Option Fault) : ∃ level, (s fault).run t args = .ofEffect level
      (.ofRun ((s fault).remove t w "o_a") (concluded fun _ => .say 0 (removedText "o_a"))) := by
    obtain ⟨level, hrun⟩ := Surroundings.run_of_request t (hrequest fault)
    refine ⟨level, hrun.trans ?_⟩
    simp only [request, Surroundings.perform, inWorkspace, hw]
  have hplain (fault : Option Fault) (request' : Request) (fileId : String)
      (h : (s fault).request? args = some request') (hfile : request'.fileId? = some fileId) :
      '[' ∉ fileId.toList := by
    obtain rfl := Option.some.inj ((hrequest fault).symm.trans h)
    obtain rfl := Option.some.inj hfile
    simp
  have hdone := (s none).run_faithful t args 1 rfl (hplain none)
  have hlate := (s (some late)).run_faithful t args 1 rfl (hplain (some late))
  have hexit : ((s none).run t args).effect.output.ending = .exit 0 := by
    obtain ⟨level, hlevel⟩ := hrun none
    rw [hlevel]
    exact Output.say_of_prints 0 (removedText_prints (by simp))
  have hescape : ((s (some late)).run t args).effect.output.ending ≠ .exit 0 := by
    obtain ⟨level, hlevel⟩ := hrun (some late)
    rw [hlevel]
    nofun
  refine ⟨hexit, ?_, hescape, hlate.failure hescape⟩
  rw [hdone.success hexit 0, hrequest]
  have hactions : request.actions = _ := actionsIn_of_some _ hw
  show ((Session.run _ request.actions).1.committed).timeless = _
  rw [hactions]
  rfl

end StorageLedger.Command
