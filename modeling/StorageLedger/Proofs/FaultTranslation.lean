import StorageLedger.Proofs.Session

namespace StorageLedger.Ledger
open StorageLedger.Store

variable {store : Store} {handle : Handle} {t : Table} {c : Call} {s : Statement} {fault : Fault}
variable {read : Reply → Except Failure Reply}
variable {conclude : Reply → Except LedgerError Outcome × List LogRecord}

/-- The statement with which a ledger call reaches the store. A call with arguments that are
rejected, an empty batch and a removal through an engine do not reach it. -/
inductive Call.Sends (handle : Handle) : Call → Statement → Prop where
  | contains : Sends handle (.contains w fileId) (.contains w fileId)
  | upsert (h : Validation.fileSize v = .ok size) :
    Sends handle (.upsert w fileId fileType v) (.upsert w fileId fileType size)
  | insertBulk (h : batch.entries? = .ok es) (hes : es ≠ []) :
    Sends handle (.insertBulk w batch)
      (.insertAbsent w (es.map Entry.key) (es.map Entry.fileType) (es.map Entry.fileSize))
  | delete (h : handle ≠ .engine) : Sends handle (.delete w fileId) (.delete w fileId)
  | get : Sends handle (.get w fileId) (.lookUp w fileId)
  | listRecords : Sends handle (.listRecords w) (.listRows w)
  | listIds : Sends handle (.listIds w) (.listIds w)
  | usage : Sends handle (.usage w) (.total w)

/-- The reply can be read while the transaction is open: a look-up needs a single row. -/
def Call.Reads : Call → Reply → Prop
  | .get _ _, reply => reply.cells.length ≤ 1
  | _, _ => True

/-- A fault is met by a call: at the execution of its statement, or, through an engine, when the
transaction begins, or when it is committed after the statement and the reading have succeeded. -/
def Fault.Fires (fault : Fault) (c : Call) (store : Store) (handle : Handle) (t : Table) : Prop :=
  ∃ s, c.Sends handle s ∧
    (fault.point = .execute ∨
      handle = .engine ∧ fault.point = .connect ∨
      handle = .engine ∧ fault.point = .commit ∧
        ∃ reply t', store.run t s = .ok (reply, t') ∧ c.Reads reply)

theorem atMostOneRow_isOk_iff (reply : Reply) :
    (∃ read, atMostOneRow reply = .ok read) ↔ reply.cells.length ≤ 1 := by
  unfold atMostOneRow
  split
  · next hcells => simp [hcells]
  · next hcells =>
    refine ⟨fun _ => ?_, fun _ => ⟨reply, rfl⟩⟩
    match hc : reply.cells with
    | [] => exact Nat.zero_le 1
    | [_] => exact Nat.le_refl 1
    | r :: r' :: rows => exact absurd hc (hcells r r' rows)

theorem Call.Sends.plan (h : c.Sends handle s) :
    ∃ read conclude, c.plan handle = .send [s] read conclude ∧
      ∀ reply, (∃ reply', read reply = .ok reply') ↔ c.Reads reply := by
  have hany (reply : Reply) :
      (∃ reply', (Except.ok reply : Except Failure Reply) = .ok reply') ↔ True :=
    iff_true_intro ⟨reply, rfl⟩
  cases h with
  | contains => exact ⟨_, _, rfl, hany⟩
  | upsert hv =>
    simp only [Call.plan, hv]
    exact ⟨_, _, rfl, hany⟩
  | @insertBulk batch es w hes hne =>
    simp only [Call.plan, hes, planBulk, List.isEmpty_iff, if_neg hne]
    exact ⟨_, _, rfl, hany⟩
  | delete hh =>
    simp only [Call.plan, if_neg hh]
    exact ⟨_, _, rfl, hany⟩
  | get => exact ⟨_, _, rfl, atMostOneRow_isOk_iff⟩
  | listRecords => exact ⟨_, _, rfl, hany⟩
  | listIds => exact ⟨_, _, rfl, hany⟩
  | usage => exact ⟨_, _, rfl, hany⟩

theorem Call.plan_of_not_sends (hcreate : c ≠ .createSchema) (hreset : c ≠ .resetSchema)
    (h : ∀ s, ¬ c.Sends handle s) : ∃ result, c.plan handle = .answer result := by
  cases c with
  | upsert w f ty v =>
    cases hv : Validation.fileSize v with
    | error r => exact ⟨_, by simp only [Call.plan, hv]; rfl⟩
    | ok size => exact absurd (.upsert hv) (h _)
  | insertBulk w batch =>
    cases hes : batch.entries? with
    | error r => exact ⟨_, by simp only [Call.plan, hes]; rfl⟩
    | ok es =>
      by_cases hne : es = []
      · exact ⟨_, by simp only [Call.plan, hes, planBulk, hne, List.isEmpty_nil, if_true]; rfl⟩
      · exact absurd (.insertBulk hes hne) (h _)
  | delete w f =>
    by_cases hh : handle = .engine
    · exact ⟨_, by simp only [Call.plan, if_pos hh]; rfl⟩
    · exact absurd (.delete hh) (h _)
  | contains => exact absurd .contains (h _)
  | get => exact absurd .get (h _)
  | listRecords => exact absurd .listRecords (h _)
  | listIds => exact absurd .listIds (h _)
  | usage => exact absurd .usage (h _)
  | createSchema => exact absurd rfl hcreate
  | resetSchema => exact absurd rfl hreset

theorem faultAt_of_eq (h : fault.point = point) :
    faultAt (some fault) point = some fault.failure := if_pos h

theorem faultAt_of_ne (h : fault.point ≠ point) : faultAt (some fault) point = none := if_neg h

section Met

variable {work : Table → Run Failure Reply}

theorem performRead_execute_fault (hp : fault.point = .execute) :
    (performRead store (faultAt (some fault) .execute) [s] read t).result =
      .error fault.failure := by
  rw [faultAt_of_eq hp]
  rfl

theorem carryOut_execute_fault (hp : fault.point = .execute)
    (hw : (work t).result = .error fault.failure) :
    (carryOut handle (some fault) work t).result = .error fault.failure := by
  by_cases hh : handle = .engine
  · rw [carryOut_of_engine hh, faultAt_of_ne (by rw [hp]; decide), ownTransaction_of_error hw]
    exact hw
  · rw [carryOut_of_caller hh]
    exact hw

theorem carryOut_connect_fault (hp : fault.point = .connect) :
    (carryOut .engine (some fault) work t).result = .error fault.failure := by
  rw [carryOut_of_engine rfl, faultAt_of_eq hp]
  rfl

theorem carryOut_commit_fault (hp : fault.point = .commit) (hw : (work t).result = .ok reply) :
    (carryOut .engine (some fault) work t).result = .error fault.failure := by
  rw [carryOut_of_engine rfl, faultAt_of_ne (by rw [hp]; decide), faultAt_of_eq hp,
    ownTransaction_of_commit_fault hw]

/-- Work that fails is rolled back, and a commit that is not reached cannot fail. -/
theorem carryOut_commit_missed (hp : fault.point = .commit) (hw : (work t).result = .error e) :
    (carryOut .engine (some fault) work t).result = (carryOut .engine none work t).result := by
  rw [carryOut_of_engine rfl, carryOut_of_engine rfl, faultAt_of_ne (by rw [hp]; decide),
    ownTransaction_of_error hw]
  exact (congrArg Run.result (ownTransaction_of_error hw)).symm

end Met

theorem Call.run_congr {fault fault' : Option Fault}
    (hplan : c.plan handle = .send [s] read conclude)
    (h : (carryOut handle fault
        (performRead store (faultAt fault .execute) [s] read) t).result =
      (carryOut handle fault'
        (performRead store (faultAt fault' .execute) [s] read) t).result) :
    (c.run store handle fault t).result = (c.run store handle fault' t).result ∧
      (c.run store handle fault t).logs = (c.run store handle fault' t).logs := by
  cases hr : (carryOut handle fault'
      (performRead store (faultAt fault' .execute) [s] read) t).result with
  | error failure =>
    obtain ⟨hresult, hlogs⟩ := Call.run_of_failure hplan (h.trans hr)
    obtain ⟨hresult', hlogs'⟩ := Call.run_of_failure hplan hr
    exact ⟨hresult.trans hresult'.symm, hlogs.trans hlogs'.symm⟩
  | ok reply =>
    obtain ⟨hresult, hlogs⟩ := Call.run_of_reply hplan (h.trans hr)
    obtain ⟨hresult', hlogs'⟩ := Call.run_of_reply hplan hr
    exact ⟨hresult.trans hresult'.symm, hlogs.trans hlogs'.symm⟩

theorem Fault.Fires.run (h : fault.Fires c store handle t) :
    (c.run store handle (some fault) t).result = .error (c.errorOf fault.failure).1 ∧
      (c.run store handle (some fault) t).logs =
        c.openingLogs ++ (c.errorOf fault.failure).2 := by
  obtain ⟨s, hsends, hmet⟩ := h
  obtain ⟨read, conclude, hplan, hreads⟩ := hsends.plan
  apply Call.run_of_failure hplan
  rcases hmet with hp | ⟨rfl, hp⟩ | ⟨rfl, hp, reply, t', hrun, hr⟩
  · exact carryOut_execute_fault hp (performRead_execute_fault hp)
  · exact carryOut_connect_fault hp
  · obtain ⟨reply', hread⟩ := (hreads reply).2 hr
    rw [faultAt_of_ne (by rw [hp]; decide)]
    exact carryOut_commit_fault hp (performRead_single hrun hread)

theorem Call.run_of_not_fires (hcreate : c ≠ .createSchema) (hreset : c ≠ .resetSchema)
    (h : ¬ fault.Fires c store handle t) :
    (c.run store handle (some fault) t).result = (c.run store handle none t).result ∧
      (c.run store handle (some fault) t).logs = (c.run store handle none t).logs := by
  by_cases hsends : ∃ s, c.Sends handle s
  · obtain ⟨s, hs⟩ := hsends
    obtain ⟨read, conclude, hplan, hreads⟩ := hs.plan
    apply Call.run_congr hplan
    have hexecute : fault.point ≠ .execute := fun hp => h ⟨s, hs, .inl hp⟩
    rw [faultAt_of_ne hexecute]
    -- A fault at another point can only concern the transaction of an engine.
    by_cases hh : handle = .engine
    · subst hh
      cases hp : fault.point with
      | execute => exact absurd hp hexecute
      | connect => exact absurd ⟨s, hs, .inr (.inl ⟨rfl, hp⟩)⟩ h
      | commit =>
        cases hw : (performRead store none [s] read t).result with
        | error e => exact carryOut_commit_missed hp hw
        | ok reply' =>
          obtain ⟨reply, hrun, hread⟩ := performRead_single_ok hw
          exact absurd ⟨s, hs, .inr (.inr ⟨rfl, hp, reply, _, hrun, (hreads reply).1 ⟨_, hread⟩⟩)⟩ h
    · rw [carryOut_of_caller hh, carryOut_of_caller hh]
      rfl
  · obtain ⟨result, hplan⟩ := Call.plan_of_not_sends hcreate hreset (not_exists.1 hsends)
    rw [Call.run_answer hplan, Call.run_answer hplan]
    exact ⟨rfl, rfl⟩

theorem Call.errorOf_store_failure {failure : Failure} (hcreate : c ≠ .createSchema)
    (hreset : c ≠ .resetSchema) (h : failure.isStoreFailure) :
    c.errorOf failure = (.storeFailure c.name failure,
      [plainLog .error (c.name ++ ": store failure: " ++ failure.text)]) := by
  have hreports : c.reports := by
    cases c with
    | createSchema => exact absurd rfl hcreate
    | resetSchema => exact absurd rfl hreset
    | _ => rfl
  rw [Call.errorOf, hreports, h]
  rfl

theorem Call.errorOf_other {failure : Failure} (h : failure.isStoreFailure = false) :
    c.errorOf failure = (.passedOn failure, []) := by
  rw [Call.errorOf, h, Bool.and_false]
  rfl

def errorRecords (logs : List LogRecord) : List LogRecord := logs.filter (·.level = .error)

theorem Call.errorRecords_opening (c : Call) (logs : List LogRecord) :
    errorRecords (c.openingLogs ++ logs) = errorRecords logs := by
  cases c <;> rfl

/-- A fault that a ledger call does not meet changes neither its result nor its log records. A
fault that it meets is its answer: a failure of the store under the name of the call, logged as an
error once, and any other failure as it is, not logged. -/
theorem Call.fault_translation (c : Call) (hcreate : c ≠ .createSchema)
    (hreset : c ≠ .resetSchema) (store : Store) (handle : Handle) (fault : Fault) (t : Table) :
    let run := c.run store handle (some fault) t
    let faultless := c.run store handle none t
    let text := fault.failure.text
    (¬ fault.Fires c store handle t →
      run.result = faultless.result ∧ run.logs = faultless.logs) ∧
    (fault.Fires c store handle t → fault.failure.isStoreFailure = true →
      let e := LedgerError.storeFailure c.name fault.failure
      run.result = .error e ∧ e.message = c.name ++ ": " ++ text ∧
        errorRecords run.logs = [⟨.error, c.name ++ ": store failure: " ++ text, none⟩]) ∧
    (fault.Fires c store handle t → fault.failure.isStoreFailure = false →
      let e := LedgerError.passedOn fault.failure
      run.result = .error e ∧ e.message = text ∧ errorRecords run.logs = []) := by
  intro run faultless text
  refine ⟨Call.run_of_not_fires hcreate hreset, ?_, ?_⟩
  · intro hfires hkind e
    obtain ⟨hresult, hlogs⟩ := hfires.run
    rw [Call.errorOf_store_failure hcreate hreset hkind] at hresult hlogs
    refine ⟨hresult, rfl, ?_⟩
    rw [hlogs, Call.errorRecords_opening]
    rfl
  · intro hfires hkind e
    obtain ⟨hresult, hlogs⟩ := hfires.run
    rw [Call.errorOf_other hkind] at hresult hlogs
    refine ⟨hresult, rfl, ?_⟩
    rw [hlogs, Call.errorRecords_opening]
    rfl

theorem Call.commit_fault_after_reading :
    let w : WorkspaceId := ⟨7, by decide⟩
    let c : Call := .get w "o_a"
    let store : Store := { now := clockZero }
    let t : Table := ⟨[⟨w, "o_a", "text/css", 3, clockZero⟩]⟩
    let late : Fault := ⟨.commit, .timeout "late"⟩
    let broken : Fault := ⟨.commit, .driver "broken"⟩
    (late.Fires c store .engine t ∧ (c.run store .engine (some late) t).result =
        .error (.storeFailure "get_blob_metadata" (.timeout "late"))) ∧
      (broken.Fires c store .engine t ∧ (c.run store .engine (some broken) t).result =
        .error (.passedOn (.driver "broken"))) ∧
      ¬ late.Fires c store .session t ∧
      (c.run store .session (some late) t).result = (c.run store .session none t).result := by
  intro w c store t late broken
  have hreads : ∃ reply t', store.run t (.lookUp w "o_a") = .ok (reply, t') ∧ c.Reads reply :=
    ⟨_, _, rfl, Nat.le_refl 1⟩
  have hlate : late.Fires c store .engine t := ⟨_, .get, .inr (.inr ⟨rfl, rfl, hreads⟩)⟩
  have hbroken : broken.Fires c store .engine t := ⟨_, .get, .inr (.inr ⟨rfl, rfl, hreads⟩)⟩
  have hmissed : ¬ late.Fires c store .session t := by
    rintro ⟨_, _, hp | ⟨hh, _⟩ | ⟨hh, _⟩⟩
    · cases hp
    · cases hh
    · cases hh
  have htranslation (handle : Handle) (fault : Fault) :=
    Call.fault_translation c nofun nofun store handle fault t
  exact ⟨⟨hlate, ((htranslation .engine late).2.1 hlate rfl).1⟩,
    ⟨hbroken, ((htranslation .engine broken).2.2 hbroken rfl).1⟩,
    hmissed, ((htranslation .session late).1 hmissed).1⟩

end StorageLedger.Ledger
