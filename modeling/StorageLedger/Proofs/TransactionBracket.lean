import StorageLedger.Proofs.FaultTranslation

namespace StorageLedger.Ledger
open StorageLedger.Store

variable {store : Store} {handle : Handle} {fault : Option Fault} {t : Table} {c : Call}
variable {s : Statement} {read : Reply → Except Failure Reply}
variable {conclude : Reply → Except LedgerError Outcome × List LogRecord}

/-- The statement of a call is executed without a failure and its reply can be read. -/
def Call.Completes (c : Call) (store : Store) (fault : Option Fault) (t : Table) (s : Statement) :
    Prop :=
  faultAt fault .execute = none ∧ ∃ reply t', store.run t s = .ok (reply, t') ∧ c.Reads reply

theorem performRead_single_trace {fault : Option Failure} :
    (performRead store fault [s] read t).events = [.execute] ∧
      (performRead store fault [s] read t).statements = [s] := by
  cases fault with
  | some failure => exact ⟨rfl, rfl⟩
  | none =>
    simp only [performRead, perform]
    split
    · exact ⟨rfl, rfl⟩
    · exact ⟨rfl, rfl⟩

theorem performRead_single_isOk_iff {fault : Option Failure} :
    (∃ reply, (performRead store fault [s] read t).result = .ok reply) ↔
      fault = none ∧ ∃ answer t', store.run t s = .ok (answer, t') ∧
        ∃ reply, read answer = .ok reply := by
  constructor
  · rintro ⟨reply, h⟩
    obtain ⟨answer, hrun, hread⟩ := performRead_single_ok h
    refine ⟨?_, answer, _, hrun, reply, hread⟩
    cases fault with
    | none => rfl
    | some failure => cases h
  · rintro ⟨rfl, answer, t', hrun, reply, hread⟩
    exact ⟨reply, performRead_single hrun hread⟩

section OwnTransaction

variable {work : Table → Run ε α}

theorem ownTransaction_trace_of_ok (commitFault : Option ε) (h : (work t).result = .ok a) :
    (ownTransaction none commitFault work t).events = .begin_ :: (work t).events ++ [.commit] ∧
      (ownTransaction none commitFault work t).statements = (work t).statements := by
  cases commitFault with
  | none =>
    rw [ownTransaction_of_ok h]
    exact ⟨rfl, rfl⟩
  | some e =>
    rw [ownTransaction_of_commit_fault h]
    exact ⟨rfl, rfl⟩

theorem ownTransaction_trace_of_error (commitFault : Option ε)
    (h : (work t).result = .error e) :
    (ownTransaction none commitFault work t).events = .begin_ :: (work t).events ++ [.rollback] ∧
      (ownTransaction none commitFault work t).statements = (work t).statements := by
  rw [ownTransaction_of_error h]
  exact ⟨rfl, rfl⟩

end OwnTransaction

theorem Call.run_trace (hplan : c.plan handle = .send [s] read conclude) :
    (c.run store handle fault t).events = (carryOut handle fault
        (performRead store (faultAt fault .execute) [s] read) t).events ∧
      (c.run store handle fault t).statements = (carryOut handle fault
        (performRead store (faultAt fault .execute) [s] read) t).statements := by
  rw [Call.run_send hplan]
  exact ⟨rfl, rfl⟩

theorem Call.run_trace_of_not_sends (hcreate : c ≠ .createSchema) (hreset : c ≠ .resetSchema)
    (h : ∀ s, ¬ c.Sends handle s) :
    (c.run store handle fault t).events = [] ∧ (c.run store handle fault t).statements = [] := by
  obtain ⟨result, hplan⟩ := Call.plan_of_not_sends hcreate hreset h
  rw [Call.run_answer hplan]
  exact ⟨rfl, rfl⟩

theorem Call.Sends.trace_of_caller (h : c.Sends handle s) (hh : handle ≠ .engine) :
    (c.run store handle fault t).events = [.execute] ∧
      (c.run store handle fault t).statements = [s] := by
  obtain ⟨read, conclude, hplan, _⟩ := h.plan
  obtain ⟨hevents, hstatements⟩ := Call.run_trace hplan
  rw [hevents, hstatements, carryOut_of_caller hh]
  exact performRead_single_trace

theorem Call.Sends.trace_of_connect_fault (h : c.Sends .engine s)
    (hf : faultAt fault .connect ≠ none) :
    (c.run store .engine fault t).events = [.begin_] ∧
      (c.run store .engine fault t).statements = [] := by
  obtain ⟨read, conclude, hplan, _⟩ := h.plan
  obtain ⟨hevents, hstatements⟩ := Call.run_trace hplan
  obtain ⟨failure, hfailure⟩ := Option.ne_none_iff_exists'.1 hf
  rw [hevents, hstatements, carryOut_of_engine rfl, hfailure]
  exact ⟨rfl, rfl⟩

/-- The work of a call succeeds exactly if the call completes. -/
theorem Call.completes_iff (hreads : ∀ reply, (∃ reply', read reply = .ok reply') ↔ c.Reads reply) :
    (∃ reply, (performRead store (faultAt fault .execute) [s] read t).result = .ok reply) ↔
      c.Completes store fault t s := by
  simp only [performRead_single_isOk_iff, Call.Completes, hreads]

theorem Call.Sends.trace_of_completes (h : c.Sends .engine s)
    (hf : faultAt fault .connect = none) (hc : c.Completes store fault t s) :
    (c.run store .engine fault t).events = [.begin_, .execute, .commit] ∧
      (c.run store .engine fault t).statements = [s] := by
  obtain ⟨read, conclude, hplan, hreads⟩ := h.plan
  obtain ⟨hevents, hstatements⟩ := Call.run_trace hplan
  obtain ⟨reply, hreply⟩ := (Call.completes_iff hreads).2 hc
  obtain ⟨hbracket, hsent⟩ := ownTransaction_trace_of_ok (faultAt fault .commit) hreply
  rw [hevents, hstatements, carryOut_of_engine rfl, hf, hbracket, hsent,
    performRead_single_trace.1, performRead_single_trace.2]
  exact ⟨rfl, rfl⟩

theorem Call.Sends.trace_of_not_completes (h : c.Sends .engine s)
    (hf : faultAt fault .connect = none) (hc : ¬ c.Completes store fault t s) :
    (c.run store .engine fault t).events = [.begin_, .execute, .rollback] ∧
      (c.run store .engine fault t).statements = [s] := by
  obtain ⟨read, conclude, hplan, hreads⟩ := h.plan
  obtain ⟨hevents, hstatements⟩ := Call.run_trace hplan
  cases hresult : (performRead store (faultAt fault .execute) [s] read t).result with
  | ok reply => exact absurd ((Call.completes_iff hreads).1 ⟨reply, hresult⟩) hc
  | error failure =>
    obtain ⟨hbracket, hsent⟩ := ownTransaction_trace_of_error (faultAt fault .commit) hresult
    rw [hevents, hstatements, carryOut_of_engine rfl, hf, hbracket, hsent,
      performRead_single_trace.1, performRead_single_trace.2]
    exact ⟨rfl, rfl⟩

/-- A failure of the store or of its driver, as a call answers it. -/
inductive LedgerError.OfStore : LedgerError → Prop where
  | storeFailure : OfStore (.storeFailure operation cause)
  | passedOn : OfStore (.passedOn cause)

theorem Call.errorOf_ofStore (c : Call) (failure : Failure) : (c.errorOf failure).1.OfStore := by
  unfold Call.errorOf
  split
  · exact .storeFailure
  · exact .passedOn

theorem Call.Sends.completes (h : c.Sends .engine s)
    (hresult : ∀ e, (c.run store .engine fault t).result = .error e → ¬ e.OfStore) :
    c.Completes store fault t s := by
  obtain ⟨read, conclude, hplan, hreads⟩ := h.plan
  cases hwork : (carryOut .engine fault
      (performRead store (faultAt fault .execute) [s] read) t).result with
  | ok reply => exact (Call.completes_iff hreads).1 ⟨reply, (carryOut_ok hwork).1⟩
  | error failure =>
    obtain ⟨herror, _⟩ := Call.run_of_failure hplan hwork
    exact absurd (c.errorOf_ofStore failure) (hresult _ herror)

/-- The transaction bracket of a ledger call. In the transaction of a caller nothing is begun or
ended. Through an engine a call that does not reach the store does nothing there, and one that
cannot connect only begins. Any other executes its one statement and then commits or rolls back: it
commits exactly if the statement and the reading of its reply succeeded, whatever kind of failure
there was otherwise. So it does for every result, and for a miss or a rejected row or sum. -/
theorem Call.transaction_bracket (c : Call) (hcreate : c ≠ .createSchema)
    (hreset : c ≠ .resetSchema) (store : Store) (fault : Option Fault) (t : Table) :
    (∀ handle, handle ≠ .engine →
      let run := c.run store handle fault t
      run.events = [] ∧ (∀ s, ¬ c.Sends handle s) ∨
        run.events = [.execute] ∧ ∃ s, c.Sends handle s ∧ run.statements = [s]) ∧
    let run := c.run store .engine fault t
    ((∀ s, ¬ c.Sends .engine s) → run.events = [] ∧ run.statements = []) ∧
    ∀ s, c.Sends .engine s →
      (faultAt fault .connect ≠ none → run.events = [.begin_] ∧ run.statements = []) ∧
      (faultAt fault .connect = none →
        run.statements = [s] ∧
        (c.Completes store fault t s → run.events = [.begin_, .execute, .commit]) ∧
        (¬ c.Completes store fault t s → run.events = [.begin_, .execute, .rollback]) ∧
        ((∃ o, run.result = .ok o) ∨ (∃ w fileId, run.result = .error (.notFound w fileId)) ∨
            (∃ r, run.result = .error (.rejected r)) ∨ (∃ f, run.result = .error (.usage f)) →
          run.events = [.begin_, .execute, .commit])) := by
  refine ⟨?_, Call.run_trace_of_not_sends hcreate hreset, ?_⟩
  · intro handle hh run
    by_cases hsends : ∃ s, c.Sends handle s
    · obtain ⟨s, hs⟩ := hsends
      obtain ⟨hevents, hstatements⟩ := hs.trace_of_caller hh
      exact .inr ⟨hevents, s, hs, hstatements⟩
    · obtain ⟨hevents, _⟩ := Call.run_trace_of_not_sends hcreate hreset (not_exists.1 hsends)
      exact .inl ⟨hevents, not_exists.1 hsends⟩
  · intro s hs
    refine ⟨hs.trace_of_connect_fault, fun hf => ⟨?_, ?_, ?_, ?_⟩⟩
    · by_cases hc : c.Completes store fault t s
      · exact (hs.trace_of_completes hf hc).2
      · exact (hs.trace_of_not_completes hf hc).2
    · exact fun hc => (hs.trace_of_completes hf hc).1
    · exact fun hc => (hs.trace_of_not_completes hf hc).1
    · intro hanswer
      refine (hs.trace_of_completes hf (hs.completes ?_)).1
      intro e he hstore
      rcases hanswer with ⟨o, h⟩ | ⟨w, fileId, h⟩ | ⟨r, h⟩ | ⟨f, h⟩
      · cases h.symm.trans he
      · cases h.symm.trans he
        cases hstore
      · cases h.symm.trans he
        cases hstore
      · cases h.symm.trans he
        cases hstore

theorem Call.bracket_of_look_ups :
    let w : WorkspaceId := ⟨7, by decide⟩
    let c : Call := .get w "o_a"
    let store : Store := { now := clockZero }
    let twice : Store :=
      { now := clockZero, script := some (.rows ["file_id"] [[.text "o_a"], [.text "o_a"]]) }
    let broken : Fault := ⟨.execute, .driver "broken"⟩
    let late : Fault := ⟨.commit, .timeout "late"⟩
    (c.run twice .engine none .empty).events = [.begin_, .execute, .rollback] ∧
      (c.run store .engine (some broken) .empty).events = [.begin_, .execute, .rollback] ∧
      ((c.run store .engine none .empty).result = .error (.notFound w "o_a") ∧
        (c.run store .engine none .empty).events = [.begin_, .execute, .commit]) ∧
      (c.run store .engine (some late) .empty).events = [.begin_, .execute, .commit] ∧
      (c.run store .session none .empty).events = [.execute] := by
  intro w c store twice broken late
  have hsends (handle : Handle) : c.Sends handle (.lookUp w "o_a") := .get
  have hbracket (store : Store) (fault : Option Fault) :=
    Call.transaction_bracket c nofun nofun store fault .empty
  have hmiss : (c.run store .engine none .empty).result = .error (.notFound w "o_a") := rfl
  refine ⟨?_, ?_, ⟨hmiss, ?_⟩, ?_, ?_⟩
  · obtain ⟨_, _, hrollback, _⟩ := ((hbracket twice none).2.2 _ (hsends .engine)).2 rfl
    apply hrollback
    rintro ⟨_, reply, t', hrun, hreads⟩
    cases hrun
    exact absurd hreads (show ¬ 2 ≤ 1 by decide)
  · obtain ⟨_, _, hrollback, _⟩ := ((hbracket store (some broken)).2.2 _ (hsends .engine)).2 rfl
    exact hrollback nofun
  · obtain ⟨_, _, _, hanswered⟩ := ((hbracket store none).2.2 _ (hsends .engine)).2 rfl
    exact hanswered (.inr (.inl ⟨w, "o_a", hmiss⟩))
  · obtain ⟨_, hcommit, _⟩ := ((hbracket store (some late)).2.2 _ (hsends .engine)).2 rfl
    exact hcommit ⟨rfl, _, _, rfl, Nat.zero_le 1⟩
  · rcases (hbracket store none).1 .session (by decide) with ⟨_, hnone⟩ | ⟨hevents, _⟩
    · exact absurd (hsends .session) (hnone _)
    · exact hevents

end StorageLedger.Ledger
