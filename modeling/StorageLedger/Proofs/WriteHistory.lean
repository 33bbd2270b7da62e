import Mathlib.Data.List.DropRight
import StorageLedger.Proofs.Query

namespace StorageLedger.Ledger
open StorageLedger.Store StorageLedger.Calendar

/-- What a call asks to be written. -/
inductive Write where
  | upsert (w : WorkspaceId) (fileId fileType : String) (fileSize : Int)
  | insertAbsent (w : WorkspaceId) (es : List Entry)
  | delete (w : WorkspaceId) (fileId : String)

def Call.write? : Call → Option Write
  | .upsert w fileId fileType v =>
    (Validation.fileSize v).toOption.map (.upsert w fileId fileType)
  | .insertBulk w batch => batch.entries?.toOption.map (.insertAbsent w)
  | .delete w fileId => some (.delete w fileId)
  | _ => none

/-- A write that succeeded, with the time of it. -/
structure Written where
  time : Timestamp
  write : Write

namespace Written

def upserted? (k : Key) : Written → Option Row
  | ⟨time, .upsert w fileId fileType fileSize⟩ =>
    if (w, fileId) = k then some ⟨w, fileId, fileType, fileSize, time⟩ else none
  | _ => none

/-- The row that an insertion has for a key: that of the first entry of the key. -/
def inserted? (k : Key) : Written → Option Row
  | ⟨time, .insertAbsent w es⟩ =>
    (es.find? fun e => (w, e.key) == k).map fun e => ⟨w, e.key, e.fileType, e.fileSize, time⟩
  | _ => none

def deletes (k : Key) : Written → Bool
  | ⟨_, .delete w fileId⟩ => (w, fileId) == k
  | _ => false

/-- The row of a key after a write, given the row before it. -/
def effect (k : Key) (before : Option Row) (written : Written) : Option Row :=
  if written.deletes k then none
  else (written.upserted? k).or (before.or (written.inserted? k))

end Written

/-- The row of a key after a history of writes: since the last removal of the key, what the last
upsert left, else what the first insertion of it did. -/
def rowAfter (history : List Written) (k : Key) : Option Row :=
  let recent := history.rtakeWhile fun written => !written.deletes k
  (recent.filterMap (·.upserted? k)).getLast?.or (recent.filterMap (·.inserted? k)).head?

theorem getLast?_filterMap_concat (f : α → Option β) (l : List α) (a : α) :
    ((l ++ [a]).filterMap f).getLast? = (f a).or (l.filterMap f).getLast? := by
  rw [List.filterMap_append, List.getLast?_append]
  congr 1
  cases h : f a <;> simp [h]

theorem head?_filterMap_concat (f : α → Option β) (l : List α) (a : α) :
    ((l ++ [a]).filterMap f).head? = (l.filterMap f).head?.or (f a) := by
  rw [List.filterMap_append, List.head?_append]
  congr 1
  cases h : f a <;> simp [h]

/-- One more write changes the row of a key as the write does. -/
theorem rowAfter_concat (history : List Written) (written : Written) (k : Key) :
    rowAfter (history ++ [written]) k = written.effect k (rowAfter history k) := by
  rw [rowAfter, rowAfter, Written.effect, List.rtakeWhile_concat]
  -- A removal starts the history of the key anew. Any other write joins it at its end.
  cases written.deletes k with
  | true => rfl
  | false =>
    simp only [Bool.not_false, if_true, Bool.false_eq_true, if_false]
    rw [getLast?_filterMap_concat, head?_filterMap_concat, Option.or_assoc, Option.or_assoc]

theorem find?_entryRow (now : Timestamp) (w : WorkspaceId) (es : List Entry) (k : Key) :
    (Table.mk (((es.map Entry.key).zip ((es.map Entry.fileType).zip (es.map Entry.fileSize))).map
      (entryRow now w))).find? k = Written.inserted? k ⟨now, .insertAbsent w es⟩ := by
  induction es with
  | nil => rfl
  | cons e es ih =>
    simp only [Table.find?, Written.inserted?] at ih ⊢
    simp only [List.map_cons, List.zip_cons_cons, List.find?_cons]
    have hkey : (entryRow now w (e.key, e.fileType, e.fileSize)).key = (w, e.key) := rfl
    rw [hkey]
    cases (w, e.key) == k with
    | true => rfl
    | false => exact ih

def rowWritten (now : Timestamp) (k : Key) (before : Option Row) : Option Write → Option Row
  | some write => Written.effect k before ⟨now, write⟩
  | none => before

/-- A plan whose success changes rows as a write does. -/
def Plan.Writes (write : Option Write) : Plan → Prop
  | .answer result => ∀ o, result = .ok o → ∀ now k before, before = rowWritten now k before write
  | .send statements _ _ => ∃ s, statements = [s] ∧
      ∀ now k before, s.rowAfter now k before = rowWritten now k before write

theorem Call.plan_writes {c : Call} (hc : c.reports) (handle : Handle) :
    (c.plan handle).Writes c.write? := by
  cases c with
  | contains w f => exact ⟨_, rfl, fun _ _ _ => rfl⟩
  | get w f => exact ⟨_, rfl, fun _ _ _ => rfl⟩
  | listRecords w => exact ⟨_, rfl, fun _ _ _ => rfl⟩
  | listIds w => exact ⟨_, rfl, fun _ _ _ => rfl⟩
  | usage w => exact ⟨_, rfl, fun _ _ _ => rfl⟩
  | createSchema => cases hc
  | resetSchema => cases hc
  | upsert w f ty v =>
    simp only [Call.plan, Call.write?]
    cases Validation.fileSize v with
    | error r =>
      intro o ho
      cases ho
    | ok n =>
      refine ⟨_, rfl, ?_⟩
      intro now k before
      simp only [Except.toOption, Option.map_some, Statement.rowAfter, rowWritten, Written.effect,
        Written.deletes, Written.upserted?, Written.inserted?, Option.or_none]
      split <;> rfl
  | insertBulk w batch =>
    simp only [Call.plan, Call.write?]
    cases batch.entries? with
    | error r =>
      intro o ho
      cases ho
    | ok es =>
      cases es with
      | nil =>
        intro o _ now k before
        exact Option.or_none.symm
      | cons e es =>
        refine ⟨_, rfl, ?_⟩
        intro now k before
        rw [Statement.rowAfter, find?_entryRow]
        rfl
  | delete w f =>
    simp only [Call.plan, Call.write?]
    split
    · intro o ho
      cases ho
    · refine ⟨_, rfl, ?_⟩
      intro now k before
      simp only [Statement.rowAfter, rowWritten, Written.effect, Written.deletes,
        Written.upserted?, Written.inserted?, Option.or_none, Option.none_or, beq_iff_eq]

section Call

variable {now : Timestamp} {handle : Handle} {fault : Option Fault} {t : Table} {c : Call}
variable {read : Reply → Except Failure Reply}
variable {conclude : Reply → Except LedgerError Outcome × List LogRecord}

theorem Call.run_ok_find? (hc : c.reports)
    (h : (c.run { now := now } handle fault t).result = .ok o) (k : Key) :
    (c.run { now := now } handle fault t).table.find? k =
      rowWritten now k (t.find? k) c.write? := by
  have hwrites := Call.plan_writes hc handle
  cases hplan : c.plan handle with
  | answer result =>
    rw [hplan] at hwrites
    rw [Call.run_answer hplan] at h ⊢
    exact hwrites o h now k (t.find? k)
  | send statements read conclude =>
    rw [hplan] at hwrites
    obtain ⟨s, rfl, hrow⟩ := hwrites
    obtain ⟨answer, reply, hrun, _, _⟩ := Call.run_ok hplan h
    exact (execute_find? hrun k).trans (hrow now k (t.find? k))

end Call

def Action.written? (step : Nat) : Action → Answer → Option Written
  | .call c _ _, .call (.ok _) _ => c.write?.map (⟨stamp (step + 1), ·⟩)
  | _, _ => none

/-- The writes of a run that succeeded, by its steps and its answers. -/
def writesFrom (step : Nat) : List Action → List Answer → List Written
  | a :: as, answer :: answers =>
    (a.written? step answer).toList ++ writesFrom (step + 1) as answers
  | _, _ => []

/-- A ledger call that works on the rows that are seen, or a step that changes none of them. -/
def Action.onView (s : Session) : Action → Prop
  | .call c handle _ => c.reports ∧ (handle = .engine → s.transaction = none)
  | .rollback => False
  | .rollbackToSavepoint => False
  | _ => True

/-- Steps that are all made on one view of the rows. -/
def Session.OneView (s : Session) : List Action → Prop
  | [] => True
  | a :: as => a.onView s ∧ (s.step a).1.OneView as

/-- The rows that are seen are those that a history of writes leaves. -/
def Session.Reflects (s : Session) (history : List Written) : Prop :=
  ∀ k, s.visible.find? k = rowAfter history k

theorem Session.Reflects.start : Session.start.Reflects [] := fun _ => rfl

theorem Session.Reflects.of_same_rows {s s' : Session} (h : s.Reflects history)
    (hrows : s'.visible = s.visible) : s'.Reflects (history ++ []) := by
  intro k
  rw [hrows, List.append_nil]
  exact h k

theorem Session.Reflects.call {s : Session} (h : s.Reflects history)
    (ha : (Action.call c handle fault).onView s) :
    let next := s.step (.call c handle fault)
    next.1.Reflects (history ++ ((Action.call c handle fault).written? s.steps next.2).toList) := by
  intro next
  obtain ⟨hanswer, hrows⟩ := s.step_on_view c fault ha.2
  cases hresult : (c.run s.nextStore handle fault s.visible).result with
  | error e =>
    rw [hanswer, hresult]
    exact h.of_same_rows (hrows.trans (Call.run_error hresult))
  | ok o =>
    rw [hanswer, hresult]
    simp only [Action.written?]
    intro k
    have hfind := (congrArg (Table.find? · k) hrows).trans (Call.run_ok_find? ha.1 hresult k)
    cases hwrite : c.write? with
    | none =>
      rw [hwrite] at hfind
      rw [hfind, Option.map_none, Option.toList_none, List.append_nil]
      exact h k
    | some write =>
      rw [hwrite] at hfind
      rw [hfind, Option.map_some, Option.toList_some, rowAfter_concat, h k]
      rfl

theorem Session.Reflects.step {s : Session} (h : s.Reflects history) (ha : a.onView s) :
    (s.step a).1.Reflects (history ++ (a.written? s.steps (s.step a).2).toList) := by
  cases a with
  | call c handle fault => exact h.call ha
  | rollback => cases ha
  | rollbackToSavepoint => cases ha
  | refuse e => exact h.of_same_rows rfl
  | commit => exact h.of_same_rows rfl
  | savepoint => exact h.of_same_rows s.visible_eq_opened.symm
  | dump => exact h.of_same_rows rfl

/-- Steps made on one view leave the rows that their writes decide. -/
theorem Session.Reflects.run {s : Session} (h : s.Reflects history) (ha : s.OneView as) :
    (s.run as).1.Reflects (history ++ writesFrom s.steps as (s.run as).2) := by
  induction as generalizing s history with
  | nil => exact h.of_same_rows rfl
  | cons a as ih =>
    have hrun := ih (h.step ha.1) ha.2
    rw [Session.step_steps, List.append_assoc] at hrun
    exact hrun

/-- A step of one transaction of the caller: neither its end nor a return to a savepoint. -/
def Action.inTransaction : Action → Prop
  | .call c handle _ => c.reports ∧ handle ≠ .engine
  | .refuse _ => True
  | .savepoint => True
  | .dump => True
  | _ => False

/-- Steps of which each call is committed at once: by the engine that it is made through, or by the
caller in the next step. -/
inductive Autocommitted : List Action → Prop where
  | nil : Autocommitted []
  | engine (hc : c.reports) (h : Autocommitted as) : Autocommitted (.call c .engine fault :: as)
  | caller (hc : c.reports) (hh : handle ≠ .engine) (h : Autocommitted as) :
    Autocommitted (.call c handle fault :: .commit :: as)
  | refuse (h : Autocommitted as) : Autocommitted (.refuse e :: as)
  | dump (h : Autocommitted as) : Autocommitted (.dump :: as)

theorem Session.one_view_of_in_transaction (s : Session) (h : ∀ a ∈ as, a.inTransaction) :
    s.OneView as := by
  induction as generalizing s with
  | nil => trivial
  | cons a as ih =>
    obtain ⟨ha, has⟩ := List.forall_mem_cons.1 h
    refine ⟨?_, ih _ has⟩
    cases a with
    | call c handle fault => exact ⟨ha.1, fun hh => absurd hh ha.2⟩
    | refuse e => trivial
    | savepoint => trivial
    | dump => trivial
    | _ => cases ha

theorem Autocommitted.one_view {s : Session} (h : Autocommitted as) (hs : s.transaction = none) :
    s.OneView as ∧ (s.run as).1.transaction = none := by
  induction h generalizing s with
  | nil => exact ⟨trivial, hs⟩
  | engine hc _ ih =>
    obtain ⟨hview, hclosed⟩ := ih (s := (s.step (.call _ .engine _)).1) hs
    exact ⟨⟨⟨hc, fun _ => hs⟩, hview⟩, hclosed⟩
  | caller hc hh _ ih =>
    obtain ⟨hview, hclosed⟩ := ih (s := ((s.step (.call _ _ _)).1.step .commit).1) rfl
    exact ⟨⟨⟨hc, fun he => absurd he hh⟩, trivial, hview⟩, hclosed⟩
  | refuse _ ih =>
    obtain ⟨hview, hclosed⟩ := ih (s := (s.step (.refuse _)).1) hs
    exact ⟨⟨trivial, hview⟩, hclosed⟩
  | dump _ ih =>
    obtain ⟨hview, hclosed⟩ := ih (s := (s.step .dump).1) hs
    exact ⟨⟨trivial, hview⟩, hclosed⟩

/-- After calls made in one transaction of the caller, or each committed at once, the history of the
writes that succeeded decides the row of every key, and with it what is found under the key. -/
theorem Session.write_history_determines_row (as : List Action) (handle : Handle)
    (h : (handle ≠ .engine ∧ ∀ a ∈ as, a.inTransaction) ∨ Autocommitted as)
    (w : WorkspaceId) (fileId : String) :
    let s := (Session.start.run as).1
    let row := rowAfter (writesFrom 0 as (Session.start.run as).2) (w, fileId)
    s.visible.withKey (w, fileId) = row.toList ∧
      (s.step (.call (.get w fileId) handle none)).2 =
        .call (found w fileId row) (Call.get w fileId).openingLogs ∧
      (s.step (.call (.contains w fileId) handle none)).2 = .call (.ok (.truth row.isSome)) [] := by
  intro s row
  have hview : Session.start.OneView as ∧ (handle = .engine → s.transaction = none) := by
    rcases h with ⟨hh, hin⟩ | hauto
    · exact ⟨Session.start.one_view_of_in_transaction hin, fun he => absurd he hh⟩
    · obtain ⟨hone, hclosed⟩ := hauto.one_view (s := Session.start) rfl
      exact ⟨hone, fun _ => hclosed⟩
  have hrow : s.visible.find? (w, fileId) = row :=
    Session.Reflects.start.run hview.1 (w, fileId)
  have hvalid : s.visible.Valid (·.date.year ≠ 0) :=
    (Session.Valid.start.run stamp_year as).visible
  refine ⟨?_, ?_, ?_⟩
  · rw [hvalid.keys.withKey, hrow]
  · obtain ⟨hresult, hlogs⟩ := Call.run_get (stamp (s.steps + 1)) handle hvalid w fileId
    rw [(s.step_on_view (.get w fileId) none hview.2).1, ← hrow, ← hresult, ← hlogs]
    rfl
  · obtain ⟨hresult, hlogs⟩ := Call.run_contains (stamp (s.steps + 1)) handle s.visible w fileId
    rw [(s.step_on_view (.contains w fileId) none hview.2).1, ← hrow, ← hresult, ← hlogs]
    rfl

theorem Session.first_entry_after_delete_wins :
    let w : WorkspaceId := ⟨7, by decide⟩
    let as : List Action :=
      [.call (.upsert w "o_a" "text/html" (.int 9)) .engine none,
        .call (.delete w "o_a") .connection none, .commit,
        .call (.insertBulk w (.entries [⟨"o", "a", "text/css", 4⟩, ⟨"o", "b", "text/css", -1⟩]))
          .engine none,
        .call (.insertBulk w (.entries [⟨"o", "a", "image/png", 1⟩, ⟨"o", "a", "text/css", 2⟩]))
          .engine none,
        .call (.insertBulk w (.entries [⟨"o", "a", "text/plain", 3⟩])) .engine none]
    Autocommitted as ∧ (Session.start.run as).1.visible.withKey (w, "o_a") =
      [⟨w, "o_a", "image/png", 1, stamp 5⟩] := by
  intro w as
  have h : Autocommitted as :=
    .engine rfl (.caller rfl (by decide) (.engine rfl (.engine rfl (.engine rfl .nil))))
  have hlast : rowAfter (writesFrom 0 as (Session.start.run as).2) (w, "o_a") =
      some ⟨w, "o_a", "image/png", 1, stamp 5⟩ := by
    decide +kernel
  obtain ⟨hrow, _⟩ := Session.write_history_determines_row as .engine (.inr h) w "o_a"
  rw [hlast] at hrow
  exact ⟨h, hrow⟩

end StorageLedger.Ledger
