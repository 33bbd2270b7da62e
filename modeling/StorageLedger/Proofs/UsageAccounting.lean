import StorageLedger.Proofs.BatchInsertion
import StorageLedger.Proofs.Footprint
import StorageLedger.Proofs.WriteHistory

namespace StorageLedger

/-- The size that entries have for a key: that of the first entry of the key. -/
def Entry.firstSize (es : List Entry) (key : String) : Int :=
  ((es.find? fun e => e.key == key).map Entry.fileSize).getD 0

theorem Entry.sum_firsts (taken : String → Bool) (es : List Entry) :
    ((firsts taken es).map Entry.fileSize).sum =
      ∑ key ∈ freeKeys taken es, firstSize es key := by
  rw [← toFinset_keys_firsts, List.sum_toFinset _ (nodup_keys_firsts taken es), List.map_map]
  congr 1
  apply List.map_congr_left
  intro e he
  rw [Function.comp_apply, firstSize, find?_of_mem_firsts he]
  rfl

end StorageLedger

namespace StorageLedger.Store.Table
open StorageLedger.Calendar

variable {t t' : Table} {w v : WorkspaceId}

/-- The size recorded for a key, which is nothing where no row has the key. -/
def sizeAt (t : Table) (k : Key) : Int := ((t.find? k).map Row.fileSize).getD 0

theorem totalIn_append (rows rows' : List Row) (w : WorkspaceId) :
    (Table.mk (rows ++ rows')).totalIn w =
      (Table.mk rows).totalIn w + (Table.mk rows').totalIn w := by
  simp only [totalIn, inWorkspace, List.filter_append, List.map_append, List.sum_append]

theorem totalIn_of_all {rows : List Row} (h : ∀ r ∈ rows, r.workspaceId = w) :
    (Table.mk rows).totalIn w = (rows.map Row.fileSize).sum := by
  have hall : rows.filter (fun r => r.workspaceId == w) = rows :=
    List.filter_eq_self.2 fun r hr => beq_iff_eq.2 (h r hr)
  rw [totalIn, inWorkspace, hall]

theorem totalIn_of_none {rows : List Row} (h : ∀ r ∈ rows, r.workspaceId ≠ w) :
    (Table.mk rows).totalIn w = 0 := by
  have hnone : rows.filter (fun r => r.workspaceId == w) = [] :=
    List.filter_eq_nil_iff.2 fun r hr hw => h r hr (beq_iff_eq.1 hw)
  rw [totalIn, inWorkspace, hnone]
  rfl

theorem totalIn_congr (h : t.restrict (fun k => k.1 == w) = t'.restrict fun k => k.1 == w) :
    t.totalIn w = t'.totalIn w :=
  congrArg (fun rows : List Row => (rows.map Row.fileSize).sum) (congrArg Table.rows h)

theorem KeysDistinct.total_split (h : t.KeysDistinct) (w : WorkspaceId) (fileId : String) :
    t.totalIn w = t.sizeAt (w, fileId) + (t.erase (w, fileId)).totalIn w := by
  have hperm : (t.withKey (w, fileId) ++ (t.erase (w, fileId)).rows).Perm t.rows :=
    List.filter_append_perm _ t.rows
  have hsame : t.totalIn w =
      (Table.mk (t.withKey (w, fileId) ++ (t.erase (w, fileId)).rows)).totalIn w :=
    ((hperm.symm.filter _).map Row.fileSize).sum_eq
  rw [hsame, totalIn_append, h.withKey, sizeAt]
  congr 1
  cases hfind : t.find? (w, fileId) with
  | none => rfl
  | some r =>
    have hworkspace : r.workspaceId = w := congrArg Prod.fst (find?_key hfind)
    rw [Option.toList_some, totalIn_of_all (by simpa using hworkspace)]
    exact add_zero _

theorem total_erase (h : t.KeysDistinct) (k : Key) (w : WorkspaceId) :
    (t.erase k).totalIn w = t.totalIn w + if k.1 = w then -t.sizeAt k else 0 := by
  split
  · next hw =>
    subst hw
    have hsplit : t.totalIn k.1 = t.sizeAt k + (t.erase k).totalIn k.1 := h.total_split k.1 k.2
    omega
  · next hw =>
    rw [totalIn_congr (erase_elsewhere t (beq_eq_false_iff_ne.2 hw)), add_zero]

theorem erase_put (t : Table) (row : Row) : (t.put row).erase row.key = t.erase row.key :=
  put_elsewhere (p := (· != row.key)) t (bne_self_eq_false _)

theorem total_put (h : t.KeysDistinct) (row : Row) (w : WorkspaceId) :
    (t.put row).totalIn w =
      t.totalIn w + if row.workspaceId = w then row.fileSize - t.sizeAt row.key else 0 := by
  split
  · next hw =>
    subst hw
    have hsize : (t.put row).sizeAt row.key = row.fileSize := by
      rw [sizeAt, find?_put, if_pos rfl]
      rfl
    have hbefore : t.totalIn row.workspaceId =
        t.sizeAt row.key + (t.erase row.key).totalIn row.workspaceId := h.total_split _ row.fileId
    have hafter : (t.put row).totalIn row.workspaceId = (t.put row).sizeAt row.key +
        ((t.put row).erase row.key).totalIn row.workspaceId := (h.put row).total_split _ row.fileId
    rw [hsize, erase_put] at hafter
    omega
  · next hw =>
    rw [totalIn_congr (put_elsewhere t (beq_eq_false_iff_ne.2 hw)), add_zero]

theorem total_insertBatch (now : Timestamp) (v : WorkspaceId) (t : Table) (es : List Entry)
    (w : WorkspaceId) :
    (t.insertBatch now v es).totalIn w = t.totalIn w +
      if v = w then ∑ key ∈ Entry.freeKeys (fun key => t.contains (v, key)) es,
        Entry.firstSize es key else 0 := by
  let firsts := Entry.firsts (fun key => t.contains (v, key)) es
  have hrows : ∀ r ∈ firsts.map (Entry.row now v), r.workspaceId = v :=
    List.forall_mem_map.2 fun e _ => rfl
  have happend : (t.insertBatch now v es).totalIn w =
      t.totalIn w + (Table.mk (firsts.map (Entry.row now v))).totalIn w := totalIn_append ..
  rw [happend]
  split
  · next hw =>
    subst hw
    rw [totalIn_of_all hrows, List.map_map, ← Entry.sum_firsts]
    rfl
  · next hw =>
    have hnone : ∀ r ∈ firsts.map (Entry.row now v), r.workspaceId ≠ w :=
      fun r hr => (hrows r hr).symm ▸ hw
    rw [totalIn_of_none hnone]

end StorageLedger.Store.Table

namespace StorageLedger.Ledger
open StorageLedger.Calendar StorageLedger.Store

variable {now : Timestamp} {handle : Handle} {fault : Option Fault} {t : Table} {c : Call}
variable {w : WorkspaceId} {s : Session} {a : Action}

def Write.applied (now : Timestamp) (t : Table) : Write → Table
  | .upsert w fileId fileType fileSize => t.put ⟨w, fileId, fileType, fileSize, now⟩
  | .insertAbsent w es => t.insertBatch now w es
  | .delete w fileId => t.erase (w, fileId)

/-- What a write adds to the total size in a workspace. In another workspace than its own it adds
nothing. -/
def Write.sizeChange (w : WorkspaceId) (t : Table) : Write → Int
  | .upsert v fileId _ fileSize => if v = w then fileSize - t.sizeAt (v, fileId) else 0
  | .insertAbsent v es =>
    if v = w then ∑ key ∈ Entry.freeKeys (fun key => t.contains (v, key)) es,
      Entry.firstSize es key else 0
  | .delete v fileId => if v = w then -t.sizeAt (v, fileId) else 0

theorem Write.total_applied (h : t.KeysDistinct) (now : Timestamp) (write : Write)
    (w : WorkspaceId) :
    (write.applied now t).totalIn w = t.totalIn w + write.sizeChange w t := by
  cases write with
  | upsert v f ty n => exact Table.total_put h ⟨v, f, ty, n, now⟩ w
  | insertAbsent v es => exact Table.total_insertBatch now v t es w
  | delete v f => exact Table.total_erase h (v, f) w

/-- The table that a call leaves if it succeeds. -/
def tableWritten (now : Timestamp) (t : Table) : Option Write → Table
  | some write => write.applied now t
  | none => t

theorem Call.table_of_success (hc : c.reports)
    (h : (c.run { now := now } handle fault t).result = .ok o) :
    (c.run { now := now } handle fault t).table = tableWritten now t c.write? := by
  cases c with
  | contains v f => exact Call.table_of_query rfl rfl
  | get v f => exact Call.table_of_query rfl rfl
  | listRecords v => exact Call.table_of_query rfl rfl
  | listIds v => exact Call.table_of_query rfl rfl
  | usage v => exact Call.table_of_query rfl rfl
  | createSchema => cases hc
  | resetSchema => cases hc
  | upsert v f ty size =>
    cases hsize : Validation.fileSize size with
    | error r =>
      have hplan : (Call.upsert v f ty size).plan handle = .answer (.error (.rejected r)) := by
        simp only [Call.plan, hsize]
      rw [Call.run_answer hplan] at h
      cases h
    | ok n =>
      obtain ⟨_, _, hrun, _, _⟩ := Call.run_ok (by simp only [Call.plan, hsize]; rfl) h
      rw [(execute_ok_upsert hrun).2.2]
      simp only [Call.write?, hsize]
      rfl
  | insertBulk v batch =>
    cases hes : batch.entries? with
    | error r =>
      have hplan : (Call.insertBulk v batch).plan handle = .answer (.error (.rejected r)) := by
        simp only [Call.plan, hes]
      rw [Call.run_answer hplan] at h
      cases h
    | ok es =>
      have hplan : (Call.insertBulk v batch).plan handle = planBulk v es := by
        simp only [Call.plan, hes]
      have hwrite : (Call.insertBulk v batch).write? = some (.insertAbsent v es) := by
        simp only [Call.write?, hes]
        rfl
      rw [hwrite]
      cases es with
      | nil =>
        rw [Call.run_answer hplan]
        exact Table.insertBatch_nil.symm
      | cons e es =>
        obtain ⟨_, _, hrun, _, _⟩ := Call.run_ok hplan h
        have hinsert := (execute_ok_insertAbsent hrun).1
        rw [zip_columns] at hinsert
        exact insertAll_ok hinsert
  | delete v f =>
    by_cases hh : handle = .engine
    · have hplan : (Call.delete v f).plan handle = .answer (.error .needsUnitOfWork) := if_pos hh
      rw [Call.run_answer hplan] at h
      cases h
    · obtain ⟨_, _, hrun, _, _⟩ := Call.run_ok (c := .delete v f) (if_neg hh) h
      exact (Prod.mk.inj (Except.ok.inj hrun)).2.symm

/-- What a call adds to the total size in a workspace: what its write adds, if it succeeds. -/
theorem Call.run_total (hc : c.reports) (h : t.KeysDistinct) (now : Timestamp) (handle : Handle)
    (fault : Option Fault) (w : WorkspaceId) :
    let run := c.run { now := now } handle fault t
    (∀ o, run.result = .ok o → run.table.totalIn w =
      t.totalIn w + (c.write?.map (·.sizeChange w t)).getD 0) ∧
    (∀ e, run.result = .error e → run.table.totalIn w = t.totalIn w) := by
  intro run
  refine ⟨fun o ho => ?_, fun e he => congrArg (Table.totalIn · w) (Call.run_error he)⟩
  have htable : run.table = tableWritten now t c.write? := Call.table_of_success hc ho
  rw [htable]
  cases c.write? with
  | none => exact (add_zero _).symm
  | some write => exact write.total_applied h now w

/-- A step that works on the rows that a handle finds, as a call through it does, or leaves them
alone. -/
def Action.keepsTo (handle : Handle) : Action → Prop
  | .call c through _ => c.reports ∧ through = handle
  | .commit => handle ≠ .engine
  | .rollback => handle = .engine
  | .rollbackToSavepoint => handle = .engine
  | _ => True

/-- What a step adds to the total size in a workspace: what its write adds, if it is a call that
asked for one and succeeded. -/
def Session.sizeChange (handle : Handle) (w : WorkspaceId) (s : Session) (a : Action) : Int :=
  match a.written? s.steps (s.step a).2 with
  | some written => written.write.sizeChange w (s.rowsFor handle)
  | none => 0

def Session.sizeChanges (handle : Handle) (w : WorkspaceId) (s : Session) : List Action → List Int
  | [] => []
  | a :: as => s.sizeChange handle w a :: (s.step a).1.sizeChanges handle w as

theorem Session.call_or_kept (s : Session) (ha : a.keepsTo handle) :
    (∃ c fault, a = .call c handle fault ∧ c.reports) ∨
      (s.step a).1.rowsFor handle = s.rowsFor handle ∧
        a.written? s.steps (s.step a).2 = none := by
  cases a with
  | call c through fault =>
    obtain ⟨hc, rfl⟩ := ha
    exact .inl ⟨c, fault, rfl, hc⟩
  | commit =>
    refine .inr ⟨?_, rfl⟩
    rw [Session.rowsFor, Session.rowsFor, if_neg ha, if_neg ha]
    rfl
  | rollback =>
    obtain rfl := ha
    exact .inr ⟨rfl, rfl⟩
  | rollbackToSavepoint =>
    obtain rfl := ha
    exact .inr ⟨rfl, rfl⟩
  | savepoint =>
    refine .inr ⟨?_, rfl⟩
    by_cases hh : handle = .engine
    · rw [Session.rowsFor, Session.rowsFor, if_pos hh, if_pos hh]
      rfl
    · rw [Session.rowsFor, Session.rowsFor, if_neg hh, if_neg hh]
      exact s.visible_eq_opened.symm
  | refuse e => exact .inr ⟨rfl, rfl⟩
  | dump => exact .inr ⟨rfl, rfl⟩

theorem Session.step_total (hs : (s.rowsFor handle).KeysDistinct) (ha : a.keepsTo handle)
    (w : WorkspaceId) :
    ((s.step a).1.rowsFor handle).totalIn w =
      (s.rowsFor handle).totalIn w + s.sizeChange handle w a := by
  rcases s.call_or_kept ha with ⟨c, fault, rfl, hc⟩ | ⟨hrows, hwritten⟩
  · obtain ⟨hok, herror⟩ := Call.run_total hc hs (stamp (s.steps + 1)) handle fault w
    rw [s.step_rows_for, Session.sizeChange, s.step_answer]
    cases hresult : (c.run s.nextStore handle fault (s.rowsFor handle)).result with
    | error e => exact (herror e hresult).trans (add_zero _).symm
    | ok o =>
      refine (hok o hresult).trans ?_
      simp only [Action.written?]
      cases c.write? <;> rfl
  · rw [hrows, Session.sizeChange, hwritten]
    exact (add_zero _).symm

theorem Session.step_rows_valid (hs : (s.rowsFor handle).Valid fun _ => True)
    (ha : a.keepsTo handle) : ((s.step a).1.rowsFor handle).Valid fun _ => True := by
  rcases s.call_or_kept ha with ⟨c, fault, rfl, _⟩ | ⟨hrows, _⟩
  · rw [s.step_rows_for]
    exact c.run_valid handle fault hs trivial
  · rw [hrows]
    exact hs

theorem Session.run_total (hs : (s.rowsFor handle).Valid fun _ => True)
    (has : ∀ a ∈ as, a.keepsTo handle) (w : WorkspaceId) :
    ((s.run as).1.rowsFor handle).Valid (fun _ => True) ∧
      ((s.run as).1.rowsFor handle).totalIn w =
        (s.rowsFor handle).totalIn w + (s.sizeChanges handle w as).sum := by
  induction as generalizing s with
  | nil => exact ⟨hs, (add_zero _).symm⟩
  | cons a as ih =>
    obtain ⟨ha, has⟩ := List.forall_mem_cons.1 has
    obtain ⟨hvalid, htotal⟩ := ih (Session.step_rows_valid hs ha) has
    refine ⟨hvalid, ?_⟩
    rw [Session.run_cons, Session.sizeChanges, List.sum_cons, ← add_assoc,
      ← Session.step_total hs.keys ha]
    exact htotal

theorem Session.step_usage (hs : (s.rowsFor handle).Valid fun _ => True) (w : WorkspaceId)
    (hfits : (s.rowsFor handle).totalIn w ≤ 2 ^ 64 - 1) :
    (s.step (.call (.usage w) handle none)).2 =
      .call (.ok (.count ((s.rowsFor handle).totalIn w))) [] := by
  obtain ⟨hresult, hlogs⟩ :=
    Call.run_usage (stamp (s.steps + 1)) handle (s.rowsFor handle) w
  rw [Usage.clampInt_of_nonneg (hs.total_nonneg w), if_pos hfits] at hresult
  exact (s.step_answer _ handle none).trans (congrArg₂ Answer.call hresult hlogs)

/-- Usage is accounted for exactly. As long as the total size in a workspace fits into 64 bits, a
call changes the usage by what its write adds, if it asked for one and succeeded, and otherwise not
at all; and after a run that started without rows the usage is the sum of the changes. -/
theorem Session.usage_accounts_for_writes (handle : Handle) (w : WorkspaceId) :
    let usage (s : Session) := (s.step (.call (.usage w) handle none)).2
    (∀ (s : Session) (c : Call) (fault : Option Fault),
      let change := s.sizeChange handle w (.call c handle fault)
      let after := (s.step (.call c handle fault)).1
      (s.rowsFor handle).Valid (fun _ => True) → c.reports →
      (s.rowsFor handle).totalIn w ≤ 2 ^ 64 - 1 → (after.rowsFor handle).totalIn w ≤ 2 ^ 64 - 1 →
      ∃ n, usage s = .call (.ok (.count n)) [] ∧
        usage after = .call (.ok (.count (n + change))) []) ∧
    ∀ (s : Session) (as : List Action),
      let changes := s.sizeChanges handle w as
      s.rowsFor handle = .empty → (∀ a ∈ as, a.keepsTo handle) → changes.sum ≤ 2 ^ 64 - 1 →
      usage (s.run as).1 = .call (.ok (.count changes.sum)) [] := by
  intro usage
  refine ⟨?_, ?_⟩
  · intro s c fault change after hs hc hbefore hafter
    have ha : (Action.call c handle fault).keepsTo handle := ⟨hc, rfl⟩
    refine ⟨(s.rowsFor handle).totalIn w, s.step_usage hs w hbefore, ?_⟩
    rw [← Session.step_total hs.keys ha w]
    exact after.step_usage (Session.step_rows_valid hs ha) w hafter
  · intro s as changes hempty has hfits
    have hs : (s.rowsFor handle).Valid fun _ => True := hempty ▸ Table.Valid.empty
    obtain ⟨hvalid, htotal⟩ := Session.run_total hs has w
    have hnothing : (s.rowsFor handle).totalIn w = 0 := hempty ▸ rfl
    rw [hnothing, zero_add] at htotal
    rw [← htotal]
    exact Session.step_usage hvalid w (htotal ▸ hfits)

theorem Session.usage_after_writes_of_each_kind :
    let w : WorkspaceId := ⟨7, by decide⟩
    let writes : List Action :=
      [.call (.upsert w "a" "text/html" (.int 5)) .session none,
        .call (.upsert w "a" "text/css" (.int 3)) .session none, .commit,
        .call (.insertBulk w (.entries
          [⟨"o", "p_q", "text/css", 1⟩, ⟨"o_p", "q", "text/css", 2⟩, ⟨"o", "r", "text/css", 4⟩]))
          .session none,
        .call (.insertBulk w (.entries [⟨"o", "s", "text/css", 9⟩, ⟨"o", "t", "text/css", -1⟩]))
          .session none,
        .call (.upsert ⟨8, by decide⟩ "a" "text/css" (.int 100)) .session none]
    let s := (Session.start.run writes).1
    let removed := (s.step (.call (.delete w "a") .session none)).1
    let usage (s : Session) := (s.step (.call (.usage w) .session none)).2
    Session.start.sizeChanges .session w writes = [5, -2, 0, 5, 0, 0] ∧
      usage s = .call (.ok (.count 8)) [] ∧ usage removed = .call (.ok (.count 5)) [] := by
  intro w writes s removed usage
  have hwrites : ∀ a ∈ writes, a.keepsTo .session := by
    simp [writes, Action.keepsTo, Call.reports]
  have hchanges : Session.start.sizeChanges .session w writes = [5, -2, 0, 5, 0, 0] := by
    decide +kernel
  have hchange : s.sizeChange .session w (.call (.delete w "a") .session none) = -3 := by
    decide +kernel
  have hvalid : (s.rowsFor .session).Valid fun _ => True :=
    (Session.Valid.start.run (fun _ => trivial) writes).rows_for .session
  obtain ⟨hcall, hrun⟩ := Session.usage_accounts_for_writes .session w
  have husage : usage s = .call (.ok (.count 8)) [] := by
    have hsum := hrun Session.start writes rfl hwrites
    rw [hchanges] at hsum
    exact hsum (by decide)
  obtain ⟨n, hbefore, hafter⟩ :=
    hcall s (.delete w "a") none hvalid rfl (by decide +kernel) (by decide +kernel)
  obtain rfl : n = 8 := by
    simpa using hbefore.symm.trans husage
  rw [hchange] at hafter
  exact ⟨hchanges, husage, hafter⟩

end StorageLedger.Ledger
