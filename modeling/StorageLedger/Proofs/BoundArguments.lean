import StorageLedger.Proofs.BatchInsertion
import StorageLedger.Proofs.TransactionBracket

namespace StorageLedger.Store
open StorageLedger.Calendar StorageLedger.Text

/-- The numbers behind the dollar signs of a text, in the order in which they stand. -/
def placeholders : List Char → List Nat
  | [] => []
  | c :: r =>
    if c = '$' then digitsValue (r.takeWhile isDigit) :: placeholders r else placeholders r

def Statement.values (s : Statement) : List Parameter := s.parameters.map (·.2)

def Table.insertRows (now : Timestamp) (w : WorkspaceId) (t : Table)
    (rows : List (String × String × Int)) : Table :=
  rows.foldl (fun t (key, fileType, fileSize) => t.putIfAbsent ⟨w, key, fileType, fileSize, now⟩) t

/-- The parameters of a bulk load taken apart again and inserted row by row. -/
def Table.insertParameters (now : Timestamp) (t : Table) : List Parameter → Table
  | [.workspaceId w, .texts keys, .texts types, .integers sizes] =>
    t.insertRows now w (keys.zip (types.zip sizes))
  | _ => t

section Placeholders

variable {xs ys : List Char} {text text' : String} {numbers numbers' : List Nat}

theorem placeholders_of_not_mem (h : '$' ∉ xs) : placeholders xs = [] := by
  induction xs with
  | nil => rfl
  | cons c xs ih =>
    simp only [List.mem_cons, not_or] at h
    rw [placeholders, if_neg (Ne.symm h.1), ih h.2]

theorem placeholders_append (h : ∀ c ∈ ys.head?, isDigit c = false) :
    placeholders (xs ++ ys) = placeholders xs ++ placeholders ys := by
  have hnone : ys.takeWhile isDigit = [] := by
    cases ys with
    | nil => rfl
    | cons c ys => exact List.takeWhile_cons_of_neg (by simp [h c rfl])
  induction xs with
  | nil => rfl
  | cons c xs ih =>
    have hnumber : (xs ++ ys).takeWhile isDigit = xs.takeWhile isDigit := by
      rw [List.takeWhile_append, hnone, List.append_nil]
      split
      · next hall => exact (List.takeWhile_prefix isDigit).eq_of_length hall |>.symm
      · rfl
    simp only [List.cons_append, placeholders, hnumber, ih]
    split <;> rfl

/-- A part of a text that does not continue a number in front of it, with its placeholders. -/
structure Part (text : String) (numbers : List Nat) : Prop where
  found : placeholders text.toList = numbers
  start : ∀ c ∈ text.toList.head?, isDigit c = false

theorem Part.append (h : Part text numbers) (h' : Part text' numbers') :
    Part (text ++ text') (numbers ++ numbers') := by
  constructor
  · rw [String.toList_append, placeholders_append h'.start, h.found, h'.found]
  · intro c hc
    rw [String.toList_append, List.head?_append, Option.mem_def, Option.or_eq_some_iff] at hc
    rcases hc with hc | ⟨-, hc⟩
    · exact h.start c hc
    · exact h'.start c hc

theorem Part.bare (h : '$' ∉ text.toList) (hstart : ∀ c ∈ text.toList.head?, isDigit c = false) :
    Part text [] := ⟨placeholders_of_not_mem h, hstart⟩

end Placeholders

namespace Statement

theorem part_fromSql : Part fromSql [] :=
  .bare (by simp [fromSql]) (by simp [fromSql]; decide)

theorem part_inWorkspaceSql : Part inWorkspaceSql [1] :=
  ⟨by decide +kernel, by simp [inWorkspaceSql]; decide⟩

theorem part_withKeySql : Part withKeySql [1, 2] := by
  have hkey : Part " AND af_blob_metadata.file_id = $2::VARCHAR" [2] :=
    ⟨by decide +kernel, by simp; decide⟩
  exact part_inWorkspaceSql.append hkey

theorem part_columnsSql : Part columnsSql [] := by
  have hkey : Part
      "af_blob_metadata.workspace_id, af_blob_metadata.file_id, af_blob_metadata.file_type, " [] :=
    .bare (by simp) (by simp; decide)
  have hrest : Part "af_blob_metadata.file_size, af_blob_metadata.modified_at" [] :=
    .bare (by simp) (by simp; decide)
  exact hkey.append hrest

theorem part_insertSql : Part insertSql [] :=
  .bare (by simp [insertSql]) (by simp [insertSql]; decide)

end Statement
end StorageLedger.Store

namespace StorageLedger.Ledger
open StorageLedger.Calendar StorageLedger.Store StorageLedger.Store.Statement

/-- A statement reaches the store in some run of a call. -/
def Call.Executes (c : Call) (s : Statement) : Prop :=
  ∃ store handle fault t, s ∈ (c.run store handle fault t).statements

/-- Two calls of one ledger function. -/
inductive Call.SameFunction : Call → Call → Prop where
  | contains : SameFunction (.contains w fileId) (.contains w' fileId')
  | upsert : SameFunction (.upsert w fileId fileType v) (.upsert w' fileId' fileType' v')
  | insertBulk : SameFunction (.insertBulk w batch) (.insertBulk w' batch')
  | delete : SameFunction (.delete w fileId) (.delete w' fileId')
  | get : SameFunction (.get w fileId) (.get w' fileId')
  | listRecords : SameFunction (.listRecords w) (.listRecords w')
  | listIds : SameFunction (.listIds w) (.listIds w')
  | usage : SameFunction (.usage w) (.usage w')

/-- The parameters that carry the arguments of a ledger call: the parts of its key, with the type
and the size that was read if it is an upsert; and of a bulk load three columns, whose rows are the
entries in their order. -/
inductive Call.Carries : Call → List Parameter → Prop where
  | contains : Carries (.contains w fileId) [.workspaceId w, .text fileId]
  | upsert (h : Validation.fileSize v = .ok size) :
    Carries (.upsert w fileId fileType v)
      [.workspaceId w, .text fileId, .text fileType, .integer size]
  | insertBulk (h : batch.entries? = .ok es) (hkeys : keys.length = es.length)
    (htypes : types.length = es.length) (hsizes : sizes.length = es.length)
    (hrows : keys.zip (types.zip sizes) = es.map fun e => (e.key, e.fileType, e.fileSize)) :
    Carries (.insertBulk w batch) [.workspaceId w, .texts keys, .texts types, .integers sizes]
  | delete : Carries (.delete w fileId) [.workspaceId w, .text fileId]
  | get : Carries (.get w fileId) [.workspaceId w, .text fileId]
  | listRecords : Carries (.listRecords w) [.workspaceId w]
  | listIds : Carries (.listIds w) [.workspaceId w]
  | usage : Carries (.usage w) [.workspaceId w]

variable {c c' : Call} {s s' : Statement} {ps : List Parameter} {handle handle' : Handle}
variable {store : Store} {fault : Option Fault} {t : Table} {w : WorkspaceId} {es es' : List Entry}

theorem Call.Sends.part (h : c.Sends handle s) : Part s.sql (List.range' 1 s.values.length) := by
  cases h with
  | contains =>
    have hselect : Part "SELECT EXISTS (SELECT *" [] := .bare (by simp) (by simp; decide)
    have hend : Part ") AS anon_1" [] := .bare (by simp) (by simp; decide)
    exact ((hselect.append part_fromSql).append part_withKeySql).append hend
  | upsert =>
    have hvalues : Part "VALUES ($1::UUID, $2::VARCHAR, $3::VARCHAR, $4::BIGINT) " [1, 2, 3, 4] :=
      ⟨by decide +kernel, by simp; decide⟩
    have hconflict : Part
        "ON CONFLICT (workspace_id, file_id) DO UPDATE SET file_type = excluded.file_type, " [] :=
      .bare (by simp) (by simp; decide)
    have hset : Part "file_size = excluded.file_size, modified_at = now()" [] :=
      .bare (by simp) (by simp; decide)
    exact ((part_insertSql.append hvalues).append hconflict).append hset
  | insertBulk =>
    have hworkspace : Part "SELECT CAST($1::UUID AS UUID) AS anon_1, " [1] :=
      ⟨by decide +kernel, by simp; decide⟩
    have hkeys : Part "unnest(CAST($2::TEXT[] AS TEXT[])) AS unnest_1, " [2] :=
      ⟨by decide +kernel, by simp; decide⟩
    have htypes : Part "unnest(CAST($3::TEXT[] AS TEXT[])) AS unnest_2, " [3] :=
      ⟨by decide +kernel, by simp; decide⟩
    have hsizes : Part
        "unnest(CAST($4::BIGINT[] AS BIGINT[])) AS unnest_3 ON CONFLICT DO NOTHING" [4] :=
      ⟨by decide +kernel, by simp; decide⟩
    exact (((part_insertSql.append hworkspace).append hkeys).append htypes).append hsizes
  | delete =>
    have hdelete : Part "DELETE FROM af_blob_metadata WHERE " [] :=
      .bare (by simp) (by simp; decide)
    exact hdelete.append part_withKeySql
  | get =>
    have hselect : Part "SELECT " [] := .bare (by simp) (by simp; decide)
    exact ((hselect.append part_columnsSql).append part_fromSql).append part_withKeySql
  | listRecords =>
    have hselect : Part "SELECT " [] := .bare (by simp) (by simp; decide)
    exact ((hselect.append part_columnsSql).append part_fromSql).append part_inWorkspaceSql
  | listIds =>
    have hselect : Part "SELECT af_blob_metadata.file_id" [] := .bare (by simp) (by simp; decide)
    exact (hselect.append part_fromSql).append part_inWorkspaceSql
  | usage =>
    have hselect : Part "SELECT sum(af_blob_metadata.file_size) AS sum_1" [] :=
      .bare (by simp) (by simp; decide)
    exact (hselect.append part_fromSql).append part_inWorkspaceSql

theorem Call.SameFunction.sql_eq (hf : c.SameFunction c') (h : c.Sends handle s)
    (h' : c'.Sends handle' s') : s.sql = s'.sql := by
  cases hf <;> cases h <;> cases h' <;> rfl

theorem Call.Sends.carries (h : c.Sends handle s) : c.Carries s.values := by
  cases h with
  | contains => exact .contains
  | upsert hsize => exact .upsert hsize
  | insertBulk hes _ =>
    exact .insertBulk hes (List.length_map _) (List.length_map _) (List.length_map _)
      (zip_columns _)
  | delete => exact .delete
  | get => exact .get
  | listRecords => exact .listRecords
  | listIds => exact .listIds
  | usage => exact .usage

theorem Call.Sends.mem_statements (h : c.Sends handle s')
    (hs : s ∈ (c.run store handle fault t).statements) : s = s' := by
  by_cases hh : handle = .engine
  · subst hh
    by_cases hf : faultAt fault .connect = none
    · by_cases hc : c.Completes store fault t s'
      · rw [(h.trace_of_completes hf hc).2] at hs
        exact List.mem_singleton.1 hs
      · rw [(h.trace_of_not_completes hf hc).2] at hs
        exact List.mem_singleton.1 hs
    · rw [(h.trace_of_connect_fault hf).2] at hs
      cases hs
  · rw [(h.trace_of_caller hh).2] at hs
    exact List.mem_singleton.1 hs

theorem Call.Executes.sends (h : c.Executes s) (hcreate : c ≠ .createSchema)
    (hreset : c ≠ .resetSchema) : ∃ handle, c.Sends handle s := by
  obtain ⟨store, handle, fault, t, hs⟩ := h
  by_cases hsends : ∃ s', c.Sends handle s'
  · obtain ⟨s', hs'⟩ := hsends
    exact ⟨handle, hs'.mem_statements hs ▸ hs'⟩
  · rw [(Call.run_trace_of_not_sends hcreate hreset (not_exists.1 hsends)).2] at hs
    cases hs

theorem planBulk_congr (w : WorkspaceId) (h : es.map Entry.columns = es'.map Entry.columns) :
    planBulk w es = planBulk w es' := by
  have hlength : es.length = es'.length := by
    rw [← List.length_map (f := Entry.columns), h, List.length_map]
  have hempty : es.isEmpty = es'.isEmpty := by
    rw [← List.isEmpty_map (f := Entry.columns), h, List.isEmpty_map]
  have hmap {α : Type} (f : String × String × Int → α) :
      es.map (f ∘ Entry.columns) = es'.map (f ∘ Entry.columns) := by
    rw [← List.map_map, ← List.map_map, h]
  have hkeys : es.map Entry.key = es'.map Entry.key := hmap fun row => row.1
  have htypes : es.map Entry.fileType = es'.map Entry.fileType := hmap fun row => row.2.1
  have hsizes : es.map Entry.fileSize = es'.map Entry.fileSize := hmap fun row => row.2.2
  simp only [planBulk, hempty, hkeys, htypes, hsizes, hlength]

/-- The parameters determine what a call of a function does. -/
theorem Call.SameFunction.run_eq (hf : c.SameFunction c') (h : c.Carries ps) (h' : c'.Carries ps)
    (store : Store) (handle : Handle) (fault : Option Fault) (t : Table) :
    c.run store handle fault t = c'.run store handle fault t := by
  cases hf with
  | contains => cases h; cases h'; rfl
  | upsert =>
    cases h with
    | upsert hsize =>
      cases h' with
      | upsert hsize' =>
        simp only [Call.run, Call.plan, hsize, hsize']
        rfl
  | insertBulk =>
    cases h with
    | insertBulk hes _ _ _ hrows =>
      cases h' with
      | insertBulk hes' _ _ _ hrows' =>
        have hplan := planBulk_congr ‹_› (hrows.symm.trans hrows')
        simp only [Call.run, Call.plan, hes, hes', hplan]
        rfl
  | delete => cases h; cases h'; rfl
  | get => cases h; cases h'; rfl
  | listRecords => cases h; cases h'; rfl
  | listIds => cases h; cases h'; rfl
  | usage => cases h; cases h'; rfl

theorem insertRows_columns (now : Timestamp) (w : WorkspaceId) (t : Table) (es : List Entry) :
    t.insertRows now w (es.map Entry.columns) = t.insertBatch now w es := by
  induction es generalizing t with
  | nil => exact Table.insertBatch_nil.symm
  | cons e es ih =>
    rw [Table.insertBatch_cons, ← ih]
    rfl

theorem Call.run_insertBulk_of_ok {batch : Batch} {now : Timestamp}
    (hes : batch.entries? = .ok es) (hne : es ≠ [])
    (h : ((Call.insertBulk w batch).run { now := now } handle fault t).result = .ok o) :
    ((Call.insertBulk w batch).run { now := now } handle fault t).table =
      t.insertRows now w (es.map Entry.columns) := by
  have hplan : (Call.insertBulk w batch).plan handle = .send
      [.insertAbsent w (es.map Entry.key) (es.map Entry.fileType) (es.map Entry.fileSize)] .ok
      fun reply => (.ok (.count reply.affectedRows), [bulkLog w reply.affectedRows es.length]) := by
    simp only [Call.plan, hes, planBulk, List.isEmpty_iff, if_neg hne]
  obtain ⟨answer, reply, hrun, -, -⟩ := Call.run_ok hplan h
  simp only [Store.run, execute, zip_columns] at hrun
  cases hall : insertAll now w t (es.map Entry.columns) with
  | error failure =>
    rw [hall] at hrun
    cases hrun
  | ok t' =>
    rw [hall] at hrun
    obtain ⟨-, htable⟩ := Prod.mk.inj (Except.ok.inj hrun)
    rw [← htable, insertAll_ok hall, insertRows_columns]

/-- Arguments travel as parameters only. Of two calls of one function that reach the store, whatever
their arguments, the texts are the same, and a text has the placeholders from one to the number of
its parameters, in order. The parameters carry the arguments of the call, so that calls of the
function with equal parameters do the same everywhere. And a bulk load that succeeds leaves the rows
that its parameters make when each is inserted on its own if its key is absent. -/
theorem Call.arguments_travel_as_parameters (hf : c.SameFunction c') (hs : c.Executes s)
    (hs' : c'.Executes s') :
    s.sql = s'.sql ∧
      placeholders s.sql.toList = List.range' 1 s.values.length ∧
      c.Carries s.values ∧
      (s.values = s'.values → ∀ store handle fault t,
        c.run store handle fault t = c'.run store handle fault t) ∧
      ∀ w batch, c = .insertBulk w batch → ∀ now handle fault t,
        let run := c.run { now := now } handle fault t
        (∃ o, run.result = .ok o) → run.table = t.insertParameters now s.values := by
  obtain ⟨handle, hsends⟩ := hs.sends (by rintro rfl; cases hf) (by rintro rfl; cases hf)
  obtain ⟨handle', hsends'⟩ := hs'.sends (by rintro rfl; cases hf) (by rintro rfl; cases hf)
  refine ⟨hf.sql_eq hsends hsends', hsends.part.found, hsends.carries, ?_, ?_⟩
  · intro hvalues store handle fault t
    exact hf.run_eq hsends.carries (hvalues ▸ hsends'.carries) store handle fault t
  · rintro w batch rfl now handle fault t run ⟨o, ho⟩
    cases hsends with
    | insertBulk hes hne =>
      rw [Call.run_insertBulk_of_ok hes hne ho, ← zip_columns]
      rfl

theorem Call.hostile_texts_are_parameters :
    let w : WorkspaceId := ⟨7, by decide⟩
    let send (es : List Entry) : Statement :=
      .insertAbsent w (es.map Entry.key) (es.map Entry.fileType) (es.map Entry.fileSize)
    let hostile : List Entry :=
      [⟨"o", "'; DROP TABLE af_blob_metadata; --", "$1", 3⟩, ⟨"o", "\"b\"", "text/css", 4⟩]
    let tame : List Entry := [⟨"o", "b", "text/css", 4⟩]
    let c : Call := .insertBulk w (.entries hostile)
    let c' : Call := .insertBulk w (.entries tame)
    let run := c.run { now := clockZero } .engine none .empty
    c.Executes (send hostile) ∧ c'.Executes (send tame) ∧ (send hostile).sql = (send tame).sql ∧
      placeholders (send hostile).sql.toList = [1, 2, 3, 4] ∧ run.result = .ok (.count 2) ∧
      run.table = Table.empty.insertParameters clockZero (send hostile).values := by
  intro w send hostile tame c c' run
  have hs : c.Executes (send hostile) :=
    ⟨{ now := clockZero }, .session, none, .empty, List.mem_singleton_self _⟩
  have hs' : c'.Executes (send tame) :=
    ⟨{ now := clockZero }, .session, none, .empty, List.mem_singleton_self _⟩
  have hcount : run.result = .ok (.count 2) := rfl
  obtain ⟨hsql, hplaces, -, -, hrows⟩ := Call.arguments_travel_as_parameters .insertBulk hs hs'
  exact ⟨hs, hs', hsql, hplaces, hcount, hrows w _ rfl _ _ _ _ ⟨_, hcount⟩⟩

end StorageLedger.Ledger
