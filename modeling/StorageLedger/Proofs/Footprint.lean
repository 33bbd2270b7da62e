import Mathlib.Data.List.Basic
import StorageLedger.Proofs.Projection

namespace StorageLedger.Store
open StorageLedger.Calendar

variable {now : Timestamp} {t t' : Table} {w : WorkspaceId} {row : Row} {p : Key → Bool}
variable {entries : List (String × String × Int)}

/-- The keys whose rows a statement asks about or writes. -/
def Statement.Concerns (k : Key) : Statement → Prop
  | .contains w fileId => (w, fileId) = k
  | .lookUp w fileId => (w, fileId) = k
  | .listRows w => w = k.1
  | .listIds w => w = k.1
  | .total w => w = k.1
  | .upsert w fileId _ _ => (w, fileId) = k
  | .insertAbsent w fileIds _ _ => w = k.1 ∧ k.2 ∈ fileIds
  | .delete w fileId => (w, fileId) = k
  | .createTable => False
  | .dropTable => True

namespace Table

def restrict (p : Key → Bool) (t : Table) : Table := ⟨t.rows.filter fun r => p r.key⟩

theorem key_among {k : Key} (h : p k = true) (r : Row) :
    (p r.key && r.key == k) = (r.key == k) := by
  rw [Bool.eq_iff_iff, Bool.and_eq_true, beq_iff_eq]
  exact and_iff_right_of_imp fun hk => hk.symm ▸ h

theorem contains_restrict {k : Key} (h : p k = true) :
    (t.restrict p).contains k = t.contains k := by
  simp only [restrict, contains, List.any_filter, key_among h]

theorem withKey_restrict {k : Key} (h : p k = true) : (t.restrict p).withKey k = t.withKey k := by
  simp only [restrict, withKey, List.filter_filter, Bool.and_comm, key_among h]

theorem inWorkspace_restrict (h : ∀ fileId, p (w, fileId) = true) :
    (t.restrict p).inWorkspace w = t.inWorkspace w := by
  simp only [restrict, inWorkspace, List.filter_filter]
  apply List.filter_congr
  intro r _
  rw [Bool.eq_iff_iff, Bool.and_eq_true, beq_iff_eq]
  refine and_iff_left_of_imp ?_
  rintro rfl
  exact h r.fileId

theorem restrict_append (rows rows' : List Row) (p : Key → Bool) :
    (Table.mk (rows ++ rows')).restrict p =
      ⟨((Table.mk rows).restrict p).rows ++ ((Table.mk rows').restrict p).rows⟩ := by
  simp only [restrict, List.filter_append]

theorem restrict_of_all {rows : List Row} (h : ∀ r ∈ rows, p r.key = true) :
    ((Table.mk rows).restrict p).rows = rows :=
  List.filter_eq_self.2 h

theorem restrict_of_none {rows : List Row} (h : ∀ r ∈ rows, p r.key = false) :
    ((Table.mk rows).restrict p).rows = [] :=
  List.filter_eq_nil_iff.2 fun r hr hp => Bool.false_ne_true ((h r hr).symm.trans hp)

theorem restrict_replace (rows : List Row) (row : Row) (p : Key → Bool) :
    (Table.mk (rows.map fun r => if r.key = row.key then row else r)).restrict p =
      ⟨((Table.mk rows).restrict p).rows.map fun r => if r.key = row.key then row else r⟩ := by
  simp only [restrict, List.filter_map]
  congr 2
  apply List.filter_congr
  intro r _
  simp only [Function.comp_apply]
  split
  · next hk => rw [hk]
  · rfl

theorem put_restrict (t : Table) (h : p row.key = true) :
    (t.put row).restrict p = (t.restrict p).put row := by
  have hkey : (t.restrict p).contains row.key = t.contains row.key := contains_restrict h
  cases hc : t.contains row.key with
  | true =>
    rw [put_of_contains hc, put_of_contains (hkey.trans hc), restrict_replace]
  | false =>
    have hrow : ((Table.mk [row]).restrict p).rows = [row] := restrict_of_all (by simpa using h)
    rw [put_of_absent hc, put_of_absent (hkey.trans hc), restrict_append, hrow]

theorem put_elsewhere (t : Table) (h : p row.key = false) :
    (t.put row).restrict p = t.restrict p := by
  cases hc : t.contains row.key with
  | true =>
    rw [put_of_contains hc, restrict_replace]
    congr 1
    apply (List.map_congr_left ?_).trans (List.map_id _)
    intro r hr
    have hr : p r.key = true := (List.mem_filter.1 hr).2
    refine if_neg fun hk => ?_
    rw [hk, h] at hr
    cases hr
  | false =>
    have hrow : ((Table.mk [row]).restrict p).rows = [] := restrict_of_none (by simpa using h)
    rw [put_of_absent hc, restrict_append, hrow, List.append_nil]

theorem putIfAbsent_restrict (t : Table) (h : p row.key = true) :
    (t.putIfAbsent row).restrict p = (t.restrict p).putIfAbsent row := by
  have hkey : (t.restrict p).contains row.key = t.contains row.key := contains_restrict h
  cases hc : t.contains row.key with
  | true => rw [putIfAbsent_of_contains hc, putIfAbsent_of_contains (hkey.trans hc)]
  | false =>
    have hrow : ((Table.mk [row]).restrict p).rows = [row] := restrict_of_all (by simpa using h)
    rw [putIfAbsent_of_absent hc, putIfAbsent_of_absent (hkey.trans hc), restrict_append, hrow]

theorem erase_restrict (t : Table) (p : Key → Bool) (k : Key) :
    (t.erase k).restrict p = (t.restrict p).erase k := by
  simp only [restrict, erase, List.filter_filter, Bool.and_comm]

theorem erase_elsewhere (t : Table) {k : Key} (h : p k = false) :
    (t.erase k).restrict p = t.restrict p := by
  have hkept : (t.restrict p).rows.filter (fun r => r.key != k) = (t.restrict p).rows := by
    rw [List.filter_eq_self]
    intro r hr
    have hr : p r.key = true := (List.mem_filter.1 hr).2
    refine bne_iff_ne.2 fun hk => ?_
    rw [hk, h] at hr
    cases hr
  rw [erase_restrict, erase, hkept]

theorem length_sub_erase (t : Table) (k : Key) :
    t.rows.length - (t.erase k).rows.length = (t.withKey k).length := by
  have hsplit : t.rows.length = (t.withKey k).length + (t.erase k).rows.length :=
    List.length_eq_length_filter_add fun r : Row => r.key == k
  omega

end Table

theorem insertOne_adds {entry : String × String × Int} (h : insertOne now w t entry = .ok t') :
    ∃ added, t'.rows = t.rows ++ added ∧ ∀ r ∈ added, r.key = (w, entry.1) := by
  rw [(insertOne_ok h).1]
  cases hc : t.contains (entryRow now w entry).key with
  | true =>
    rw [Table.putIfAbsent_of_contains hc]
    exact ⟨[], (List.append_nil _).symm, List.forall_mem_nil _⟩
  | false =>
    rw [Table.putIfAbsent_of_absent hc]
    refine ⟨[entryRow now w entry], rfl, ?_⟩
    rintro r hr
    obtain rfl := List.mem_singleton.1 hr
    rfl

theorem insertAll_adds (h : insertAll now w t entries = .ok t') :
    ∃ added, t'.rows = t.rows ++ added ∧ ∀ r ∈ added, ∃ entry ∈ entries, r.key = (w, entry.1) := by
  induction entries generalizing t with
  | nil =>
    cases h
    exact ⟨[], (List.append_nil _).symm, List.forall_mem_nil _⟩
  | cons entry entries ih =>
    obtain ⟨t₁, h₁, h₂⟩ := insertAll_cons h
    obtain ⟨added₁, hrows₁, hof₁⟩ := insertOne_adds h₁
    obtain ⟨added₂, hrows₂, hof₂⟩ := ih h₂
    refine ⟨added₁ ++ added₂, by rw [hrows₂, hrows₁, List.append_assoc], ?_⟩
    intro r hr
    rcases List.mem_append.1 hr with hr | hr
    · exact ⟨entry, List.mem_cons_self, hof₁ r hr⟩
    · obtain ⟨entry', hentry, hkey⟩ := hof₂ r hr
      exact ⟨entry', List.mem_cons_of_mem _ hentry, hkey⟩

theorem insertOne_restrict (t : Table) {entry : String × String × Int}
    (h : p (w, entry.1) = true) :
    insertOne now w (t.restrict p) entry = (insertOne now w t entry).map (Table.restrict p) := by
  simp only [insertOne, Table.contains_restrict h]
  split
  · rfl
  · split
    · rfl
    · simp only [Except.map]
      rw [Table.putIfAbsent_restrict]
      exact h

theorem insertAll_restrict (t : Table) (h : ∀ entry ∈ entries, p (w, entry.1) = true) :
    insertAll now w (t.restrict p) entries =
      (insertAll now w t entries).map (Table.restrict p) := by
  induction entries generalizing t with
  | nil => rfl
  | cons entry entries ih =>
    obtain ⟨hentry, hentries⟩ := List.forall_mem_cons.1 h
    simp only [insertAll, List.foldlM_cons] at ih ⊢
    rw [insertOne_restrict t hentry]
    cases insertOne now w t entry with
    | error failure => rfl
    | ok t₁ => exact ih t₁ hentries

theorem insertAll_count (h : ∀ entry ∈ entries, p (w, entry.1) = true)
    (hi : insertAll now w t entries = .ok t') :
    (t'.restrict p).rows.length - (t.restrict p).rows.length =
      t'.rows.length - t.rows.length := by
  obtain ⟨added, hrows, hof⟩ := insertAll_adds hi
  have hadded : ∀ r ∈ added, p r.key = true := by
    intro r hr
    obtain ⟨entry, hentry, hkey⟩ := hof r hr
    exact hkey ▸ h entry hentry
  obtain ⟨rows'⟩ := t'
  obtain rfl : rows' = t.rows ++ added := hrows
  rw [Table.restrict_append, Table.restrict_of_all hadded, List.length_append, List.length_append]
  exact (Nat.add_sub_cancel_left ..).trans (Nat.add_sub_cancel_left ..).symm

theorem insertAll_elsewhere (h : ∀ entry ∈ entries, p (w, entry.1) = false)
    (hi : insertAll now w t entries = .ok t') : t'.restrict p = t.restrict p := by
  obtain ⟨added, hrows, hof⟩ := insertAll_adds hi
  have hadded : ∀ r ∈ added, p r.key = false := by
    intro r hr
    obtain ⟨entry, hentry, hkey⟩ := hof r hr
    exact hkey ▸ h entry hentry
  obtain ⟨rows'⟩ := t'
  obtain rfl : rows' = t.rows ++ added := hrows
  rw [Table.restrict_append, Table.restrict_of_none hadded, List.append_nil]

theorem Statement.concerns_entry {fileIds fileTypes : List String} {fileSizes : List Int}
    {entry : String × String × Int} (h : entry ∈ fileIds.zip (fileTypes.zip fileSizes)) :
    (Statement.insertAbsent w fileIds fileTypes fileSizes).Concerns (w, entry.1) :=
  ⟨rfl, (List.of_mem_zip h).1⟩

/-- Execution on the rows of the keys that a statement concerns: the same reply, and of these rows
the same afterwards. -/
theorem execute_restrict (h : ∀ k, s.Concerns k → p k = true) (now : Timestamp) (t : Table) :
    execute now (t.restrict p) s = (execute now t s).map (Prod.map id (Table.restrict p)) := by
  cases s with
  | contains w f =>
    simp only [execute, Table.contains_restrict (h (w, f) rfl)]
    rfl
  | lookUp w f =>
    simp only [execute, Table.withKey_restrict (h (w, f) rfl)]
    rfl
  | listRows w =>
    simp only [execute, Table.inWorkspace_restrict fun f => h (w, f) rfl]
    rfl
  | listIds w =>
    simp only [execute, Table.inWorkspace_restrict fun f => h (w, f) rfl]
    rfl
  | total w =>
    simp only [execute, totalSize, Table.inWorkspace_restrict fun f => h (w, f) rfl]
    rfl
  | upsert w f ty n =>
    have hrow : p (Row.mk w f ty n now).key = true := h (w, f) rfl
    simp only [execute]
    split
    · rfl
    · simp only [Except.map, Prod.map, Table.put_restrict t hrow]
      rfl
  | insertAbsent w fs ts ns =>
    have hentries : ∀ entry ∈ fs.zip (ts.zip ns), p (w, entry.1) = true :=
      fun entry hentry => h _ (Statement.concerns_entry hentry)
    simp only [execute, insertAll_restrict t hentries]
    cases hi : insertAll now w t (fs.zip (ts.zip ns)) with
    | error failure => rfl
    -- All rows that are added are of these keys, so their number is the same.
    | ok t' =>
      simp only [Except.map, Prod.map, insertAll_count hentries hi]
      rfl
  | delete w f =>
    have hcount : (t.restrict p).rows.length - ((t.restrict p).erase (w, f)).rows.length =
        t.rows.length - (t.erase (w, f)).rows.length := by
      rw [Table.length_sub_erase, Table.length_sub_erase, Table.withKey_restrict (h (w, f) rfl)]
    simp only [execute, Except.map, Prod.map, hcount, Table.erase_restrict]
    rfl
  | createTable => rfl
  | dropTable => rfl

theorem execute_elsewhere (h : ∀ k, s.Concerns k → p k = false)
    (he : execute now t s = .ok (reply, t')) : t'.restrict p = t.restrict p := by
  cases s with
  | upsert w f ty n =>
    rw [(execute_ok_upsert he).2.2]
    exact Table.put_elsewhere t (h (w, f) rfl)
  | insertAbsent w fs ts ns =>
    apply insertAll_elsewhere _ (execute_ok_insertAbsent he).1
    exact fun entry hentry => h _ (Statement.concerns_entry hentry)
  | delete w f =>
    cases he
    exact Table.erase_elsewhere t (h (w, f) rfl)
  | dropTable =>
    cases he
    exact congrArg Table.mk (Table.restrict_of_none fun r _ => h r.key trivial).symm
  | _ => rw [execute_query rfl he]

theorem run_restrict (h : ∀ k, s.Concerns k → p k = true) (store : Store) (t : Table) :
    store.run (t.restrict p) s = (store.run t s).map (Prod.map id (Table.restrict p)) := by
  unfold Store.run
  split
  · rfl
  · exact execute_restrict h store.now t

theorem run_elsewhere {store : Store} (h : ∀ k, s.Concerns k → p k = false)
    (hr : store.run t s = .ok (reply, t')) : t'.restrict p = t.restrict p := by
  unfold Store.run at hr
  split at hr
  · cases hr
    rfl
  · exact execute_elsewhere h hr

end StorageLedger.Store

namespace StorageLedger.Ledger
open StorageLedger.Store

variable {store : Store} {handle : Handle} {fault : Option Fault} {t t' : Table} {c : Call}
variable {p : Key → Bool}

/-- The keys that the statements of a plan concern. -/
def Plan.Concerns (k : Key) : Plan → Prop
  | .answer _ => False
  | .send statements _ _ => ∃ s ∈ statements, s.Concerns k

/-- A call on the rows of the keys that it concerns is the call on all rows, seen in these. -/
theorem Call.run_restrict (h : ∀ k, (c.plan handle).Concerns k → p k = true) (store : Store)
    (fault : Option Fault) (t : Table) :
    c.run store handle fault (t.restrict p) =
      (c.run store handle fault t).through (Table.restrict p) id := by
  cases hplan : c.plan handle with
  | answer result =>
    rw [Call.run_answer hplan, Call.run_answer hplan, Run.through, Except.map_id]
    rfl
  | send statements read conclude =>
    rw [hplan] at h
    apply Call.run_through hplan rfl
      fun s hs t => Store.run_restrict (fun k hk => h k ⟨s, hs, hk⟩) store t
    · intro reply _
      rw [Except.map_id]
      rfl
    · intro reply _
      rw [Except.map_id]
      rfl

theorem Call.run_agree (h : ∀ k, (c.plan handle).Concerns k → p k = true) (store : Store)
    (fault : Option Fault) (ht : t.restrict p = t'.restrict p) :
    (c.run store handle fault t).result = (c.run store handle fault t').result ∧
      (c.run store handle fault t).logs = (c.run store handle fault t').logs ∧
      (c.run store handle fault t).table.restrict p =
        (c.run store handle fault t').table.restrict p := by
  have hrun : (c.run store handle fault t).through (Table.restrict p) id =
      (c.run store handle fault t').through (Table.restrict p) id := by
    rw [← Call.run_restrict h, ← Call.run_restrict h, ht]
  simp only [Run.through, Except.map_id, id_eq, Run.mk.injEq] at hrun
  -- Events and statements agree as well, but no answer shows them.
  obtain ⟨_, _, hlogs, hresult, htable⟩ := hrun
  exact ⟨hresult, hlogs, htable⟩

theorem Call.run_elsewhere (h : ∀ k, (c.plan handle).Concerns k → p k = false) :
    (c.run store handle fault t).table.restrict p = t.restrict p := by
  apply Call.run_preserves (P := fun t' => t'.restrict p = t.restrict p) _ rfl
  intro statements read conclude hplan s hs t₁ reply t₂ ht₁ hr
  rw [hplan] at h
  exact (Store.run_elsewhere (fun k hk => h k ⟨s, hs, hk⟩) hr).trans ht₁

end StorageLedger.Ledger
