import Mathlib
import StorageLedger.Proofs.ReadBack
import StorageLedger.Proofs.TableInvariant

namespace StorageLedger.Store
open StorageLedger.Calendar

variable {t : Table} {w : WorkspaceId}

theorem Table.mem_inWorkspace : r ∈ t.inWorkspace w ↔ r ∈ t.rows ∧ r.workspaceId = w := by
  rw [Table.inWorkspace, List.mem_filter, beq_iff_eq]

theorem Table.KeysDistinct.files_nodup (h : t.KeysDistinct) (w : WorkspaceId) :
    ((t.inWorkspace w).map Row.fileId).Nodup := by
  have hkeys : (t.inWorkspace w).Pairwise fun r r' => r.key ≠ r'.key :=
    (List.pairwise_map.1 h).sublist List.filter_sublist
  refine List.pairwise_map.2 (hkeys.imp_of_mem ?_)
  intro r r' hr hr' hne hfile
  apply hne
  rw [Row.key, Row.key, (mem_inWorkspace.1 hr).2, (mem_inWorkspace.1 hr').2, hfile]

theorem Table.find?_isSome_iff (fileId : String) :
    (t.find? (w, fileId)).isSome ↔ fileId ∈ (t.inWorkspace w).map Row.fileId := by
  simp only [Table.find?, List.find?_isSome, List.mem_map, mem_inWorkspace, beq_iff_eq, Row.key,
    Prod.mk.injEq, and_assoc]

/-- A listed row is the row that is found under its key. -/
theorem Table.KeysDistinct.find?_of_mem (h : t.KeysDistinct) (hr : r ∈ t.inWorkspace w) :
    t.find? (w, r.fileId) = some r := by
  obtain ⟨hmem, rfl⟩ := mem_inWorkspace.1 hr
  have hone : r ∈ t.withKey r.key := List.mem_filter.2 ⟨hmem, beq_self_eq_true _⟩
  rw [h.withKey] at hone
  exact Option.mem_toList.1 hone

def Table.totalIn (t : Table) (w : WorkspaceId) : Int := ((t.inWorkspace w).map Row.fileSize).sum

theorem Table.Valid.total_nonneg (h : t.Valid times) (w : WorkspaceId) : 0 ≤ t.totalIn w := by
  apply List.sum_nonneg
  intro n hn
  obtain ⟨r, hr, rfl⟩ := List.mem_map.1 hn
  exact (h.rows r (mem_inWorkspace.1 hr).1).1

theorem whole_totalSize (t : Table) (w : WorkspaceId) :
    Usage.whole (totalSize t w) = .ok (t.totalIn w) := by
  unfold totalSize Table.totalIn
  split
  · next hrows =>
    rw [hrows]
    rfl
  · next rows _ =>
    have hsum : ∀ n : Int, Text.signed (n < 0) (n.natAbs * Nat.pow 10 0) = n := by
      intro n
      rw [show Nat.pow 10 0 = 1 from rfl, Nat.mul_one, Text.signed]
      by_cases hn : n < 0
      · rw [if_pos (decide_eq_true hn)]
        omega
      · rw [if_neg (by simpa using hn)]
        omega
    exact congrArg Except.ok (hsum _)

theorem mapM_ofValue_rows {rows : List Row} (h : ∀ r ∈ rows, r.Valid (·.date.year ≠ 0)) :
    (rows.map Row.value).mapM Record.ofValue = .ok (rows.map Row.toRecord) := by
  induction rows with
  | nil => rfl
  | cons r rows ih =>
    obtain ⟨⟨hpos, hmax, hyear⟩, hrows⟩ := List.forall_mem_cons.1 h
    rw [List.map_cons, List.mapM_cons, ofValue_row_ok hpos hmax hyear, ih hrows]
    rfl

end StorageLedger.Store

namespace StorageLedger.Usage

theorem clampInt_of_nonneg (h : 0 ≤ n) :
    (clampInt n : Int) = if n ≤ 2 ^ 64 - 1 then n else 0 := by
  unfold clampInt limit
  by_cases hn : n ≤ 2 ^ 64 - 1
  · rw [if_pos hn, if_pos ⟨h, by simpa using hn⟩]
    exact Int.toNat_of_nonneg h
  · rw [if_neg hn, if_neg fun hlimit => hn (by simpa using hlimit.2)]
    rfl

end StorageLedger.Usage

namespace StorageLedger.Ledger
open StorageLedger.Calendar StorageLedger.Store

variable {now : Timestamp} {t : Table} {c : Call}
variable {read : Reply → Except Failure Reply}
variable {conclude : Reply → Except LedgerError Outcome × List LogRecord}

theorem Call.run_faultless (c : Call) (handle : Handle)
    (hplan : c.plan handle = .send [s] read conclude)
    (hrun : execute now t s = .ok (answer, t')) (hread : read answer = .ok reply) :
    (c.run { now := now } handle none t).result = (conclude reply).1 ∧
      (c.run { now := now } handle none t).logs = c.openingLogs ++ (conclude reply).2 :=
  Call.run_of_reply hplan (carryOut_faultless (performRead_single hrun hread))

/-- The record of the row of a key, or a miss. -/
def found (w : WorkspaceId) (fileId : String) : Option Row → Except LedgerError Outcome
  | some row => .ok (.record row.toRecord)
  | none => .error (.notFound w fileId)

theorem Call.run_get (now : Timestamp) (handle : Handle) (ht : t.Valid (·.date.year ≠ 0))
    (w : WorkspaceId) (fileId : String) :
    ((Call.get w fileId).run { now := now } handle none t).result =
        found w fileId (t.find? (w, fileId)) ∧
      ((Call.get w fileId).run { now := now } handle none t).logs =
        (Call.get w fileId).openingLogs := by
  have hreply : execute now t (.lookUp w fileId) =
      .ok (rowsReply (t.find? (w, fileId)).toList, t) := by
    rw [execute, ht.keys.withKey]
  have hread : atMostOneRow (rowsReply (t.find? (w, fileId)).toList) =
      .ok (rowsReply (t.find? (w, fileId)).toList) := by
    cases t.find? (w, fileId) <;> rfl
  obtain ⟨hresult, hlogs⟩ := (Call.get w fileId).run_faultless handle rfl hreply hread
  refine ⟨hresult.trans ?_, hlogs.trans (List.append_nil _)⟩
  simp only [recordOf, objects_rowsReply]
  cases hfind : t.find? (w, fileId) with
  | none => rfl
  | some row =>
    obtain ⟨hpos, hmax, hyear⟩ := ht.rows row (Table.find?_mem hfind)
    simp only [Option.toList_some, List.map_cons, ofValue_row_ok hpos hmax hyear]
    rfl

theorem Call.run_contains (now : Timestamp) (handle : Handle) (t : Table) (w : WorkspaceId)
    (fileId : String) :
    ((Call.contains w fileId).run { now := now } handle none t).result =
        .ok (.truth (t.find? (w, fileId)).isSome) ∧
      ((Call.contains w fileId).run { now := now } handle none t).logs = [] := by
  rw [← Table.contains_eq_isSome]
  exact (Call.contains w fileId).run_faultless handle rfl rfl rfl

theorem Call.run_listRecords (now : Timestamp) (handle : Handle)
    (ht : t.Valid (·.date.year ≠ 0)) (w : WorkspaceId) :
    ((Call.listRecords w).run { now := now } handle none t).result =
        .ok (.records ((t.inWorkspace w).map Row.toRecord)) ∧
      ((Call.listRecords w).run { now := now } handle none t).logs = [] := by
  have hrows : ∀ r ∈ t.inWorkspace w, r.Valid (·.date.year ≠ 0) :=
    fun r hr => ht.rows r (Table.mem_inWorkspace.1 hr).1
  obtain ⟨hresult, hlogs⟩ := (Call.listRecords w).run_faultless (t := t) handle rfl rfl rfl
  refine ⟨hresult.trans ?_, hlogs⟩
  simp only [recordsOf, objects_rowsReply, mapM_ofValue_rows hrows]
  rfl

theorem Call.run_listIds (now : Timestamp) (handle : Handle) (t : Table) (w : WorkspaceId) :
    ((Call.listIds w).run { now := now } handle none t).result =
        .ok (.ids ((t.inWorkspace w).map fun r => .text r.fileId)) ∧
      ((Call.listIds w).run { now := now } handle none t).logs = [] := by
  obtain ⟨hresult, hlogs⟩ := (Call.listIds w).run_faultless (t := t) handle rfl rfl rfl
  refine ⟨hresult.trans ?_, hlogs⟩
  simp only [Reply.cells, List.filterMap_map]
  congr 2
  induction t.inWorkspace w with
  | nil => rfl
  | cons r rows ih => exact congrArg (_ :: ·) ih

theorem Call.run_usage (now : Timestamp) (handle : Handle) (t : Table) (w : WorkspaceId) :
    ((Call.usage w).run { now := now } handle none t).result =
        .ok (.count (Usage.clampInt (t.totalIn w))) ∧
      ((Call.usage w).run { now := now } handle none t).logs = [] := by
  obtain ⟨hresult, hlogs⟩ := (Call.usage w).run_faultless (t := t) handle rfl rfl rfl
  refine ⟨hresult.trans ?_, hlogs⟩
  have hwhole : Usage.whole ((Reply.scalar (totalSize t w)).scalar?.getD .null) =
      .ok (t.totalIn w) := whole_totalSize t w
  simp only [usageOf, Usage.clamp, hwhole]
  rfl

theorem sortedIds_files (records : List Record) :
    sortedIds ((records.map Record.fileId).map .text) =
      (sortedRecords records).map fun r => .text r.fileId := by
  rw [List.map_map, sortedRecords, sortedIds, List.map_mergeSort]
  · rfl
  · exact fun _ _ _ _ => rfl

/-- After any run, through any handle, the answers about a workspace agree. The identifiers are
those of the records, in the order of the rows and sorted, and none is repeated. A file exists, and
its record is found, exactly if it is listed. The usage is the sum of the listed sizes, or nothing
where the sum has more than 64 bits. -/
theorem Session.queries_agree (as : List Action) (handle : Handle) (w : WorkspaceId) :
    let s := (Session.start.run as).1
    let ask (c : Call) := (s.step (.call c handle none)).2
    ∃ (records : List Record) (ids : List String),
      (ask (.listRecords w) = .call (.ok (.records records)) [] ∧
        ∀ r ∈ records, r.workspaceId = w) ∧
      (ask (.listIds w) = .call (.ok (.ids (ids.map .text))) [] ∧
        ids.Nodup ∧ ids = records.map Record.fileId ∧
        sortedIds (ids.map .text) = (sortedRecords records).map fun r => .text r.fileId) ∧
      (∀ fileId, ask (.contains w fileId) = .call (.ok (.truth (fileId ∈ ids))) []) ∧
      (∀ r ∈ records, ask (.get w r.fileId) =
        .call (.ok (.record r)) (Call.get w r.fileId).openingLogs) ∧
      (∀ fileId, fileId ∉ ids → ask (.get w fileId) =
        .call (.error (.notFound w fileId)) (Call.get w fileId).openingLogs) ∧
      let total := (records.map Record.fileSize).sum
      ask (.usage w) = .call (.ok (.count (if total ≤ 2 ^ 64 - 1 then total else 0))) [] := by
  intro s ask
  let t := s.rowsFor handle
  have ht : t.Valid (·.date.year ≠ 0) := (Session.Valid.start.run stamp_year as).rows_for handle
  have hask (c : Call) : ask c =
      .call (c.run s.nextStore handle none t).result (c.run s.nextStore handle none t).logs :=
    s.step_answer c handle none
  -- All answers are about the rows that the handle finds, which no question changes.
  refine ⟨(t.inWorkspace w).map Row.toRecord, (t.inWorkspace w).map Row.fileId,
    ⟨?_, ?_⟩, ⟨?_, ht.keys.files_nodup w, ?_, ?_⟩, ?_, ?_, ?_, ?_⟩
  · obtain ⟨hresult, hlogs⟩ := Call.run_listRecords (stamp (s.steps + 1)) handle ht w
    exact (hask _).trans (congrArg₂ Answer.call hresult hlogs)
  · intro r hr
    obtain ⟨row, hrow, rfl⟩ := List.mem_map.1 hr
    exact (Table.mem_inWorkspace.1 hrow).2
  · obtain ⟨hresult, hlogs⟩ := Call.run_listIds (stamp (s.steps + 1)) handle t w
    rw [List.map_map]
    exact (hask _).trans (congrArg₂ Answer.call hresult hlogs)
  · rw [List.map_map]
    rfl
  · have hids : (t.inWorkspace w).map Row.fileId =
        ((t.inWorkspace w).map Row.toRecord).map Record.fileId := by
      rw [List.map_map]
      rfl
    rw [hids, sortedIds_files]
  · intro fileId
    obtain ⟨hresult, hlogs⟩ := Call.run_contains (stamp (s.steps + 1)) handle t w fileId
    have hlisted : (t.find? (w, fileId)).isSome =
        decide (fileId ∈ (t.inWorkspace w).map Row.fileId) :=
      Bool.eq_iff_iff.2 ((Table.find?_isSome_iff fileId).trans decide_eq_true_iff.symm)
    rw [hlisted] at hresult
    exact (hask _).trans (congrArg₂ Answer.call hresult hlogs)
  · intro r hr
    obtain ⟨row, hrow, rfl⟩ := List.mem_map.1 hr
    obtain ⟨hresult, hlogs⟩ := Call.run_get (stamp (s.steps + 1)) handle ht w row.fileId
    rw [ht.keys.find?_of_mem hrow] at hresult
    exact (hask _).trans (congrArg₂ Answer.call hresult hlogs)
  · intro fileId hfile
    obtain ⟨hresult, hlogs⟩ := Call.run_get (stamp (s.steps + 1)) handle ht w fileId
    have hnone : t.find? (w, fileId) = none := by
      rw [← Option.not_isSome_iff_eq_none, Table.find?_isSome_iff]
      exact hfile
    rw [hnone] at hresult
    exact (hask _).trans (congrArg₂ Answer.call hresult hlogs)
  · obtain ⟨hresult, hlogs⟩ := Call.run_usage (stamp (s.steps + 1)) handle t w
    have htotal : (((t.inWorkspace w).map Row.toRecord).map Record.fileSize).sum = t.totalIn w := by
      rw [List.map_map]
      rfl
    rw [Usage.clampInt_of_nonneg (ht.total_nonneg w)] at hresult
    rw [htotal]
    exact (hask _).trans (congrArg₂ Answer.call hresult hlogs)

theorem Session.queries_agree_in_open_transaction :
    let w : WorkspaceId := ⟨7, by decide⟩
    let batch := Batch.entries [⟨"o", "a", "text/css", 1⟩, ⟨"o", "b", "text/html", 2⟩]
    let s := (Session.start.run [.call (.insertBulk w batch) .session none]).1
    let ask (c : Call) := (s.step (.call c .session none)).2
    ask (.listIds w) = .call (.ok (.ids [.text "o_a", .text "o_b"])) [] ∧
      ask (.contains w "o_b") = .call (.ok (.truth true)) [] ∧
      (∃ r : Record, r.workspaceId = w ∧
        ask (.get w "o_b") = .call (.ok (.record r)) (Call.get w "o_b").openingLogs) ∧
      ask (.get w "b") = .call (.error (.notFound w "b")) (Call.get w "b").openingLogs := by
  intro w batch s ask
  have hlisted : ask (.listIds w) = .call (.ok (.ids (["o_a", "o_b"].map Value.text))) [] := rfl
  obtain ⟨records, ids, ⟨_, hworkspace⟩, ⟨hids, _, hfiles, _⟩, hcontains, hget, hmiss, _⟩ :=
    Session.queries_agree [.call (.insertBulk w batch) .session none] .session w
  have hsame : ids = ["o_a", "o_b"] := by
    have htexts := hids.symm.trans hlisted
    simp only [Answer.call.injEq, Except.ok.injEq, Outcome.ids.injEq, and_true] at htexts
    exact List.map_injective_iff.2 (fun _ _ h => Value.text.inj h) htexts
  subst hsame
  obtain ⟨r, hr, hfile⟩ := List.mem_map.1 (hfiles ▸ (by decide : "o_b" ∈ ["o_a", "o_b"]))
  refine ⟨hlisted, hcontains "o_b", ⟨r, hworkspace r hr, ?_⟩, hmiss "b" (by decide)⟩
  exact hfile ▸ hget r hr

end StorageLedger.Ledger
