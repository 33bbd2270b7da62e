import StorageLedger.Proofs.BatchInsertion

namespace StorageLedger
open StorageLedger.Calendar StorageLedger.Store

variable {taken : String → Bool} {es es' : List Entry} {now : Timestamp} {w : WorkspaceId}
variable {t : Table} {key : String}

theorem Entry.freeKeys_perm (taken : String → Bool) (h : es.Perm es') :
    Entry.freeKeys taken es = Entry.freeKeys taken es' := by
  rw [Entry.freeKeys, Entry.freeKeys, List.toFinset_eq_of_perm _ _ (h.map Entry.key)]

theorem Entry.keys_firsts_perm (taken : String → Bool) (h : es.Perm es') :
    ((Entry.firsts taken es).map Entry.key).Perm ((Entry.firsts taken es').map Entry.key) := by
  apply List.perm_of_nodup_nodup_toFinset_eq (Entry.nodup_keys_firsts taken es)
    (Entry.nodup_keys_firsts taken es')
  rw [Entry.toFinset_keys_firsts, Entry.toFinset_keys_firsts, Entry.freeKeys_perm taken h]

namespace Store

def addedRows (now : Timestamp) (w : WorkspaceId) (taken : String → Bool) (es : List Entry) :
    Table :=
  ⟨(Entry.firsts taken es).map (Entry.row now w)⟩

theorem keys_addedRows (now : Timestamp) (w : WorkspaceId) (taken : String → Bool)
    (es : List Entry) : (addedRows now w taken es).rows.map Row.key =
      ((Entry.firsts taken es).map Entry.key).map fun key => (w, key) := by
  rw [addedRows, List.map_map, List.map_map]
  rfl

theorem addedRows_keys_distinct : (addedRows now w taken es).KeysDistinct := by
  rw [Table.KeysDistinct, keys_addedRows]
  exact (Entry.nodup_keys_firsts taken es).map fun _ _ h => (Prod.mk.inj h).2

theorem contains_addedRows {k : Key} : (addedRows now w taken es).contains k = true ↔
    k.1 = w ∧ k.2 ∈ es.map Entry.key ∧ taken k.2 = false := by
  rw [Table.contains_iff_mem_keys, keys_addedRows, ← Entry.mem_keys_firsts, List.mem_map]
  constructor
  · rintro ⟨key, hkey, rfl⟩
    exact ⟨rfl, hkey⟩
  · rintro ⟨rfl, hkey⟩
    exact ⟨k.2, hkey, rfl⟩

theorem find?_addedRows (hfree : taken key = false) :
    (addedRows now w taken es).find? (w, key) =
      (es.find? fun e => e.key == key).map (Entry.row now w) := by
  cases hfind : (addedRows now w taken es).find? (w, key) with
  | some r =>
    obtain ⟨e, he, rfl⟩ := List.mem_map.1 (Table.find?_mem hfind)
    have hkey : e.key = key := (Prod.mk.inj (Table.find?_key hfind)).2
    rw [← hkey, Entry.find?_of_mem_firsts he]
    rfl
  | none =>
    have habsent : ¬(addedRows now w taken es).contains (w, key) = true := by
      rw [Table.contains_eq_isSome, hfind]
      decide
    have hnone : es.find? (fun e => e.key == key) = none := by
      rw [List.find?_eq_none]
      intro e he hk
      obtain rfl := beq_iff_eq.1 hk
      exact habsent (contains_addedRows.2 ⟨rfl, List.mem_map_of_mem he, hfree⟩)
    rw [hnone]
    rfl

theorem Table.withKey_insertBatch (now : Timestamp) (w : WorkspaceId) (t : Table)
    (es : List Entry) (k : Key) : (t.insertBatch now w es).withKey k = t.withKey k ++
      (addedRows now w (fun key => t.contains (w, key)) es).withKey k :=
  List.filter_append _ _

theorem Table.withKey_insertBatch_of_kept {k : Key}
    (h : k.1 ≠ w ∨ t.contains k = true) : (t.insertBatch now w es).withKey k = t.withKey k := by
  have hnone : (addedRows now w (fun key => t.contains (w, key)) es).contains k = false := by
    rw [← Bool.not_eq_true, contains_addedRows]
    rintro ⟨rfl, _, hfree⟩
    rcases h with hw | hc
    · exact hw rfl
    · exact Bool.false_ne_true (hfree.symm.trans hc)
  rw [withKey_insertBatch, withKey_of_absent hnone, List.append_nil]

theorem Table.withKey_insertBatch_of_absent (h : t.contains (w, key) = false) :
    (t.insertBatch now w es).withKey (w, key) =
      ((es.find? fun e => e.key == key).map (Entry.row now w)).toList := by
  rw [withKey_insertBatch, withKey_of_absent h, List.nil_append, addedRows_keys_distinct.withKey,
    find?_addedRows h]

theorem Entry.find?_perm (now : Timestamp) (w : WorkspaceId) (h : es.Perm es')
    (hagree : ∀ e ∈ es, ∀ e' ∈ es, e.key = key → e'.key = key →
      e.fileType = e'.fileType ∧ e.fileSize = e'.fileSize) :
    (es.find? fun e => e.key == key).map (Entry.row now w) =
      (es'.find? fun e => e.key == key).map (Entry.row now w) := by
  cases hfind : es.find? (fun e => e.key == key) with
  | none =>
    have hnone : es'.find? (fun e => e.key == key) = none :=
      List.find?_eq_none.2 fun e he => List.find?_eq_none.1 hfind e (h.mem_iff.2 he)
    rw [hnone]
  | some e =>
    have hmem : e ∈ es := List.mem_of_find?_eq_some hfind
    have hkey : e.key = key := by simpa using List.find?_some hfind
    cases hfind' : es'.find? (fun e => e.key == key) with
    | none => exact absurd (beq_iff_eq.2 hkey) (List.find?_eq_none.1 hfind' e (h.mem_iff.1 hmem))
    | some e' =>
      have hmem' : e' ∈ es := h.mem_iff.2 (List.mem_of_find?_eq_some hfind')
      have hkey' : e'.key = key := by simpa using List.find?_some hfind'
      obtain ⟨htype, hsize⟩ := hagree e hmem e' hmem' hkey hkey'
      simp only [Option.map_some, Entry.row, hkey, hkey', htype, hsize]

theorem Table.keys_insertBatch_perm (now : Timestamp) (w : WorkspaceId) (t : Table)
    (h : es.Perm es') : ((t.insertBatch now w es).rows.map Row.key).Perm
      ((t.insertBatch now w es').rows.map Row.key) := by
  rw [insertBatch, insertBatch, List.map_append, List.map_append]
  apply List.Perm.append_left
  change ((addedRows now w _ es).rows.map Row.key).Perm ((addedRows now w _ es').rows.map Row.key)
  rw [keys_addedRows, keys_addedRows]
  exact (Entry.keys_firsts_perm _ h).map _

end Store
end StorageLedger

namespace StorageLedger.Ledger
open StorageLedger.Store

theorem batchLogs_perm (w : WorkspaceId) (count : Nat) {es es' : List Entry} (h : es.Perm es') :
    batchLogs w count es = batchLogs w count es' := by
  rw [batchLogs, batchLogs, h.isEmpty_eq, h.length_eq]

/-- Batches of the same valid entries in two orders answer the same and leave the same keys. They
leave the same rows of a key unless entries of it differ in type or size. A key that had no row gets
that of the entry which comes first in its batch. -/
theorem Session.batch_order_decides_ties (s : Session) (handle : Handle) (w : WorkspaceId)
    (es es' : List Entry) (hperm : es.Perm es') (hes : ∀ e ∈ es, e.Valid) :
    let load (es : List Entry) := s.step (.call (.insertBulk w (.entries es)) handle none)
    let before := s.rowsFor handle
    let after := (load es).1.rowsFor handle
    let after' := (load es').1.rowsFor handle
    let count := (Entry.freeKeys (fun key => before.contains (w, key)) es).card
    let first (es : List Entry) (key : String) :=
      (es.find? fun e => e.key == key).map (Entry.row (stamp (s.steps + 1)) w)
    ((load es).2 = .call (.ok (.count count)) (batchLogs w count es) ∧
      (load es').2 = (load es).2) ∧
      (after.rows.map Row.key).Perm (after'.rows.map Row.key) ∧
      (∀ k : Key, (∀ e ∈ es, ∀ e' ∈ es, (w, e.key) = k → (w, e'.key) = k →
        e.fileType = e'.fileType ∧ e.fileSize = e'.fileSize) → after.withKey k = after'.withKey k) ∧
      ∀ key, before.contains (w, key) = false →
        after.withKey (w, key) = (first es key).toList ∧
          after'.withKey (w, key) = (first es' key).toList := by
  intro load before after after' count first
  have hes' : ∀ e ∈ es', e.Valid := fun e he => hes e (hperm.mem_iff.2 he)
  obtain ⟨hanswer, hafter⟩ := s.step_insertBulk handle w (.entries es) rfl hes
  obtain ⟨hanswer', hafter'⟩ := s.step_insertBulk handle w (.entries es') rfl hes'
  change after = before.insertBatch (stamp (s.steps + 1)) w es at hafter
  change after' = before.insertBatch (stamp (s.steps + 1)) w es' at hafter'
  rw [hafter, hafter']
  refine ⟨⟨hanswer, ?_⟩, Table.keys_insertBatch_perm _ w before hperm, ?_, ?_⟩
  · rw [← Entry.freeKeys_perm _ hperm, ← batchLogs_perm w _ hperm] at hanswer'
    exact hanswer'.trans hanswer.symm
  · rintro ⟨v, key⟩ hagree
    -- A key of another workspace, or one that had a row, is left alone by both.
    by_cases hkept : v ≠ w ∨ before.contains (v, key) = true
    · rw [Table.withKey_insertBatch_of_kept hkept, Table.withKey_insertBatch_of_kept hkept]
    · obtain ⟨hv, hc⟩ := not_or.1 hkept
      obtain rfl := not_not.1 hv
      have habsent : before.contains (v, key) = false := Bool.not_eq_true _ ▸ hc
      rw [Table.withKey_insertBatch_of_absent habsent, Table.withKey_insertBatch_of_absent habsent,
        Entry.find?_perm _ v hperm]
      intro e he e' he' hkey hkey'
      exact hagree e he e' he' (congrArg _ hkey) (congrArg _ hkey')
  · intro key hc
    exact ⟨Table.withKey_insertBatch_of_absent hc, Table.withKey_insertBatch_of_absent hc⟩

theorem Session.tie_decided_by_order :
    let w : WorkspaceId := ⟨7, by decide⟩
    let s := (Session.start.step (.call (.upsert w "o_a" "text/plain" (.int 5)) .engine none)).1
    let a : Entry := ⟨"o", "a", "text/css", 4⟩
    let b : Entry := ⟨"o", "b_c", "text/html", 1⟩
    let b' : Entry := ⟨"o_b", "c", "image/png", 2⟩
    let load (es : List Entry) := s.step (.call (.insertBulk w (.entries es)) .engine none)
    let kept : Row := ⟨w, "o_a", "text/plain", 5, stamp 1⟩
    ([a, b, b'].Perm [b', a, b] ∧ ∀ e ∈ [a, b, b'], e.Valid) ∧
      (load [b', a, b]).2 = (load [a, b, b']).2 ∧
      (load [a, b, b']).1.committed.withKey (w, "o_a") =
        (load [b', a, b]).1.committed.withKey (w, "o_a") ∧
      (load [a, b, b']).1.committed.withKey (w, "o_b_c") = [b.row (stamp 2) w] ∧
      (load [b', a, b]).1.committed.withKey (w, "o_b_c") = [b'.row (stamp 2) w] ∧
      (load [b', a, b]).1.committed.withKey (w, "o_a") = [kept] := by
  intro w s a b b' load kept
  have hperm : [a, b, b'].Perm [b', a, b] := by decide
  have hes : ∀ e ∈ [a, b, b'], e.Valid := by
    simp [a, b, b', Entry.Valid, Validation.maxSize]
  obtain ⟨⟨_, hsame⟩, _, hagreed, hfirst⟩ :=
    s.batch_order_decides_ties .engine w [a, b, b'] [b', a, b] hperm hes
  have hrow : ∀ e ∈ [a, b, b'], ∀ e' ∈ [a, b, b'], (w, e.key) = (w, "o_a") →
      (w, e'.key) = (w, "o_a") → e.fileType = e'.fileType ∧ e.fileSize = e'.fileSize := by
    decide +kernel
  obtain ⟨hb, hb'⟩ := hfirst "o_b_c" (by decide +kernel)
  exact ⟨⟨hperm, hes⟩, hsame, hagreed (w, "o_a") hrow, hb, hb', by decide +kernel⟩

end StorageLedger.Ledger
