import StorageLedger.Proofs.BatchOrder

namespace StorageLedger

section Separator

variable {sep : α} {xs ys xs' ys' : List α}

/-- Two ways to write a list around a separator: the same way, or around two of its separators. -/
theorem append_sep_eq_iff : xs ++ sep :: ys = xs' ++ sep :: ys' ↔
    (xs = xs' ∧ ys = ys') ∨ (∃ m, xs' = xs ++ sep :: m ∧ ys = m ++ sep :: ys') ∨
      ∃ m, xs = xs' ++ sep :: m ∧ ys' = m ++ sep :: ys := by
  constructor
  · intro h
    rcases List.append_eq_append_iff.1 h with ⟨m, hxs, hys⟩ | ⟨m, hxs, hys⟩
    · cases m with
      | nil =>
        obtain rfl := (List.append_nil xs ▸ hxs).symm
        exact .inl ⟨rfl, List.tail_eq_of_cons_eq hys⟩
      | cons a m =>
        obtain ⟨rfl, rfl⟩ := List.cons.inj hys
        exact .inr (.inl ⟨m, hxs, rfl⟩)
    · cases m with
      | nil =>
        obtain rfl := List.append_nil xs' ▸ hxs
        exact .inl ⟨rfl, (List.tail_eq_of_cons_eq hys).symm⟩
      | cons a m =>
        obtain ⟨rfl, rfl⟩ := List.cons.inj hys
        exact .inr (.inr ⟨m, hxs, rfl⟩)
  · rintro (⟨rfl, rfl⟩ | ⟨m, rfl, rfl⟩ | ⟨m, rfl, rfl⟩)
    · rfl
    · simp
    · simp

variable [DecidableEq α]

/-- The parts of a list around each of its separators. -/
def partsAround (sep : α) : List α → List (List α × List α)
  | [] => []
  | a :: rest =>
    let later := (partsAround sep rest).map fun p => (a :: p.1, p.2)
    if a = sep then ([], rest) :: later else later

theorem mem_partsAround {zs : List α} :
    (xs, ys) ∈ partsAround sep zs ↔ zs = xs ++ sep :: ys := by
  induction zs generalizing xs with
  | nil => simp [partsAround]
  | cons a zs ih =>
    have hlater : (xs, ys) ∈ (partsAround sep zs).map (fun p => (a :: p.1, p.2)) ↔
        ∃ xs', xs = a :: xs' ∧ zs = xs' ++ sep :: ys := by
      rw [List.mem_map]
      constructor
      · rintro ⟨⟨xs', ys'⟩, hmem, hp⟩
        obtain ⟨rfl, rfl⟩ := Prod.mk.inj hp
        exact ⟨xs', rfl, ih.1 hmem⟩
      · rintro ⟨xs', rfl, hzs⟩
        exact ⟨(xs', ys), ih.2 hzs, rfl⟩
    cases xs with
    | nil =>
      by_cases ha : a = sep
      · simp only [partsAround, if_pos ha, List.mem_cons, hlater]
        simp [ha, eq_comm]
      · simp only [partsAround, if_neg ha, hlater]
        simp [ha]
    | cons x xs =>
      by_cases ha : a = sep
      · simp only [partsAround, if_pos ha, List.mem_cons, hlater]
        simp [eq_comm]
      · simp only [partsAround, if_neg ha, hlater]
        simp [eq_comm]

theorem nodup_partsAround (sep : α) (zs : List α) : (partsAround sep zs).Nodup := by
  induction zs with
  | nil => exact List.nodup_nil
  | cons a zs ih =>
    have hlater : ((partsAround sep zs).map fun p => (a :: p.1, p.2)).Nodup := by
      refine ih.map ?_
      rintro ⟨xs, ys⟩ ⟨xs', ys'⟩ h
      obtain ⟨hxs, rfl⟩ := Prod.mk.inj h
      exact Prod.ext (List.tail_eq_of_cons_eq hxs) rfl
    by_cases ha : a = sep
    · simp only [partsAround, if_pos ha]
      exact List.nodup_cons.2 ⟨by simp, hlater⟩
    · simp only [partsAround, if_neg ha]
      exact hlater

theorem length_partsAround (sep : α) (zs : List α) :
    (partsAround sep zs).length = zs.count sep := by
  induction zs with
  | nil => rfl
  | cons a zs ih =>
    by_cases ha : a = sep
    · simp [partsAround, ha, ih]
    · simp [partsAround, ha, ih]

end Separator

theorem toList_blobKey (objectId fileId : String) :
    (blobKey objectId fileId).toList = objectId.toList ++ '_' :: fileId.toList := by
  simp [blobKey]

theorem blobKey_eq_iff {o₁ f₁ o₂ f₂ : String} : blobKey o₁ f₁ = blobKey o₂ f₂ ↔
    (o₁, f₁) = (o₂, f₂) ∨ (∃ m, o₂ = o₁ ++ "_" ++ m ∧ f₁ = m ++ "_" ++ f₂) ∨
      ∃ m, o₁ = o₂ ++ "_" ++ m ∧ f₂ = m ++ "_" ++ f₁ := by
  have hmove (o f o' f' : String) :
      (∃ m, o'.toList = o.toList ++ '_' :: m ∧ f.toList = m ++ '_' :: f'.toList) ↔
        ∃ m, o' = o ++ "_" ++ m ∧ f = m ++ "_" ++ f' := by
    constructor
    · rintro ⟨m, ho, hf⟩
      exact ⟨String.ofList m, by simp [← String.toList_inj, ho], by simp [← String.toList_inj, hf]⟩
    · rintro ⟨m, rfl, rfl⟩
      exact ⟨m.toList, by simp, by simp⟩
  rw [← String.toList_inj, toList_blobKey, toList_blobKey, append_sep_eq_iff, hmove, hmove,
    Prod.mk.injEq, String.toList_inj, String.toList_inj]

theorem encard_blobKey_eq (key : String) :
    {p : String × String | blobKey p.1 p.2 = key}.encard = key.toList.count '_' := by
  let pairs := (partsAround '_' key.toList).map (Prod.map String.ofList String.ofList)
  have hset : {p : String × String | blobKey p.1 p.2 = key} = pairs.toFinset := by
    ext ⟨o, f⟩
    rw [Set.mem_ofPred_eq, Finset.mem_coe, List.mem_toFinset, List.mem_map, ← String.toList_inj,
      toList_blobKey]
    constructor
    · intro h
      exact ⟨(o.toList, f.toList), mem_partsAround.2 h.symm, by simp⟩
    · rintro ⟨⟨xs, ys⟩, hmem, hp⟩
      obtain ⟨rfl, rfl⟩ := Prod.mk.inj hp
      simpa using (mem_partsAround.1 hmem).symm
  have hinj : Function.Injective String.ofList := fun _ _ h => String.ofList_injective h
  have hnodup : pairs.Nodup := (nodup_partsAround '_' key.toList).map (hinj.prodMap hinj)
  rw [hset, Set.encard_coe_eq_coe_finsetCard, List.toFinset_card_of_nodup hnodup, List.length_map,
    length_partsAround]

theorem blobKey_inj_of_plain {o₁ f₁ o₂ f₂ : String} (h₁ : '_' ∉ o₁.toList) (h₂ : '_' ∉ o₂.toList)
    (h : blobKey o₁ f₁ = blobKey o₂ f₂) : (o₁, f₁) = (o₂, f₂) := by
  rcases blobKey_eq_iff.1 h with h | ⟨m, rfl, _⟩ | ⟨m, rfl, _⟩
  · exact h
  · exact absurd (by simp) h₂
  · exact absurd (by simp) h₁

namespace Entry

variable {es : List Entry} {e : Entry}

def names (e : Entry) : String × String := (e.objectId, e.fileId)

theorem nodup_keys_of_plain (hplain : ∀ e ∈ es, '_' ∉ e.objectId.toList)
    (hnames : (es.map names).Nodup) : (es.map key).Nodup := by
  refine List.pairwise_map.2 ((List.pairwise_map.1 hnames).imp_of_mem ?_)
  intro e e' he he' hne hkey
  exact hne (blobKey_inj_of_plain (hplain e he) (hplain e' he') hkey)

theorem card_freeKeys_of_nodup {taken : String → Bool} (hkeys : (es.map key).Nodup)
    (hfree : ∀ e ∈ es, taken e.key = false) : (freeKeys taken es).card = es.length := by
  have hall : freeKeys taken es = (es.map key).toFinset := by
    refine Finset.filter_true_of_mem ?_
    intro k hk
    obtain ⟨e, he, rfl⟩ := List.mem_map.1 (List.mem_toFinset.1 hk)
    exact hfree e he
  rw [hall, List.toFinset_card_of_nodup hkeys, List.length_map]

theorem find?_key_of_nodup (hkeys : (es.map key).Nodup) (he : e ∈ es) :
    es.find? (fun e' => e'.key == e.key) = some e := by
  cases hfind : es.find? (fun e' => e'.key == e.key) with
  | none => exact absurd (beq_self_eq_true e.key) (List.find?_eq_none.1 hfind e he)
  | some e' =>
    have hkey : e'.key = e.key := by simpa using List.find?_some hfind
    exact congrArg some (List.inj_on_of_nodup_map hkeys (List.mem_of_find?_eq_some hfind) he hkey)

end Entry
end StorageLedger

namespace StorageLedger.Ledger
open StorageLedger.Calendar StorageLedger.Store

theorem Call.run_get_of_withKey (now : Timestamp) (handle : Handle) {t : Table} {r : Row}
    (hrow : t.withKey r.key = [r]) (hr : r.Valid (·.date.year ≠ 0)) :
    ((Call.get r.workspaceId r.fileId).run { now := now } handle none t).result =
        .ok (.record r.toRecord) ∧
      ((Call.get r.workspaceId r.fileId).run { now := now } handle none t).logs =
        (Call.get r.workspaceId r.fileId).openingLogs := by
  have hreply : execute now t (.lookUp r.workspaceId r.fileId) = .ok (rowsReply [r], t) := by
    rw [execute, ← hrow]
    rfl
  obtain ⟨hresult, hlogs⟩ :=
    (Call.get r.workspaceId r.fileId).run_faultless handle rfl hreply rfl
  refine ⟨hresult.trans ?_, hlogs.trans (List.append_nil _)⟩
  obtain ⟨hpos, hmax, hyear⟩ := hr
  simp only [recordOf, objects_rowsReply, List.map_cons, ofValue_row_ok hpos hmax hyear]
  rfl

/-- Two pairs of names have the same key exactly if they are the same, or one is the other with an
underscore moved from the file to the object; so a key is that of as many pairs as it has
underscores. A batch of valid entries whose objects hold no underscore, of distinct pairs and of
keys without a row, is inserted as a whole, and each entry is found under its key as it is. -/
theorem Session.keys_collide_only_at_underscores :
    (∀ o₁ f₁ o₂ f₂ : String, blobKey o₁ f₁ = blobKey o₂ f₂ ↔
      (o₁, f₁) = (o₂, f₂) ∨ (∃ m, o₂ = o₁ ++ "_" ++ m ∧ f₁ = m ++ "_" ++ f₂) ∨
        ∃ m, o₁ = o₂ ++ "_" ++ m ∧ f₂ = m ++ "_" ++ f₁) ∧
      (∀ key : String,
        {p : String × String | blobKey p.1 p.2 = key}.encard = key.toList.count '_') ∧
      ∀ (s : Session) (handle : Handle) (w : WorkspaceId) (batch : Batch) (es : List Entry),
        batch.entries? = .ok es → (∀ e ∈ es, e.Valid) →
        (∀ e ∈ es, '_' ∉ e.objectId.toList) → (es.map Entry.names).Nodup →
        (∀ e ∈ es, (s.rowsFor handle).contains (w, e.key) = false) →
        let loaded := s.step (.call (.insertBulk w batch) handle none)
        loaded.2 = .call (.ok (.count es.length)) (batchLogs w es.length es) ∧
          ∀ e ∈ es, (loaded.1.step (.call (.get w e.key) handle none)).2 =
            .call (.ok (.record ⟨w, e.key, e.fileType, e.fileSize, some (stamp (s.steps + 1))⟩))
              (Call.get w e.key).openingLogs := by
  refine ⟨fun _ _ _ _ => blobKey_eq_iff, encard_blobKey_eq, ?_⟩
  intro s handle w batch es hbatch hes hplain hnames hfree loaded
  have hkeys : (es.map Entry.key).Nodup := Entry.nodup_keys_of_plain hplain hnames
  obtain ⟨hanswer, hrows⟩ := s.step_insertBulk handle w batch hbatch hes
  rw [Entry.card_freeKeys_of_nodup hkeys hfree] at hanswer
  refine ⟨hanswer, ?_⟩
  intro e he
  let r := e.row (stamp (s.steps + 1)) w
  have hrow : (loaded.1.rowsFor handle).withKey r.key = [r] := by
    change (loaded.1.rowsFor handle).withKey (w, e.key) = [r]
    rw [hrows, Table.withKey_insertBatch_of_absent (hfree e he), Entry.find?_key_of_nodup hkeys he]
    rfl
  have hr : r.Valid (·.date.year ≠ 0) := ⟨(hes e he).1, (hes e he).2, stamp_year _⟩
  obtain ⟨hresult, hlogs⟩ := Call.run_get_of_withKey (stamp (loaded.1.steps + 1)) handle hrow hr
  exact (loaded.1.step_answer _ handle none).trans (congrArg₂ Answer.call hresult hlogs)

theorem Session.plain_objects_keep_entries :
    let w : WorkspaceId := ⟨7, by decide⟩
    let s := (Session.start.step (.call (.upsert w "o_a" "text/plain" (.int 5)) .session none)).1
    let es : List Entry :=
      [⟨"o", "b_c", "text/html", 1⟩, ⟨"p", "b_c", "image/png", 2⟩, ⟨"o", "b", "text/css", 3⟩]
    let loaded := s.step (.call (.insertBulk w (.entries es)) .session none)
    (∀ e ∈ es, e.Valid) ∧ (∀ e ∈ es, '_' ∉ e.objectId.toList) ∧ (es.map Entry.names).Nodup ∧
      (∀ e ∈ es, (s.rowsFor .session).contains (w, e.key) = false) ∧
      loaded.2 = .call (.ok (.count 3)) [bulkLog w 3 3] ∧
      (loaded.1.step (.call (.get w "p_b_c") .session none)).2 =
        .call (.ok (.record ⟨w, "p_b_c", "image/png", 2, some (stamp 2)⟩))
          (Call.get w "p_b_c").openingLogs := by
  intro w s es loaded
  have hes : ∀ e ∈ es, e.Valid := by
    simp [es, Entry.Valid, Validation.maxSize]
  have hplain : ∀ e ∈ es, '_' ∉ e.objectId.toList := by decide
  have hnames : (es.map Entry.names).Nodup := by decide
  have hfree : ∀ e ∈ es, (s.rowsFor .session).contains (w, e.key) = false := by decide +kernel
  obtain ⟨_, _, hload⟩ := Session.keys_collide_only_at_underscores
  obtain ⟨hanswer, hget⟩ := hload s .session w (.entries es) es rfl hes hplain hnames hfree
  have hsteps : s.steps = 1 := Session.start.step_steps _
  have hkey : Entry.key ⟨"p", "b_c", "image/png", 2⟩ = "p_b_c" := by decide
  have hfound := hget ⟨"p", "b_c", "image/png", 2⟩ (by simp [es])
  rw [hkey, hsteps] at hfound
  exact ⟨hes, hplain, hnames, hfree, hanswer, hfound⟩

end StorageLedger.Ledger
