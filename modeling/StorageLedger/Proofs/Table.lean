import StorageLedger.Store.Table

namespace StorageLedger.Store.Table

/-- No two rows share a key. -/
def KeysDistinct (t : Table) : Prop := (t.rows.map Row.key).Nodup

theorem find?_mem {t : Table} (h : t.find? k = some r) : r ∈ t.rows := List.mem_of_find?_eq_some h

theorem find?_key {t : Table} (h : t.find? k = some r) : r.key = k :=
  beq_iff_eq.1 (List.find?_some (p := fun r : Row => r.key == k) h)

theorem contains_eq_isSome (t : Table) (k : Key) : t.contains k = (t.find? k).isSome := by
  rw [Bool.eq_iff_iff, contains, find?, List.find?_isSome, List.any_eq_true]

theorem contains_eq_false {t : Table} : t.contains k = false ↔ ∀ r ∈ t.rows, r.key ≠ k := by
  simp only [contains, List.any_eq_false, beq_iff_eq, ne_eq]

theorem contains_iff_mem_keys {t : Table} : t.contains k = true ↔ k ∈ t.rows.map Row.key := by
  simp only [contains, List.any_eq_true, beq_iff_eq, List.mem_map]

theorem put_of_contains {t : Table} {row : Row} (h : t.contains row.key = true) :
    t.put row = ⟨t.rows.map fun r => if r.key = row.key then row else r⟩ := if_pos h

theorem put_of_absent {t : Table} {row : Row} (h : t.contains row.key = false) :
    t.put row = ⟨t.rows ++ [row]⟩ := if_neg (Bool.not_eq_true _ ▸ h)

theorem putIfAbsent_of_contains {t : Table} {row : Row} (h : t.contains row.key = true) :
    t.putIfAbsent row = t := if_pos h

theorem putIfAbsent_of_absent {t : Table} {row : Row} (h : t.contains row.key = false) :
    t.putIfAbsent row = ⟨t.rows ++ [row]⟩ := if_neg (Bool.not_eq_true _ ▸ h)

theorem prefix_putIfAbsent (t : Table) (row : Row) : t.rows <+: (t.putIfAbsent row).rows := by
  cases hc : t.contains row.key with
  | true => simp only [putIfAbsent_of_contains hc, List.prefix_rfl]
  | false => simp only [putIfAbsent_of_absent hc, List.prefix_append]

theorem find?_append (rows : List Row) (row : Row) (k : Key) :
    (Table.mk (rows ++ [row])).find? k =
      ((Table.mk rows).find? k).or (if row.key = k then some row else none) := by
  simp only [find?, List.find?_append, List.find?_singleton, beq_iff_eq]

theorem find?_replace (rows : List Row) (row : Row) (k : Key) :
    (Table.mk (rows.map fun r => if r.key = row.key then row else r)).find? k =
      if row.key = k then ((Table.mk rows).find? k).map fun _ => row
      else (Table.mk rows).find? k := by
  simp only [find?]
  induction rows with
  | nil => simp
  | cons r rows ih =>
    simp only [List.map_cons, List.find?_cons]
    by_cases hr : r.key = row.key
    · rw [if_pos hr, hr]
      by_cases hk : row.key = k
      · simp [hk]
      · simp only [beq_eq_false_iff_ne.2 hk, ih, if_neg hk]
    · rw [if_neg hr]
      by_cases hk : r.key = k
      · have hne : row.key ≠ k := fun he => hr (hk.trans he.symm)
        simp [hk, hne]
      · simp only [beq_eq_false_iff_ne.2 hk, ih]

theorem find?_put (t : Table) (row : Row) (k : Key) :
    (t.put row).find? k = if row.key = k then some row else t.find? k := by
  cases hc : t.contains row.key with
  | true =>
    rw [put_of_contains hc, find?_replace]
    by_cases hk : row.key = k
    · rw [contains_eq_isSome, hk] at hc
      obtain ⟨r, hr⟩ := Option.isSome_iff_exists.1 hc
      rw [if_pos hk, if_pos hk, hr]
      rfl
    · rw [if_neg hk, if_neg hk]
  | false =>
    rw [put_of_absent hc, find?_append]
    by_cases hk : row.key = k
    · have hnone : t.find? k = none := by
        rw [contains_eq_isSome, hk] at hc
        exact Option.isNone_iff_eq_none.1 (Option.isSome_eq_false_iff.1 hc)
      rw [if_pos hk, if_pos hk, hnone]
      rfl
    · rw [if_neg hk, if_neg hk]
      exact Option.or_none

theorem find?_putIfAbsent (t : Table) (row : Row) (k : Key) :
    (t.putIfAbsent row).find? k = (t.find? k).or (if row.key = k then some row else none) := by
  cases hc : t.contains row.key with
  | true =>
    rw [putIfAbsent_of_contains hc]
    by_cases hk : row.key = k
    · rw [contains_eq_isSome, hk] at hc
      obtain ⟨r, hr⟩ := Option.isSome_iff_exists.1 hc
      rw [hr]
      rfl
    · rw [if_neg hk]
      exact Option.or_none.symm
  | false =>
    rw [putIfAbsent_of_absent hc]
    exact find?_append t.rows row k

theorem find?_erase (t : Table) (k' k : Key) :
    (t.erase k').find? k = if k' = k then none else t.find? k := by
  simp only [erase, find?, List.find?_filter]
  split
  · next hk =>
    rw [List.find?_eq_none]
    intro r _
    simp [hk]
  · next hk =>
    congr 1
    funext r
    by_cases hr : r.key = k
    · have hne : k ≠ k' := fun he => hk he.symm
      simp [hr, hne]
    · simp [hr]

theorem KeysDistinct.empty : KeysDistinct empty := List.nodup_nil

theorem KeysDistinct.append {rows : List Row} {row : Row} (h : KeysDistinct ⟨rows⟩)
    (hc : (Table.mk rows).contains row.key = false) : KeysDistinct ⟨rows ++ [row]⟩ := by
  have hne : ∀ k ∈ rows.map Row.key, k ≠ row.key := by
    intro k hk
    obtain ⟨r, hr, rfl⟩ := List.mem_map.1 hk
    exact contains_eq_false.1 hc r hr
  have hkeys : (rows.map Row.key ++ [row.key]).Nodup :=
    List.nodup_append.2 ⟨h, List.pairwise_singleton _ _, by simpa using hne⟩
  simpa [KeysDistinct] using hkeys

theorem KeysDistinct.put {t : Table} (h : t.KeysDistinct) (row : Row) :
    (t.put row).KeysDistinct := by
  cases hc : t.contains row.key with
  | true =>
    have hkeys : (t.rows.map fun r => if r.key = row.key then row else r).map Row.key =
        t.rows.map Row.key := by
      rw [List.map_map]
      apply List.map_congr_left
      intro r _
      simp only [Function.comp_apply]
      split
      · next hk => exact hk.symm
      · rfl
    rw [put_of_contains hc, KeysDistinct, hkeys]
    exact h
  | false =>
    rw [put_of_absent hc]
    exact h.append hc

theorem KeysDistinct.put_if_absent {t : Table} (h : t.KeysDistinct) (row : Row) :
    (t.putIfAbsent row).KeysDistinct := by
  cases hc : t.contains row.key with
  | true =>
    rw [putIfAbsent_of_contains hc]
    exact h
  | false =>
    rw [putIfAbsent_of_absent hc]
    exact h.append hc

theorem KeysDistinct.erase {t : Table} (h : t.KeysDistinct) (k : Key) :
    (t.erase k).KeysDistinct :=
  h.sublist (List.filter_sublist.map Row.key)

theorem withKey_of_absent {t : Table} (h : t.contains k = false) : t.withKey k = [] := by
  rw [withKey, List.filter_eq_nil_iff]
  intro r hr
  simpa using contains_eq_false.1 h r hr

/-- Where keys are distinct, the rows of a key are the one found, or none. -/
theorem KeysDistinct.withKey {t : Table} (h : t.KeysDistinct) (k : Key) :
    t.withKey k = (t.find? k).toList := by
  obtain ⟨rows⟩ := t
  simp only [Table.withKey, find?]
  induction rows with
  | nil => rfl
  | cons r rows ih =>
    obtain ⟨hr, hrows⟩ := List.nodup_cons.1 (show (r.key :: rows.map Row.key).Nodup from h)
    rw [List.filter_cons, List.find?_cons]
    by_cases hk : r.key = k
    -- No row behind the first of the key has this key again.
    · have hrest : rows.filter (fun r => r.key == k) = [] := by
        rw [List.filter_eq_nil_iff]
        intro r' hr' he
        exact hr (List.mem_map.2 ⟨r', hr', (eq_of_beq he).trans hk.symm⟩)
      simp only [hk, BEq.rfl, if_true, hrest, Option.toList_some]
    · simp only [beq_eq_false_iff_ne.2 hk, Bool.false_eq_true, if_false]
      exact ih hrows

end StorageLedger.Store.Table
