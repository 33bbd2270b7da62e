import StorageLedger.Proofs.BatchInsertion
import StorageLedger.Proofs.Manifest
import StorageLedger.Proofs.TextReport

namespace StorageLedger.Entry
open StorageLedger.Validation StorageLedger.Text

variable {es : List Entry}

theorem ofJson_eq_ok_iff {v : Json} : ofJson v = .ok es ↔ ∃ items, v = .list items ∧
    List.Forall₂ (fun item e => ofValue item.toValue = .ok e) items es := by
  constructor
  · intro h
    cases v with
    | list items =>
      rw [ofJson_list] at h
      cases hitems : ofItems 0 (items.map Json.toValue) with
      | error is =>
        rw [hitems] at h
        cases h
      | ok es' =>
        rw [hitems] at h
        cases h
        exact ⟨items, rfl, List.forall₂_map_left_iff.1 (ofItems_eq_ok_iff.1 hitems)⟩
    | _ => cases h
  · rintro ⟨items, rfl, hitems⟩
    rw [ofJson_list, ofItems_eq_ok_iff.2 (List.forall₂_map_left_iff.2 hitems)]
    rfl

theorem valid_of_items {items : List Json}
    (h : List.Forall₂ (fun item e => ofValue item.toValue = .ok e) items es) :
    ∀ e ∈ es, e.Valid := by
  induction h with
  | nil => exact List.forall_mem_nil _
  | cons hhead _ ih => exact List.forall_mem_cons.2 ⟨ofValue_valid hhead, ih⟩

theorem ofManifest_valid {bs : List UInt8} (h : ofManifest bs = .ok es) : ∀ e ∈ es, e.Valid := by
  unfold ofManifest at h
  split at h
  · obtain ⟨items, -, hitems⟩ := ofJson_eq_ok_iff.1 h
    exact valid_of_items hitems
  · cases h

/-- One bad item, wherever it stands, spoils the manifest. -/
theorem ofManifest_of_bad_item {items : List Json} {item : Json} {cs : List Char}
    (htext : Json.IsText .manifest (.list items) cs) (hitem : item ∈ items)
    (hbad : ∃ r, ofValue item.toValue = .error r) : ∃ r, ofManifest (octets cs) = .error r := by
  obtain ⟨r, hr⟩ := hbad
  rw [ofManifest_of_isText htext]
  cases hes : ofJson (.list items) with
  | error r' => exact ⟨r', rfl⟩
  | ok es =>
    obtain ⟨items', hlist, hitems⟩ := ofJson_eq_ok_iff.1 hes
    cases hlist
    obtain ⟨e, he⟩ := exists_entry_of_mem hitems hitem
    cases hr.symm.trans he

theorem card_freeKeys_le (taken : String → Bool) (es : List Entry) :
    (freeKeys taken es).card ≤ es.length := by
  calc (freeKeys taken es).card ≤ (es.map Entry.key).toFinset.card := Finset.card_filter_le _ _
    _ ≤ (es.map Entry.key).length := List.toFinset_card_le _
    _ = es.length := List.length_map _

end StorageLedger.Entry

namespace StorageLedger.Command
open StorageLedger.Console StorageLedger.Ledger StorageLedger.Store StorageLedger.Text

section Counts

theorem ascii_of_mem_repr {n : Int} {c : Char} (h : c ∈ n.repr.toList) :
    0x20 ≤ c.toNat ∧ c.toNat < 0x7F := by
  rcases sign_or_digit_of_mem_repr h with rfl | hdigit
  · decide
  · simp only [Char.isDigit, Bool.and_eq_true, decide_eq_true_eq, UInt32.le_iff_toNat_le] at hdigit
    exact ⟨le_trans (by decide) hdigit.1, lt_of_le_of_lt hdigit.2 (by decide)⟩

theorem ascii_countsLine (inserted skipped : Int) :
    ∀ c ∈ countsLine inserted skipped, 0x20 ≤ c.toNat ∧ c.toNat < 0x7F := by
  simp only [countsLine, String.toList_append, List.forall_mem_append]
  exact ⟨⟨⟨by simp, fun _ => ascii_of_mem_repr⟩, by simp⟩, fun _ => ascii_of_mem_repr⟩

theorem length_repr_le {n k : Nat} (hk : 0 < k) (h : n < 10 ^ k) :
    (n : Int).repr.toList.length ≤ k := by
  have hrepr : (n : Int).repr = Nat.repr n := rfl
  rw [hrepr, Nat.repr, String.toList_ofList]
  exact Nat.toDigits_length 10 n k hk h

theorem length_countsLine {a b : Nat} (ha : a < 10 ^ 89) (hb : b < 10 ^ 89) :
    (countsLine a b).length ≤ consoleWidth := by
  have hinserted : "Inserted: ".toList.length = 10 := by simp
  have hskipped : "  Skipped: ".toList.length = 11 := by simp
  have ha := length_repr_le (by decide) ha
  have hb := length_repr_le (by decide) hb
  simp only [countsLine, String.toList_append, List.length_append, consoleWidth]
  omega

end Counts

/-- An output that reports how many entries were inserted and how many were skipped, and exits with
0: lines are wrapped at blanks, and there is one line unless the counts have ninety digits. -/
structure Output.ReportsCounts (o : Output) (inserted skipped : Nat) : Prop where
  wrapping : ∃ lines, o = ⟨unlines lines, .exit 0⟩ ∧ IsWrapping (countsLine inserted skipped) lines
  one_line : inserted < 10 ^ 89 → skipped < 10 ^ 89 →
    o = ⟨countsLine inserted skipped ++ ['\n'], .exit 0⟩

theorem Output.say_counts (inserted skipped : Nat) :
    (Output.say 0 (insertedText inserted skipped)).ReportsCounts inserted skipped := by
  have hrender : (Markup.render (insertedText inserted skipped).toList).toOption =
      some (countsLine inserted skipped) := by
    rw [render_insertedText]
    rfl
  have hascii := ascii_countsLine inserted skipped
  refine ⟨Output.say_wrapped 0 hrender (.of_ascii hascii), fun ha hb => ?_⟩
  exact Output.say_ascii_line 0 hrender hascii (length_countsLine ha hb)

section Load

variable {s : Surroundings} {t : Table} {w : WorkspaceId} {manifest : File} {es : List Entry}

theorem Surroundings.load_accepted (hscript : s.store.script = none) (hfault : s.fault = none)
    (hes : Entry.ofManifest manifest.content = .ok es) :
    let inserted := (Entry.freeKeys (fun key => t.contains (w, key)) es).card
    (s.load t w manifest).output.ReportsCounts inserted (es.length - inserted) ∧
      (s.load t w manifest).table = t.insertBatch s.store.now w es := by
  intro inserted
  obtain ⟨logLevel, input, files, ⟨now, script⟩, fault⟩ := s
  cases hscript
  cases hfault
  have hbatch : (Batch.entries es).entries? = .ok es := rfl
  obtain ⟨hresult, -, htable⟩ :=
    Call.run_insertBulk now .engine t w hbatch (Entry.ofManifest_valid hes)
  rw [Surroundings.load, hes]
  dsimp only [Effect.ofRun, Surroundings.call]
  rw [hresult]
  refine ⟨?_, htable⟩
  have hskipped : (es.length : Int) - inserted = (es.length - inserted : Nat) :=
    (Int.ofNat_sub (Entry.card_freeKeys_le _ es)).symm
  change (Output.say 0 (insertedText inserted (es.length - inserted))).ReportsCounts _ _
  rw [hskipped]
  exact Output.say_counts _ _

theorem Surroundings.run_import (t : Table) {args : List String} {workspace : String}
    (hrequest : s.request? args = some (.load workspace manifest))
    (hw : WorkspaceId.ofSpelling? workspace.toList = some w) (hscript : s.store.script = none)
    (hfault : s.fault = none) (hes : Entry.ofManifest manifest.content = .ok es) :
    let inserted := (Entry.freeKeys (fun key => t.contains (w, key)) es).card
    (s.run t args).effect.output.ReportsCounts inserted (es.length - inserted) ∧
      (s.run t args).effect.table = t.insertBatch s.store.now w es := by
  obtain ⟨level, hrun⟩ := Surroundings.run_of_request t hrequest
  have hperform : s.perform t (.load workspace manifest) = s.load t w manifest := by
    rw [Surroundings.perform, inWorkspace, hw]
  rw [hrun, hperform]
  exact s.load_accepted hscript hfault hes

theorem Surroundings.load_refused (workspace : String) {r : Validation.Rejection}
    (hbad : Entry.ofManifest manifest.content = .error r) :
    (s.perform t (.load workspace manifest)).events = [] ∧
      (s.perform t (.load workspace manifest)).table = t := by
  rw [Surroundings.perform, inWorkspace]
  split
  · rw [Surroundings.load, hbad]
    exact ⟨rfl, rfl⟩
  · exact ⟨rfl, rfl⟩

end Load

/-- What an import does. Of the entries of an accepted manifest it inserts one for each key that the
workspace lacked, behind the rows that are there, and reports their number and that of the others;
imported again, whenever and from whichever file, the same octets change nothing. A manifest that is
not accepted, be it for its last item only, changes nothing, and the store is not opened for it. -/
theorem Surroundings.import_reports_and_repeats (s : Surroundings) (t : Table)
    (args : List String) (workspace : String) (manifest : File)
    (hrequest : s.request? args = some (.load workspace manifest)) :
    let effect := (s.run t args).effect
    (∀ w es, WorkspaceId.ofSpelling? workspace.toList = some w → s.store.script = none →
      s.fault = none → Entry.ofManifest manifest.content = .ok es →
      ∃ a b, a = (Entry.freeKeys (fun key => t.contains (w, key)) es).card ∧ a + b = es.length ∧
        effect.output.ReportsCounts a b ∧
        (∃ added, effect.table.rows = t.rows ++ added ∧ added.length = a) ∧
        ∀ (s' : Surroundings) (args' : List String) (workspace' : String) (manifest' : File),
          s'.request? args' = some (.load workspace' manifest') → s'.store.script = none →
          s'.fault = none → WorkspaceId.ofSpelling? workspace'.toList = some w →
          manifest'.content = manifest.content →
          (s'.run effect.table args').effect.output.ReportsCounts 0 es.length ∧
            (s'.run effect.table args').effect.table = effect.table) ∧
    (∀ r, Entry.ofManifest manifest.content = .error r →
      effect.events = [] ∧ effect.table = t) ∧
    ∀ items last cs, Json.IsText .manifest (.list (items ++ [last])) cs →
      manifest.content = octets cs → (∃ r, Entry.ofValue last.toValue = .error r) →
      effect.events = [] ∧ effect.table = t := by
  intro effect
  obtain ⟨level, hrun⟩ := Surroundings.run_of_request t hrequest
  have hrefused (r) (hbad : Entry.ofManifest manifest.content = .error r) :
      effect.events = [] ∧ effect.table = t := by
    simp only [effect, hrun]
    exact s.load_refused workspace hbad
  refine ⟨fun w es hw hscript hfault hes => ?_, hrefused, fun items last cs htext hcs hbad => ?_⟩
  · obtain ⟨houtput, htable⟩ := s.run_import t hrequest hw hscript hfault hes
    let inserted := (Entry.freeKeys (fun key => t.contains (w, key)) es).card
    have hle : inserted ≤ es.length := Entry.card_freeKeys_le _ es
    refine ⟨inserted, es.length - inserted, rfl, Nat.add_sub_cancel' hle, houtput, ?_, ?_⟩
    · obtain ⟨added, hadded⟩ := Table.prefix_insertBatch s.store.now w t es
      refine ⟨added, (congrArg Table.rows htable).trans hadded.symm, ?_⟩
      have hlength := Table.length_insertBatch s.store.now w t es
      rw [← hadded, List.length_append] at hlength
      exact Nat.add_left_cancel hlength
    · intro s' args' workspace' manifest' hrequest' hscript' hfault' hw' hcontent
      obtain ⟨houtput', htable'⟩ :=
        s'.run_import effect.table hrequest' hw' hscript' hfault' (hcontent ▸ hes)
      have hnone : (Entry.freeKeys (fun key => effect.table.contains (w, key)) es).card = 0 := by
        rw [← Entry.length_firsts, Entry.firsts_eq_nil, List.length_nil]
        intro e he
        rw [htable]
        exact Table.contains_insertBatch he
      rw [hnone, Nat.sub_zero] at houtput'
      refine ⟨houtput', ?_⟩
      rw [htable', htable, Table.insertBatch_insertBatch]
  · obtain ⟨r, hr⟩ := Entry.ofManifest_of_bad_item htext (by simp) hbad
    exact hrefused r (hcs ▸ hr)

def sharedKeyManifest : List UInt8 :=
  octets ("[\x7b\"object_id\":\"o\",\"file_id\":\"a\",\"file_type\":\"t\",\"file_size\":5\x7d," ++
    "\x7b\"object_id\":\"o\",\"file_id\":\"a\",\"file_type\":\"u\",\"file_size\":6\x7d]").toList

theorem Surroundings.shared_key_inserted_once :
    let manifest : File := ⟨"m", sharedKeyManifest⟩
    let s : Surroundings := ⟨"INFO", "", [manifest], { now := stamp 1 }, none⟩
    let args := ["-v", "import", "00000000-0000-0000-0000-000000000007", "m"]
    let effect := (s.run .empty args).effect
    s.request? args = some (.load "00000000-0000-0000-0000-000000000007" manifest) ∧
      effect.output = ⟨"Inserted: 1  Skipped: 1\n".toList, .exit 0⟩ ∧
      effect.table.rows.length = 1 ∧
      (s.run effect.table args).effect.output = ⟨"Inserted: 0  Skipped: 2\n".toList, .exit 0⟩ ∧
      (s.run effect.table args).effect.table = effect.table := by
  intro manifest s args effect
  let w : WorkspaceId := ⟨7, by decide⟩
  have hrequest : s.request? args =
      some (.load "00000000-0000-0000-0000-000000000007" manifest) := rfl
  have hw : WorkspaceId.ofSpelling? "00000000-0000-0000-0000-000000000007".toList = some w := by
    decide +kernel
  let es : List Entry := [⟨"o", "a", "t", 5⟩, ⟨"o", "a", "u", 6⟩]
  have hes : Entry.ofManifest manifest.content = .ok es := by
    have hsome : (Entry.ofManifest manifest.content).toOption = some es := by decide +kernel
    cases h : Entry.ofManifest manifest.content with
    | error r =>
      rw [h] at hsome
      cases hsome
    | ok es' =>
      rw [h] at hsome
      cases hsome
      rfl
  have hfree : (Entry.freeKeys (fun key => Table.empty.contains (w, key)) es).card = 1 := by
    decide +kernel
  have hinserted : countsLine 1 1 ++ ['\n'] = "Inserted: 1  Skipped: 1\n".toList := by
    decide +kernel
  have hskipped : countsLine 0 2 ++ ['\n'] = "Inserted: 0  Skipped: 2\n".toList := by
    decide +kernel
  obtain ⟨haccepted, -⟩ := s.import_reports_and_repeats .empty args _ manifest hrequest
  obtain ⟨a, b, ha, hb, houtput, ⟨added, hrows, hadded⟩, hagain⟩ := haccepted w es hw rfl rfl hes
  obtain rfl := ha.trans hfree
  obtain rfl : b = 1 := by
    have hlength : es.length = 2 := rfl
    omega
  obtain ⟨houtput', htable'⟩ := hagain s args _ manifest hrequest rfl rfl hw rfl
  have hrows : effect.table.rows = added := hrows
  refine ⟨hrequest, ?_, ?_, ?_, htable'⟩
  · rw [← hinserted]
    exact houtput.one_line (by decide) (by decide)
  · rw [hrows, hadded]
  · rw [← hskipped]
    exact houtput'.one_line (by decide) (by decide)

end StorageLedger.Command
