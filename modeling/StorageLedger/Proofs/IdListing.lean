import StorageLedger.Proofs.TextReport

namespace StorageLedger.Console
open StorageLedger.Text

theorem print_line {cs : List Char} (hbracket : '[' ∉ cs) (hcolon : ':' ∉ cs) (h : Measured cs)
    (hfit : cellLength cs ≤ consoleWidth) : print cs = .ok (cs ++ ['\n']) := by
  rw [print, Command.render_eq_self hbracket hcolon h]
  change Except.ok (layOut cs) = _
  rw [layOut, wrap_eq_self h hfit, unlines, List.flatMap_singleton]

theorem splitAtChar_unlines {lines : List (List Char)} (h : ∀ line ∈ lines, '\n' ∉ line) :
    splitAtChar '\n' (unlines lines) = lines ++ [[]] := by
  induction lines with
  | nil => rfl
  | cons line lines ih =>
    obtain ⟨hline, hlines⟩ := List.forall_mem_cons.1 h
    rw [unlines, List.flatMap_cons, List.append_assoc, List.singleton_append,
      splitAtChar_append_sep hline]
    exact congrArg (line :: ·) (ih hlines)

end StorageLedger.Console

namespace StorageLedger.Ledger

theorem sortedIds_texts (ids : List String) :
    sortedIds (ids.map .text) = (ids.mergeSort (· ≤ ·)).map .text := by
  rw [sortedIds, List.map_mergeSort]
  exact fun _ _ _ _ => rfl

theorem pairwise_lt_mergeSort {ids : List String} (h : ids.Nodup) :
    (ids.mergeSort (· ≤ ·)).Pairwise (· < ·) := by
  have hsorted := List.pairwise_mergeSort' (· ≤ ·) ids
  have hnodup : (ids.mergeSort (· ≤ ·)).Nodup := (List.mergeSort_perm ids _).nodup_iff.2 h
  exact (hsorted.and hnodup).imp fun hle => lt_of_le_of_ne hle.1 hle.2

end StorageLedger.Ledger

namespace StorageLedger.Command
open StorageLedger.Console StorageLedger.Ledger StorageLedger.Store StorageLedger.Text

/-- The tables that a store can come to hold: sessions with the ledger and command lines change
them, in any order. -/
inductive Reachable : Table → Prop where
  | empty : Reachable .empty
  | session (h : Reachable t) (steps : Nat) (as : List Action) :
    Reachable (Session.run ⟨t, none, steps⟩ as).1.committed
  | command (h : Reachable t) (s : Surroundings) (args : List String) :
    Reachable (s.run t args).effect.table

variable {s : Surroundings} {t : Table}

/-- A table that a store can come to hold is one that it may hold. -/
theorem Reachable.valid (h : Reachable t) : t.Valid fun _ => True := by
  induction h with
  | empty => exact .empty
  | session _ steps as ih =>
    exact (Session.Valid.run (.of_no_transaction ih rfl) (fun _ => trivial) as).committed
  | command _ s args ih =>
    apply Surroundings.run_preserves _ ih args
    exact fun c _ handle fault _ h => c.run_valid handle fault h trivial

/-- A file identifier that is printed as it is: printable ASCII without opening brackets and colons,
and no longer than a line. -/
structure FitsLine (fileId : String) : Prop where
  ascii : ∀ c ∈ fileId.toList, 0x20 ≤ c.toNat ∧ c.toNat < 0x7F
  no_bracket : '[' ∉ fileId.toList
  no_colon : ':' ∉ fileId.toList
  length_le : fileId.toList.length ≤ 200

theorem FitsLine.print_eq {fileId : String} (h : FitsLine fileId) :
    print fileId.toList = .ok (fileId.toList ++ ['\n']) := by
  apply print_line h.no_bracket h.no_colon (.of_ascii h.ascii)
  rw [cellLength_ascii h.ascii]
  exact h.length_le

theorem FitsLine.no_feed {fileId : String} (h : FitsLine fileId) : '\n' ∉ fileId.toList :=
  fun hm => absurd (h.ascii _ hm).1 (by decide)

theorem sayIds_lines {ids : List String} (h : ∀ fileId ∈ ids, FitsLine fileId) :
    sayIds (ids.map .text) = ⟨unlines (ids.map String.toList), .exit 0⟩ := by
  induction ids with
  | nil => rfl
  | cons fileId ids ih =>
    obtain ⟨hfirst, hrest⟩ := List.forall_mem_cons.1 h
    rw [List.map_cons, sayIds]
    simp only [hfirst.print_eq, ih hrest]
    rfl

theorem Surroundings.perform_list_ids (t : Table) {workspace : String} {w : WorkspaceId}
    (hw : WorkspaceId.ofSpelling? workspace.toList = some w) (hscript : s.store.script = none)
    (hfault : s.fault = none) :
    (s.perform t (.list workspace true)).output =
      sayIds ((((t.inWorkspace w).map Row.fileId).mergeSort (· ≤ ·)).map .text) := by
  obtain ⟨logLevel, input, files, ⟨now, script⟩, fault⟩ := s
  cases hscript
  cases hfault
  obtain ⟨hresult, -⟩ := Call.run_listIds now .engine t w
  rw [Surroundings.perform, inWorkspace, hw]
  simp only [if_true, Effect.ofRun, Surroundings.call]
  rw [hresult, concluded, ← sortedIds_texts, List.map_map]
  rfl

/-- A listing of identifiers prints exactly those of the workspace. Whatever sessions and command
lines have made of the table, if all identifiers of the workspace fit into a line, each is printed
once, as it is and on a line of its own, in increasing order; so the lines of the output are what
the ledger answers when it is asked for the identifiers. -/
theorem Surroundings.listed_ids_are_lines (s : Surroundings) (t : Table) (args : List String)
    (workspace : String) (w : WorkspaceId) (ht : Reachable t)
    (hrequest : s.request? args = some (.list workspace true))
    (hw : WorkspaceId.ofSpelling? workspace.toList = some w) (hscript : s.store.script = none)
    (hfault : s.fault = none) (hids : ∀ r ∈ t.inWorkspace w, FitsLine r.fileId) :
    let output := (s.run t args).effect.output
    ∃ answered ids : List String,
      (s.call t (.listIds w)).result = .ok (.ids (answered.map .text)) ∧
      (∀ fileId, fileId ∈ answered ↔ t.contains (w, fileId)) ∧
      ids.Perm answered ∧ ids.Pairwise (· < ·) ∧
      output = ⟨unlines (ids.map String.toList), .exit 0⟩ ∧
      splitAtChar '\n' output.printed = ids.map String.toList ++ [[]] := by
  intro output
  let answered := (t.inWorkspace w).map Row.fileId
  let ids := answered.mergeSort (· ≤ ·)
  have hperm : ids.Perm answered := List.mergeSort_perm answered _
  have hfits : ∀ fileId ∈ ids, FitsLine fileId := by
    intro fileId hm
    obtain ⟨r, hr, rfl⟩ := List.mem_map.1 (hperm.mem_iff.1 hm)
    exact hids r hr
  have houtput : output = ⟨unlines (ids.map String.toList), .exit 0⟩ := by
    rw [← sayIds_lines hfits, ← s.perform_list_ids t hw hscript hfault]
    exact Surroundings.output_of_request t hrequest
  refine ⟨answered, ids, ?_, ?_, hperm, ?_, houtput, ?_⟩
  · obtain ⟨logLevel, input, files, ⟨now, script⟩, fault⟩ := s
    cases hscript
    cases hfault
    rw [List.map_map]
    exact (Call.run_listIds now .engine t w).1
  · intro fileId
    rw [← Table.find?_isSome_iff, Table.contains_eq_isSome]
  · exact pairwise_lt_mergeSort (ht.valid.keys.files_nodup w)
  · rw [houtput]
    apply splitAtChar_unlines
    intro line hline
    obtain ⟨fileId, hm, rfl⟩ := List.mem_map.1 hline
    exact (hfits fileId hm).no_feed

theorem Surroundings.odd_ids_are_lines :
    let w : WorkspaceId := ⟨7, by decide⟩
    let long := String.ofList (List.replicate 200 'x')
    let put (w : WorkspaceId) (fileId : String) : Action :=
      .call (.upsert w fileId "text/plain" (.int 1)) .engine none
    let puts := [put w long, put w " b ", put w "", put ⟨8, by decide⟩ "[/]", put w "a\\"]
    let t := (Session.run ⟨.empty, none, 0⟩ puts).1.committed
    let s : Surroundings := ⟨"WARNING", "", [], { now := stamp 1 }, none⟩
    (s.run t ["ls", "00000000-0000-0000-0000-000000000007", "--ids-only"]).effect.output =
      ⟨unlines (["", " b ", "a\\", long].map String.toList), .exit 0⟩ := by
  intro w long put puts t s
  have hlevel : s.level false = .ok .warning := by decide +kernel
  have hrequest : s.request? ["ls", "00000000-0000-0000-0000-000000000007", "--ids-only"] =
      some (.list "00000000-0000-0000-0000-000000000007" true) :=
    Surroundings.request?_of_read rfl hlevel rfl
  have hw : WorkspaceId.ofSpelling? "00000000-0000-0000-0000-000000000007".toList = some w := by
    decide +kernel
  have hrows : (t.inWorkspace w).map Row.fileId = [long, " b ", "", "a\\"] := by decide +kernel
  have hlong : FitsLine long := by
    have hchars : long.toList = List.replicate 200 'x' := String.toList_ofList
    have hx : ∀ c ∈ long.toList, c = 'x' := by
      rw [hchars]
      exact fun c hc => List.eq_of_mem_replicate hc
    refine ⟨fun c hc => ?_, fun hc => ?_, fun hc => ?_, ?_⟩
    · rw [hx c hc]
      decide
    · exact absurd (hx _ hc) (by decide)
    · exact absurd (hx _ hc) (by decide)
    · rw [hchars, List.length_replicate]
  have hfits : ∀ r ∈ t.inWorkspace w, FitsLine r.fileId := by
    have hall : ∀ fileId ∈ [long, " b ", "", "a\\"], FitsLine fileId := by
      simp only [List.forall_mem_cons]
      refine ⟨hlong, ?_, ?_, ?_, List.forall_mem_nil _⟩ <;> constructor <;> simp
    exact fun r hr => hall r.fileId (hrows ▸ List.mem_map_of_mem hr)
  obtain ⟨answered, ids, hanswer, -, hperm, hsorted, houtput, -⟩ := s.listed_ids_are_lines t
    ["ls", "00000000-0000-0000-0000-000000000007", "--ids-only"] _ w (.session .empty 0 puts)
    hrequest hw rfl rfl hfits
  have hanswered : (s.call t (.listIds w)).result =
      .ok (.ids ([long, " b ", "", "a\\"].map .text)) := by
    rw [← hrows, List.map_map]
    exact (Call.run_listIds s.store.now .engine t w).1
  have htexts := hanswer.symm.trans hanswered
  simp only [Except.ok.injEq, Outcome.ids.injEq] at htexts
  obtain rfl := List.map_injective_iff.2 (fun _ _ h => Value.text.inj h) htexts
  have hids : ids = ["", " b ", "a\\", long] := by
    have hperm' : ids.Perm ["", " b ", "a\\", long] := hperm.trans (by decide +kernel)
    exact hperm'.eq_of_pairwise' hsorted (by decide +kernel)
  rw [houtput, hids]

end StorageLedger.Command
