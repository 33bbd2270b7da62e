import Mathlib.Data.List.Lattice
import StorageLedger.Proofs.Footprint
import StorageLedger.Proofs.HandleKind

namespace StorageLedger.Store
open StorageLedger.Calendar

variable {t t' : Table}

theorem Table.restrict_timeless (t : Table) (p : Key → Bool) :
    (t.restrict p).timeless = t.timeless.restrict p := by
  simp only [Table.restrict, Table.timeless, List.filter_map]
  rfl

theorem Table.timeless_withKey {p : Key → Bool} {k : Key} (hk : p k = true)
    (h : (t.restrict p).timeless = (t'.restrict p).timeless) :
    t.timeless.withKey k = t'.timeless.withKey k := by
  rw [restrict_timeless, restrict_timeless] at h
  rw [← withKey_restrict (t := t.timeless) hk, h, withKey_restrict hk]

theorem Table.perm_of_withKey (h : ∀ k, t.withKey k = t'.withKey k) : t.rows.Perm t'.rows := by
  rw [List.perm_iff_count]
  intro r
  have hcount (t : Table) : t.rows.count r = (t.withKey r.key).count r :=
    (List.count_filter (p := fun r' : Row => r'.key == r.key) (beq_self_eq_true _)).symm
  rw [hcount t, hcount t', h]

end StorageLedger.Store

namespace StorageLedger.Ledger
open StorageLedger.Calendar StorageLedger.Store

variable {handle : Handle} {fault : Option Fault} {t : Table} {c : Call}
variable {cs cs' : List FaultyCall}

/-- The calls that write: upserts, batches and removals. -/
def Call.IsWrite : Call → Prop
  | .upsert _ _ _ _ => True
  | .insertBulk _ _ => True
  | .delete _ _ => True
  | _ => False

def Call.writtenKeys : Call → List Key
  | .upsert w fileId _ _ => [(w, fileId)]
  | .insertBulk w batch => (batch.entries?.toOption.getD []).map fun e => (w, e.key)
  | .delete w fileId => [(w, fileId)]
  | _ => []

def Call.writes (c : Call) (k : Key) : Bool := k ∈ c.writtenKeys

theorem Call.IsWrite.reports (h : c.IsWrite) : c.reports := by
  cases c <;> first | rfl | cases h

theorem Call.IsWrite.mem_writtenKeys (h : c.IsWrite) (hk : (c.plan handle).Concerns k) :
    k ∈ c.writtenKeys := by
  cases c with
  | upsert w f ty v =>
    simp only [Call.plan] at hk
    split at hk
    · cases hk
    · obtain ⟨s, hs, hk⟩ := hk
      obtain rfl := List.mem_singleton.1 hs
      exact List.mem_singleton.2 hk.symm
  | insertBulk w batch =>
    simp only [Call.plan] at hk
    cases hes : batch.entries? with
    | error r =>
      rw [hes] at hk
      cases hk
    | ok es =>
      simp only [hes, planBulk] at hk
      split at hk
      · cases hk
      · obtain ⟨s, hs, hk⟩ := hk
        obtain rfl := List.mem_singleton.1 hs
        obtain ⟨hw, hfile⟩ := hk
        obtain ⟨e, he, hkey⟩ := List.mem_map.1 hfile
        simp only [Call.writtenKeys, hes, Except.toOption, Option.getD_some, List.mem_map]
        exact ⟨e, he, Prod.ext hw hkey⟩
  | delete w f =>
    simp only [Call.plan] at hk
    split at hk
    · cases hk
    · obtain ⟨s, hs, hk⟩ := hk
      obtain rfl := List.mem_singleton.1 hs
      exact List.mem_singleton.2 hk.symm
  | _ => cases h

theorem Call.IsWrite.concerns (h : c.IsWrite) (k : Key) (hk : (c.plan handle).Concerns k) :
    c.writes k = true :=
  decide_eq_true (h.mem_writtenKeys hk)

theorem Call.IsWrite.not_concerns {d : Call} (h : c.IsWrite)
    (hkeys : c.writtenKeys.Disjoint d.writtenKeys) (k : Key) (hk : (c.plan handle).Concerns k) :
    d.writes k = false :=
  decide_eq_false fun hd => hkeys (h.mem_writtenKeys hk) hd

/-- A plan whose results hold no times. -/
def Plan.Dateless : Plan → Prop
  | .answer result => result.map Outcome.timeless = result
  | .send _ _ conclude => ∀ reply, (conclude reply).1.map Outcome.timeless = (conclude reply).1

theorem Call.IsWrite.plan_dateless (h : c.IsWrite) (handle : Handle) :
    (c.plan handle).Dateless := by
  cases c with
  | upsert w f ty v =>
    simp only [Call.plan]
    split
    · rfl
    · exact fun _ => rfl
  | insertBulk w batch =>
    simp only [Call.plan]
    split
    · rfl
    · unfold planBulk
      split
      · rfl
      · exact fun _ => rfl
  | delete w f =>
    simp only [Call.plan]
    split
    · rfl
    · exact fun _ => rfl
  | _ => cases h

theorem Call.IsWrite.result_timeless (h : c.IsWrite) {store : Store} :
    (c.run store handle fault t).result.map Outcome.timeless =
      (c.run store handle fault t).result := by
  have hp := h.plan_dateless handle
  cases hplan : c.plan handle with
  | answer result =>
    rw [hplan] at hp
    rw [Call.run_answer hplan]
    exact hp
  | send statements read conclude =>
    rw [hplan] at hp
    let work := performRead store (faultAt fault .execute) statements read
    cases hr : (carryOut handle fault work t).result with
    | error failure =>
      rw [(Call.run_of_failure hplan hr).1]
      rfl
    | ok reply =>
      rw [(Call.run_of_reply hplan hr).1]
      exact hp reply

theorem Call.IsWrite.run_at_any_time (h : c.IsWrite) (m n : Nat) (handle : Handle)
    (fault : Option Fault) (t : Table) :
    let run := c.run { now := stamp m } handle fault t
    let run' := c.run { now := stamp n } handle fault t
    run.result = run'.result ∧ run.logs = run'.logs ∧
      run.table.timeless = run'.table.timeless := by
  intro run run'
  have hnow := (stamp_timeless m).trans (stamp_timeless n).symm
  have hrun : run.timeless Outcome.timeless = run'.timeless Outcome.timeless :=
    Call.run_at_any_time h.reports hnow rfl
  simp only [Run.timeless, Run.mk.injEq, run, run', h.result_timeless] at hrun
  -- Events and statements agree as well, but no answer shows them.
  obtain ⟨_, _, hlogs, hresult, htable⟩ := hrun
  exact ⟨hresult, hlogs, htable⟩

/-- The answer to a call on a table. -/
def FaultyCall.answerOn (step : Nat) (t : Table) (c : FaultyCall) : Answer :=
  let run := c.1.run { now := stamp step } .connection c.fault t
  .call run.result run.logs

theorem inTurn_elsewhere {p : Key → Bool}
    (h : ∀ c ∈ cs, ∀ k, (c.1.plan .connection).Concerns k → p k = false) :
    (inTurn stride step t cs).1.restrict p = t.restrict p := by
  induction cs generalizing step t with
  | nil => rfl
  | cons c cs ih =>
    obtain ⟨hc, hcs⟩ := List.forall_mem_cons.1 h
    rw [inTurn_cons]
    exact (ih hcs).trans (Call.run_elsewhere hc)

/-- Writes of which no two share a key. -/
structure Independent (cs : List FaultyCall) : Prop where
  writes : ∀ c ∈ cs, c.1.IsWrite
  keys : cs.Pairwise fun c d => c.1.writtenKeys.Disjoint d.1.writtenKeys

theorem Independent.perm (h : Independent cs) (hperm : cs.Perm cs') : Independent cs' := by
  refine ⟨fun c hc => h.writes c (hperm.mem_iff.2 hc), ?_⟩
  exact (hperm.pairwise_iff List.Disjoint.symm).1 h.keys

theorem Independent.tail {c : FaultyCall} (h : Independent (c :: cs)) : Independent cs :=
  ⟨(List.forall_mem_cons.1 h.writes).2, (List.pairwise_cons.1 h.keys).2⟩

theorem Independent.head_elsewhere {c d : FaultyCall} (h : Independent (c :: cs)) (hd : d ∈ cs)
    (store : Store) (fault : Option Fault) (t : Table) :
    (c.1.run store .connection fault t).table.restrict d.1.writes = t.restrict d.1.writes := by
  have hc : c.1.IsWrite := h.writes c List.mem_cons_self
  exact Call.run_elsewhere (hc.not_concerns ((List.pairwise_cons.1 h.keys).1 d hd))

/-- Each of independent writes answers as it would if it were the only one. -/
theorem Independent.answers (h : Independent cs) (n : Nat) :
    (inTurn stride step t cs).2 = cs.map (·.answerOn n t) := by
  induction cs generalizing step t with
  | nil => rfl
  | cons c cs ih =>
    have hc : c.1.IsWrite := h.writes c List.mem_cons_self
    obtain ⟨hresult, hlogs, _⟩ := hc.run_at_any_time (step + 1) n .connection c.fault t
    rw [inTurn_cons, List.map_cons]
    refine congrArg₂ List.cons (congrArg₂ Answer.call hresult hlogs) ?_
    -- A later write finds the rows of its keys as they were before the first.
    refine (ih h.tail).trans (List.map_congr_left fun d hd => ?_)
    have hd' : d.1.IsWrite := h.tail.writes d hd
    obtain ⟨hresult, hlogs, _⟩ := Call.run_agree hd'.concerns { now := stamp n } d.fault
      (h.head_elsewhere hd { now := stamp (step + 1) } c.fault t)
    exact congrArg₂ Answer.call hresult hlogs

/-- Each of independent writes leaves the rows of its keys that it would if it were the only one. -/
theorem Independent.rows {c : FaultyCall} (h : Independent cs) (hc : c ∈ cs) (n : Nat) :
    ((inTurn stride step t cs).1.restrict c.1.writes).timeless =
      ((c.1.run { now := stamp n } .connection c.fault t).table.restrict c.1.writes).timeless := by
  induction cs generalizing step t with
  | nil => cases hc
  | cons d cs ih =>
    have hd : d.1.IsWrite := h.writes d List.mem_cons_self
    rw [inTurn_cons]
    rcases List.mem_cons.1 hc with rfl | hc
    -- The later writes leave the rows of the first alone, and the first those of the later ones.
    · have hrest : ∀ d ∈ cs, ∀ k, (d.1.plan .connection).Concerns k → c.1.writes k = false := by
        intro d hd
        apply (h.tail.writes d hd).not_concerns
        exact List.Disjoint.symm ((List.pairwise_cons.1 h.keys).1 d hd)
      obtain ⟨_, _, htable⟩ := hd.run_at_any_time (step + 1) n .connection c.fault t
      dsimp only
      rw [inTurn_elsewhere hrest, Table.restrict_timeless, htable, Table.restrict_timeless]
    · have hc' : c.1.IsWrite := h.tail.writes c hc
      obtain ⟨_, _, htable⟩ := Call.run_agree hc'.concerns { now := stamp n } c.fault
        (h.head_elsewhere hc { now := stamp (step + 1) } d.fault t)
      exact (ih h.tail hc).trans (congrArg Table.timeless htable)

theorem Independent.rows_perm (h : Independent cs) (hperm : cs.Perm cs') :
    (inTurn stride step t cs).1.timeless.rows.Perm (inTurn stride step t cs').1.timeless.rows := by
  apply Table.perm_of_withKey
  intro k
  by_cases hk : ∃ c ∈ cs, k ∈ c.1.writtenKeys
  · obtain ⟨c, hc, hk⟩ := hk
    have hwrites : c.1.writes k = true := decide_eq_true hk
    apply Table.timeless_withKey hwrites
    rw [h.rows hc step, (h.perm hperm).rows (hperm.mem_iff.1 hc) step]
  -- A key that no call writes keeps its rows in both orders.
  · have hnone (c : FaultyCall) (hc : c ∈ cs) (k' : Key)
        (hk' : (c.1.plan .connection).Concerns k') : decide (k' = k) = false := by
      refine decide_eq_false ?_
      rintro rfl
      exact hk ⟨c, hc, (h.writes c hc).mem_writtenKeys hk'⟩
    apply Table.timeless_withKey (p := fun k' => decide (k' = k)) (decide_eq_true rfl)
    rw [inTurn_elsewhere hnone, inTurn_elsewhere fun c hc => hnone c (hperm.mem_iff.2 hc)]

/-- Independent writes commute. Calls through a connection that write, of which no two share a key,
answer the same in every order, each as it would alone, be that a result or an error, and they leave
the same rows but for the times at which these were written. -/
theorem Session.independent_writes_commute (s : Session) (cs cs' : List FaultyCall)
    (hperm : cs.Perm cs') (hwrites : ∀ c ∈ cs, c.1.IsWrite)
    (hkeys : cs.Pairwise fun c d => c.1.writtenKeys.Disjoint d.1.writtenKeys) :
    let run (cs : List FaultyCall) := s.run (cs.map (·.through .connection))
    let alone (c : FaultyCall) := (s.step (c.through .connection)).2
    ((run cs).2 = cs.map alone ∧ (run cs').2 = cs'.map alone) ∧
      ((run cs).1.visible.rows.map Row.timeless).Perm
        ((run cs').1.visible.rows.map Row.timeless) := by
  intro run alone
  have hcs : Independent cs := ⟨hwrites, hkeys⟩
  have hcaller : Handle.connection ≠ .engine := by decide
  have halone : alone = (·.answerOn (s.steps + 1) s.visible) :=
    funext fun c => (s.step_caller_call hcaller c).1
  obtain ⟨hvisible, hanswers⟩ := s.run_caller_in_turn hcaller cs
  obtain ⟨hvisible', hanswers'⟩ := s.run_caller_in_turn hcaller cs'
  simp only [run, hvisible, hanswers, hvisible', hanswers', halone]
  exact ⟨⟨hcs.answers _, (hcs.perm hperm).answers _⟩, hcs.rows_perm hperm⟩

theorem Session.writes_of_four_keys_commute :
    let w : WorkspaceId := ⟨7, by decide⟩
    let s : Session := ⟨⟨[⟨w, "c", "text/css", 9, stamp 0⟩]⟩, none, 0⟩
    let upsert : FaultyCall := (.upsert w "a" "text/plain" (.int 3), none)
    let batch : FaultyCall :=
      (.insertBulk w (.entries [⟨"o", "p_q", "text/css", 1⟩, ⟨"o_p", "q", "text/css", 2⟩]), none)
    let removal : FaultyCall := (.delete w "c", none)
    let failing : FaultyCall := (.upsert w "d" "text/plain" (.int 1), some (.timeout "late"))
    let cs := [upsert, batch, removal, failing]
    let run (cs : List FaultyCall) := s.run (cs.map (·.through .connection))
    cs.Perm cs.reverse ∧ (run cs).2 = (run cs.reverse).2.reverse ∧
      ((run cs).1.visible.rows.map Row.timeless).Perm
        ((run cs.reverse).1.visible.rows.map Row.timeless) ∧
      (run cs).1.visible.rows.length = 2 := by
  intro w s upsert batch removal failing cs run
  have hperm : cs.Perm cs.reverse := cs.reverse_perm.symm
  have hwrites : ∀ c ∈ cs, c.1.IsWrite := by
    simp [cs, upsert, batch, removal, failing, Call.IsWrite]
  have hkeys : cs.Pairwise fun c d => c.1.writtenKeys.Disjoint d.1.writtenKeys := by
    simp [cs, upsert, batch, removal, failing, Call.writtenKeys, Batch.entries?, Except.toOption,
      Entry.key, blobKey]
  obtain ⟨⟨hanswers, hanswers'⟩, hrows⟩ :=
    s.independent_writes_commute cs cs.reverse hperm hwrites hkeys
  refine ⟨hperm, ?_, hrows, rfl⟩
  exact hanswers.trans (by rw [hanswers', List.map_reverse, List.reverse_reverse])

end StorageLedger.Ledger
