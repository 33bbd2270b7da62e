import StorageLedger.Proofs.Footprint
import StorageLedger.Proofs.Session

namespace StorageLedger.Store

def Statement.workspace? : Statement → Option WorkspaceId
  | .contains w _ => some w
  | .lookUp w _ => some w
  | .listRows w => some w
  | .listIds w => some w
  | .total w => some w
  | .upsert w _ _ _ => some w
  | .insertAbsent w _ _ _ => some w
  | .delete w _ => some w
  | .createTable => none
  | .dropTable => none

def Table.only (w : WorkspaceId) (t : Table) : Table := ⟨t.inWorkspace w⟩

theorem Statement.concerns_workspace {s : Statement} (h : s.workspace? = some w)
    (hk : s.Concerns k) : k.1 = w := by
  cases s with
  | createTable => cases hk
  | dropTable => cases h
  | listRows v => exact hk.symm.trans (Option.some.inj h)
  | listIds v => exact hk.symm.trans (Option.some.inj h)
  | total v => exact hk.symm.trans (Option.some.inj h)
  | insertAbsent v fs ts ns => exact hk.1.symm.trans (Option.some.inj h)
  | contains v f => exact (congrArg Prod.fst hk.symm).trans (Option.some.inj h)
  | lookUp v f => exact (congrArg Prod.fst hk.symm).trans (Option.some.inj h)
  | upsert v f ty n => exact (congrArg Prod.fst hk.symm).trans (Option.some.inj h)
  | delete v f => exact (congrArg Prod.fst hk.symm).trans (Option.some.inj h)

end StorageLedger.Store

namespace StorageLedger.Ledger
open StorageLedger.Store

variable {store : Store} {handle : Handle} {fault : Option Fault} {t t' : Table} {c : Call}
variable {w v : WorkspaceId}

/-- The workspace that a call is about. The schema belongs to none. -/
def Call.workspace? : Call → Option WorkspaceId
  | .contains w _ => some w
  | .upsert w _ _ _ => some w
  | .insertBulk w _ => some w
  | .delete w _ => some w
  | .get w _ => some w
  | .listRecords w => some w
  | .listIds w => some w
  | .usage w => some w
  | .createSchema => none
  | .resetSchema => none

def Plan.About (w : WorkspaceId) : Plan → Prop
  | .answer _ => True
  | .send statements _ _ => ∀ s ∈ statements, s.workspace? = some w

theorem Call.plan_about (h : c.workspace? = some w) (handle : Handle) :
    (c.plan handle).About w := by
  have hone {s : Statement} (hs : s.workspace? = some w) : ∀ s' ∈ [s], s'.workspace? = some w :=
    List.forall_mem_singleton.2 hs
  cases c with
  | upsert _ f ty size =>
    simp only [Call.plan]
    split
    · trivial
    · exact hone h
  | insertBulk _ batch =>
    simp only [Call.plan]
    split
    · trivial
    · unfold planBulk
      split
      · trivial
      · exact hone h
  | delete _ f =>
    simp only [Call.plan]
    split
    · trivial
    · exact hone h
  | createSchema => cases h
  | resetSchema => cases h
  | _ => exact hone h

theorem Plan.About.concerns {plan : Plan} (h : plan.About w) (hk : plan.Concerns k) : k.1 = w := by
  cases plan with
  | answer result => cases hk
  | send statements read conclude =>
    obtain ⟨s, hs, hk⟩ := hk
    exact Statement.concerns_workspace (h s hs) hk

theorem Call.run_agree_only (h : c.workspace? = some w) (store : Store) (handle : Handle)
    (fault : Option Fault) (ht : t.only w = t'.only w) :
    (c.run store handle fault t).result = (c.run store handle fault t').result ∧
      (c.run store handle fault t).logs = (c.run store handle fault t').logs ∧
      (c.run store handle fault t).table.only w = (c.run store handle fault t').table.only w := by
  apply Call.run_agree (p := fun k => k.1 == w) _ store fault ht
  exact fun k hk => beq_iff_eq.2 ((c.plan_about h handle).concerns hk)

theorem Call.run_only_elsewhere (h : c.workspace? = some v) (hv : v ≠ w) :
    (c.run store handle fault t).table.only w = t.only w := by
  apply Call.run_elsewhere (p := fun k => k.1 == w)
  intro k hk
  rw [(c.plan_about h handle).concerns hk]
  exact beq_eq_false_iff_ne.2 hv

/-- What a session holds of a workspace. -/
structure Share where
  committed : Table
  view : Table
  savepoint : Option Table
  steps : Nat

def Session.share (w : WorkspaceId) (s : Session) : Share :=
  ⟨s.committed.only w, s.opened.view.only w, s.opened.savepoint.map (Table.only w), s.steps⟩

def Share.idle (p : Share) : Share := { p with steps := p.steps + 1 }

/-- What a step that is not about a workspace makes of the share of it. -/
def Share.next (p : Share) : Action → Share
  | .commit => ⟨p.view, p.view, none, p.steps + 1⟩
  | .rollback => ⟨p.committed, p.committed, none, p.steps + 1⟩
  | .savepoint => ⟨p.committed, p.view, some p.view, p.steps + 1⟩
  | .rollbackToSavepoint => ⟨p.committed, p.savepoint.getD p.view, p.savepoint, p.steps + 1⟩
  | _ => p.idle

theorem Session.share_of_no_transaction {s : Session} (h : s.transaction = none) :
    s.share w = ⟨s.committed.only w, s.committed.only w, none, s.steps⟩ := by
  rw [Session.share, Session.opened, h]
  rfl

theorem Session.share_step_engine {s : Session} (h : s.transaction = none) (c : Call)
    (fault : Option Fault) :
    let after := (c.run s.nextStore .engine fault s.committed).table.only w
    (s.step (.call c .engine fault)).1.share w = ⟨after, after, none, s.steps + 1⟩ := by
  rw [Session.step_engine]
  exact Session.share_of_no_transaction h

theorem Session.share_step_caller (s : Session) (hh : handle ≠ .engine) (c : Call)
    (fault : Option Fault) :
    (s.step (.call c handle fault)).1.share w =
      ⟨s.committed.only w, (c.run s.nextStore handle fault s.visible).table.only w,
        s.opened.savepoint.map (Table.only w), s.steps + 1⟩ := by
  obtain ⟨_, hcommitted, hopened⟩ := s.step_caller c fault hh
  rw [Session.share, hcommitted, hopened, Session.step_steps]

def Action.Bare : Action → Prop
  | .call _ _ _ => False
  | _ => True

theorem Session.share_step_bare (s : Session) {a : Action} (ha : a.Bare) :
    (s.step a).1.share w = (s.share w).next a := by
  cases a with
  | call c handle fault => cases ha
  | commit =>
    show Share.mk (s.visible.only w) (s.visible.only w) none (s.steps + 1) = _
    rw [Session.visible_eq_opened]
    rfl
  | rollbackToSavepoint =>
    simp only [Session.share, Session.step, Session.act, Session.opened, Share.next]
    cases s.transaction with
    | none => rfl
    | some tx =>
      obtain ⟨view, savepoint⟩ := tx
      cases savepoint <;> rfl
  | _ => rfl

/-- A call through an engine is made while no transaction of the caller is open. -/
def Action.Apart (s : Session) : Action → Prop
  | .call _ handle _ => handle = .engine → s.transaction = none
  | _ => True

/-- A call about another workspace, or one that is refused. -/
def Action.Elsewhere (w : WorkspaceId) : Action → Prop
  | .call c _ _ => ∃ v, c.workspace? = some v ∧ v ≠ w
  | .refuse _ => True
  | _ => False

theorem Session.share_step_elsewhere {s : Session} {a : Action} (h : a.Elsewhere w)
    (ha : a.Apart s) : (s.step a).1.share w = (s.share w).idle := by
  cases a with
  | refuse e => exact s.share_step_bare trivial
  | call c handle fault =>
    obtain ⟨v, hc, hv⟩ := h
    -- An engine replaces the committed rows, which are then all that there is to see; any other
    -- handle works on the copy of the caller.
    by_cases hh : handle = .engine
    · subst hh
      have hclosed := ha rfl
      rw [Session.share_step_engine hclosed, Session.share_of_no_transaction hclosed,
        Call.run_only_elsewhere hc hv]
      rfl
    · rw [s.share_step_caller hh, Call.run_only_elsewhere hc hv, Session.visible_eq_opened]
      rfl
  | _ => cases h

/-- Where a workspace has the same share, calls about it answer the same and leave it the same. -/
theorem Session.share_step_own {s s' : Session} (hshare : s.share w = s'.share w)
    (h : c.workspace? = some w) (ha : (Action.call c handle fault).Apart s)
    (ha' : (Action.call c handle fault).Apart s') :
    (s.step (.call c handle fault)).2 = (s'.step (.call c handle fault)).2 ∧
      (s.step (.call c handle fault)).1.share w = (s'.step (.call c handle fault)).1.share w := by
  simp only [Session.share, Share.mk.injEq] at hshare
  obtain ⟨hcommitted, hview, hsavepoint, hsteps⟩ := hshare
  have hstore : s.nextStore = s'.nextStore := by rw [Session.nextStore, Session.nextStore, hsteps]
  have hrows : (s.rowsFor handle).only w = (s'.rowsFor handle).only w := by
    unfold Session.rowsFor
    split
    · exact hcommitted
    · rw [Session.visible_eq_opened, Session.visible_eq_opened]
      exact hview
  obtain ⟨hresult, hlogs, htable⟩ := Call.run_agree_only h s'.nextStore handle fault hrows
  refine ⟨?_, ?_⟩
  · rw [s.step_answer, s'.step_answer, hstore]
    exact congrArg₂ Answer.call hresult hlogs
  · by_cases hh : handle = .engine
    · subst hh
      rw [Session.share_step_engine (ha rfl), Session.share_step_engine (ha' rfl), hstore, hsteps]
      exact congrArg (fun after => Share.mk after after none (s'.steps + 1)) htable
    · simp only [Session.rowsFor, if_neg hh] at htable
      rw [s.share_step_caller hh, s'.share_step_caller hh, hstore, htable, hcommitted, hsavepoint,
        hsteps]

/-- Two steps that are the same for a workspace: the same call about it, calls about others, or the
same step if it is not a call. -/
inductive Action.Alike (w : WorkspaceId) : Action → Action → Prop where
  | own {c : Call} {handle : Handle} {fault : Option Fault} (h : c.workspace? = some w) :
    Alike w (.call c handle fault) (.call c handle fault)
  | elsewhere {a b : Action} (ha : a.Elsewhere w) (hb : b.Elsewhere w) : Alike w a b
  | bare {a : Action} (h : a.Bare) : Alike w a a

variable {a b : Action} {as bs : List Action} {i : Nat}

theorem Action.Alike.share {s s' : Session} (h : Action.Alike w a b)
    (hshare : s.share w = s'.share w) (ha : a.Apart s) (hb : b.Apart s') :
    (s.step a).1.share w = (s'.step b).1.share w := by
  cases h with
  | own h => exact (Session.share_step_own hshare h ha hb).2
  | elsewhere ha' hb' =>
    rw [Session.share_step_elsewhere ha' ha, Session.share_step_elsewhere hb' hb, hshare]
  | bare h => rw [s.share_step_bare h, s'.share_step_bare h, hshare]

def Session.EnginesApart (s : Session) : List Action → Prop
  | [] => True
  | a :: as => a.Apart s ∧ (s.step a).1.EnginesApart as

theorem Session.share_run {s s' : Session} (h : List.Forall₂ (Action.Alike w) as bs)
    (hshare : s.share w = s'.share w) (ha : s.EnginesApart as) (hb : s'.EnginesApart bs) :
    (s.run as).1.share w = (s'.run bs).1.share w := by
  -- Along both runs at once, with the equal shares as what each pair of steps keeps.
  induction h generalizing s s' with
  | nil => exact hshare
  | cons hab _ ih => exact ih (hab.share hshare ha.1 hb.1) ha.2 hb.2

theorem Session.own_answer {s s' : Session} (h : List.Forall₂ (Action.Alike w) as bs)
    (hshare : s.share w = s'.share w) (ha : s.EnginesApart as) (hb : s'.EnginesApart bs)
    (hi : as[i]? = some (Action.call c handle fault)) (hc : c.workspace? = some w) :
    ∃ answer, (s.run as).2[i]? = some answer ∧ (s'.run bs).2[i]? = some answer := by
  induction h generalizing s s' i with
  | nil => cases hi
  | @cons a b as bs hab _ ih =>
    rw [Session.run_cons, Session.run_cons]
    cases i with
    | succ i => exact ih (hab.share hshare ha.1 hb.1) ha.2 hb.2 hi
    | zero =>
      cases Option.some.inj hi
      cases hab with
      | own =>
        have hanswer := (Session.share_step_own hshare hc ha.1 hb.1).1
        exact ⟨_, rfl, congrArg some hanswer.symm⟩
      | elsewhere h =>
        obtain ⟨v, hv, hne⟩ := h
        exact absurd (Option.some.inj (hv.symm.trans hc)) hne
      | bare h => cases h

def Action.ByEngine : Action → Prop
  | .call _ handle _ => handle = .engine
  | .refuse _ => True
  | _ => False

def Action.ByCaller : Action → Prop
  | .call _ handle _ => handle ≠ .engine
  | _ => True

theorem Session.engines_apart_of_caller (s : Session) (h : ∀ a ∈ as, a.ByCaller) :
    s.EnginesApart as := by
  induction as generalizing s with
  | nil => trivial
  | cons a as ih =>
    obtain ⟨ha, has⟩ := List.forall_mem_cons.1 h
    refine ⟨?_, ih _ has⟩
    cases a with
    | call c handle fault => exact fun hh => absurd hh ha
    | _ => trivial

theorem Session.engines_apart_of_engine {s : Session} (h : ∀ a ∈ as, a.ByEngine)
    (hs : s.transaction = none) : s.EnginesApart as := by
  induction as generalizing s with
  | nil => trivial
  | cons a as ih =>
    obtain ⟨ha, has⟩ := List.forall_mem_cons.1 h
    cases a with
    | call c handle fault =>
      cases ha
      exact ⟨fun _ => hs, ih has hs⟩
    | refuse e => exact ⟨trivial, ih has hs⟩
    | _ => cases ha

/-- Two runs that are alike for a workspace, both through engines alone or both in transactions of
the caller alone, answer the calls about the workspace in the same way and leave the same rows of
it, seen and committed. -/
theorem Session.workspaces_do_not_interfere (w : WorkspaceId) (as bs : List Action)
    (h : List.Forall₂ (Action.Alike w) as bs)
    (hmode : (∀ a ∈ as ++ bs, a.ByEngine) ∨ (∀ a ∈ as ++ bs, a.ByCaller)) :
    let run := Session.start.run as
    let run' := Session.start.run bs
    (∀ (i : Nat) c handle fault, as[i]? = some (.call c handle fault) → c.workspace? = some w →
      ∃ answer, run.2[i]? = some answer ∧ run'.2[i]? = some answer) ∧
      run.1.visible.inWorkspace w = run'.1.visible.inWorkspace w ∧
      run.1.committed.inWorkspace w = run'.1.committed.inWorkspace w := by
  intro run run'
  have hapart : Session.start.EnginesApart as ∧ Session.start.EnginesApart bs := by
    rcases hmode with hmode | hmode
    · obtain ⟨has, hbs⟩ := List.forall_mem_append.1 hmode
      exact ⟨Session.engines_apart_of_engine has rfl, Session.engines_apart_of_engine hbs rfl⟩
    · obtain ⟨has, hbs⟩ := List.forall_mem_append.1 hmode
      exact ⟨Session.start.engines_apart_of_caller has, Session.start.engines_apart_of_caller hbs⟩
  have hshare : run.1.share w = run'.1.share w := Session.share_run h rfl hapart.1 hapart.2
  refine ⟨?_, ?_, ?_⟩
  · intro i c handle fault hi hc
    exact Session.own_answer h rfl hapart.1 hapart.2 hi hc
  · rw [Session.visible_eq_opened, Session.visible_eq_opened]
    exact congrArg (fun p => p.view.rows) hshare
  · exact congrArg (fun p => p.committed.rows) hshare

theorem Session.workspace_kept_beside_busy_one :
    let w : WorkspaceId := ⟨7, by decide⟩
    let v : WorkspaceId := ⟨8, by decide⟩
    let batch := [⟨"o", "b", "text/css", 1⟩, ⟨"o", "c", "text/css", -1⟩]
    let steps (first second : Call) : List Action :=
      [.call (.upsert w "o_a" "text/css" (.int 1)) .connection none,
        .call first .session none, .savepoint,
        .call (.upsert w "o_a" "text/html" (.int 2)) .session none,
        .call second .connection none, .rollbackToSavepoint,
        .call (.get w "o_a") .connection none, .commit]
    let quiet := steps (.listIds v) (.usage v)
    let busy := steps (.upsert v "o_a" "text/plain" (.int 5)) (.insertBulk v (.entries batch))
    let run (as : List Action) := Session.start.run as
    let row : Row := ⟨w, "o_a", "text/css", 1, stamp 1⟩
    (∃ answer, (run quiet).2[6]? = some answer ∧ (run busy).2[6]? = some answer) ∧
      (run quiet).1.committed.inWorkspace w = [row] ∧
      (run busy).1.committed.inWorkspace w = [row] ∧
      (run quiet).1.committed.inWorkspace v = [] ∧
      (run busy).1.committed.inWorkspace v = [⟨v, "o_a", "text/plain", 5, stamp 2⟩] := by
  intro w v batch steps quiet busy run row
  have hvw : v ≠ w := by decide
  have halike : List.Forall₂ (Action.Alike w) quiet busy :=
    .cons (.own rfl) (.cons (.elsewhere ⟨v, rfl, hvw⟩ ⟨v, rfl, hvw⟩) (.cons (.bare trivial)
      (.cons (.own rfl) (.cons (.elsewhere ⟨v, rfl, hvw⟩ ⟨v, rfl, hvw⟩) (.cons (.bare trivial)
        (.cons (.own rfl) (.cons (.bare trivial) .nil)))))))
  have hmode : ∀ a ∈ quiet ++ busy, a.ByCaller := by
    simp [quiet, busy, steps, Action.ByCaller]
  obtain ⟨hanswers, _, hcommitted⟩ :=
    Session.workspaces_do_not_interfere w quiet busy halike (.inr hmode)
  have hrow : (run quiet).1.committed.inWorkspace w = [row] := by decide +kernel
  have hnone : (run quiet).1.committed.inWorkspace v = [] := by decide +kernel
  have hone : (run busy).1.committed.inWorkspace v = [⟨v, "o_a", "text/plain", 5, stamp 2⟩] := by
    decide +kernel
  have hsame := hanswers 6 (.get w "o_a") .connection none rfl rfl
  have hrow' := hcommitted.symm.trans hrow
  exact ⟨hsame, hrow, hrow', hnone, hone⟩

end StorageLedger.Ledger
