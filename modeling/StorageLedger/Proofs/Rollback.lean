import StorageLedger.Proofs.Session

namespace StorageLedger.Ledger
open StorageLedger.Store

/-- A step of the caller's transaction replaced by a look at the rows. Calls through an engine and
the ends of transactions stay. -/
def Action.inert : Action → Action
  | .call c handle fault => if handle = .engine then .call c handle fault else .dump
  | .savepoint => .dump
  | .rollbackToSavepoint => .dump
  | a => a

/-- Two states with the same committed rows at the same step, of which the second has no open
transaction. -/
structure Session.Shadow (s s' : Session) : Prop where
  committed : s.committed = s'.committed
  steps : s.steps = s'.steps
  closed : s'.transaction = none

theorem Session.Shadow.refl {s : Session} (h : s.transaction = none) : s.Shadow s :=
  ⟨rfl, rfl, h⟩

/-- An engine answers from the committed rows alone. -/
theorem Session.Shadow.engine_answer {s s' : Session} (h : s.Shadow s') (c : Call)
    (fault : Option Fault) :
    (s.step (.call c .engine fault)).2 = (s'.step (.call c .engine fault)).2 := by
  simp only [Session.step_engine, Session.nextStore, h.committed, h.steps]

theorem Session.Shadow.engine_step {s s' : Session} (h : s.Shadow s') (c : Call)
    (fault : Option Fault) :
    (s.step (.call c .engine fault)).1.Shadow (s'.step (.call c .engine fault)).1 := by
  simp only [Session.step_engine, Session.nextStore, h.committed, h.steps]
  exact ⟨rfl, rfl, h.closed⟩

theorem Session.Shadow.step {s s' : Session} (h : s.Shadow s') (ha : a ≠ .commit) :
    (s.step a).1.Shadow (s'.step a.inert).1 := by
  have hsteps : (s.step a).1.steps = (s'.step a.inert).1.steps := by
    rw [Session.step_steps, Session.step_steps, h.steps]
  cases a with
  | call c handle fault =>
    by_cases hh : handle = .engine
    · subst hh
      exact h.engine_step c fault
    · simp only [Action.inert, if_neg hh] at hsteps ⊢
      exact ⟨(s.step_caller c fault hh).2.1.trans h.committed, hsteps, h.closed⟩
  | refuse e => exact ⟨h.committed, hsteps, h.closed⟩
  | commit => exact absurd rfl ha
  | rollback => exact ⟨h.committed, hsteps, rfl⟩
  | savepoint => exact ⟨h.committed, hsteps, h.closed⟩
  | rollbackToSavepoint => exact ⟨h.committed, hsteps, h.closed⟩
  | dump => exact ⟨h.committed, hsteps, h.closed⟩

theorem Session.Shadow.rollback {s s' : Session} (h : s.Shadow s') :
    (s.step .rollback).1 = (s'.step .rollback).1 := by
  simp only [Session.step, Session.act, h.committed, h.steps]

theorem Session.Shadow.run {s s' : Session} (h : s.Shadow s') (ha : ∀ a ∈ as, a ≠ .commit) :
    (s.run as).1.Shadow (s'.run (as.map Action.inert)).1 := by
  induction as generalizing s s' with
  | nil => exact h
  | cons a as ih =>
    obtain ⟨hhead, htail⟩ := List.forall_mem_cons.1 ha
    exact ih (h.step hhead) htail

theorem Session.Shadow.run_answer {s s' : Session} {as : List Action} {i : Nat}
    (h : s.Shadow s') (ha : ∀ a ∈ as, a ≠ .commit) (hi : as[i]? = some (.call c .engine fault)) :
    (s.run as).2[i]? = (s'.run (as.map Action.inert)).2[i]? := by
  induction as generalizing s s' i with
  | nil => cases hi
  | cons a as ih =>
    obtain ⟨hhead, htail⟩ := List.forall_mem_cons.1 ha
    rw [List.map_cons, Session.run_cons, Session.run_cons]
    cases i with
    | zero =>
      cases Option.some.inj hi
      exact congrArg some (h.engine_answer c fault)
    | succ i => exact ih (h.step hhead) htail hi

/-- In any run, take a stretch that starts without an open transaction of the caller, contains no
commit and ends with a rollback. If the caller's steps in it are replaced by looks at the rows, no
engine answers differently within the stretch, and from the rollback on all answers and all rows
stay the same, however the run goes on. -/
theorem Session.rollback_erases_uncommitted (before stretch after : List Action)
    (hclosed : (Session.start.run before).1.transaction = none)
    (hstretch : ∀ a ∈ stretch, a ≠ .commit) :
    let full := Session.start.run (before ++ (stretch ++ .rollback :: after))
    let erased := Session.start.run (before ++ (stretch.map Action.inert ++ .rollback :: after))
    full.1 = erased.1 ∧
      (∀ i < before.length, full.2[i]? = erased.2[i]?) ∧
      (∀ i c fault, stretch[i]? = some (.call c .engine fault) →
        full.2[before.length + i]? = erased.2[before.length + i]?) ∧
      ∀ i, before.length + stretch.length ≤ i → full.2[i]? = erased.2[i]? := by
  intro full erased
  have hshadow := Session.Shadow.refl hclosed
  have hrollback := (hshadow.run hstretch).rollback
  have hlength := Session.run_length Session.start before
  simp only [full, erased, Session.run_append, Session.run_cons, ← hrollback]
  generalize hs : (Session.start.run before).1 = s at *
  have hkept := Session.run_length s stretch
  have herased := Session.run_length s (stretch.map Action.inert)
  rw [List.length_map] at herased
  refine ⟨trivial, ?_, ?_, ?_⟩
  · intro i hi
    rw [← hlength] at hi
    rw [List.getElem?_append_left hi, List.getElem?_append_left hi]
  -- Within the stretch: behind the answers before it, in front of that of the rollback.
  · intro i c fault hi
    have hlt := (List.getElem?_eq_some_iff.1 hi).1
    rw [← hlength, List.getElem?_append_right (Nat.le_add_right _ _), Nat.add_sub_cancel_left,
      List.getElem?_append_right (Nat.le_add_right _ _), Nat.add_sub_cancel_left,
      List.getElem?_append_left (hkept ▸ hlt), List.getElem?_append_left (herased ▸ hlt)]
    exact hshadow.run_answer hstretch hi
  -- From the rollback on, both runs go on from one state.
  · intro i hi
    rw [List.getElem?_append_right (by omega), List.getElem?_append_right (by omega),
      List.getElem?_append_right (by omega), List.getElem?_append_right (by omega), hkept, herased]
    rfl

theorem Session.rolled_back_writes_leave_nothing :
    let w : WorkspaceId := ⟨7, by decide⟩
    let before : List Action := [.call (.upsert w "a" "text/plain" (.int 1)) .engine none]
    let stretch : List Action :=
      [.call (.upsert w "b" "text/plain" (.int 2)) .connection none, .savepoint,
        .call (.usage w) .engine none, .call (.delete w "a") .session none, .rollbackToSavepoint]
    let after : List Action := [.call (.listIds w) .connection none, .commit]
    (Session.start.run before).1.transaction = none ∧ (∀ a ∈ stretch, a ≠ .commit) ∧
      (Session.start.run (before ++ (stretch ++ .rollback :: after))).1 =
        (Session.start.run (before ++ (stretch.map Action.inert ++ .rollback :: after))).1 := by
  intro w before stretch after
  have hclosed : (Session.start.run before).1.transaction = none := rfl
  have hstretch : ∀ a ∈ stretch, a ≠ .commit := by simp [stretch]
  exact ⟨hclosed, hstretch,
    (Session.rollback_erases_uncommitted before stretch after hclosed hstretch).1⟩

end StorageLedger.Ledger
