import StorageLedger.Proofs.CommandEffect
import StorageLedger.Proofs.TransactionBracket
import StorageLedger.Proofs.Validation
import StorageLedger.Proofs.Wrapping

namespace StorageLedger.Store
open StorageLedger.Calendar

variable {now : Timestamp} {t : Table} {failure : Failure}

/-- A failure of the store whose text holds no markup. -/
structure Failure.Tame (failure : Failure) : Prop where
  isStoreFailure : failure.isStoreFailure = true
  plain : '[' ∉ failure.text.toList

theorem Failure.tame_negativeSize : Failure.negativeSize.Tame := by
  refine ⟨rfl, ?_⟩
  unfold Failure.text Failure.background
  simp only [String.toList_append, List.mem_append, not_or]
  decide

theorem Failure.tame_oversize : Failure.oversize.Tame := by
  refine ⟨rfl, ?_⟩
  unfold Failure.text Failure.background
  simp

theorem Failure.tame_multipleRows : Failure.multipleRows.Tame := by
  refine ⟨rfl, ?_⟩
  unfold Failure.text
  simp

theorem sizeFailure?_tame (h : sizeFailure? n = some failure) : failure.Tame := by
  unfold sizeFailure? at h
  split at h
  · cases h
    exact Failure.tame_negativeSize
  · split at h
    · cases h
      exact Failure.tame_oversize
    · cases h

theorem insertOne_tame {entry : String × String × Int}
    (h : insertOne now w t entry = .error failure) : failure.Tame := by
  simp only [insertOne] at h
  split at h
  · cases h
  · split at h
    · next hs =>
      cases h
      exact sizeFailure?_tame hs
    · cases h

theorem insertAll_tame {entries : List (String × String × Int)}
    (h : insertAll now w t entries = .error failure) : failure.Tame := by
  induction entries generalizing t with
  | nil => cases h
  | cons entry entries ih =>
    simp only [insertAll, List.foldlM_cons] at h ih
    cases h₁ : insertOne now w t entry with
    | error failure' =>
      rw [h₁] at h
      cases h
      exact insertOne_tame h₁
    | ok t₁ =>
      rw [h₁] at h
      exact ih h

/-- The store itself fails only over sizes. -/
theorem execute_tame (h : execute now t s = .error failure) : failure.Tame := by
  cases s with
  | upsert w fileId fileType n =>
    simp only [execute] at h
    split at h
    · next hs =>
      cases h
      exact sizeFailure?_tame hs
    · cases h
  | insertAbsent w fs ts ns =>
    simp only [execute] at h
    cases hi : insertAll now w t (fs.zip (ts.zip ns)) with
    | error failure' =>
      rw [hi] at h
      cases h
      exact insertAll_tame hi
    | ok t₁ =>
      rw [hi] at h
      cases h
  | _ => cases h

end StorageLedger.Store

namespace StorageLedger.Ledger
open StorageLedger.Calendar StorageLedger.Store

variable {store : Store} {t : Table} {c : Call} {fault : Fault} {handle : Handle}
variable {failure : Failure} {statements : List Statement}
variable {read : Reply → Except Failure Reply}
variable {conclude : Reply → Except LedgerError Outcome × List LogRecord}

theorem Call.read_tame (hplan : c.plan handle = .send statements read conclude)
    (h : read reply = .error failure) : failure.Tame := by
  cases c with
  | get w fileId =>
    cases hplan
    unfold atMostOneRow at h
    split at h
    · cases h
      exact Failure.tame_multipleRows
    · cases h
  | upsert w fileId fileType v =>
    simp only [Call.plan] at hplan
    split at hplan <;> cases hplan
    cases h
  | insertBulk w batch =>
    simp only [Call.plan, planBulk] at hplan
    split at hplan
    · cases hplan
    · split at hplan <;> cases hplan
      cases h
  | delete w fileId =>
    simp only [Call.plan] at hplan
    split at hplan <;> cases hplan
    cases h
  | _ =>
    cases hplan
    cases h

theorem Call.work_tame (hscript : store.script = none)
    (hplan : c.plan handle = .send [s] read conclude)
    (h : (performRead store none [s] read t).result = .error failure) : failure.Tame := by
  cases hrun : store.run t s with
  | error failure' =>
    simp only [performRead, perform, hrun] at h
    cases h
    rw [Store.run, hscript] at hrun
    exact execute_tame hrun
  | ok answer =>
    simp only [performRead, perform, hrun] at h
    exact Call.read_tame hplan h

/-- A ledger call through an engine meets a failure of the store wherever the store is made to
fail: it is that failure, or the store fails by itself before it can be committed. -/
theorem Call.Sends.store_failure (hs : c.Sends .engine s) (hscript : store.script = none)
    (hfault : fault.failure.Tame) :
    ∃ cause, cause.Tame ∧
      (c.run store .engine (some fault) t).result = .error (.storeFailure c.name cause) := by
  obtain ⟨read, conclude, hplan, _⟩ := hs.plan
  suffices hwork : ∃ cause, cause.Tame ∧ (carryOut .engine (some fault)
      (performRead store (faultAt (some fault) .execute) [s] read) t).result = .error cause by
    obtain ⟨cause, hcause, hresult⟩ := hwork
    have hcreate : c ≠ .createSchema := by
      rintro rfl
      cases hs
    have hreset : c ≠ .resetSchema := by
      rintro rfl
      cases hs
    refine ⟨cause, hcause, (Call.run_of_failure hplan hresult).1.trans ?_⟩
    rw [Call.errorOf_store_failure hcreate hreset hcause.isStoreFailure]
  cases hp : fault.point with
  | connect => exact ⟨fault.failure, hfault, carryOut_connect_fault hp⟩
  | execute =>
    exact ⟨fault.failure, hfault, carryOut_execute_fault hp (performRead_execute_fault hp)⟩
  | commit =>
    rw [faultAt_of_ne (by rw [hp]; decide)]
    cases hwork : (performRead store none [s] read t).result with
    | ok reply => exact ⟨fault.failure, hfault, carryOut_commit_fault hp hwork⟩
    | error cause =>
      refine ⟨cause, Call.work_tame hscript hplan hwork, ?_⟩
      rw [carryOut_of_engine rfl, faultAt_of_ne (by rw [hp]; decide),
        ownTransaction_of_error hwork]
      exact hwork

theorem Call.schema_failure (hc : c = .createSchema ∨ c = .resetSchema)
    (hscript : store.script = none) :
    (c.run store .engine (some fault) t).result = .error (.passedOn fault.failure) := by
  obtain ⟨now, script⟩ := store
  cases hscript
  obtain ⟨point, failure⟩ := fault
  rcases hc with rfl | rfl <;> cases point <;> rfl

end StorageLedger.Ledger

namespace StorageLedger.Command
open StorageLedger.Console StorageLedger.Ledger StorageLedger.Store StorageLedger.Text

variable {s : Surroundings} {t : Table} {fault : Fault}

theorem Surroundings.remove_failure (t : Table) (w : WorkspaceId) (fileId : String)
    (hscript : s.store.script = none) (hfault : s.fault = some fault)
    (hkind : fault.failure.isStoreFailure = true) :
    (s.remove t w fileId).result = .error
      (if fault.point = .execute then .storeFailure (Call.delete w fileId).name fault.failure
        else .passedOn fault.failure) := by
  obtain ⟨logLevel, input, files, ⟨now, script⟩, fault'⟩ := s
  cases hscript
  cases hfault
  obtain ⟨point, failure⟩ := fault
  cases point with
  | connect => rfl
  | commit => rfl
  | execute =>
    have hfires :
        (Fault.mk .execute failure).Fires (.delete w fileId) { now := now } .connection t :=
      ⟨_, .delete (by decide), .inl rfl⟩
    have herror : (Call.delete w fileId).errorOf failure = _ :=
      Call.errorOf_store_failure nofun nofun hkind
    have hresult := hfires.run.1
    rw [herror] at hresult
    let work := (Call.delete w fileId).run { now := now } .connection (some ⟨.execute, failure⟩)
    show (ownTransaction none none work t).result = _
    rw [ownTransaction_of_error hresult]
    exact hresult

/-- A request whose arguments are in order: its workspace can be read, the size is one that a blob
may have, the manifest holds entries, and no question comes before a reset. -/
def Request.InOrder : Request → Prop
  | .help => False
  | .createSchema => True
  | .resetSchema force => force = true
  | .usage workspace => (WorkspaceId.ofSpelling? workspace.toList).isSome
  | .list workspace _ => (WorkspaceId.ofSpelling? workspace.toList).isSome
  | .inspect workspace _ => (WorkspaceId.ofSpelling? workspace.toList).isSome
  | .put workspace _ _ fileSize => (WorkspaceId.ofSpelling? workspace.toList).isSome ∧
      0 ≤ fileSize ∧ fileSize ≤ Validation.maxSize
  | .remove workspace _ => (WorkspaceId.ofSpelling? workspace.toList).isSome
  | .load workspace manifest => (WorkspaceId.ofSpelling? workspace.toList).isSome ∧
      ∃ es, Entry.ofManifest manifest.content = .ok es ∧ es ≠ []

/-- Whether the command of a request reports a failure of the store that is met at a point. -/
def Request.reportsAt (point : FaultPoint) : Request → Bool
  | .createSchema => false
  | .resetSchema _ => false
  | .remove _ _ => point = .execute
  | _ => true

/-- Work on a store that ends with an error and keeps the rows. -/
structure Effect.Meets (effect : Effect) (t : Table) (e : LedgerError) : Prop where
  output : effect.output = failed e
  table : effect.table = t
  closed : ∃ events, effect.events = events ++ [.dispose] ∧ .dispose ∉ events

theorem Effect.Meets.ofRun {run : Run LedgerError α} {conclude : Except LedgerError α → Output}
    (h : run.result = .error e) (htable : run.table = t) (hevents : .dispose ∉ run.events)
    (hconclude : conclude (.error e) = failed e) : (Effect.ofRun run conclude).Meets t e :=
  ⟨(congrArg conclude h).trans hconclude, htable, run.events, rfl, hevents⟩

theorem Effect.Meets.ofCall {c : Call} {conclude : Except LedgerError Outcome → Output}
    (h : (s.call t c).result = .error e) (hconclude : conclude (.error e) = failed e) :
    (Effect.ofRun (s.call t c) conclude).Meets t e :=
  .ofRun h (Call.run_error h) (c.dispose_not_mem _ _ _ _) hconclude

/-- A failure of the store that a ledger call reports as its own. -/
def IsStoreFailure (e : LedgerError) : Prop :=
  ∃ c : Call, ∃ cause : Failure, cause.Tame ∧ e = .storeFailure c.name cause

theorem Effect.Meets.ofSends {c : Call} {conclude : Except LedgerError Outcome → Output}
    (hs : c.Sends .engine statement) (hscript : s.store.script = none)
    (hfault : s.fault = some fault) (htame : fault.failure.Tame)
    (hconclude : ∀ cause, conclude (.error (.storeFailure c.name cause)) =
      failed (.storeFailure c.name cause)) :
    ∃ e, (Effect.ofRun (s.call t c) conclude).Meets t e ∧ IsStoreFailure e := by
  obtain ⟨cause, hcause, hresult⟩ := hs.store_failure hscript htame
  refine ⟨_, .ofCall ?_ (hconclude cause), c, cause, hcause, rfl⟩
  rw [Surroundings.call, hfault]
  exact hresult

/-- What a request meets at a fault: a failure of the store under the name of a ledger call if its
command reports it, and the bare failure otherwise. -/
theorem Surroundings.perform_meets (request : Request) (horder : request.InOrder)
    (hscript : s.store.script = none) (hfault : s.fault = some fault)
    (htame : fault.failure.Tame) :
    ∃ e, (s.perform t request).Meets t e ∧
      if request.reportsAt fault.point then IsStoreFailure e else e = .passedOn fault.failure := by
  cases request with
  | help => exact horder.elim
  | createSchema =>
    have hresult : (s.call t .createSchema).result = .error (.passedOn fault.failure) := by
      rw [Surroundings.call, hfault]
      exact Call.schema_failure (.inl rfl) hscript
    exact ⟨_, .ofCall hresult rfl, rfl⟩
  | resetSchema force =>
    cases (show force = true from horder)
    have hresult : (s.call t .resetSchema).result = .error (.passedOn fault.failure) := by
      rw [Surroundings.call, hfault]
      exact Call.schema_failure (.inr rfl) hscript
    exact ⟨_, .ofCall hresult rfl, rfl⟩
  | usage workspace =>
    obtain ⟨w, hw⟩ := Option.isSome_iff_exists.1 horder
    simp only [Surroundings.perform, inWorkspace, hw]
    exact Effect.Meets.ofSends .usage hscript hfault htame fun _ => rfl
  | list workspace idsOnly =>
    obtain ⟨w, hw⟩ := Option.isSome_iff_exists.1 horder
    simp only [Surroundings.perform, inWorkspace, hw]
    cases idsOnly with
    | true => exact Effect.Meets.ofSends .listIds hscript hfault htame fun _ => rfl
    | false => exact Effect.Meets.ofSends .listRecords hscript hfault htame fun _ => rfl
  | inspect workspace fileId =>
    obtain ⟨w, hw⟩ := Option.isSome_iff_exists.1 horder
    simp only [Surroundings.perform, inWorkspace, hw]
    exact Effect.Meets.ofSends .get hscript hfault htame fun _ => rfl
  | put workspace fileId fileType fileSize =>
    obtain ⟨hworkspace, hpos, hmax⟩ := horder
    obtain ⟨w, hw⟩ := Option.isSome_iff_exists.1 hworkspace
    simp only [Surroundings.perform, inWorkspace, hw]
    exact Effect.Meets.ofSends (.upsert (Validation.fileSize_of_bounds hpos hmax)) hscript hfault
      htame fun _ => rfl
  | remove workspace fileId =>
    obtain ⟨w, hw⟩ := Option.isSome_iff_exists.1 horder
    simp only [Surroundings.perform, inWorkspace, hw]
    have hresult := s.remove_failure t w fileId hscript hfault htame.isStoreFailure
    refine ⟨_, .ofRun hresult (ownTransaction_error hresult)
      (dispose_not_mem_ownTransaction (Call.dispose_not_mem _ _ _ _ _)) rfl, ?_⟩
    by_cases hp : fault.point = .execute
    · simp only [Request.reportsAt, hp, decide_true, if_true]
      exact ⟨.delete w fileId, fault.failure, htame, rfl⟩
    · simp only [Request.reportsAt, hp, decide_false, Bool.false_eq_true, if_false]
  | load workspace manifest =>
    obtain ⟨hworkspace, es, hes, hne⟩ := horder
    obtain ⟨w, hw⟩ := Option.isSome_iff_exists.1 hworkspace
    simp only [Surroundings.perform, inWorkspace, hw, Surroundings.load, hes]
    exact Effect.Meets.ofSends (.insertBulk rfl hne) hscript hfault htame fun _ => rfl

def IsNameChar (n : Char) : Prop := n = '_' ∨ 0x61 ≤ n.toNat ∧ n.toNat ≤ 0x7A

theorem IsNameChar.ne {n c : Char} (h : IsNameChar n) (hc : c ≠ '_')
    (hc' : ¬ (0x61 ≤ c.toNat ∧ c.toNat ≤ 0x7A)) : n ≠ c := by
  rintro rfl
  rcases h with h | h
  · exact hc h
  · exact hc' h

theorem IsNameChar.isPlain {n : Char} (h : IsNameChar n) : Markup.isPlain n = true := by
  have hbackslash : n ≠ '\\' := h.ne (by decide) (by decide)
  have hcolon : n ≠ ':' := h.ne (by decide) (by decide)
  have hhidden : Markup.isHidden n = false := by
    rcases h with rfl | h
    · rfl
    · simp only [Markup.isHidden, List.contains_eq_any_beq, List.any_eq_false]
      simp
      omega
  simp [Markup.isPlain, hbackslash, hcolon, hhidden]

theorem IsNameChar.isBlank {n : Char} (h : IsNameChar n) : isBlank n = false := by
  rcases h with rfl | h
  · rfl
  · simp [Text.isBlank, Text.isWhite]
    omega

theorem IsNameChar.cellWidth {n : Char} (h : IsNameChar n) : cellWidth n ≠ 0 := by
  rcases h with rfl | h
  · decide
  · rw [cellWidth_ascii (by omega) (by omega)]
    decide

theorem isNameChar_of_mem_name (c : Call) : ∀ n ∈ c.name.toList, IsNameChar n := by
  cases c <;> simp [Call.name, IsNameChar]

theorem name_ne_nil (c : Call) : c.name.toList ≠ [] := by
  cases c <;> simp [Call.name]

theorem shown_store_error : Markup.shown "Store error:".toList = "Store error:".toList := by
  have hsplit : "Store error:".toList = "Store error".toList ++ [':'] := by simp
  exact Markup.shown_heading hsplit (by simp [Markup.isPlain, Markup.isHidden])

/-- A report that names what failed starts in the same way whatever follows the name. -/
theorem print_storeErrorText {name text : String} (hne : name.toList ≠ [])
    (hname : ∀ n ∈ name.toList, IsNameChar n) (hplain : '[' ∉ text.toList) :
    ∃ cs, print (storeErrorText (name ++ text)).toList = .ok cs ∧
      "Store error: ".toList <+: cs := by
  obtain ⟨n, ns, hcons⟩ := List.exists_cons_of_ne_nil hne
  have hn : IsNameChar n := hname n (by simp [hcons])
  have htail : '[' ∉ ' ' :: n :: (ns ++ text.toList) := by
    have hbracket : '[' ∉ name.toList := fun h => (hname _ h).ne (by decide) (by decide) rfl
    rw [hcons] at hbracket
    simp only [List.mem_cons, not_or] at hbracket
    simp [hbracket, hplain]
  have htext : (storeErrorText (name ++ text)).toList =
      Markup.styled "red".toList "Store error:".toList (' ' :: n :: (ns ++ text.toList)) := by
    unfold storeErrorText
    simp [Markup.styled, hcons]
  refine ⟨_, print_styled Markup.isStyle_red htext (by simp) (by simp)
    (Markup.firstTag?_eq_none htail), ?_⟩
  let words : List (List Char) := ["Store".toList, "error:".toList]
  have hphrase : "Store error: ".toList = phrase words := by simp [phrase, words]
  have hshown : Markup.shown "Store error:".toList ++
      Markup.shown (' ' :: n :: (ns ++ text.toList)) =
        phrase words ++ n :: Markup.shown (ns ++ text.toList) := by
    rw [shown_store_error, Markup.shown_cons _ (by decide), Markup.shown_cons _ hn.isPlain]
    simp [phrase, words]
  rw [hphrase, hshown]
  have hascii : ∀ c ∈ phrase words, 0x20 ≤ c.toNat ∧ c.toNat < 0x7F := by simp [phrase, words]
  have hcells : cellLength (phrase words) ≤ consoleWidth := by
    rw [cellLength_ascii hascii, ← hphrase]
    decide
  apply prefix_layOut (by simp [words]) _ (.of_ascii hascii) hcells hn.isBlank hn.cellWidth
  simp [words, Text.isBlank, Text.isWhite]

theorem failed_isStoreFailure (h : IsStoreFailure e) :
    ∃ cs, failed e = ⟨cs, .exit 1⟩ ∧ "Store error: ".toList <+: cs := by
  obtain ⟨c, cause, hcause, rfl⟩ := h
  have hplain : '[' ∉ (": " ++ cause.text).toList := by
    simp [hcause.plain]
  obtain ⟨cs, hprint, hstart⟩ :=
    print_storeErrorText (name_ne_nil c) (isNameChar_of_mem_name c) hplain
  refine ⟨cs, ?_, hstart⟩
  have hmessage :
      (LedgerError.storeFailure c.name cause).message = c.name ++ (": " ++ cause.text) :=
    String.append_assoc
  simp only [failed, hmessage, Output.say, hprint]

/-- A failure of the store, met at any point by a command whose arguments are in order. The rows
stay as they were and the store is closed. A command that reaches the store by a ledger call alone
reports the failure and exits with 1. One that works on the schema does not, nor does a removal
whose transaction cannot begin or be committed: from these the failure escapes. -/
theorem Surroundings.store_failure_reported_or_escapes (s : Surroundings) (t : Table)
    (args : List String) (request : Request) (fault : Fault) (hscript : s.store.script = none)
    (hfault : s.fault = some fault) (hkind : fault.failure.isStoreFailure = true)
    (hplain : '[' ∉ fault.failure.text.toList) (hrequest : s.request? args = some request)
    (horder : request.InOrder) :
    let effect := (s.run t args).effect
    effect.table = t ∧ (∃ events, effect.events = events ++ [.dispose] ∧ .dispose ∉ events) ∧
      if request.reportsAt fault.point then
        ∃ printed, effect.output = ⟨printed, .exit 1⟩ ∧ "Store error: ".toList <+: printed
      else effect.output = ⟨[], .escape (.ledger (.passedOn fault.failure))⟩ := by
  obtain ⟨level, hrun⟩ := Surroundings.run_of_request t hrequest
  obtain ⟨e, hmeets, he⟩ : ∃ e, (s.perform t request).Meets t e ∧ _ :=
    Surroundings.perform_meets request horder hscript hfault ⟨hkind, hplain⟩
  rw [hrun]
  refine ⟨hmeets.table, hmeets.closed, ?_⟩
  show if _ then ∃ printed, (s.perform t request).output = _ ∧ _ else
    (s.perform t request).output = _
  rw [hmeets.output]
  split at he
  · next hreports =>
    rw [if_pos hreports]
    exact failed_isStoreFailure he
  · next hreports =>
    rw [if_neg hreports, he]
    rfl

theorem Surroundings.usage_reports_and_removal_does_not :
    let s : Surroundings := ⟨"INFO", "", [], { now := stamp 1 }, some ⟨.connect, .timeout "late"⟩⟩
    let usage := (s.run .empty ["-v", "usage", "00000000-0000-0000-0000-000000000007"]).effect
    let removal := (s.run .empty ["-v", "rm", "00000000-0000-0000-0000-000000000007", "a"]).effect
    (∃ printed, usage.output = ⟨printed, .exit 1⟩ ∧ "Store error: ".toList <+: printed) ∧
      removal.output = ⟨[], .escape (.ledger (.passedOn (.timeout "late")))⟩ := by
  intro s usage removal
  have hw : (WorkspaceId.ofSpelling? "00000000-0000-0000-0000-000000000007".toList).isSome := by
    decide +kernel
  have hplain : '[' ∉ "late".toList := by simp
  obtain ⟨_, _, hreported⟩ := s.store_failure_reported_or_escapes .empty
    ["-v", "usage", "00000000-0000-0000-0000-000000000007"]
    (.usage "00000000-0000-0000-0000-000000000007") ⟨.connect, .timeout "late"⟩ rfl rfl rfl hplain
    rfl hw
  obtain ⟨_, _, hescapes⟩ := s.store_failure_reported_or_escapes .empty
    ["-v", "rm", "00000000-0000-0000-0000-000000000007", "a"]
    (.remove "00000000-0000-0000-0000-000000000007" "a") ⟨.connect, .timeout "late"⟩ rfl rfl rfl
    hplain rfl hw
  exact ⟨hreported, hescapes⟩

/-- A failure to connect for the creation of the schema is not reported. -/
theorem Surroundings.creation_failure_not_reported :
    let s : Surroundings :=
      ⟨"WARNING", "", [], { now := stamp 1 }, some ⟨.connect, .system none "refused"⟩⟩
    let output := (s.run .empty ["init-db"]).effect.output
    output.printed = [] ∧ ∀ code, output.ending ≠ .exit code := by
  intro s output
  have hlevel : s.level false = .ok .warning := by decide +kernel
  have hrequest : s.request? ["init-db"] = some .createSchema :=
    Surroundings.request?_of_read rfl hlevel rfl
  have houtput : output = (s.perform .empty .createSchema).output :=
    Surroundings.output_of_request .empty hrequest
  rw [houtput]
  exact ⟨rfl, nofun⟩

end StorageLedger.Command
