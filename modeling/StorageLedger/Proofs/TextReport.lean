import StorageLedger.Proofs.CommandEffect
import StorageLedger.Proofs.Query
import StorageLedger.Proofs.Wrapping

namespace StorageLedger.Command
open StorageLedger.Console StorageLedger.Ledger StorageLedger.Store StorageLedger.Text

variable {s : Surroundings} {t : Table}

def Request.workspace? : Request → Option String
  | .usage workspace => some workspace
  | .list workspace _ => some workspace
  | .inspect workspace _ => some workspace
  | .put workspace _ _ _ => some workspace
  | .remove workspace _ => some workspace
  | .load workspace _ => some workspace
  | _ => none

/-- A request that is answered with a report about what the user gave: a workspace that cannot be
read, a file that is not there, or a manifest that is rejected. The report says what is wrong and
then repeats a text. -/
inductive Surroundings.Refuses (s : Surroundings) (t : Table) :
    Request → String → String → Prop where
  | workspace {request : Request} {text : String} (h : request.workspace? = some text)
    (hbad : WorkspaceId.ofSpelling? text.toList = none) :
    s.Refuses t request "Invalid UUID: " text
  | missing {workspace fileId : String} {w : WorkspaceId} (hscript : s.store.script = none)
    (hfault : s.fault = none) (hw : WorkspaceId.ofSpelling? workspace.toList = some w)
    (h : t.contains (w, fileId) = false) :
    s.Refuses t (.inspect workspace fileId) "Blob not found: " fileId
  | manifest {workspace : String} {w : WorkspaceId} {manifest : File} {r : Validation.Rejection}
    (hw : WorkspaceId.ofSpelling? workspace.toList = some w)
    (h : Entry.ofManifest manifest.content = .error r) :
    s.Refuses t (.load workspace manifest) "Invalid manifest "
      (manifest.name ++ ":\n" ++ rejectionText r)

variable {request : Request} {heading text : String}

def reportText (heading text : String) : String := "[red]Error:[/red] " ++ heading ++ text

theorem invalidWorkspaceText_eq (text : String) :
    invalidWorkspaceText text = reportText "Invalid UUID: " text := by
  unfold invalidWorkspaceText reportText
  rw [← String.toList_inj]
  simp

theorem blobNotFoundText_eq (fileId : String) :
    blobNotFoundText fileId = reportText "Blob not found: " fileId := by
  unfold blobNotFoundText reportText
  rw [← String.toList_inj]
  simp

theorem invalidManifestText_eq (name : String) (r : Validation.Rejection) :
    invalidManifestText name r =
      reportText "Invalid manifest " (name ++ ":\n" ++ rejectionText r) := by
  unfold invalidManifestText reportText
  generalize rejectionText r = rejection
  rw [← String.toList_inj]
  simp

theorem Surroundings.call_get_missing (hscript : s.store.script = none) (hfault : s.fault = none)
    (h : t.contains (w, fileId) = false) :
    (s.call t (.get w fileId)).result = .error (.notFound w fileId) := by
  obtain ⟨logLevel, input, files, ⟨now, script⟩, fault⟩ := s
  cases hscript
  cases hfault
  have hreply : execute now t (.lookUp w fileId) = .ok (rowsReply [], t) := by
    rw [execute, Table.withKey_of_absent h]
  exact ((Call.get w fileId).run_faultless .engine rfl hreply rfl).1

theorem Surroundings.Refuses.perform (h : s.Refuses t request heading text) :
    (s.perform t request).output = .say 1 (reportText heading text) ∧
      (s.perform t request).table = t := by
  cases h with
  | workspace h hbad =>
    rw [← invalidWorkspaceText_eq]
    cases request <;> cases h <;>
      simp only [Surroundings.perform, inWorkspace, hbad, Effect.idle, and_self]
  | missing hscript hfault hw h =>
    have hresult := Surroundings.call_get_missing hscript hfault h
    simp only [Surroundings.perform, inWorkspace, hw, Effect.ofRun, hresult]
    exact ⟨congrArg _ (blobNotFoundText_eq text), Call.run_error hresult⟩
  | manifest hw h =>
    simp only [Surroundings.perform, inWorkspace, hw, Surroundings.load, h, Effect.idle, and_true]
    exact congrArg _ (invalidManifestText_eq _ _)

/-- What a report shows. -/
def message (heading : String) (cs : List Char) : List Char := ("Error: " ++ heading).toList ++ cs

theorem Surroundings.Refuses.heading_plain (h : s.Refuses t request heading text) :
    '[' ∉ heading.toList ∧ '\\' ∉ heading.toList := by
  cases h <;> simp

theorem Surroundings.Refuses.shown_heading (h : s.Refuses t request heading text)
    (cs : List Char) :
    Markup.shown (' ' :: heading.toList ++ cs) = ' ' :: heading.toList ++ Markup.shown cs := by
  have hcolon (words : List Char) (hwords : ∀ c ∈ words, Markup.isPlain c) :
      Markup.shown (words ++ ':' :: ' ' :: cs) = words ++ ':' :: ' ' :: Markup.shown cs := by
    rw [Markup.shown_append _ hwords, Markup.shown_colon_blank]
  cases h with
  | workspace =>
    have hwords := hcolon " Invalid UUID".toList (by simp [Markup.isPlain, Markup.isHidden])
    simpa using hwords
  | missing =>
    have hwords := hcolon " Blob not found".toList (by simp [Markup.isPlain, Markup.isHidden])
    simpa using hwords
  | manifest => exact Markup.shown_append _ (by simp [Markup.isPlain, Markup.isHidden])

theorem Surroundings.Refuses.heading_ascii (h : s.Refuses t request heading text) :
    ∀ c ∈ heading.toList, 0x20 ≤ c.toNat ∧ c.toNat < 0x7F := by
  cases h <;> simp

/-- The report shows the text as the text alone is shown, and cannot be shown if that cannot. -/
theorem Surroundings.Refuses.render_report (h : s.Refuses t request heading text) :
    (Markup.render (reportText heading text).toList).toOption =
      (Markup.render text.toList).toOption.map (message heading) := by
  obtain ⟨hbracket, hbackslash⟩ := h.heading_plain
  let tail : List Char := ' ' :: heading.toList ++ text.toList
  have hreport : (reportText heading text).toList =
      Markup.styled "red".toList "Error:".toList tail := by
    unfold reportText
    simp [Markup.styled, tail]
  have herror : Markup.shown "Error:".toList = "Error:".toList := by
    have hsplit : "Error:".toList = "Error".toList ++ [':'] := by simp
    exact Markup.shown_heading hsplit (by simp [Markup.isPlain, Markup.isHidden])
  obtain ⟨position, hshow⟩ := Markup.showStyled_styled 0 tail Markup.isStyle_red List.not_mem_nil
    List.not_mem_nil (show '[' ∉ "Error:".toList by simp) (by simp)
  have htail := Markup.toOption_showStyled_append
    (List.not_mem_cons_of_ne_of_not_mem (by decide) hbracket)
    (List.not_mem_cons_of_ne_of_not_mem (by decide) hbackslash) h.shown_heading position text.toList
  rw [List.nil_append] at hshow
  rw [Markup.render, hreport, hshow, Markup.toOption_map, htail, Option.map_map, herror]
  congr 1
  funext cs
  simp [message]

theorem Output.say_of_rendered (code : Nat) {cs : List Char}
    (h : (Markup.render text.toList).toOption = some cs) :
    Output.say code text = ⟨layOut cs, .exit code⟩ := by
  cases hr : Markup.render text.toList with
  | error f =>
    rw [hr] at h
    cases h
  | ok cs' =>
    rw [hr] at h
    cases h
    rw [Output.say, print, hr]
    rfl

/-- Line wrapping takes only blanks from a text whose characters all take cells. -/
theorem Output.say_wrapped (code : Nat) {cs : List Char}
    (h : (Markup.render text.toList).toOption = some cs) (hcs : Measured cs) :
    ∃ lines, Output.say code text = ⟨unlines lines, .exit code⟩ ∧ IsWrapping cs lines :=
  ⟨_, Output.say_of_rendered code h, wrap_measured (by decide) hcs⟩

theorem Output.say_line (code : Nat) {cs : List Char}
    (h : (Markup.render text.toList).toOption = some cs) (hcs : Measured cs)
    (hfit : cellLength cs ≤ consoleWidth) :
    Output.say code text = ⟨cs ++ ['\n'], .exit code⟩ := by
  rw [Output.say_of_rendered code h, layOut, wrap_eq_self hcs hfit]
  simp [unlines]

theorem Output.say_ascii_line (code : Nat) {cs : List Char}
    (h : (Markup.render text.toList).toOption = some cs)
    (hascii : ∀ c ∈ cs, 0x20 ≤ c.toNat ∧ c.toNat < 0x7F) (hfit : cs.length ≤ consoleWidth) :
    Output.say code text = ⟨cs ++ ['\n'], .exit code⟩ := by
  apply Output.say_line code h (.of_ascii hascii)
  rwa [cellLength_ascii hascii]

theorem Output.say_of_not_rendered (code : Nat)
    (h : (Markup.render text.toList).toOption = none) :
    ∃ fault, Output.say code text = ⟨[], .escape (.markup fault)⟩ := by
  cases hr : Markup.render text.toList with
  | error f =>
    refine ⟨f, ?_⟩
    rw [Output.say, print, hr]
    rfl
  | ok cs =>
    rw [hr] at h
    cases h

/-- An output that reports an error about some text and exits with 1. -/
structure Output.Reports (o : Output) (heading : String) (cs : List Char) : Prop where
  output : o = ⟨layOut (message heading cs), .exit 1⟩
  /-- Line wrapping takes only blanks from a text whose characters all take cells. -/
  wrapping : Measured cs →
    ∃ lines, o.printed = unlines lines ∧ IsWrapping (message heading cs) lines
  one_line : Measured cs → cellLength (message heading cs) ≤ consoleWidth →
    o = ⟨message heading cs ++ ['\n'], .exit 1⟩

theorem Surroundings.Refuses.measured_message (h : s.Refuses t request heading text)
    {cs : List Char} (hcs : Measured cs) : Measured (message heading cs) := by
  have hlead : Measured "Error: ".toList := .of_ascii (by simp)
  rw [message, String.toList_append]
  exact (hlead.append (.of_ascii h.heading_ascii)).append hcs

theorem Surroundings.Refuses.reports (h : s.Refuses t request heading text) {cs : List Char}
    (hcs : Markup.render text.toList = .ok cs) :
    (s.perform t request).output.Reports heading cs := by
  have hrender := h.render_report
  rw [hcs] at hrender
  refine ⟨h.perform.1.trans (Output.say_of_rendered 1 hrender), ?_, ?_⟩
  · intro hmeasured
    obtain ⟨lines, hlines, hwrapping⟩ :=
      Output.say_wrapped 1 hrender (h.measured_message hmeasured)
    rw [h.perform.1, hlines]
    exact ⟨lines, rfl, hwrapping⟩
  · intro hmeasured hfit
    exact h.perform.1.trans (Output.say_line 1 hrender (h.measured_message hmeasured) hfit)

theorem Surroundings.Refuses.escapes (h : s.Refuses t request heading text) {fault : Markup.Fault}
    (hfault : Markup.render text.toList = .error fault) :
    ∃ fault', (s.perform t request).output = ⟨[], .escape (.markup fault')⟩ := by
  have hrender := h.render_report
  rw [hfault] at hrender
  rw [h.perform.1]
  exact Output.say_of_not_rendered 1 hrender

theorem render_eq_self {cs : List Char} (hbracket : '[' ∉ cs) (hcolon : ':' ∉ cs)
    (h : Measured cs) : Markup.render cs = .ok cs := by
  have hhidden : ∀ c ∈ cs, Markup.isHidden c = false := by
    intro c hc
    by_contra hne
    have hcontrol : c.toNat < 0x20 := by
      simp [Markup.isHidden] at hne
      omega
    exact h c hc (if_pos (.inl hcontrol))
  rw [Markup.render_of_no_bracket hbracket, Markup.shown_eq_self hbracket hcolon hhidden]

end StorageLedger.Command
