import StorageLedger.Proofs.Prompt
import StorageLedger.Proofs.TextReport

namespace StorageLedger.Command
open StorageLedger.Console StorageLedger.Ledger StorageLedger.Store StorageLedger.Text

variable {s : Surroundings}

theorem Output.say_aborted :
    Output.say 0 "[yellow]Aborted.[/yellow]" = ⟨"Aborted.\n".toList, .exit 0⟩ := by
  have hline : "Aborted.\n".toList = "Aborted.".toList ++ ['\n'] := by simp
  rw [hline]
  apply Output.say_ascii_line 0 (congrArg Except.toOption render_abortedText)
  · simp
  · simp [consoleWidth]

theorem Output.say_reset :
    Output.say 0 "[green]Ledger reset successfully.[/green]" =
      ⟨"Ledger reset successfully.\n".toList, .exit 0⟩ := by
  have hline : "Ledger reset successfully.\n".toList =
      "Ledger reset successfully.".toList ++ ['\n'] := by simp
  rw [hline]
  apply Output.say_ascii_line 0 (congrArg Except.toOption render_resetText)
  · simp
  · simp [consoleWidth]

theorem Surroundings.reset_faultless (t : Table) (hscript : s.store.script = none)
    (hfault : s.fault = none) :
    s.reset t = ⟨⟨"Ledger reset successfully.\n".toList, .exit 0⟩,
      [.begin_, .execute, .execute, .commit, .dispose], [], .empty⟩ := by
  obtain ⟨logLevel, input, files, ⟨now, script⟩, fault⟩ := s
  cases hscript
  cases hfault
  rw [← Output.say_reset]
  rfl

section Confirmation

variable {before lines : List (List Char)} {line : List Char}

def resetDialogue (before : List (List Char)) (line : List Char) : List Char :=
  refused resetQuestion.toList before ++ asked resetQuestion.toList line

theorem Surroundings.confirmReset_of_accepts (t : Table) (hinput : Lines s.input.toList lines)
    (hline : Reaches lines before line) (h : Accepts line) :
    s.confirmReset t =
      { s.reset t with output := (s.reset t).output.after (resetDialogue before line) } := by
  rw [Surroundings.confirmReset, hinput.inputLines_eq, hline.confirm (answer?_of_accepts h)]
  rfl

theorem Surroundings.confirmReset_of_declines (t : Table) (hinput : Lines s.input.toList lines)
    (hline : Reaches lines before line) (h : Declines line) :
    s.confirmReset t = .idle t ⟨resetDialogue before line ++ "Aborted.\n".toList, .exit 0⟩ := by
  rw [Surroundings.confirmReset, hinput.inputLines_eq, hline.confirm (answer?_of_declines h),
    Output.say_aborted]
  rfl

theorem Surroundings.confirmReset_of_undecided (t : Table) (hinput : Lines s.input.toList lines)
    (h : ∀ line ∈ lines, Undecided line) :
    s.confirmReset t =
      .idle t ⟨refused resetQuestion.toList lines ++ resetQuestion.toList, .exit 1⟩ := by
  rw [Surroundings.confirmReset, hinput.inputLines_eq, confirm_ended h]

/-- The store is opened only for a line that says yes. -/
theorem Surroundings.accepted_of_confirmReset (t : Table) (hinput : Lines s.input.toList lines)
    (h : (s.confirmReset t).events ≠ [] ∨ (s.confirmReset t).table ≠ t) :
    ∃ before line, Reaches lines before line ∧ Accepts line ∧
      ∃ word ∈ ["y", "yes"], (trim isBlank line).map Char.toLower = word.toList := by
  rcases undecided_or_reaches lines with hnone | ⟨before, line, hline, haccepts | hdeclines⟩
  · rw [s.confirmReset_of_undecided t hinput hnone] at h
    simp [Effect.idle] at h
  · exact ⟨before, line, hline, haccepts, accepts_iff.1 haccepts⟩
  · rw [s.confirmReset_of_declines t hinput hline hdeclines] at h
    simp [Effect.idle] at h

end Confirmation

/-- Data is destroyed only on an explicit yes. Of the lines of the input the first that says yes or
no decides: yes, which only letters of ASCII say, empties the table, no leaves the store alone, and
so does the end of the input if it comes first. Each line before that is answered with the
question. -/
theorem Surroundings.reset_only_on_yes (s : Surroundings) (t : Table) (args : List String)
    (hrequest : s.request? args = some (.resetSchema false)) :
    let effect := (s.run t args).effect
    ∃ lines, Lines s.input.toList lines ∧
      (effect.events ≠ [] ∨ effect.table ≠ t →
        ∃ before line, Reaches lines before line ∧ Accepts line ∧
          ∃ word ∈ ["y", "yes"], (trim isBlank line).map Char.toLower = word.toList) ∧
      (∀ before line, Reaches lines before line → Accepts line → s.store.script = none →
        s.fault = none →
          effect.output = ⟨resetDialogue before line ++ "Ledger reset successfully.\n".toList,
            .exit 0⟩ ∧
          effect.events = [.begin_, .execute, .execute, .commit, .dispose] ∧
          effect.table = .empty) ∧
      (∀ before line, Reaches lines before line → Declines line →
        effect = .idle t ⟨resetDialogue before line ++ "Aborted.\n".toList, .exit 0⟩) ∧
      ((∀ line ∈ lines, Undecided line) →
        effect =
          .idle t ⟨refused resetQuestion.toList lines ++ resetQuestion.toList, .exit 1⟩) := by
  intro effect
  let lines := inputLines s.input.toList
  have hinput : Lines s.input.toList lines := inputLines_eq_iff.1 rfl
  obtain ⟨level, hrun⟩ := Surroundings.run_of_request t hrequest
  have heffect : effect =
      { s.confirmReset t with logs := logged level (s.confirmReset t).logs } :=
    congrArg Report.effect hrun
  refine ⟨lines, hinput, ?_, ?_, ?_, ?_⟩
  · intro h
    rw [heffect] at h
    exact s.accepted_of_confirmReset t hinput h
  · intro before line hline haccepts hscript hfault
    rw [heffect, s.confirmReset_of_accepts t hinput hline haccepts,
      s.reset_faultless t hscript hfault]
    exact ⟨rfl, rfl, rfl⟩
  · intro before line hline hdeclines
    rw [heffect, s.confirmReset_of_declines t hinput hline hdeclines]
    rfl
  · intro hnone
    rw [heffect, s.confirmReset_of_undecided t hinput hnone]
    rfl

theorem Surroundings.second_line_decides :
    let t : Table := ⟨[⟨⟨7, by decide⟩, "o_a", "text/plain", 5, clockZero⟩]⟩
    let s (input : String) : Surroundings := ⟨"INFO", input, [], { now := stamp 1 }, none⟩
    let args := ["--verbose", "reset-db"]
    (∀ input, (s input).request? args = some (.resetSchema false)) ∧
      ((s "sure\r\n YES\nno\n").run t args).effect.table = .empty ∧
      ((s "sure\r\n").run t args).effect.table = t := by
  intro t s args
  have hrequest (input : String) : (s input).request? args = some (.resetSchema false) := rfl
  refine ⟨hrequest, ?_, ?_⟩
  · obtain ⟨lines, hlines, -, haccepted, -⟩ :=
      (s "sure\r\n YES\nno\n").reset_only_on_yes t args (hrequest _)
    have heq : inputLines "sure\r\n YES\nno\n".toList =
        ["sure".toList, " YES".toList, "no".toList] := by decide +kernel
    obtain rfl := hlines.inputLines_eq.symm.trans heq
    have hreaches : Reaches ["sure".toList, " YES".toList, "no".toList] ["sure".toList]
        " YES".toList :=
      ⟨by decide +kernel, ["no".toList], rfl⟩
    have haccepts : Accepts " YES".toList := by decide +kernel
    exact (haccepted _ _ hreaches haccepts rfl rfl).2.2
  · obtain ⟨lines, hlines, -, -, -, hended⟩ :=
      (s "sure\r\n").reset_only_on_yes t args (hrequest _)
    have heq : inputLines "sure\r\n".toList = ["sure".toList] := by decide +kernel
    obtain rfl := hlines.inputLines_eq.symm.trans heq
    rw [hended (by decide +kernel)]
    rfl

end StorageLedger.Command
