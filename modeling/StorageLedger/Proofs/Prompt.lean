import StorageLedger.Console.Prompt
import StorageLedger.Proofs.LetterCase
import StorageLedger.Proofs.Wrapping

namespace StorageLedger.Console
open StorageLedger.Text

section Lines

variable {cs line brk rest : List Char} {lines : List (List Char)} {c : Char}

/-- A text on one line. -/
def Unbroken (cs : List Char) : Prop := '\n' ∉ cs ∧ '\r' ∉ cs

/-- A line break in front of the rest of an input. A carriage return in front of a line feed is no
break of its own. -/
inductive IsBreak : List Char → List Char → Prop where
  | feed {rest : List Char} : IsBreak ['\n'] rest
  | both {rest : List Char} : IsBreak ['\r', '\n'] rest
  | back {rest : List Char} (h : rest.head? ≠ some '\n') : IsBreak ['\r'] rest

/-- How an input falls into lines. Each ends at a line break, but the last one may end where the
input does if there is something on it. -/
inductive Lines : List Char → List (List Char) → Prop where
  | none : Lines [] []
  | last {line : List Char} (h : Unbroken line) (hne : line ≠ []) : Lines line [line]
  | line {line brk rest : List Char} {lines : List (List Char)} (h : Unbroken line)
    (hbreak : IsBreak brk rest) (hrest : Lines rest lines) :
    Lines (line ++ (brk ++ rest)) (line :: lines)

theorem unbroken_nil : Unbroken [] := ⟨List.not_mem_nil, List.not_mem_nil⟩

theorem Unbroken.cons (h : Unbroken line) (hfeed : c ≠ '\n') (hback : c ≠ '\r') :
    Unbroken (c :: line) :=
  ⟨List.not_mem_cons_of_ne_of_not_mem hfeed.symm h.1,
    List.not_mem_cons_of_ne_of_not_mem hback.symm h.2⟩

theorem Lines.cons_char (h : Lines cs lines) (hfeed : c ≠ '\n') (hback : c ≠ '\r') :
    ∃ lines', Lines (c :: cs) lines' := by
  cases h with
  | none => exact ⟨_, .last (unbroken_nil.cons hfeed hback) (List.cons_ne_nil _ _)⟩
  | last h _ => exact ⟨_, .last (h.cons hfeed hback) (List.cons_ne_nil _ _)⟩
  | line h hbreak hrest => exact ⟨_, .line (h.cons hfeed hback) hbreak hrest⟩

theorem exists_lines (cs : List Char) : ∃ lines, Lines cs lines := by
  induction cs using plainBreaks.induct with
  | case1 => exact ⟨_, .none⟩
  | case2 r ih =>
    obtain ⟨lines, h⟩ := ih
    exact ⟨_, .line unbroken_nil .both h⟩
  | case3 r hr ih =>
    obtain ⟨lines, h⟩ := ih
    refine ⟨_, .line unbroken_nil (.back fun hhead => ?_) h⟩
    obtain ⟨r', rfl⟩ := List.head?_eq_some_iff.1 hhead
    exact hr r' rfl
  | case4 c r _ hback ih =>
    obtain ⟨lines, h⟩ := ih
    by_cases hfeed : c = '\n'
    · subst hfeed
      exact ⟨_, .line unbroken_nil .feed h⟩
    · exact h.cons_char hfeed hback

theorem plainBreaks_append (h : Unbroken line) :
    plainBreaks (line ++ rest) = line ++ plainBreaks rest := by
  induction line with
  | nil => rfl
  | cons c line ih =>
    obtain ⟨hfeed, hback⟩ := h
    have hc : c ≠ '\r' := fun hc => hback (hc ▸ List.mem_cons_self)
    have htail : Unbroken line :=
      ⟨fun hm => hfeed (List.mem_cons_of_mem _ hm), fun hm => hback (List.mem_cons_of_mem _ hm)⟩
    rw [List.cons_append, plainBreaks, ih htail, List.cons_append]
    all_goals simp [hc]

theorem IsBreak.plain (h : IsBreak brk rest) :
    plainBreaks (brk ++ rest) = '\n' :: plainBreaks rest := by
  cases h with
  | feed => rfl
  | both => rfl
  | back h =>
    cases rest with
    | nil => rfl
    | cons c r =>
      rw [List.singleton_append, plainBreaks]
      rintro r' hr'
      obtain ⟨rfl, rfl⟩ := List.cons.inj hr'
      exact h rfl

theorem inputLines_line (h : Unbroken line) (hbreak : IsBreak brk rest) :
    inputLines (line ++ (brk ++ rest)) = line :: inputLines rest := by
  have hsplit : splitAtChar '\n' (plainBreaks (line ++ (brk ++ rest))) =
      line :: splitAtChar '\n' (plainBreaks rest) := by
    rw [plainBreaks_append h, hbreak.plain, splitAtChar_append_sep h.1]
  obtain ⟨first, more, hmore⟩ :=
    List.exists_cons_of_ne_nil (splitAtChar_ne_nil '\n' (plainBreaks rest))
  simp only [inputLines, hsplit, hmore, List.getLast?_cons_cons, List.dropLast_cons_cons]
  split
  · rfl
  · rfl

theorem Lines.inputLines_eq (h : Lines cs lines) : inputLines cs = lines := by
  induction h with
  | none => rfl
  | @last line h hne =>
    have hplain : plainBreaks line = line := by
      have happend := @plainBreaks_append line [] h
      rwa [List.append_nil, plainBreaks, List.append_nil] at happend
    simp only [inputLines, hplain, splitAtChar_of_not_mem h.1]
    rw [if_neg (by simpa using hne)]
  | line h hbreak _ ih => rw [inputLines_line h hbreak, ih]

/-- The lines that a prompt reads are those of the input. -/
theorem inputLines_eq_iff : inputLines cs = lines ↔ Lines cs lines := by
  constructor
  · rintro rfl
    obtain ⟨lines, h⟩ := exists_lines cs
    exact h.inputLines_eq ▸ h
  · exact Lines.inputLines_eq

end Lines

section Answers

variable {line question : List Char} {before after : List (List Char)}

/-- A line says one of some words, in any case and with blanks around it. -/
def Says (words : List String) (line : List Char) : Prop :=
  ∃ word ∈ words, IsTrim isBlank (lower line) word.toList

/-- A line that says yes. -/
def Accepts : List Char → Prop := Says ["y", "yes"]

def Declines : List Char → Prop := Says ["n", "no", ""]

/-- A line that says neither yes nor no. -/
def Undecided (line : List Char) : Prop := ¬ Accepts line ∧ ¬ Declines line

theorem says_iff (words : List String) (line : List Char) :
    Says words line ↔ words.any (·.toList = trim isBlank (lower line)) = true := by
  simp only [Says, ← trim_eq_iff, List.any_eq_true, decide_eq_true_eq]
  exact exists_congr fun word => and_congr_right fun _ => eq_comm

instance (words : List String) : DecidablePred (Says words) :=
  fun line => decidable_of_iff _ (says_iff words line).symm

instance : DecidablePred Accepts := inferInstanceAs (DecidablePred (Says _))

instance : DecidablePred Declines := inferInstanceAs (DecidablePred (Says _))

instance : DecidablePred Undecided := fun line =>
  inferInstanceAs (Decidable (¬ Accepts line ∧ ¬ Declines line))

theorem says_iff_map_toLower {words : List String}
    (hwords : ∀ word ∈ words, ∀ x ∈ word.toList, x.toNat < 0x80 ∧ x ≠ 'k') :
    Says words line ↔ ∃ word ∈ words, (trim isBlank line).map Char.toLower = word.toList := by
  simp only [Says, ← trim_eq_iff, trim_lower]
  exact exists_congr fun word => and_congr_right fun hword => lower_eq_iff (hwords word hword)

/-- Only letters of ASCII say yes, whatever else has a lower case. -/
theorem accepts_iff :
    Accepts line ↔
      ∃ word ∈ ["y", "yes"], (trim isBlank line).map Char.toLower = word.toList :=
  says_iff_map_toLower (by simp)

theorem answer?_of_accepts (h : Accepts line) : answer? line = some true :=
  if_pos ((says_iff _ line).1 h)

theorem Accepts.not_declines (h : Accepts line) : ¬ Declines line := by
  obtain ⟨word, hword, h⟩ := h
  rintro ⟨word', hword', h'⟩
  rw [← trim_eq_iff] at h h'
  obtain rfl := String.toList_inj.1 (h.symm.trans h')
  revert hword hword'
  simp only [List.mem_cons, List.not_mem_nil, or_false]
  rintro (rfl | rfl)
  · decide
  · decide

theorem answer?_of_declines (h : Declines line) : answer? line = some false := by
  have haccepts : ¬ Accepts line := fun haccepts => haccepts.not_declines h
  rw [Accepts, says_iff] at haccepts
  rw [Declines, says_iff] at h
  rw [answer?]
  exact (if_neg haccepts).trans (if_pos h)

theorem answer?_of_undecided (h : Undecided line) : answer? line = none := by
  obtain ⟨haccepts, hdeclines⟩ := h
  rw [Accepts, says_iff] at haccepts
  rw [Declines, says_iff] at hdeclines
  rw [answer?]
  exact (if_neg haccepts).trans (if_neg hdeclines)

/-- A line is reached behind some lines that say neither yes nor no. -/
def Reaches (lines before : List (List Char)) (line : List Char) : Prop :=
  (∀ earlier ∈ before, Undecided earlier) ∧ ∃ after, lines = before ++ line :: after

theorem undecided_or_reaches (lines : List (List Char)) :
    (∀ line ∈ lines, Undecided line) ∨
      ∃ before line, Reaches lines before line ∧ (Accepts line ∨ Declines line) := by
  induction lines with
  | nil => exact .inl (List.forall_mem_nil _)
  | cons line lines ih =>
    by_cases hdecision : Accepts line ∨ Declines line
    · exact .inr ⟨[], line, ⟨List.forall_mem_nil _, lines, rfl⟩, hdecision⟩
    have hline : Undecided line := not_or.1 hdecision
    rcases ih with hall | ⟨before, decisive, ⟨hbefore, after, rfl⟩, hdecision⟩
    · exact .inl (List.forall_mem_cons.2 ⟨hline, hall⟩)
    · exact .inr ⟨line :: before, decisive,
        ⟨List.forall_mem_cons.2 ⟨hline, hbefore⟩, after, rfl⟩, hdecision⟩

def asked (question line : List Char) : List Char := question ++ (line ++ ['\n'])

def refused (question : List Char) (before : List (List Char)) : List Char :=
  before.flatMap fun line => asked question line ++ "Error: invalid input\n".toList

theorem confirm_undecided (h : Undecided line) (question : List Char) :
    confirm question (line :: after) =
      ⟨refused question [line] ++ (confirm question after).shown,
        (confirm question after).answer⟩ := by
  simp only [confirm, answer?_of_undecided h, refused, asked, List.flatMap_singleton,
    List.append_assoc]

theorem confirm_answered {b : Bool} (h : answer? line = some b) (question : List Char) :
    confirm question (line :: after) = ⟨asked question line, some b⟩ := by
  simp only [confirm, h, asked, List.append_assoc]

/-- Lines that say neither yes nor no leave the answer to the lines behind them. -/
theorem confirm_append (h : ∀ line ∈ before, Undecided line) (question : List Char)
    (after : List (List Char)) :
    confirm question (before ++ after) =
      ⟨refused question before ++ (confirm question after).shown,
        (confirm question after).answer⟩ := by
  induction before with
  | nil => rfl
  | cons line before ih =>
    obtain ⟨hline, hbefore⟩ := List.forall_mem_cons.1 h
    rw [List.cons_append, confirm_undecided hline, ih hbefore]
    simp [refused]

theorem Reaches.confirm {lines : List (List Char)} {b : Bool} (h : Reaches lines before line)
    (hanswer : answer? line = some b) (question : List Char) :
    confirm question lines = ⟨refused question before ++ asked question line, some b⟩ := by
  obtain ⟨hbefore, after, rfl⟩ := h
  rw [confirm_append hbefore, confirm_answered hanswer]

theorem confirm_ended {lines : List (List Char)} (h : ∀ line ∈ lines, Undecided line)
    (question : List Char) :
    confirm question lines = ⟨refused question lines ++ question, none⟩ := by
  have hconfirm := confirm_append h question []
  rwa [List.append_nil] at hconfirm

end Answers

end StorageLedger.Console
