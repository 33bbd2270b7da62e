import StorageLedger.Command.Execution
import StorageLedger.Proofs.Markup

namespace StorageLedger.Text

theorem isDigit_of_mem_decimalDigits {n : Nat} {c : Char} (h : c ∈ decimalDigits n) :
    c.isDigit = true :=
  Nat.isDigit_of_mem_toDigits (by decide) (by decide) h

theorem bracket_not_mem_decimalDigits (n : Nat) : '[' ∉ decimalDigits n :=
  fun h => absurd (isDigit_of_mem_decimalDigits h) (by decide)

theorem bracket_not_mem_integerDigits (n : Int) : '[' ∉ integerDigits n := by
  rw [integerDigits]
  split
  · exact List.not_mem_cons_of_ne_of_not_mem (by decide) (bracket_not_mem_decimalDigits _)
  · exact bracket_not_mem_decimalDigits _

theorem sign_or_digit_of_mem_repr {n : Int} {c : Char} (h : c ∈ n.repr.toList) :
    c = '-' ∨ c.isDigit = true := by
  cases n with
  | ofNat m =>
    simp only [Int.repr, Nat.repr, String.toList_ofList] at h
    exact .inr (isDigit_of_mem_decimalDigits h)
  | negSucc m =>
    simp only [Int.repr, Nat.repr, String.toList_append, String.toList_ofList, List.mem_append] at h
    rcases h with h | h
    · exact .inl (by simpa using h)
    · exact .inr (isDigit_of_mem_decimalDigits h)

theorem not_mem_repr (n : Int) {c : Char} (hsign : c ≠ '-') (hdigit : c.isDigit = false) :
    c ∉ n.repr.toList := by
  intro h
  rcases sign_or_digit_of_mem_repr h with hc | hc
  · exact hsign hc
  · rw [hdigit] at hc
    cases hc

end StorageLedger.Text

namespace StorageLedger.SizeText
open StorageLedger.Number StorageLedger.Text

theorem scale_unit (x : Binary64) (unit : String) (more : List String) :
    (scale x unit more).2 ∈ unit :: more := by
  induction more generalizing x unit with
  | nil => exact List.mem_cons_self
  | cons next more ih =>
    simp only [scale]
    split
    · simp
    · exact List.mem_cons_of_mem _ (ih _ _)

theorem bracket_not_mem_tenthsText (n : Nat) : '[' ∉ tenthsText n := by
  simp [tenthsText, bracket_not_mem_decimalDigits]

theorem bracket_not_mem_ofInt (n : Int) : '[' ∉ (ofInt n).toList := by
  rw [ofInt, ofInt?]
  split
  · simp [bracket_not_mem_integerDigits]
  · split
    · next negative mantissa exponent _ =>
      have hunits : ∀ unit ∈ "B" :: units, '[' ∉ unit.toList := by simp [units]
      have hunit := hunits _ (scale_unit (.finite negative mantissa exponent) "B" units)
      simp [bracket_not_mem_tenthsText, hunit]
    · simp

end StorageLedger.SizeText

namespace StorageLedger.Command
open StorageLedger.Console StorageLedger.Text

theorem print_styled {style head tail text : List Char} (hstyle : Markup.IsStyle style)
    (htext : text = Markup.styled style head tail) (hhead : '[' ∉ head) (hhead' : '\\' ∉ head)
    (htail : Markup.firstTag? tail = none) :
    print text = .ok (layOut (Markup.shown head ++ Markup.shown tail)) := by
  rw [htext, print, Markup.render_styled hstyle hhead hhead' htail]
  rfl

theorem bracket_not_mem_sizeText (n : Int) : '[' ∉ (sizeText n).toList :=
  SizeText.bracket_not_mem_ofInt n

theorem recordedText_prints {fileId : String} (size : Int) (h : '[' ∉ fileId.toList) :
    ∃ cs, print (recordedText fileId size).toList = .ok cs := by
  have hsize := bracket_not_mem_sizeText size
  unfold recordedText
  generalize sizeText size = written at hsize ⊢
  have htail : '[' ∉ ' ' :: (fileId.toList ++ ' ' :: '(' :: (written.toList ++ [')'])) := by
    simp [h, hsize]
  apply Exists.intro
  apply print_styled Markup.isStyle_green (show _ = Markup.styled _ "Recorded".toList _ from ?_)
    (by simp) (by simp) (Markup.firstTag?_eq_none htail)
  simp [Markup.styled]

theorem removedText_prints {fileId : String} (h : '[' ∉ fileId.toList) :
    ∃ cs, print (removedText fileId).toList = .ok cs := by
  have htail : '[' ∉ ' ' :: fileId.toList := by simp [h]
  unfold removedText
  apply Exists.intro
  apply print_styled Markup.isStyle_green (show _ = Markup.styled _ "Removed".toList _ from ?_)
    (by simp) (by simp) (Markup.firstTag?_eq_none htail)
  simp [Markup.styled]

theorem render_sentence {style sentence text : List Char} (hstyle : Markup.IsStyle style)
    (htext : text = Markup.styled style sentence []) (hplain : ∀ c ∈ sentence, Markup.isPlain c)
    (hbracket : '[' ∉ sentence) (hbackslash : '\\' ∉ sentence) :
    Markup.render text = .ok sentence := by
  rw [htext, Markup.render_styled hstyle hbracket hbackslash rfl, Markup.shown_of_plain hplain,
    Markup.shown_nil, List.append_nil]

theorem render_resetText : Markup.render "[green]Ledger reset successfully.[/green]".toList =
    .ok "Ledger reset successfully.".toList := by
  apply render_sentence Markup.isStyle_green
  · simp [Markup.styled]
  · simp [Markup.isPlain, Markup.isHidden]
  · simp
  · simp

theorem render_abortedText :
    Markup.render "[yellow]Aborted.[/yellow]".toList = .ok "Aborted.".toList := by
  apply render_sentence Markup.isStyle_yellow
  · simp [Markup.styled]
  · simp [Markup.isPlain, Markup.isHidden]
  · simp
  · simp

theorem resetText_prints :
    ∃ cs, print "[green]Ledger reset successfully.[/green]".toList = .ok cs := by
  rw [print, render_resetText]
  exact ⟨_, rfl⟩

def countsLine (inserted skipped : Int) : List Char :=
  ("Inserted: " ++ inserted.repr ++ "  Skipped: " ++ skipped.repr).toList

theorem countsLine_eq (inserted skipped : Int) : countsLine inserted skipped =
    "Inserted:".toList ++ (' ' :: (inserted.repr.toList ++ [' ', ' ']) ++
      ("Skipped:".toList ++ ' ' :: skipped.repr.toList)) := by
  have hinserted : "Inserted: ".toList = "Inserted:".toList ++ [' '] := by simp
  have hskipped : "  Skipped: ".toList = ' ' :: ' ' :: ("Skipped:".toList ++ [' ']) := by simp
  simp only [countsLine, String.toList_append, hinserted, hskipped, List.append_assoc,
    List.cons_append, List.nil_append]

theorem isPlain_of_mem_repr {n : Int} {c : Char} (h : c ∈ n.repr.toList) :
    Markup.isPlain c = true := by
  rcases sign_or_digit_of_mem_repr h with rfl | hdigit
  · rfl
  · have hall : ∀ code ∈ List.range' 0x30 10, Markup.isPlain (Char.ofNat code) = true := by decide
    simp only [Char.isDigit, Bool.and_eq_true, decide_eq_true_eq, UInt32.le_iff_toNat_le] at hdigit
    rw [← Char.ofNat_toNat c]
    exact hall _ (List.mem_range'_1.2 ⟨hdigit.1, Nat.lt_succ_of_le hdigit.2⟩)

/-- Of the two counts of a bulk load each stands behind a word in a style of its own. -/
theorem render_insertedText (inserted skipped : Int) :
    Markup.render (insertedText inserted skipped).toList = .ok (countsLine inserted skipped) := by
  have hplain {n : Int} : ∀ c ∈ n.repr.toList, Markup.isPlain c := fun _ => isPlain_of_mem_repr
  have hout {n : Int} : ∀ c ∈ n.repr.toList, c ≠ '[' ∧ c ≠ '\\' := by
    intro c hc
    exact ⟨by rintro rfl; exact not_mem_repr n (by decide) rfl hc,
      by rintro rfl; exact not_mem_repr n (by decide) rfl hc⟩
  have hcount : ∀ c ∈ ' ' :: (inserted.repr.toList ++ [' ', ' ']), Markup.isPlain c := by
    refine List.forall_mem_cons.2 ⟨rfl, List.forall_mem_append.2 ⟨hplain, ?_⟩⟩
    simp [Markup.isPlain, Markup.isHidden]
  have hcount' : ∀ c ∈ ' ' :: (inserted.repr.toList ++ [' ', ' ']), c ≠ '[' ∧ c ≠ '\\' := by
    refine List.forall_mem_cons.2 ⟨by decide, List.forall_mem_append.2 ⟨hout, by simp⟩⟩
  have hrest : ∀ c ∈ ' ' :: skipped.repr.toList, Markup.isPlain c :=
    List.forall_mem_cons.2 ⟨rfl, hplain⟩
  have htail : Markup.firstTag? (' ' :: skipped.repr.toList) = none :=
    Markup.firstTag?_eq_none (by simp [not_mem_repr skipped])
  have htext : (insertedText inserted skipped).toList =
      Markup.styled "green".toList "Inserted:".toList
        (' ' :: (inserted.repr.toList ++ [' ', ' ']) ++
          Markup.styled "yellow".toList "Skipped:".toList (' ' :: skipped.repr.toList)) := by
    unfold insertedText
    simp [Markup.styled]
  have hinserted : Markup.shown "Inserted:".toList = "Inserted:".toList := by
    have hsplit : "Inserted:".toList = "Inserted".toList ++ [':'] := by simp
    exact Markup.shown_heading hsplit (by simp [Markup.isPlain, Markup.isHidden])
  have hskipped : Markup.shown "Skipped:".toList = "Skipped:".toList := by
    have hsplit : "Skipped:".toList = "Skipped".toList ++ [':'] := by simp
    exact Markup.shown_heading hsplit (by simp [Markup.isPlain, Markup.isHidden])
  rw [htext, Markup.render_styled_styled Markup.isStyle_green Markup.isStyle_yellow (by simp)
    hcount' (by simp) htail]
  rw [hinserted, hskipped, Markup.shown_of_plain hcount, Markup.shown_of_plain hrest, countsLine_eq]

theorem insertedText_prints (inserted skipped : Int) :
    ∃ cs, print (insertedText inserted skipped).toList = .ok cs := by
  rw [print, render_insertedText]
  exact ⟨_, rfl⟩

end StorageLedger.Command
