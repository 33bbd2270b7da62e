import StorageLedger.Ledger.Error
import StorageLedger.Proofs.Utf8
import StorageLedger.Proofs.WorkspaceSpelling

namespace StorageLedger.Text

variable {quote c : Char} {cs ds rest : List Char}

def readCodePoint? (width : Nat) (cs : List Char) : Option (Char × List Char) :=
  (readDigits hexDigit? 16 0 false (cs.take width)).map fun n => (Char.ofNat n, cs.drop width)

/-- The character that an escape stands for, behind its backslash, and the rest. -/
def readEscape? : List Char → Option (Char × List Char)
  | [] => none
  | c :: r =>
    if c = 'n' then some ('\n', r)
    else if c = 'r' then some ('\r', r)
    else if c = 't' then some ('\t', r)
    else if c = 'x' then readCodePoint? 2 r
    else if c = 'u' then readCodePoint? 4 r
    else if c = 'U' then readCodePoint? 8 r
    else some (c, r)

def readQuoted? : List Char → Option (Char × List Char)
  | [] => none
  | c :: r => if c = '\\' then readEscape? r else some (c, r)

theorem quoteFor_eq (cs : List Char) : quoteFor cs = '\'' ∨ quoteFor cs = '"' := by
  unfold quoteFor
  split
  · exact .inr rfl
  · exact .inl rfl

theorem readCodePoint?_hexDigits (width : Nat) (h : c.toNat < 16 ^ (width + 1))
    (rest : List Char) :
    readCodePoint? (width + 1) (hexDigits (width + 1) c.toNat ++ rest) = some (c, rest) := by
  have hdigits := readDigits_hexDigits width c.toNat 0 false []
  have htake : (hexDigits (width + 1) c.toNat ++ rest).take (width + 1) =
      hexDigits (width + 1) c.toNat := List.take_left' (length_hexDigits _ _)
  have hdrop : (hexDigits (width + 1) c.toNat ++ rest).drop (width + 1) = rest :=
    List.drop_left' (length_hexDigits _ _)
  rw [List.append_nil, Nat.zero_mul, Nat.zero_add, Nat.mod_eq_of_lt h] at hdigits
  rw [readCodePoint?, htake, hdrop, hdigits]
  simp only [readDigits, Option.map_some, Char.ofNat_toNat]

/-- A character is read back from its place between quotes, whatever stands behind it. -/
theorem readQuoted?_escapeChar (hquote : quote = '\'' ∨ quote = '"') (c : Char)
    (rest : List Char) : readQuoted? (escapeChar quote c ++ rest) = some (c, rest) := by
  unfold escapeChar
  split_ifs with hmark hline hreturn htab hplain hbyte hplane
  · -- Neither a quote nor the backslash is a letter that an escape starts with.
    rcases hmark with rfl | rfl
    · rcases hquote with rfl | rfl <;> rfl
    · rfl
  · rw [hline]
    rfl
  · rw [hreturn]
    rfl
  · rw [htab]
    rfl
  · exact if_neg fun hc => hmark (.inr hc)
  · exact readCodePoint?_hexDigits 1 hbyte rest
  · exact readCodePoint?_hexDigits 3 hplane rest
  · exact readCodePoint?_hexDigits 7 ((toNat_lt_of_valid c).trans (by decide)) rest

theorem escaped_injective (hquote : quote = '\'' ∨ quote = '"')
    (h : cs.flatMap (escapeChar quote) = ds.flatMap (escapeChar quote)) : cs = ds := by
  -- What is read first tells an empty text from one that starts with a character.
  have hread (c : Char) (cs : List Char) :
      readQuoted? ((c :: cs).flatMap (escapeChar quote)) =
        some (c, cs.flatMap (escapeChar quote)) := by
    rw [List.flatMap_cons, readQuoted?_escapeChar hquote]
  induction cs generalizing ds with
  | nil =>
    cases ds with
    | nil => rfl
    | cons d ds =>
      have hd := hread d ds
      rw [← h] at hd
      cases hd
  | cons c cs ih =>
    have hc := hread c cs
    rw [h] at hc
    cases ds with
    | nil => cases hc
    | cons d ds =>
      rw [hread d ds, Option.some.injEq, Prod.mk.injEq] at hc
      rw [hc.1, ih hc.2.symm]

theorem quoted_injective (h : quoted cs = quoted ds) : cs = ds := by
  obtain ⟨hquote, hbody⟩ := List.cons.inj h
  rw [← hquote] at hbody
  exact escaped_injective (quoteFor_eq cs) (List.append_cancel_right hbody)

example : quoted ['\n'] = ['\'', '\\', 'n', '\''] ∧
    quoted ['\\', 'n'] = ['\'', '\\', '\\', 'n', '\''] := by decide

theorem isPrintable_of_mem_hexDigits {width n : Nat} (h : c ∈ hexDigits width n) :
    isPrintable c = true := by
  obtain ⟨d, -, rfl, hd⟩ := hexDigit?_of_mem_hexDigits h
  have hall : ∀ d ∈ List.range 16, isPrintable (hexChar d) = true := by decide
  exact hall d (List.mem_range.2 hd)

theorem isPrintable_of_mem_escapeChar (hquote : quote = '\'' ∨ quote = '"') {x : Char}
    (h : x ∈ escapeChar quote c) : isPrintable x = true := by
  have hprintable : isPrintable quote = true := by
    rcases hquote with rfl | rfl <;> rfl
  have hescape {k : Char} {width n : Nat} (hk : isPrintable k = true)
      (hx : x ∈ '\\' :: k :: hexDigits width n) : isPrintable x = true := by
    rcases List.mem_cons.1 hx with rfl | hx
    · rfl
    · rcases List.mem_cons.1 hx with rfl | hx
      · exact hk
      · exact isPrintable_of_mem_hexDigits hx
  unfold escapeChar at h
  split_ifs at h with hmark hline hreturn htab hplain hbyte hplane
  · rcases hmark with rfl | rfl
    · rcases List.mem_pair.1 h with rfl | rfl
      · rfl
      · exact hprintable
    · rcases List.mem_pair.1 h with rfl | rfl <;> rfl
  · rcases List.mem_pair.1 h with rfl | rfl <;> rfl
  · rcases List.mem_pair.1 h with rfl | rfl <;> rfl
  · rcases List.mem_pair.1 h with rfl | rfl <;> rfl
  · rw [List.mem_singleton.1 h]
    exact hplain
  · exact hescape rfl h
  · exact hescape rfl h
  · exact hescape rfl h

theorem isPrintable_of_mem_quoted (h : c ∈ quoted cs) : isPrintable c = true := by
  have hquote : isPrintable (quoteFor cs) = true := by
    rcases quoteFor_eq cs with h | h <;> rw [h] <;> rfl
  rcases List.mem_append.1 h with h | h
  · rcases List.mem_cons.1 h with rfl | h
    · exact hquote
    · obtain ⟨x, -, hx⟩ := List.mem_flatMap.1 h
      exact isPrintable_of_mem_escapeChar (quoteFor_eq cs) hx
  · rw [List.mem_singleton.1 h]
    exact hquote

/-- The control characters of ASCII. -/
def IsControl (c : Char) : Prop := c.toNat < 0x20 ∨ c.toNat = 0x7F

/-- The characters that end a line, in ASCII and beyond. -/
def IsLineBreak (c : Char) : Prop :=
  c.toNat ∈ [0x0A, 0x0B, 0x0C, 0x0D, 0x1C, 0x1D, 0x1E, 0x85, 0x2028, 0x2029]

theorem not_isControl_of_isPrintable (h : isPrintable c = true) : ¬ IsControl c := by
  rintro (hc | hc)
  · rw [not_isPrintable_of_lt hc] at h
    cases h
  · simp [isPrintable, hc] at h

theorem not_isLineBreak_of_isPrintable (h : isPrintable c = true) : ¬ IsLineBreak c := by
  intro hc
  have hnone : ∀ n ∈ [0x0A, 0x0B, 0x0C, 0x0D, 0x1C, 0x1D, 0x1E, 0x85, 0x2028, 0x2029],
      isPrintable (Char.ofNat n) = false := by decide +kernel
  have hc' := hnone _ hc
  rw [Char.ofNat_toNat, h] at hc'
  cases hc'

end StorageLedger.Text

namespace StorageLedger.WorkspaceId

theorem text_injective {w w' : WorkspaceId} (h : w.text = w'.text) : w = w' := by
  have hread := ofText_text w
  rw [h, ofText_text w'] at hread
  exact (Except.ok.inj hread).symm

end StorageLedger.WorkspaceId

namespace StorageLedger.Ledger
open StorageLedger.Text

theorem toList_notFoundMessage (w : WorkspaceId) (fileId : String) :
    (notFoundMessage w fileId).toList = "Blob metadata not found: workspace=".toList ++
      (w.text ++ (" file_id=".toList ++ quoted fileId.toList)) := by
  have hparts (lead middle : String) (cs ds : List Char) :
      (lead ++ String.ofList cs ++ middle ++ String.ofList ds).toList =
        lead.toList ++ (cs ++ (middle.toList ++ ds)) := by
    simp only [String.toList_append, String.toList_ofList, List.append_assoc]
  exact hparts _ _ _ _

theorem isPrintable_of_mem_text {w : WorkspaceId} {c : Char} (h : c ∈ w.text) :
    isPrintable c = true := by
  by_cases hc : c = '-'
  · rw [hc]
    rfl
  · have hdigit : c ∈ w.digits := by
      rw [← WorkspaceId.filter_text]
      exact List.mem_filter.2 ⟨h, decide_eq_true hc⟩
    exact isPrintable_of_mem_hexDigits hdigit

/-- The message of a miss is that of one key only, and it is one line of text without control
characters, whatever the identifier of the file holds. -/
theorem LedgerError.message_identifies_key (w w' : WorkspaceId) (fileId fileId' : String) :
    ((LedgerError.notFound w fileId).message = (LedgerError.notFound w' fileId').message ↔
      w = w' ∧ fileId = fileId') ∧
    ∀ c ∈ (LedgerError.notFound w fileId).message.toList, ¬ IsLineBreak c ∧ ¬ IsControl c := by
  constructor
  · constructor
    · intro h
      have hchars := congrArg String.toList h
      simp only [LedgerError.message, toList_notFoundMessage] at hchars
      have hlength : w.text.length = w'.text.length := by
        rw [WorkspaceId.length_text, WorkspaceId.length_text]
      obtain ⟨hw, hfile⟩ := List.append_inj (List.append_cancel_left hchars) hlength
      exact ⟨WorkspaceId.text_injective hw,
        String.toList_inj.1 (quoted_injective (List.append_cancel_left hfile))⟩
    · rintro ⟨rfl, rfl⟩
      rfl
  · intro c hc
    have hprintable : isPrintable c = true := by
      simp only [LedgerError.message, toList_notFoundMessage, List.mem_append] at hc
      rcases hc with hc | hc | hc | hc
      · have hall : "Blob metadata not found: workspace=".toList.all isPrintable = true := by decide
        exact List.all_eq_true.1 hall c hc
      · exact isPrintable_of_mem_text hc
      · have hall : " file_id=".toList.all isPrintable = true := by decide
        exact List.all_eq_true.1 hall c hc
      · exact isPrintable_of_mem_quoted hc
    exact ⟨not_isLineBreak_of_isPrintable hprintable, not_isControl_of_isPrintable hprintable⟩

end StorageLedger.Ledger
