import StorageLedger.Proofs.Prompt
import StorageLedger.Settings.EnvFile

namespace StorageLedger.Settings.EnvFile
open StorageLedger.Text StorageLedger.Console

def IsNameLetter (c : Char) : Prop := c.isAlphanum = true ∨ c = '_'

/-- A character that stands for itself wherever it stands in a value. -/
def IsPlain (c : Char) : Prop := isBlank c = false ∧ c ∉ ['\'', '"', '#', '$', '\\']

instance : DecidablePred IsPlain := fun c =>
  inferInstanceAs (Decidable (isBlank c = false ∧ c ∉ ['\'', '"', '#', '$', '\\']))

/-- A line that binds a plain name to a plain value. -/
structure Line where
  name : List Char
  value : List Char
  name_ne_nil : name ≠ []
  name_letters : ∀ c ∈ name, IsNameLetter c
  value_plain : ∀ c ∈ value, IsPlain c

def Line.chars (l : Line) : List Char := l.name ++ '=' :: l.value

def Line.binding (l : Line) : List Char × Option (List Char) := (l.name, some l.value)

/-- A text that is written in lines. The last one may lack its line end. -/
inductive Written : List Char → List Line → Prop where
  | none : Written [] []
  | last (l : Line) : Written l.chars [l]
  | line (l : Line) {brk rest : List Char} {ls : List Line} (hbreak : IsBreak brk rest)
    (hrest : Written rest ls) : Written (l.chars ++ (brk ++ rest)) (l :: ls)

variable {l : Line} {ls : List Line} {c : Char} {cs rest : List Char}

theorem toNat_lt_of_isNameLetter (h : IsNameLetter c) : c.toNat < 0x80 := by
  rcases h with h | rfl
  · have hcode : c.val.toNat = c.toNat := rfl
    simp [Char.isAlphanum, Char.isAlpha, Char.isUpper, Char.isLower, Char.isDigit,
      UInt32.le_iff_toNat_le] at h
    omega
  · decide

theorem isNameChar_of_isNameLetter (h : IsNameLetter c) : isNameChar c = true ∧ c ≠ '\'' := by
  have hall : ∀ n ∈ List.range 0x80,
      (Char.ofNat n).isAlphanum = true ∨ Char.ofNat n = '_' →
        isNameChar (Char.ofNat n) = true ∧ Char.ofNat n ≠ '\'' := by
    decide +kernel
  have hcode := hall c.toNat (List.mem_range.2 (toNat_lt_of_isNameLetter h))
  rw [Char.ofNat_toNat] at hcode
  exact hcode h

theorem Line.exists_chars_eq (l : Line) : ∃ c cs, IsNameLetter c ∧ l.chars = c :: cs := by
  obtain ⟨c, cs, hname⟩ := List.exists_cons_of_ne_nil l.name_ne_nil
  refine ⟨c, cs ++ '=' :: l.value, l.name_letters c (hname ▸ List.mem_cons_self), ?_⟩
  rw [Line.chars, hname, List.cons_append]

theorem name?_line (l : Line) (rest : List Char) :
    name? (l.chars ++ rest) = some (some l.name, '=' :: (l.value ++ rest)) := by
  have hletters : ∀ c ∈ l.name, isNameChar c = true :=
    fun c hc => (isNameChar_of_isNameLetter (l.name_letters c hc)).1
  have htake : (l.chars ++ rest).takeWhile isNameChar = l.name := by
    rw [Line.chars, List.append_assoc, List.takeWhile_append_of_pos hletters]
    exact List.append_nil _
  have hdrop : (l.chars ++ rest).dropWhile isNameChar = '=' :: (l.value ++ rest) := by
    rw [Line.chars, List.append_assoc, List.dropWhile_append_of_pos hletters]
    rfl
  obtain ⟨c, cs, hc, hchars⟩ := l.exists_chars_eq
  obtain ⟨hnameChar, hquote⟩ := isNameChar_of_isNameLetter hc
  rw [name?, htake, hdrop, if_neg l.name_ne_nil]
  · rintro r hr
    rw [hchars, List.cons_append] at hr
    obtain ⟨rfl, -⟩ := List.cons.inj hr
    cases hnameChar
  · rintro r hr
    rw [hchars, List.cons_append] at hr
    exact hquote (List.cons.inj hr).1

inductive AtEnd : List Char → Prop where
  | text : AtEnd []
  | feed {rest : List Char} : AtEnd ('\n' :: rest)

theorem AtEnd.lineEnd?_eq (h : AtEnd rest) : lineEnd? rest = some rest.tail := by
  cases h with
  | text => rfl
  | feed => rfl

theorem Line.head_value (l : Line) (h : AtEnd rest) :
    ∀ c ∈ (l.value ++ rest).head?, IsPlain c ∨ c = '\n' := by
  rintro c hc
  cases hvalue : l.value with
  | nil =>
    rw [hvalue] at hc
    cases h with
    | text => cases hc
    | feed => exact .inr (Option.some.inj hc).symm
  | cons c' cs =>
    rw [hvalue] at hc
    obtain rfl := Option.some.inj hc
    exact .inl (l.value_plain c' (hvalue ▸ List.mem_cons_self))

theorem skipInline_value (l : Line) (h : AtEnd rest) :
    skipInline (l.value ++ rest) = l.value ++ rest := by
  have hhead := l.head_value h
  cases hcs : l.value ++ rest with
  | nil => rfl
  | cons c cs =>
    rw [hcs] at hhead
    rcases hhead c rfl with hc | rfl
    · exact List.dropWhile_cons_of_neg (by simp [isInline, hc.1])
    · rfl

theorem cutComment_of_plain (h : ∀ c ∈ cs, IsPlain c) (afterBlank : Bool) :
    cutComment afterBlank cs = cs := by
  induction cs generalizing afterBlank with
  | nil => cases afterBlank <;> rfl
  | cons c cs ih =>
    obtain ⟨hc, hcs⟩ := List.forall_mem_cons.1 h
    rw [cutComment, ih hcs]
    rintro - rfl
    exact hc.2 (by decide)

theorem value?_line (l : Line) (h : AtEnd rest) :
    value? (l.value ++ rest) = some (l.value, rest) := by
  have hplain : ∀ c ∈ l.value, decide (c ≠ '\n') = true := by
    rintro c hc
    rw [decide_eq_true_eq]
    rintro rfl
    cases (l.value_plain _ hc).1
  have htake : (l.value ++ rest).takeWhile (· ≠ '\n') = l.value := by
    rw [List.takeWhile_append_of_pos hplain]
    cases h with
    | text => exact List.append_nil _
    | feed => exact List.append_nil _
  have hdrop : (l.value ++ rest).dropWhile (· ≠ '\n') = rest := by
    rw [List.dropWhile_append_of_pos hplain]
    cases h with
    | text => rfl
    | feed => rfl
  have hunquoted (quote : Char) (hquote : quote = '\'' ∨ quote = '"') :
      ∀ r, l.value ++ rest ≠ quote :: r := by
    intro r hr
    have hhead := l.head_value h quote (by rw [hr]; rfl)
    rcases hquote with rfl | rfl <;> revert hhead <;> decide
  rw [value?, htake, hdrop, cutComment_of_plain l.value_plain,
    trimEnd_eq_self fun c hc => (l.value_plain c hc).1]
  · exact hunquoted '\'' (.inl rfl)
  · exact hunquoted '"' (.inr rfl)

theorem isBlank_of_isNameLetter (h : IsNameLetter c) : isBlank c = false := by
  have hname := (isNameChar_of_isNameLetter h).1
  rw [isNameChar, Bool.and_eq_true, Bool.not_eq_true'] at hname
  exact hname.2

theorem head?_drop_line {word name : List Char} (hword : '=' ∉ word)
    (hname : ∀ c ∈ name, isBlank c = false) (h : word <+: name ++ '=' :: cs) :
    ((name ++ '=' :: cs).drop word.length).head?.any isInline = false := by
  induction word generalizing name with
  | nil =>
    cases name with
    | nil => rfl
    | cons c name => simp [isInline, hname c List.mem_cons_self]
  | cons w word ih =>
    obtain ⟨hw, hword⟩ := not_or.1 fun h => hword (List.mem_cons.2 h)
    cases name with
    | nil => exact absurd (List.cons_prefix_cons.1 h).1.symm hw
    | cons c name =>
      exact ih hword (List.forall_mem_cons.1 hname).2 (List.cons_prefix_cons.1 h).2

theorem skipExport_line (l : Line) (rest : List Char) :
    skipExport (l.chars ++ rest) = l.chars ++ rest := by
  rw [skipExport]
  apply if_neg
  rintro ⟨hstart, hblank⟩
  rw [Line.chars, List.append_assoc] at hstart hblank
  have hname : ∀ c ∈ l.name, isBlank c = false :=
    fun c hc => isBlank_of_isNameLetter (l.name_letters c hc)
  have hnone := head?_drop_line (by decide) hname (List.isPrefixOf_iff_prefix.1 hstart)
  exact Bool.false_ne_true (hnone.symm.trans hblank)

/-- A line is read as it is written, with its line end. -/
theorem bindingAt_line (l : Line) (h : AtEnd rest) :
    bindingAt (l.chars ++ rest) = (some l.binding, rest.tail) := by
  have hequals : skipInline ('=' :: (l.value ++ rest)) = '=' :: (l.value ++ rest) := rfl
  simp only [bindingAt, skipExport_line, name?_line, hequals, skipInline_value l h, value?_line l h,
    h.lineEnd?_eq]
  rfl

theorem bindingsWithin_nil (bound : Nat) : bindingsWithin bound [] = [] := by
  cases bound <;> rfl

theorem bindingsWithin_line (l : Line) (h : AtEnd rest) (bound : Nat) :
    bindingsWithin (bound + 1) (l.chars ++ rest) = l.binding :: bindingsWithin bound rest.tail := by
  obtain ⟨c, cs, hc, hchars⟩ := l.exists_chars_eq
  have hread := bindingAt_line l h
  rw [hchars, List.cons_append] at hread ⊢
  have htrim : trimStart isBlank (c :: (cs ++ rest)) = c :: (cs ++ rest) :=
    List.dropWhile_cons_of_neg (by simp [isBlank_of_isNameLetter hc])
  rw [bindingsWithin, htrim]
  simp only [hread]
  rfl

theorem Line.not_blank (l : Line) : ∀ c ∈ l.chars, isBlank c = false := by
  intro c hc
  rcases List.mem_append.1 hc with hc | hc
  · exact isBlank_of_isNameLetter (l.name_letters c hc)
  · rcases List.mem_cons.1 hc with rfl | hc
    · rfl
    · exact (l.value_plain c hc).1

theorem Line.unbroken (l : Line) : Unbroken l.chars := by
  constructor
  · intro h
    cases l.not_blank _ h
  · intro h
    cases l.not_blank _ h

theorem Written.bindingsWithin_eq (h : Written cs ls) {bound : Nat}
    (hbound : (plainBreaks cs).length ≤ bound) :
    bindingsWithin bound (plainBreaks cs) = ls.map Line.binding := by
  induction h generalizing bound with
  | none => exact bindingsWithin_nil bound
  | last l =>
    obtain ⟨c, cs, -, hchars⟩ := l.exists_chars_eq
    have hplain : plainBreaks (l.chars ++ []) = l.chars ++ plainBreaks [] :=
      plainBreaks_append l.unbroken
    rw [List.append_nil] at hplain
    rw [hplain, plainBreaks] at hbound ⊢
    cases bound with
    | zero => simp [hchars] at hbound
    | succ bound =>
      rw [bindingsWithin_line l .text, List.tail_nil, bindingsWithin_nil]
      rfl
  | @line l brk rest ls hbreak hrest ih =>
    rw [plainBreaks_append l.unbroken, hbreak.plain] at hbound ⊢
    rw [List.length_append, List.length_cons] at hbound
    cases bound with
    | zero => omega
    | succ bound =>
      rw [bindingsWithin_line l .feed, List.tail_cons, ih (by omega)]
      rfl

theorem lineFeeds_eq (cs : List Char) : normalize.lineFeeds cs = plainBreaks cs := by
  induction cs using plainBreaks.induct with
  | case1 => rfl
  | case2 r ih => rw [normalize.lineFeeds, plainBreaks, ih]
  | case3 r hr ih => rw [normalize.lineFeeds, plainBreaks, ih] <;> exact hr
  | case4 c r hboth hback ih => rw [normalize.lineFeeds, plainBreaks, ih] <;> assumption

theorem Written.head_letter (h : Written cs ls) : ∀ c ∈ cs.head?, IsNameLetter c := by
  have hline (l : Line) (rest : List Char) : ∀ c ∈ (l.chars ++ rest).head?, IsNameLetter c := by
    obtain ⟨c, cs, hc, hchars⟩ := l.exists_chars_eq
    rw [hchars]
    rintro x hx
    exact Option.some.inj hx ▸ hc
  cases h with
  | none => exact nofun
  | last l =>
    have hlast := hline l []
    rwa [List.append_nil] at hlast
  | line l hbreak hrest => exact hline l _

theorem Written.normalize_eq (h : Written cs ls) : normalize cs = plainBreaks cs := by
  rw [← lineFeeds_eq, normalize]
  rintro r rfl
  have hascii := toNat_lt_of_isNameLetter (h.head_letter '\uFEFF' rfl)
  exact absurd hascii (by decide)

theorem Written.bindings_eq (h : Written cs ls) :
    bindings (normalize cs) = ls.map Line.binding := by
  rw [h.normalize_eq]
  exact h.bindingsWithin_eq le_rfl

theorem resolveWithin_of_plain (table : List (List Char × Option (List Char)))
    (h : ∀ c ∈ cs, IsPlain c) (bound : Nat) : resolveWithin table bound cs = cs := by
  induction cs generalizing bound with
  | nil => cases bound <;> rfl
  | cons c cs ih =>
    obtain ⟨hc, hcs⟩ := List.forall_mem_cons.1 h
    cases bound with
    | zero => rfl
    | succ bound =>
      rw [resolveWithin, ih hcs]
      rintro r rfl
      exact absurd hc (by decide)

theorem resolved_of_plain (environment done : List (List Char × Option (List Char)))
    (ls : List Line) :
    resolved environment done (ls.map Line.binding) = done ++ ls.map Line.binding := by
  induction ls generalizing done with
  | nil => exact (List.append_nil done).symm
  | cons l ls ih =>
    rw [List.map_cons, Line.binding, resolved, Option.map_some,
      resolveWithin_of_plain _ l.value_plain, ih, List.append_assoc]
    rfl

theorem bound?_of_mem {table : List (List Char × α)} {name : List Char} {value : α}
    (hdistinct : (table.map (·.1)).Nodup) (h : (name, value) ∈ table) :
    bound? name table = some value := by
  obtain ⟨before, after, htable⟩ := List.append_of_mem (List.mem_reverse.2 h)
  refine List.lookup_eq_some_iff.2 ⟨before, after, htable, fun b hb => bne_iff_ne.2 ?_⟩
  rw [← List.nodup_reverse, ← List.map_reverse, htable, List.map_append, List.map_cons] at hdistinct
  rintro rfl
  exact (List.disjoint_of_nodup_append hdistinct) (List.mem_map_of_mem hb) List.mem_cons_self

theorem eraseDups_of_nodup {names : List (List Char)} (h : names.Nodup) :
    names.eraseDups = names := by
  induction names with
  | nil => rfl
  | cons name names ih =>
    obtain ⟨hnew, hnames⟩ := List.nodup_cons.1 h
    rw [List.eraseDups_cons, List.filter_eq_self.2, ih hnames]
    rintro other hother
    rw [Bool.not_eq_true', beq_eq_false_iff_ne]
    rintro rfl
    exact hnew hother

/-- A file of plain lines with names of their own gives these names their values. -/
theorem Written.values_eq (h : Written cs ls) (hdistinct : (ls.map Line.name).Nodup)
    (environment : List (List Char × List Char)) :
    values environment cs = ls.map Line.binding := by
  have hnames : (ls.map Line.binding).map (·.1) = ls.map Line.name := List.map_map
  simp only [values, h.bindings_eq, resolved_of_plain, List.nil_append, hnames,
    eraseDups_of_nodup hdistinct, List.map_map]
  refine List.map_congr_left fun l hl => ?_
  have hbound : bound? l.name (ls.map Line.binding) = some (some l.value) :=
    bound?_of_mem (hnames ▸ hdistinct) (List.mem_map_of_mem hl)
  simp [hbound, Line.binding]

end StorageLedger.Settings.EnvFile
