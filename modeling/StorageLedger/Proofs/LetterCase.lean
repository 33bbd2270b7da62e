import Mathlib
import StorageLedger.Proofs.Trimming
import StorageLedger.Text.Case

namespace StorageLedger.Text

variable {c x : Char} {cs ds word : List Char} {r : CaseRun}

def lowerOf (c : Char) : List Char := changeCase lowerExpansions lowerRuns c

theorem lower_cons (c : Char) (cs : List Char) : lower (c :: cs) = lowerOf c ++ lower cs := rfl

theorem lower_append (cs ds : List Char) : lower (cs ++ ds) = lower cs ++ lower ds :=
  List.flatMap_append

theorem lowerOf_ascii (h : c.toNat < 0x80) : lowerOf c = [c.toLower] := by
  have hall : ∀ n ∈ List.range 0x80, lowerOf (Char.ofNat n) = [(Char.ofNat n).toLower] := by
    decide +kernel
  rw [← Char.ofNat_toNat c]
  exact hall _ (List.mem_range.2 h)

/-- A character stands for itself, has a lower case of two characters, or is moved by a run. -/
theorem lowerOf_cases (c : Char) :
    lowerOf c = [c] ∨ (c.toNat = 0x130 ∧ lowerOf c = ['i', Char.ofNat 0x307]) ∨
      ∃ r ∈ lowerRuns, r.holds c.toNat ∧ lowerOf c = [Char.ofNat (c.toNat + r.shift).toNat] := by
  unfold lowerOf changeCase
  split
  · next e he =>
    right
    left
    have hcode := List.find?_some he
    obtain rfl := List.mem_singleton.1 (List.mem_of_find?_eq_some he)
    exact ⟨(beq_iff_eq.1 hcode).symm, rfl⟩
  · split
    · next r hr =>
      have hholds := List.find?_some hr
      exact .inr (.inr ⟨r, List.mem_of_find?_eq_some hr, hholds, rfl⟩)
    · exact .inl rfl

def blankCodes : List Nat :=
  [0x09, 0x0A, 0x0B, 0x0C, 0x0D, 0x1C, 0x1D, 0x1E, 0x1F, 0x20, 0x85, 0xA0, 0x1680, 0x2000, 0x2001,
    0x2002, 0x2003, 0x2004, 0x2005, 0x2006, 0x2007, 0x2008, 0x2009, 0x200A, 0x2028, 0x2029, 0x202F,
    0x205F, 0x3000]

theorem isBlank_iff : isBlank c = true ↔ c.toNat ∈ blankCodes := by
  simp only [isBlank, isWhite, blankCodes, Bool.or_eq_true, Bool.and_eq_true, decide_eq_true_eq,
    beq_iff_eq, List.mem_cons, List.not_mem_nil, or_false]
  omega

theorem runs_avoid_blanks : ∀ r ∈ lowerRuns, ∀ b ∈ blankCodes, (b < r.first ∨ r.last < b) ∧
    ((b : Int) < r.first + r.shift ∨ r.last + r.shift < (b : Int)) := by
  decide +kernel

theorem runs_stay_valid : ∀ r ∈ lowerRuns,
    0 ≤ r.first + r.shift ∧ r.last + r.shift < 0xD800 ∨
      0xE000 ≤ r.first + r.shift ∧ r.last + r.shift < 0x110000 := by
  decide +kernel

/-- Of the runs beyond ASCII one leads into it: the kelvin sign has the lower case `k`. -/
theorem runs_stay_outside_ascii : ∀ r ∈ lowerRuns,
    r.last < 0x80 ∨ 0x80 ≤ r.first + r.shift ∨
      r.first = r.last ∧ r.first + r.shift = 'k'.toNat := by
  decide +kernel

theorem CaseRun.bounds_of_holds {n : Nat} (h : r.holds n = true) : r.first ≤ n ∧ n ≤ r.last := by
  simp only [CaseRun.holds, Bool.and_eq_true, decide_eq_true_eq] at h
  exact h.1

theorem toNat_moved (hr : r ∈ lowerRuns) (hc : r.holds c.toNat = true) :
    ((Char.ofNat (c.toNat + r.shift).toNat).toNat : Int) = c.toNat + r.shift := by
  obtain ⟨hfirst, hlast⟩ := CaseRun.bounds_of_holds hc
  have hvalid := runs_stay_valid r hr
  have hcode : (c.toNat + r.shift).toNat.isValidChar := by
    unfold Nat.isValidChar
    omega
  rw [Char.toNat_ofNat, if_pos hcode]
  apply Int.toNat_of_nonneg
  omega

theorem isBlank_of_mem_lowerOf (h : x ∈ lowerOf c) : isBlank x = isBlank c := by
  rcases lowerOf_cases c with hself | ⟨hc, htwo⟩ | ⟨r, hr, hholds, hmoved⟩
  · rw [hself] at h
    rw [List.mem_singleton.1 h]
  · have hblank : isBlank c = false := by
      rw [← Char.ofNat_toNat c, hc]
      rfl
    rw [hblank]
    rw [htwo] at h
    rcases List.mem_cons.1 h with rfl | h
    · rfl
    · rw [List.mem_singleton.1 h]
      rfl
  · obtain ⟨hfirst, hlast⟩ := CaseRun.bounds_of_holds hholds
    rw [hmoved, List.mem_singleton] at h
    have hcode := toNat_moved hr hholds
    rw [← h] at hcode
    have hsource : ¬ isBlank c = true := by
      rw [isBlank_iff]
      intro hmem
      have havoid := (runs_avoid_blanks r hr _ hmem).1
      omega
    have htarget : ¬ isBlank x = true := by
      rw [isBlank_iff]
      intro hmem
      have havoid := (runs_avoid_blanks r hr _ hmem).2
      omega
    rw [Bool.not_eq_true] at hsource htarget
    rw [hsource, htarget]

theorem lowerOf_ne_nil (c : Char) : lowerOf c ≠ [] := by
  rcases lowerOf_cases c with h | ⟨-, h⟩ | ⟨r, -, -, h⟩
  · rw [h]
    exact List.cons_ne_nil _ _
  · rw [h]
    exact List.cons_ne_nil _ _
  · rw [h]
    exact List.cons_ne_nil _ _

theorem forall_blank_lower (h : ∀ c ∈ cs, isBlank c = true) : ∀ x ∈ lower cs, isBlank x = true := by
  intro x hx
  obtain ⟨c, hc, hx⟩ := List.mem_flatMap.1 hx
  rw [isBlank_of_mem_lowerOf hx]
  exact h c hc

theorem endsOutside_lower (h : EndsOutside isBlank cs) : EndsOutside isBlank (lower cs) := by
  constructor
  · intro x hx
    cases cs with
    | nil => cases hx
    | cons c cs =>
      obtain ⟨y, ys, hlower⟩ := List.exists_cons_of_ne_nil (lowerOf_ne_nil c)
      rw [lower_cons, hlower] at hx
      obtain rfl := Option.some.inj hx
      have hmem : y ∈ lowerOf c := hlower ▸ List.mem_cons_self
      rw [isBlank_of_mem_lowerOf hmem]
      exact h.1 c rfl
  · intro x hx
    rcases List.eq_nil_or_concat cs with rfl | ⟨lead, c, rfl⟩
    · cases hx
    · rw [List.concat_eq_append] at hx h
      have hlast : (lower (lead ++ [c])).getLast? = (lowerOf c).getLast? := by
        rw [lower_append, lower_cons, List.getLast?_append_of_ne_nil _ (by simp [lowerOf_ne_nil])]
        exact congrArg List.getLast? (List.append_nil _)
      rw [hlast] at hx
      rw [isBlank_of_mem_lowerOf (List.mem_of_getLast? hx)]
      exact h.2 c (by simp)

/-- A text may be put into lower case before it is trimmed or after it. -/
theorem trim_lower (cs : List Char) : trim isBlank (lower cs) = lower (trim isBlank cs) := by
  obtain ⟨lead, tail, hcs, hlead, htail⟩ := exists_trim_append isBlank cs
  calc trim isBlank (lower cs)
      = trim isBlank (lower lead ++ (lower (trim isBlank cs) ++ lower tail)) := by
        rw [← lower_append, ← lower_append, hcs]
    _ = lower (trim isBlank cs) :=
        trim_of_ends (forall_blank_lower hlead) (endsOutside_lower (endsOutside_trim _ cs))
          (forall_blank_lower htail)

theorem toLower_of_not_ascii (h : 0x80 ≤ c.toNat) : c.toLower = c := by
  apply Char.toLower_eq_of_not_isUpper
  simp only [Char.isUpper, decide_eq_true_eq]
  rintro ⟨-, hlast⟩
  have hlast : c.toNat ≤ 0x5A := UInt32.le_iff_toNat_le.1 hlast
  omega

/-- Beyond ASCII only the kelvin sign has a lower case in ASCII. -/
theorem ascii_of_lowerOf (h : ∀ x ∈ lowerOf c, x.toNat < 0x80 ∧ x ≠ 'k') : c.toNat < 0x80 := by
  rcases lowerOf_cases c with hself | ⟨-, htwo⟩ | ⟨r, hr, hholds, hmoved⟩
  · rw [hself] at h
    exact (h c (List.mem_singleton_self c)).1
  · -- The dot above, behind the `i` of the capital with a dot, is outside ASCII.
    rw [htwo] at h
    have hdot := (h (Char.ofNat 0x307) (by simp)).1
    exact absurd hdot (by decide)
  · obtain ⟨hfirst, hlast⟩ := CaseRun.bounds_of_holds hholds
    rw [hmoved] at h
    obtain ⟨hascii, hk⟩ := h _ (List.mem_singleton_self _)
    have hcode := toNat_moved hr hholds
    rcases runs_stay_outside_ascii r hr with hsource | htarget | ⟨hone, hletter⟩
    · omega
    · omega
    · refine absurd (Char.toNat_inj.1 ?_) hk
      omega

theorem ascii_of_toLower (h : c.toLower.toNat < 0x80) : c.toNat < 0x80 := by
  by_contra hc
  rw [toLower_of_not_ascii (Nat.le_of_not_lt hc)] at h
  exact hc h

theorem lower_eq_iff (hword : ∀ x ∈ word, x.toNat < 0x80 ∧ x ≠ 'k') :
    lower cs = word ↔ cs.map Char.toLower = word := by
  induction cs generalizing word with
  | nil => rfl
  | cons c cs ih =>
    rw [List.map_cons, lower_cons]
    constructor
    · rintro rfl
      obtain ⟨hhead, htail⟩ := List.forall_mem_append.1 hword
      rw [lowerOf_ascii (ascii_of_lowerOf hhead), (ih htail).1 rfl]
      rfl
    · rintro rfl
      obtain ⟨⟨hascii, -⟩, htail⟩ := List.forall_mem_cons.1 hword
      rw [lowerOf_ascii (ascii_of_toLower hascii), (ih htail).2 rfl]
      rfl

end StorageLedger.Text
