import Mathlib.Data.List.TakeWhile
import StorageLedger.Text.Blank

namespace StorageLedger.Text

variable {p : Char → Bool}

theorem trimEnd_eq_self {cs : List Char} (h : ∀ c ∈ cs, p c = false) : trimEnd p cs = cs := by
  rw [trimEnd, List.dropWhile_eq_self_iff.2, List.reverse_reverse]
  intro hpos
  simp only [Bool.not_eq_true]
  exact h _ (List.mem_reverse.1 (List.getElem_mem hpos))

theorem trim_eq_self {cs : List Char} (h : ∀ c ∈ cs, p c = false) : trim p cs = cs := by
  rw [trim, trimStart, List.dropWhile_eq_self_iff.2, trimEnd_eq_self h]
  intro hpos
  simp only [Bool.not_eq_true]
  exact h _ (List.getElem_mem hpos)

theorem trimEnd_append_of_blank {cs tail : List Char} (h : ∀ c ∈ tail, p c) :
    trimEnd p (cs ++ tail) = trimEnd p cs := by
  rw [trimEnd, trimEnd, List.reverse_append, List.dropWhile_append_of_pos]
  simpa using h

theorem trimEnd_append_of_some (cs : List Char) {word : List Char}
    (h : ∃ c ∈ word, p c = false) : trimEnd p (cs ++ word) = cs ++ trimEnd p word := by
  obtain ⟨c, hc, hp⟩ := h
  have hne : word.reverse.dropWhile p ≠ [] := by
    intro hnil
    rw [List.dropWhile_eq_nil_iff] at hnil
    rw [hnil c (List.mem_reverse.2 hc)] at hp
    cases hp
  rw [trimEnd, trimEnd, List.reverse_append, List.dropWhile_append]
  simp [hne]

/-- What is trimmed at the end is blank. -/
theorem exists_trimEnd_append (p : Char → Bool) (cs : List Char) :
    ∃ tail, trimEnd p cs ++ tail = cs ∧ ∀ c ∈ tail, p c = true := by
  refine ⟨(cs.reverse.takeWhile p).reverse, ?_, ?_⟩
  · rw [trimEnd, ← List.reverse_append, List.takeWhile_append_dropWhile, List.reverse_reverse]
  · intro c hc
    exact List.all_eq_true.1 (List.all_takeWhile) c (List.mem_reverse.1 hc)

theorem exists_trim_append (p : Char → Bool) (cs : List Char) :
    ∃ lead tail, lead ++ (trim p cs ++ tail) = cs ∧ (∀ c ∈ lead, p c = true) ∧
      ∀ c ∈ tail, p c = true := by
  obtain ⟨tail, htail, hblank⟩ := exists_trimEnd_append p (trimStart p cs)
  refine ⟨cs.takeWhile p, tail, ?_, fun c hc => List.all_eq_true.1 List.all_takeWhile c hc, hblank⟩
  rw [trim, htail]
  exact List.takeWhile_append_dropWhile

def EndsOutside (p : Char → Bool) (cs : List Char) : Prop :=
  (∀ c ∈ cs.head?, p c = false) ∧ ∀ c ∈ cs.getLast?, p c = false

theorem head?_dropWhile_outside (p : Char → Bool) (cs : List Char) :
    ∀ c ∈ (cs.dropWhile p).head?, p c = false := by
  intro c hc
  have hhead := List.head?_dropWhile_not p cs
  rw [hc] at hhead
  exact hhead

theorem endsOutside_trim (p : Char → Bool) (cs : List Char) : EndsOutside p (trim p cs) := by
  constructor
  · intro c hc
    obtain ⟨tail, htail, -⟩ := exists_trimEnd_append p (trimStart p cs)
    apply head?_dropWhile_outside p cs
    show c ∈ (trimStart p cs).head?
    have hhead : (trimEnd p (trimStart p cs)).head? = some c := hc
    rw [← htail, List.head?_append, hhead]
    rfl
  · intro c hc
    rw [trim, trimEnd, List.getLast?_reverse] at hc
    exact head?_dropWhile_outside p _ c hc

theorem trimEnd_of_ends {cs : List Char} (h : ∀ c ∈ cs.getLast?, p c = false) :
    trimEnd p cs = cs := by
  rcases List.eq_nil_or_concat cs with rfl | ⟨r, c, rfl⟩
  · rfl
  · have hc : p c = false := h c (by simp)
    rw [trimEnd, List.concat_eq_append, List.reverse_append, List.reverse_singleton,
      List.singleton_append, List.dropWhile_cons_of_neg (by simp [hc]), List.reverse_cons,
      List.reverse_reverse]

theorem trim_of_ends {lead cs tail : List Char} (hlead : ∀ c ∈ lead, p c = true)
    (h : EndsOutside p cs) (htail : ∀ c ∈ tail, p c = true) :
    trim p (lead ++ (cs ++ tail)) = cs := by
  have hstart : trimStart p (lead ++ (cs ++ tail)) = trimStart p (cs ++ tail) :=
    List.dropWhile_append_of_pos hlead
  rw [trim, hstart]
  cases cs with
  | nil =>
    have hnone : trimStart p ([] ++ tail) = [] := List.dropWhile_eq_nil_iff.2 htail
    rw [hnone]
    rfl
  | cons c cs =>
    have hkept : trimStart p (c :: cs ++ tail) = c :: cs ++ tail :=
      List.dropWhile_cons_of_neg (by simp [h.1 c rfl])
    rw [hkept, trimEnd_append_of_blank htail, trimEnd_of_ends h.2]

theorem trim_append_append {lead cs tail : List Char} (hlead : ∀ c ∈ lead, p c = true)
    (hcs : ∀ c ∈ cs, p c = false) (htail : ∀ c ∈ tail, p c = true) :
    trim p (lead ++ (cs ++ tail)) = cs := by
  refine trim_of_ends hlead ⟨fun c hc => ?_, fun c hc => ?_⟩ htail
  · exact hcs c (List.mem_of_mem_head? hc)
  · exact hcs c (List.mem_of_getLast? hc)

/-- What is left of a text without the characters of a class at its ends. -/
def IsTrim (p : Char → Bool) (cs left : List Char) : Prop :=
  EndsOutside p left ∧ ∃ lead tail, lead ++ (left ++ tail) = cs ∧ (∀ c ∈ lead, p c = true) ∧
    ∀ c ∈ tail, p c = true

theorem trim_eq_iff {cs left : List Char} : trim p cs = left ↔ IsTrim p cs left := by
  constructor
  · rintro rfl
    exact ⟨endsOutside_trim p cs, exists_trim_append p cs⟩
  · rintro ⟨hends, lead, tail, rfl, hlead, htail⟩
    exact trim_of_ends hlead hends htail

/-- What is left of a text without the occurrences of a pattern: the pieces between them, in which
it does not occur. -/
def IsRemoval (pattern cs left : List Char) : Prop :=
  ∃ pieces, pieces ≠ [] ∧ pattern.intercalate pieces = cs ∧ pieces.flatten = left ∧
    ∀ piece ∈ pieces, ¬ pattern <:+: piece

section Removal

variable {pattern cs left : List Char}

theorem removeAll_pattern (hne : pattern ≠ []) (cs : List Char) :
    removeAll pattern (pattern ++ cs) = removeAll pattern cs := by
  obtain ⟨c, r, rfl⟩ := List.exists_cons_of_ne_nil hne
  rw [List.cons_append, removeAll, if_pos (by simp)]
  simp

theorem removeAll_cons {c : Char} (h : ¬ pattern <+: c :: cs) :
    removeAll pattern (c :: cs) = c :: removeAll pattern cs := by
  rw [removeAll, if_neg (by simpa using h)]

theorem piece_prefix_intercalate (piece : List Char) (pieces : List (List Char)) :
    piece <+: pattern.intercalate (piece :: pieces) := by
  cases pieces with
  | nil => simp [List.intercalate, List.intersperse]
  | cons next pieces =>
    rw [List.intercalate_cons_cons, List.append_assoc]
    exact List.prefix_append _ _

theorem isRemoval_nil (hne : pattern ≠ []) : IsRemoval pattern [] [] :=
  ⟨[[]], List.cons_ne_nil _ _, by simp [List.intercalate], rfl, by simpa using hne⟩

theorem IsRemoval.pattern_append (h : IsRemoval pattern cs left) (hne : pattern ≠ []) :
    IsRemoval pattern (pattern ++ cs) left := by
  obtain ⟨pieces, hpieces, hjoin, hflatten, hnone⟩ := h
  refine ⟨[] :: pieces, List.cons_ne_nil _ _, ?_, hflatten, List.forall_mem_cons.2 ⟨?_, hnone⟩⟩
  · rw [List.intercalate_cons_of_ne_nil hpieces, hjoin, List.nil_append]
  · rwa [List.infix_nil]

/-- A character at which no occurrence starts belongs to the first piece. -/
theorem IsRemoval.cons {c : Char} (h : IsRemoval pattern cs left) (hstart : ¬ pattern <+: c :: cs) :
    IsRemoval pattern (c :: cs) (c :: left) := by
  obtain ⟨pieces, hpieces, hjoin, hflatten, hnone⟩ := h
  obtain ⟨piece, pieces, rfl⟩ := List.exists_cons_of_ne_nil hpieces
  obtain ⟨hpiece, hrest⟩ := List.forall_mem_cons.1 hnone
  have hextend : pattern.intercalate ((c :: piece) :: pieces) = c :: cs := by
    rw [← hjoin]
    cases pieces <;> simp [List.intercalate, List.intersperse]
  refine ⟨(c :: piece) :: pieces, List.cons_ne_nil _ _, hextend, congrArg (c :: ·) hflatten,
    List.forall_mem_cons.2 ⟨?_, hrest⟩⟩
  rw [List.infix_cons_iff]
  rintro (h | h)
  · exact hstart (h.trans (hextend ▸ piece_prefix_intercalate (c :: piece) pieces))
  · exact hpiece h

theorem isRemoval_removeAll (hne : pattern ≠ []) (cs : List Char) :
    IsRemoval pattern cs (removeAll pattern cs) := by
  induction hn : cs.length using Nat.strongRecOn generalizing cs with
  | _ n ih =>
    by_cases hstart : pattern <+: cs
    · obtain ⟨rest, rfl⟩ := hstart
      have hlength : rest.length < n := by
        have hpos := List.length_pos_iff.2 hne
        simp only [List.length_append] at hn
        omega
      rw [removeAll_pattern hne]
      exact (ih _ hlength rest rfl).pattern_append hne
    · cases cs with
      | nil =>
        rw [removeAll]
        exact isRemoval_nil hne
      | cons c r =>
        have hlength : r.length < n := hn ▸ Nat.lt_succ_self _
        rw [removeAll_cons hstart]
        exact (ih _ hlength r rfl).cons hstart

/-- A pattern whose last character is its only one of its kind does not overlap itself. -/
def EndsOnce (pattern : List Char) : Prop := ∃ stem c, pattern = stem ++ [c] ∧ c ∉ stem

/-- In front of an occurrence of such a pattern, none starts in a piece that holds none. -/
theorem EndsOnce.not_starts (h : EndsOnce pattern) {c : Char} {piece rest : List Char}
    (hpiece : ¬ pattern <:+: c :: piece) : ¬ pattern <+: c :: piece ++ (pattern ++ rest) := by
  obtain ⟨stem, last, rfl, hlast⟩ := h
  rintro ⟨more, hmore⟩
  -- The occurrence would end in the piece, or its last character would stand in the stem.
  rw [List.append_assoc, List.append_assoc] at hmore
  have hend {xs ys zs : List Char} (h : last :: xs = ys ++ last :: zs) (hys : ys ⊆ stem) :
      ys = [] := by
    cases ys with
    | nil => rfl
    | cons y ys =>
      obtain ⟨rfl, -⟩ := List.cons.inj h
      exact absurd (hys List.mem_cons_self) hlast
  rcases List.append_eq_append_iff.1 hmore with ⟨s, hs, hrest⟩ | ⟨s, hs, hrest⟩
  · cases s with
    | nil =>
      have hstem : stem = [] := @hend _ stem _ (by simpa using hrest) (List.Subset.refl _)
      rw [hstem] at hs
      cases hs
    | cons x s =>
      obtain ⟨rfl, -⟩ := List.cons.inj hrest
      exact hpiece ⟨[], s, by simp [hs]⟩
  · have hlength := congrArg List.length hs
    simp only [List.length_append, List.length_cons] at hlength
    rcases List.append_eq_append_iff.1 hrest with ⟨u, rfl, -⟩ | ⟨u, hu, hlater⟩
    · simp only [List.length_append] at hlength
      omega
    · have hnil : u = [] := hend (by simpa using hlater) (hu ▸ List.subset_append_right _ _)
      rw [hnil, List.append_nil] at hu
      rw [hu] at hlength
      omega

theorem removeAll_piece {piece : List Char} (h : EndsOnce pattern)
    (hpiece : ¬ pattern <:+: piece) (rest : List Char) :
    removeAll pattern (piece ++ (pattern ++ rest)) = piece ++ removeAll pattern rest := by
  induction piece with
  | nil =>
    refine removeAll_pattern ?_ rest
    rintro rfl
    exact hpiece List.infix_rfl
  | cons c piece ih =>
    have hfirst : ¬ pattern <+: c :: piece ++ (pattern ++ rest) := h.not_starts hpiece
    rw [List.cons_append] at hfirst ⊢
    rw [removeAll_cons hfirst, ih fun hi => hpiece (List.infix_cons hi)]
    rfl

theorem removeAll_eq_self (h : ¬ pattern <:+: cs) : removeAll pattern cs = cs := by
  induction cs with
  | nil => rw [removeAll]
  | cons c cs ih =>
    rw [removeAll_cons fun hp => h hp.isInfix, ih fun hi => h (List.infix_cons hi)]

theorem removeAll_eq_iff (h : EndsOnce pattern) :
    removeAll pattern cs = left ↔ IsRemoval pattern cs left := by
  have hne : pattern ≠ [] := by
    obtain ⟨stem, c, rfl, -⟩ := h
    simp
  constructor
  · rintro rfl
    exact isRemoval_removeAll hne cs
  · rintro ⟨pieces, -, rfl, rfl, hnone⟩
    induction pieces with
    | nil =>
      rw [List.flatten_nil]
      simp [List.intercalate, removeAll]
    | cons piece pieces ih =>
      obtain ⟨hpiece, hrest⟩ := List.forall_mem_cons.1 hnone
      cases pieces with
      | nil =>
        have hself : pattern.intercalate [piece] = piece := by simp [List.intercalate]
        rw [hself, removeAll_eq_self hpiece]
        simp
      | cons next pieces =>
        rw [List.intercalate_cons_cons, List.append_assoc, removeAll_piece h hpiece, ih hrest]
        rfl

end Removal

section Split

variable {sep : Char} {lead cs : List Char}

theorem splitAtChar_ne_nil (sep : Char) (cs : List Char) : splitAtChar sep cs ≠ [] := by
  cases cs with
  | nil => simp [splitAtChar]
  | cons c r =>
    rw [splitAtChar]
    split
    · simp
    · split <;> simp

theorem splitAtChar_append {piece : List Char} {more : List (List Char)} (h : sep ∉ lead)
    (hcs : splitAtChar sep cs = piece :: more) :
    splitAtChar sep (lead ++ cs) = (lead ++ piece) :: more := by
  induction lead with
  | nil => exact hcs
  | cons c lead ih =>
    simp only [List.mem_cons, not_or] at h
    rw [List.cons_append, splitAtChar, if_neg (Ne.symm h.1), ih h.2]
    rfl

theorem splitAtChar_of_not_mem (h : sep ∉ cs) : splitAtChar sep cs = [cs] := by
  have := splitAtChar_append h (show splitAtChar sep [] = [[]] from rfl)
  rwa [List.append_nil] at this

theorem splitAtChar_append_sep (h : sep ∉ lead) (cs : List Char) :
    splitAtChar sep (lead ++ sep :: cs) = lead :: splitAtChar sep cs := by
  have hsep : splitAtChar sep (sep :: cs) = [] :: splitAtChar sep cs := by
    rw [splitAtChar, if_pos rfl]
  rw [splitAtChar_append h hsep, List.append_nil]

end Split

end StorageLedger.Text
