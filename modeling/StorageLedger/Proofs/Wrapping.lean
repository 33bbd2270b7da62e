import Mathlib
import StorageLedger.Console.Output
import StorageLedger.Proofs.Trimming

namespace StorageLedger.Console
open StorageLedger.Text

/-- A text of which every character takes cells. -/
def Measured (cs : List Char) : Prop := ∀ c ∈ cs, cellWidth c ≠ 0

theorem Measured.of_ascii {cs : List Char} (h : ∀ c ∈ cs, 0x20 ≤ c.toNat ∧ c.toNat < 0x7F) :
    Measured cs := by
  intro c hc
  rw [cellWidth_ascii (h c hc).1 (h c hc).2]
  decide

theorem Measured.append {cs ds : List Char} (h : Measured cs) (h' : Measured ds) :
    Measured (cs ++ ds) := by
  intro c hc
  rcases List.mem_append.1 hc with hc | hc
  · exact h c hc
  · exact h' c hc

theorem Measured.flatten {pieces : List (List Char)} (h : ∀ piece ∈ pieces, Measured piece) :
    Measured pieces.flatten := by
  intro c hc
  obtain ⟨piece, hpiece, hc⟩ := List.mem_flatten.1 hc
  exact h piece hpiece c hc

theorem Measured.of_flatten {pieces : List (List Char)} {tail : List Char}
    (h : Measured (pieces.flatten ++ tail)) : ∀ piece ∈ pieces, Measured piece :=
  fun piece hpiece c hc =>
    h c (List.mem_append_left tail (List.mem_flatten.2 ⟨piece, hpiece, hc⟩))

theorem Measured.not_mem {cs : List Char} (h : Measured cs) {c : Char} (hc : cellWidth c = 0) :
    c ∉ cs := fun hm => h c hm hc

theorem cellWidth_le_two (c : Char) : cellWidth c ≤ 2 := by
  unfold cellWidth
  dsimp only
  split_ifs <;> omega

theorem cellLengthAfter_cons {c : Char} (last : Option Char) (cs : List Char)
    (h : cellWidth c ≠ 0) :
    cellLengthAfter last (c :: cs) = cellWidth c + cellLengthAfter (some c) cs := by
  have hjoiner : c ≠ joiner := by
    rintro rfl
    exact h (by decide)
  have hselector : c ≠ emojiSelector := by
    rintro rfl
    exact h (by decide)
  rw [cellLengthAfter.eq_def]
  simp only [hjoiner, hselector, h, ↓reduceIte]

theorem cellLengthAfter_measured {cs : List Char} (h : Measured cs) (last : Option Char) :
    cellLengthAfter last cs = (cs.map cellWidth).sum := by
  induction cs generalizing last with
  | nil => rfl
  | cons c cs ih =>
    obtain ⟨hc, hcs⟩ := List.forall_mem_cons.1 h
    rw [cellLengthAfter_cons last cs hc, ih hcs, List.map_cons, List.sum_cons]

theorem cellLength_measured {cs : List Char} (h : Measured cs) :
    cellLength cs = (cs.map cellWidth).sum := cellLengthAfter_measured h none

theorem cellLength_append {cs ds : List Char} (h : Measured cs) (h' : Measured ds) :
    cellLength (cs ++ ds) = cellLength cs + cellLength ds := by
  rw [cellLength_measured (h.append h'), cellLength_measured h, cellLength_measured h',
    List.map_append, List.sum_append]

theorem length_le_cellLength {cs : List Char} (h : Measured cs) : cs.length ≤ cellLength cs := by
  rw [cellLength_measured h]
  induction cs with
  | nil => exact Nat.le_refl 0
  | cons c cs ih =>
    obtain ⟨hc, hcs⟩ := List.forall_mem_cons.1 h
    have := ih hcs
    simp only [List.length_cons, List.map_cons, List.sum_cons]
    omega

def Cluster.single (c : Char) : Cluster := ⟨[c], cellWidth c⟩

theorem clustersAfter_cons (current : Cluster) (last : Option Char) {c : Char} (cs : List Char)
    (h : cellWidth c ≠ 0) :
    clustersAfter current last (c :: cs) = current :: clustersAfter (.single c) (some c) cs := by
  have hjoiner : c ≠ joiner := by
    rintro rfl
    exact h (by decide)
  have hselector : c ≠ emojiSelector := by
    rintro rfl
    exact h (by decide)
  rw [clustersAfter.eq_def]
  simp only [hjoiner, hselector, h, ↓reduceIte]
  rfl

theorem clusters_cons {c : Char} (cs : List Char) (h : cellWidth c ≠ 0) :
    clusters (c :: cs) = clustersAfter (.single c) (some c) cs := by
  rw [clusters, if_neg h]
  rfl

theorem clusters_append {lead : List Char} (h : Measured lead) {d : Char} (ds : List Char)
    (hd : cellWidth d ≠ 0) :
    clusters (lead ++ d :: ds) = lead.map Cluster.single ++ clusters (d :: ds) := by
  induction lead with
  | nil => rfl
  | cons c lead ih =>
    obtain ⟨hc, hlead⟩ := List.forall_mem_cons.1 h
    rw [List.map_cons, List.cons_append, List.cons_append, ← ih hlead, clusters_cons _ hc]
    cases lead with
    | nil => rw [List.nil_append, clustersAfter_cons _ _ ds hd, clusters_cons ds hd]
    | cons c' lead =>
      have hc' : cellWidth c' ≠ 0 := hlead c' List.mem_cons_self
      rw [List.cons_append, clustersAfter_cons _ _ _ hc', clusters_cons _ hc']

theorem clusters_measured {cs : List Char} (h : Measured cs) :
    clusters cs = cs.map Cluster.single := by
  rcases List.eq_nil_or_concat cs with rfl | ⟨lead, d, rfl⟩
  · rfl
  · have hd : cellWidth d ≠ 0 := h d (by simp)
    have hlead : Measured lead := fun c hc => h c (by simp [hc])
    rw [List.concat_eq_append, clusters_append hlead [] hd, clusters_cons [] hd, List.map_append]
    rfl

theorem takeClusters_append {width : Nat} {lead : List Char} (rest : List Cluster)
    (h : (lead.map cellWidth).sum ≤ width) :
    takeClusters width (lead.map Cluster.single ++ rest) =
      lead ++ takeClusters (width - (lead.map cellWidth).sum) rest := by
  induction lead generalizing width with
  | nil => rfl
  | cons c lead ih =>
    simp only [List.map_cons, List.sum_cons] at h ⊢
    have hc : (Cluster.single c).width ≤ width := by
      show cellWidth c ≤ width
      omega
    have hlead : (lead.map cellWidth).sum ≤ width - (Cluster.single c).width := by
      show _ ≤ width - cellWidth c
      omega
    rw [List.cons_append, takeClusters, if_pos hc, ih hlead, Nat.sub_sub]
    rfl

theorem takeClusters_blank (width : Nat) {cs : List Char} (h : ∀ c ∈ cs, isBlank c) :
    ∀ c ∈ takeClusters width (cs.map Cluster.single), isBlank c := by
  induction cs generalizing width with
  | nil => simp [takeClusters]
  | cons d cs ih =>
    obtain ⟨hd, hcs⟩ := List.forall_mem_cons.1 h
    rw [List.map_cons, takeClusters]
    split
    · exact List.forall_mem_cons.2 ⟨hd, ih _ hcs⟩
    · intro c hc
      obtain ⟨_, rfl⟩ := List.mem_replicate.1 hc
      decide

def Fits (width : Nat) (line : List Char) : Prop := cellLength (trimEnd isBlank line) ≤ width

/-- Of a line that fits, only blanks at its end are cut. -/
theorem trimEnd_truncate {width : Nat} {line : List Char} (h : Measured line)
    (hfits : Fits width line) (hwidth : width ≠ 0) :
    trimEnd isBlank (truncate width .fold line) = trimEnd isBlank line := by
  obtain ⟨tail, hline, htail⟩ := exists_trimEnd_append isBlank line
  have hbody : Measured (trimEnd isBlank line) := fun c hc => h c (by rw [← hline]; simp [hc])
  rw [Fits, cellLength_measured hbody] at hfits
  rw [truncate]
  split
  · rfl
  · next hwide =>
    have hcells : ¬ cellLength line < width := by omega
    have hfull : ¬ cellLength line = width := by omega
    simp only [setCells, if_neg hwidth, if_neg hcells, if_neg hfull, takeCells,
      clusters_measured h]
    nth_rewrite 1 [← hline]
    rw [List.map_append, takeClusters_append _ hfits,
      trimEnd_append_of_blank (takeClusters_blank _ htail)]
    nth_rewrite 2 [← hline]
    rw [trimEnd_append_of_blank htail]

theorem exists_trimExcess_eq_take (width : Nat) (line : List Char) :
    ∃ kept, trimExcess width line = line.take kept ∧ (trimEnd isBlank line).length ≤ kept ∧
      min line.length width ≤ kept := by
  obtain ⟨tail, hline, _⟩ := exists_trimEnd_append isBlank line
  have hlength := congrArg List.length hline
  rw [List.length_append] at hlength
  exact ⟨_, rfl, by omega, by omega⟩

theorem trimEnd_trimExcess (width : Nat) (line : List Char) :
    trimEnd isBlank (trimExcess width line) = trimEnd isBlank line := by
  obtain ⟨kept, htake, hbody, _⟩ := exists_trimExcess_eq_take width line
  obtain ⟨tail, hline, htail⟩ := exists_trimEnd_append isBlank line
  have hkept : line.take kept =
      trimEnd isBlank line ++ tail.take (kept - (trimEnd isBlank line).length) := by
    nth_rewrite 1 [← hline]
    rw [List.take_append, List.take_of_length_le hbody]
  rw [htake, hkept, trimEnd_append_of_blank fun c hc => htail c (List.mem_of_mem_take hc)]
  nth_rewrite 2 [← hline]
  rw [trimEnd_append_of_blank htail]

section Divide

variable {width : Nat} {piece : List Char}

theorem divideAt_break (base : Nat) (places : List Nat) (open_ cs : List Char) :
    divideAt base ((base + open_.length) :: places) (open_ ++ cs) =
      open_ :: divideAt (base + open_.length) places cs := by
  rw [divideAt, Nat.add_sub_cancel_left, List.take_left, List.drop_left]

/-- The pieces at the starts of parts are the parts, of which the last stays open. -/
theorem mem_divideAt_startsFrom {P : List Char → Prop} (base : Nat) (open_ part : List Char)
    (parts : List (List Char)) (places : List Nat) (more : List Char) (hopen : P open_)
    (hparts : ∀ p ∈ part :: parts, P p)
    (hlast : ∀ base', base' + ((part :: parts).getLast?.getD []).length =
        base + open_.length + (part :: parts).flatten.length →
      ∀ piece ∈ divideAt base' places ((part :: parts).getLast?.getD [] ++ more), P piece)
    (h : piece ∈ divideAt base (startsFrom (base + open_.length) (part :: parts) ++ places)
      (open_ ++ ((part :: parts).flatten ++ more))) : P piece := by
  induction parts generalizing base open_ part with
  | nil =>
    rw [startsFrom, startsFrom, List.singleton_append, divideAt_break, List.mem_cons] at h
    rcases h with rfl | h
    · exact hopen
    · simp only [List.flatten_cons, List.flatten_nil, List.append_nil] at h hlast
      exact hlast _ rfl piece h
  | cons next parts ih =>
    rw [startsFrom, List.cons_append, divideAt_break, List.mem_cons] at h
    rcases h with rfl | h
    · exact hopen
    · obtain ⟨hpart, hrest⟩ := List.forall_mem_cons.1 hparts
      rw [List.flatten_cons, List.append_assoc] at h
      refine ih _ part next hpart hrest ?_ h
      intro base' hbase'
      apply hlast
      rw [List.getLast?_cons_cons, hbase', List.flatten_cons (l := part), List.length_append]
      omega

theorem chopClusters_single (hwidth : 2 ≤ width) (line : Cluster) (hline : Measured line.chars)
    (hcells : line.width = cellLength line.chars) (hfit : line.width ≤ width) {cs : List Char}
    (h : Measured cs) :
    (chopClusters width line (cs.map .single)).flatten = line.chars ++ cs ∧
      ∀ p ∈ chopClusters width line (cs.map .single), cellLength p ≤ width := by
  induction cs generalizing line with
  | nil =>
    rw [List.map_nil, chopClusters]
    split
    · next hzero =>
      have hlength := length_le_cellLength hline
      have hnil : line.chars = [] := List.eq_nil_of_length_eq_zero (by omega)
      simp [hnil]
    · simp only [List.flatten_cons, List.flatten_nil, List.forall_mem_singleton, true_and]
      omega
  | cons c cs ih =>
    obtain ⟨hc, hcs⟩ := List.forall_mem_cons.1 h
    have hsingle : Measured [c] := List.forall_mem_singleton.2 hc
    have hwide : cellLength [c] = cellWidth c := by simp [cellLength_measured hsingle]
    rw [List.map_cons, chopClusters]
    split
    · obtain ⟨hflatten, hfits⟩ :=
        ih (.single c) hsingle hwide.symm ((cellWidth_le_two c).trans hwidth) hcs
      rw [List.flatten_cons, hflatten]
      exact ⟨rfl, List.forall_mem_cons.2 ⟨hcells ▸ hfit, hfits⟩⟩
    · next hroom =>
      have hextended : (line.extend [c] (cellWidth c)).width = cellLength (line.chars ++ [c]) := by
        rw [cellLength_append hline hsingle, hwide, ← hcells]
        rfl
      obtain ⟨hflatten, hfits⟩ := ih (line.extend [c] (cellWidth c)) (hline.append hsingle)
        hextended (Nat.not_lt.1 hroom) hcs
      exact ⟨hflatten.trans (List.append_assoc line.chars [c] cs), hfits⟩

theorem chopCells_measured (hwidth : 2 ≤ width) {word : List Char} (h : Measured word) :
    (chopCells width word).flatten = word ∧ ∀ p ∈ chopCells width word, cellLength p ≤ width := by
  rw [chopCells, clusters_measured h]
  exact chopClusters_single hwidth ⟨[], 0⟩ (by simp [Measured]) rfl (Nat.zero_le width) h

theorem Measured.trimEnd {line : List Char} (h : Measured line) :
    Measured (trimEnd isBlank line) := by
  obtain ⟨tail, hline, _⟩ := exists_trimEnd_append isBlank line
  exact fun c hc => h c (hline ▸ List.mem_append_left tail hc)

theorem cellLength_trimEnd_le {line : List Char} (h : Measured line) :
    cellLength (trimEnd isBlank line) ≤ cellLength line := by
  obtain ⟨tail, hline, _⟩ := exists_trimEnd_append isBlank line
  have htail : Measured tail := fun c hc => h c (hline ▸ List.mem_append_right _ hc)
  nth_rewrite 2 [← hline]
  rw [cellLength_append h.trimEnd htail]
  exact Nat.le_add_right _ _

/-- Breaks are placed so that every piece fits: an open piece that fits stays open as long as the
next word fits behind it. -/
theorem fits_of_mem_divideAt (hwidth : 2 ≤ width) (base : Nat) (open_ : List Char)
    (words : List (List Char)) (tail : List Char) (hopen : Fits width open_)
    (hmeasured : Measured open_)
    (hwords : ∀ w ∈ words, Measured w ∧ ∃ c ∈ w, isBlank c = false)
    (htail : ∀ c ∈ tail, isBlank c)
    (h : piece ∈ divideAt base
      (breaks width .fold (base + open_.length) (cellLength open_) words)
      (open_ ++ (words.flatten ++ tail))) : Fits width piece := by
  induction words generalizing base open_ piece with
  | nil =>
    obtain rfl := List.mem_singleton.1 h
    rw [Fits, List.flatten_nil, List.nil_append, trimEnd_append_of_blank htail]
    exact hopen
  | cons word words ih =>
    obtain ⟨⟨hword, hnonblank⟩, hrest⟩ := List.forall_mem_cons.1 hwords
    rw [breaks, List.flatten_cons, List.append_assoc] at h
    dsimp only at h
    split_ifs at h with hroom hwide
    · -- The word fits behind the open piece.
      have hfits : Fits width (open_ ++ word) := by
        rw [Fits, trimEnd_append_of_some open_ hnonblank,
          cellLength_append hmeasured hword.trimEnd]
        exact hroom
      refine ih base (open_ ++ word) hfits (hmeasured.append hword) hrest ?_
      rw [List.length_append, ← Nat.add_assoc, cellLength_append hmeasured hword,
        List.append_assoc]
      exact h
    · -- The word is too wide for any line.
      obtain ⟨hflatten, hpieces⟩ := chopCells_measured hwidth hword
      cases hchop : chopCells width word with
      | nil =>
        rw [hchop, List.flatten_nil] at hflatten
        subst hflatten
        simp at hnonblank
      | cons part parts =>
        rw [hchop] at h hflatten hpieces
        have hmem : (part :: parts).getLast?.getD [] ∈ part :: parts := by
          rw [List.getLast?_eq_some_getLast (List.cons_ne_nil part parts), Option.getD_some]
          exact List.getLast_mem _
        have hsub : ∀ p ∈ part :: parts, Measured p := fun p hp c hc =>
          hword c (hflatten ▸ List.mem_flatten.2 ⟨p, hp, hc⟩)
        have hfits : ∀ p ∈ part :: parts, Fits width p := fun p hp =>
          (cellLength_trimEnd_le (hsub p hp)).trans (hpieces p hp)
        nth_rewrite 2 [← hflatten] at h
        refine mem_divideAt_startsFrom base open_ part parts _ _ hopen hfits ?_ h
        intro base' hbase' piece' hpiece'
        rw [hflatten] at hbase'
        rw [← hbase'] at hpiece'
        exact ih base' _ (hfits _ hmem) (hsub _ hmem) hrest hpiece'
    · rw [divideAt_break, List.mem_cons] at h
      rcases h with rfl | h
      · exact hopen
      · exact ih _ word (Nat.not_lt.1 hwide) hword hrest h

theorem startsFrom_bounds (start : Nat) (pieces : List (List Char)) :
    ∀ place ∈ startsFrom start pieces, start ≤ place ∧ place ≤ start + pieces.flatten.length := by
  induction pieces generalizing start with
  | nil => simp [startsFrom]
  | cons piece pieces ih =>
    intro place hplace
    rw [startsFrom, List.mem_cons] at hplace
    rw [List.flatten_cons, List.length_append]
    rcases hplace with rfl | hplace
    · omega
    · have := ih _ place hplace
      omega

theorem startsFrom_pairwise (start : Nat) (pieces : List (List Char)) :
    (startsFrom start pieces).Pairwise (· ≤ ·) := by
  induction pieces generalizing start with
  | nil => exact .nil
  | cons piece pieces ih =>
    refine .cons ?_ (ih _)
    intro place hplace
    have := startsFrom_bounds _ pieces place hplace
    omega

theorem le_of_mem_breaks {start cells place : Nat} {words : List (List Char)}
    (h : place ∈ breaks width .fold start cells words) : start ≤ place := by
  induction words generalizing start cells with
  | nil => cases h
  | cons word words ih =>
    have hlater {cells : Nat}
        (h : place ∈ breaks width .fold (start + word.length) cells words) : start ≤ place :=
      (Nat.le_add_right _ _).trans (ih h)
    rw [breaks] at h
    dsimp only at h
    split_ifs at h
    · exact hlater h
    · rcases List.mem_append.1 h with h | h
      · exact (startsFrom_bounds _ _ place h).1
      · exact hlater h
    · rcases List.mem_cons.1 h with rfl | h
      · exact Nat.le_refl _
      · exact hlater h

theorem breaks_pairwise (hwidth : 2 ≤ width) (start cells : Nat) {words : List (List Char)}
    (hwords : ∀ w ∈ words, Measured w) :
    (breaks width .fold start cells words).Pairwise (· ≤ ·) := by
  induction words generalizing start cells with
  | nil => exact .nil
  | cons word words ih =>
    obtain ⟨hword, hrest⟩ := List.forall_mem_cons.1 hwords
    rw [breaks]
    dsimp only
    split_ifs
    · exact ih _ _ hrest
    · refine List.pairwise_append.2 ⟨startsFrom_pairwise _ _, ih _ _ hrest, ?_⟩
      intro place hplace place' hplace'
      have hle := (startsFrom_bounds _ _ place hplace).2
      rw [(chopCells_measured hwidth hword).1] at hle
      exact hle.trans (le_of_mem_breaks hplace')
    · refine .cons ?_ (ih _ _ hrest)
      intro place hplace
      exact (Nat.le_add_right _ _).trans (le_of_mem_breaks hplace)

theorem divideAt_filter_subset {places : List Nat} (h : places.Pairwise (· ≤ ·)) (cs : List Char) :
    divideAt 0 (places.filter (· ≠ 0)) cs ⊆ divideAt 0 places cs := by
  induction places with
  | nil => exact List.Subset.refl _
  | cons place places ih =>
    obtain ⟨hplace, hrest⟩ := List.pairwise_cons.1 h
    by_cases hzero : place = 0
    · subst hzero
      rw [List.filter_cons_of_neg (by simp), divideAt]
      exact fun piece hpiece => List.mem_cons_of_mem _ (ih hrest hpiece)
    · have hall : ∀ p ∈ place :: places, decide (p ≠ 0) = true := by
        intro p hp
        rcases List.mem_cons.1 hp with rfl | hp
        · simpa using hzero
        · have := hplace p hp
          simp only [decide_eq_true_eq]
          omega
      rw [List.filter_eq_self.2 hall]
      exact List.Subset.refl _

end Divide

/-- Lines that are the pieces of a text in order, blanks at their ends apart. -/
def IsWrapping (cs : List Char) (lines : List (List Char)) : Prop :=
  ∃ pieces : List (List Char), pieces.flatten = cs ∧
    lines.map (trimEnd isBlank) = pieces.map (trimEnd isBlank)

theorem exists_firstWord?_eq {cs word rest : List Char} (h : firstWord? cs = some (word, rest)) :
    ∃ c ∈ word, isBlank c = false := by
  simp only [firstWord?] at h
  split at h
  · cases h
  · next hword =>
    obtain ⟨rfl, rfl⟩ := h
    rw [List.isEmpty_iff] at hword
    obtain ⟨c, hc⟩ := List.exists_mem_of_ne_nil _ hword
    refine ⟨c, List.mem_append_left _ (List.mem_append_right _ hc), ?_⟩
    have hall := List.all_eq_true.1 List.all_takeWhile c hc
    simpa using hall

theorem exists_nonblank_of_mem_wordRuns {cs word : List Char} (h : word ∈ wordRuns cs) :
    ∃ c ∈ word, isBlank c = false := by
  induction hn : cs.length using Nat.strongRecOn generalizing cs with
  | _ n ih =>
    rw [wordRuns] at h
    split at h
    · next first rest hfirst =>
      rcases List.mem_cons.1 h with rfl | h
      · exact exists_firstWord?_eq hfirst
      · exact ih rest.length (hn ▸ firstWord?_length hfirst) h rfl
    · cases h

theorem expandTabs_of_not_mem {cs : List Char} (h : '\t' ∉ cs) : expandTabs cs = cs := by
  rw [expandTabs, splitAtChar_of_not_mem h]
  rfl

theorem wrap_of_one_line (width : Nat) {cs : List Char} (hfeed : '\n' ∉ cs) (htab : '\t' ∉ cs) :
    wrap width .free .fold cs =
      (divideAt 0 ((breaks width .fold 0 0 (wordRuns cs)).filter (· ≠ 0)) cs).map fun piece =>
        truncate width .fold (trimExcess width piece) := by
  rw [wrap, splitAtChar_of_not_mem hfeed, List.flatMap_singleton, wrapLine,
    expandTabs_of_not_mem htab]
  rfl

/-- Wrapping keeps a text of characters that take cells. -/
theorem wrap_measured {width : Nat} (hwidth : 2 ≤ width) {cs : List Char} (h : Measured cs) :
    IsWrapping cs (wrap width .free .fold cs) := by
  obtain ⟨tail, htail, hflatten⟩ := flatten_wordRuns cs
  have hwords : ∀ w ∈ wordRuns cs, Measured w := .of_flatten (hflatten.symm ▸ h)
  let places := breaks width .fold 0 0 (wordRuns cs)
  let pieces := divideAt 0 (places.filter (· ≠ 0)) cs
  have hpieces : pieces.flatten = cs := flatten_divideAt _ _ _
  have hfits : ∀ piece ∈ pieces, Fits width piece := by
    intro piece hpiece
    have hmem : piece ∈ divideAt 0 places ([] ++ ((wordRuns cs).flatten ++ tail)) := by
      rw [List.nil_append, hflatten]
      exact divideAt_filter_subset (breaks_pairwise hwidth 0 0 hwords) cs hpiece
    exact fits_of_mem_divideAt hwidth 0 [] (wordRuns cs) tail (Nat.zero_le width)
      (by simp [Measured]) (fun w hw => ⟨hwords w hw, exists_nonblank_of_mem_wordRuns hw⟩) htail
      hmem
  refine ⟨pieces, hpieces, ?_⟩
  rw [wrap_of_one_line width (h.not_mem (by decide)) (h.not_mem (by decide)), List.map_map]
  apply List.map_congr_left
  intro piece hpiece
  have hmeasured : Measured piece := fun c hc =>
    h c (hpieces ▸ List.mem_flatten.2 ⟨piece, hpiece, hc⟩)
  have htrimmed : Measured (trimExcess width piece) := by
    obtain ⟨kept, htake, _⟩ := exists_trimExcess_eq_take width piece
    exact fun c hc => hmeasured c (List.mem_of_mem_take (htake ▸ hc))
  have hfit : Fits width (trimExcess width piece) := by
    rw [Fits, trimEnd_trimExcess]
    exact hfits piece hpiece
  rw [Function.comp_apply, trimEnd_truncate htrimmed hfit (by omega), trimEnd_trimExcess]

theorem breaks_append {width start cells : Nat} {words : List (List Char)} (more : List (List Char))
    (hwords : ∀ w ∈ words, Measured w) (h : cells + cellLength words.flatten ≤ width) :
    breaks width .fold start cells (words ++ more) =
      breaks width .fold (start + words.flatten.length) (cells + cellLength words.flatten)
        more := by
  induction words generalizing start cells with
  | nil => rfl
  | cons word words ih =>
    obtain ⟨hword, hrest⟩ := List.forall_mem_cons.1 hwords
    have hflatten : Measured words.flatten := .flatten hrest
    rw [List.flatten_cons, cellLength_append hword hflatten] at h ⊢
    have hsize := cellLength_trimEnd_le hword
    have hroom : cells + cellLength (trimEnd isBlank word) ≤ width := by omega
    rw [List.cons_append, breaks]
    dsimp only
    rw [if_pos hroom, ih hrest (by omega), List.length_append, Nat.add_assoc, Nat.add_assoc]

/-- A text that fits into one line is not changed. -/
theorem wrap_eq_self {width : Nat} {cs : List Char} (h : Measured cs)
    (hfit : cellLength cs ≤ width) : wrap width .free .fold cs = [cs] := by
  obtain ⟨tail, _, hflatten⟩ := flatten_wordRuns cs
  have hwords : ∀ w ∈ wordRuns cs, Measured w := .of_flatten (hflatten.symm ▸ h)
  have htail : Measured tail := fun c hc => h c (hflatten ▸ List.mem_append_right _ hc)
  have hcells : 0 + cellLength (wordRuns cs).flatten ≤ width := by
    rw [← hflatten, cellLength_append (.flatten hwords) htail] at hfit
    omega
  have hplaces : breaks width .fold 0 0 (wordRuns cs) = [] := by
    rw [← List.append_nil (wordRuns cs), breaks_append [] hwords hcells, breaks]
  have hlength := length_le_cellLength h
  obtain ⟨kept, htake, _, hkept⟩ := exists_trimExcess_eq_take width cs
  rw [wrap_of_one_line width (h.not_mem (by decide)) (h.not_mem (by decide)), hplaces,
    List.filter_nil, divideAt, List.map_singleton, htake, List.take_of_length_le (by omega),
    truncate, if_pos hfit]

section Lead

variable {width : Nat} {lead : List Char}

theorem exists_divideAt_cons {places : List Nat} (h : ∀ place ∈ places, lead.length ≤ place)
    (cs : List Char) :
    ∃ tail more, divideAt 0 places (lead ++ cs) = (lead ++ tail) :: more ∧ tail <+: cs := by
  cases places with
  | nil => exact ⟨cs, [], rfl, List.prefix_refl cs⟩
  | cons place places =>
    have hplace := h place List.mem_cons_self
    refine ⟨cs.take (place - lead.length),
      divideAt place places ((lead ++ cs).drop (place - 0)), ?_,
      List.take_prefix _ cs⟩
    rw [divideAt, Nat.sub_zero, List.take_append, List.take_of_length_le hplace]

theorem prefix_truncate (hlead : Measured lead) (hcells : cellLength lead ≤ width)
    (hpos : lead ≠ []) {c : Char} (hc : cellWidth c ≠ 0) {tail r : List Char}
    (htail : tail <+: c :: r) :
    lead <+: truncate width .fold (lead ++ tail) := by
  have hwidth : width ≠ 0 := by
    have := length_le_cellLength hlead
    have := List.length_pos_iff.2 hpos
    omega
  rw [truncate]
  split
  · exact List.prefix_append lead tail
  · next hwide =>
    rcases List.prefix_cons_iff.1 htail with rfl | ⟨r, rfl, -⟩
    · rw [List.append_nil] at hwide
      exact absurd hcells hwide
    · have hcut : ¬ cellLength (lead ++ c :: r) < width := by omega
      have hfull : ¬ cellLength (lead ++ c :: r) = width := by omega
      rw [cellLength_measured hlead] at hcells
      simp only [setCells, if_neg hwidth, if_neg hcut, if_neg hfull, takeCells]
      rw [clusters_append hlead r hc, takeClusters_append _ hcells]
      exact List.prefix_append _ _

theorem prefix_trimExcess (h : lead.length ≤ width) (tail : List Char) :
    ∃ tail', trimExcess width (lead ++ tail) = lead ++ tail' ∧ tail' <+: tail := by
  obtain ⟨kept, htake, _, hkept⟩ := exists_trimExcess_eq_take width (lead ++ tail)
  rw [List.length_append] at hkept
  refine ⟨tail.take (kept - lead.length), ?_, List.take_prefix _ _⟩
  rw [htake, List.take_append, List.take_of_length_le (by omega)]

theorem exists_expandTabs_eq (h : '\t' ∉ lead) (cs : List Char) :
    ∃ cs', expandTabs (lead ++ cs) = lead ++ cs' := by
  obtain ⟨part, parts, hparts⟩ := List.exists_cons_of_ne_nil (splitAtChar_ne_nil '\t' cs)
  rw [expandTabs, splitAtChar_append h hparts]
  cases parts with
  | nil => exact ⟨part, rfl⟩
  | cons next parts =>
    simp only [joinTabbed, List.append_assoc]
    exact ⟨_, rfl⟩

theorem prefix_wrap (hlead : Measured lead) (hcells : cellLength lead ≤ width) (hpos : lead ≠ [])
    {c : Char} (hc : cellWidth c ≠ 0) (r : List Char)
    (hplaces : ∀ cs, ∀ place ∈ breaks width .fold 0 0 (wordRuns (lead ++ c :: cs)),
      lead.length ≤ place) :
    ∃ line lines, wrap width .free .fold (lead ++ c :: r) = line :: lines ∧ lead <+: line := by
  have hmore : Measured (lead ++ [c]) := hlead.append (List.forall_mem_singleton.2 hc)
  have hlength := (length_le_cellLength hlead).trans hcells
  obtain ⟨piece, pieces, hpieces⟩ := List.exists_cons_of_ne_nil (splitAtChar_ne_nil '\n' r)
  obtain ⟨cs, hcs⟩ := exists_expandTabs_eq (hmore.not_mem (by decide)) piece
  have hkept : ∀ place ∈ (breaks width .fold 0 0 (wordRuns (lead ++ c :: cs))).filter (· ≠ 0),
      lead.length ≤ place := fun place hplace => hplaces cs place (List.mem_filter.1 hplace).1
  obtain ⟨tail, more, hdivide, htail⟩ := exists_divideAt_cons hkept (c :: cs)
  obtain ⟨tail', htrim, htail'⟩ := prefix_trimExcess hlength tail
  rw [wrap, List.append_cons, splitAtChar_append (hmore.not_mem (by decide)) hpieces,
    List.flatMap_cons, wrapLine, hcs, ← List.append_cons, hdivide, List.map_cons, List.cons_append,
    htrim]
  exact ⟨_, _, rfl, prefix_truncate hlead hcells hpos hc (htail'.trans htail)⟩

theorem takeWhile_append_cons {p : Char → Bool} {cs : List Char} (h : ∀ c ∈ cs, p c = true)
    {d : Char} (hd : p d = false) (r : List Char) : (cs ++ d :: r).takeWhile p = cs := by
  rw [List.takeWhile_append_of_pos h, List.takeWhile_cons_of_neg (by simp [hd]), List.append_nil]

theorem dropWhile_append_cons {p : Char → Bool} {cs : List Char} (h : ∀ c ∈ cs, p c = true)
    {d : Char} (hd : p d = false) (r : List Char) : (cs ++ d :: r).dropWhile p = d :: r := by
  rw [List.dropWhile_append_of_pos h, List.dropWhile_cons_of_neg (by simp [hd])]

theorem wordRuns_append {word : List Char} (hword : word ≠ [])
    (hletters : ∀ c ∈ word, isBlank c = false) {c : Char} (hc : isBlank c = false) (r : List Char) :
    wordRuns (word ++ ' ' :: c :: r) = (word ++ [' ']) :: wordRuns (c :: r) := by
  have hblank : isBlank ' ' = true := by decide
  have hnonblank : ∀ d ∈ word, (!isBlank d) = true := by simpa using hletters
  obtain ⟨d, word, rfl⟩ := List.exists_cons_of_ne_nil hword
  have hd : isBlank d = false := hletters d List.mem_cons_self
  have htake := takeWhile_append_cons hnonblank (show (!isBlank ' ') = false by decide) (c :: r)
  have hdrop := dropWhile_append_cons hnonblank (show (!isBlank ' ') = false by decide) (c :: r)
  have hfirst : firstWord? (d :: word ++ ' ' :: c :: r) = some (d :: word ++ [' '], c :: r) := by
    rw [List.cons_append] at htake hdrop
    simp [firstWord?, hd, htake, hdrop, hblank, hc]
  rw [wordRuns]
  split
  · next hsome =>
    obtain ⟨rfl, rfl⟩ := Prod.mk.inj (Option.some.inj (hfirst.symm.trans hsome))
    rfl
  · next hnone => cases hfirst.symm.trans hnone

def phrase (words : List (List Char)) : List Char := (words.map (· ++ [' '])).flatten

theorem wordRuns_phrase {words : List (List Char)}
    (hwords : ∀ w ∈ words, w ≠ [] ∧ ∀ c ∈ w, isBlank c = false) {c : Char}
    (hc : isBlank c = false) (r : List Char) :
    wordRuns (phrase words ++ c :: r) = words.map (· ++ [' ']) ++ wordRuns (c :: r) := by
  induction words with
  | nil => rfl
  | cons word words ih =>
    obtain ⟨⟨hword, hletters⟩, hrest⟩ := List.forall_mem_cons.1 hwords
    have hnext : ∃ d r', phrase words ++ c :: r = d :: r' ∧ isBlank d = false := by
      cases words with
      | nil => exact ⟨c, r, rfl, hc⟩
      | cons next words =>
        obtain ⟨hnext, hblank⟩ := hrest next List.mem_cons_self
        obtain ⟨d, next, rfl⟩ := List.exists_cons_of_ne_nil hnext
        exact ⟨d, _, rfl, hblank d List.mem_cons_self⟩
    obtain ⟨d, r', hcons, hd⟩ := hnext
    have hphrase : phrase (word :: words) ++ c :: r = word ++ ' ' :: d :: r' := by
      rw [← hcons]
      simp [phrase]
    rw [hphrase, wordRuns_append hword hletters hd, ← hcons, ih hrest]
    rfl

/-- Words that fit into one line stay where they are at the start of a text. -/
theorem prefix_layOut {words : List (List Char)} (hne : words ≠ [])
    (hwords : ∀ w ∈ words, w ≠ [] ∧ ∀ c ∈ w, isBlank c = false)
    (hmeasured : Measured (phrase words)) (hcells : cellLength (phrase words) ≤ consoleWidth)
    {c : Char} (hc : isBlank c = false)
    (hc' : cellWidth c ≠ 0) (r : List Char) :
    phrase words <+: layOut (phrase words ++ c :: r) := by
  have hruns : ∀ w ∈ words.map (· ++ [' ']), Measured w :=
    .of_flatten (show Measured (phrase words ++ []) by rwa [List.append_nil])
  have hpos : phrase words ≠ [] := by
    obtain ⟨word, words, rfl⟩ := List.exists_cons_of_ne_nil hne
    simp [phrase]
  have hplaces (cs : List Char) : ∀ place ∈ breaks consoleWidth .fold 0 0
      (wordRuns (phrase words ++ c :: cs)), (phrase words).length ≤ place := by
    intro place hplace
    rw [wordRuns_phrase hwords hc, breaks_append _ hruns (by rwa [Nat.zero_add]), Nat.zero_add]
      at hplace
    exact le_of_mem_breaks hplace
  obtain ⟨line, lines, hwrap, hline⟩ := prefix_wrap hmeasured hcells hpos hc' r hplaces
  rw [layOut, hwrap, unlines, List.flatMap_cons]
  exact hline.trans ((List.prefix_append line _).trans (List.prefix_append _ _))

end Lead

end StorageLedger.Console
