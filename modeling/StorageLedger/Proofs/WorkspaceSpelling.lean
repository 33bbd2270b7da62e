import StorageLedger.Proofs.HexText
import StorageLedger.WorkspaceId.Strict

namespace StorageLedger.WorkspaceId
open StorageLedger.Text

/-- The written form: five groups of lower-case digits with hyphens between them. -/
def IsCanonical (cs : List Char) : Prop :=
  ∃ groups : List (List Char), groups.map List.length = [8, 4, 4, 4, 12] ∧
    ['-'].intercalate groups = cs ∧
    ∀ group ∈ groups, ∀ c ∈ group, c ∈ "0123456789abcdef".toList

/-- What stays of a text when resource-name marks, outer braces and hyphens are taken away, in this
order. -/
def IsSkeleton (cs left : List Char) : Prop :=
  ∃ unmarked bare inner, IsRemoval "urn:".toList cs unmarked ∧
    IsRemoval "uuid:".toList unmarked bare ∧ IsTrim isBrace bare inner ∧
    left = inner.filter (· ≠ '-')

/-- A free spelling of an identifier: its digits in either case with hyphens among them, in any
braces, behind a resource-name mark or none. -/
structure Spelling (id : WorkspaceId) where
  mark : List Char
  opening : List Char
  body : List Char
  closing : List Char
  mark_known : mark ∈ ["", "urn:uuid:", "urn:", "uuid:"].map String.toList
  opening_braces : ∀ c ∈ opening, c = '\x7b' ∨ c = '\x7d'
  closing_braces : ∀ c ∈ closing, c = '\x7b' ∨ c = '\x7d'
  body_digits : (body.filter (· ≠ '-')).map Char.toLower = id.digits

def Spelling.chars {id : WorkspaceId} (s : Spelling id) : List Char :=
  s.mark ++ (s.opening ++ (s.body ++ s.closing))

section Digits

variable {c : Char} {id : WorkspaceId}

theorem hexDigit?_of_mem_digits (h : c ∈ id.digits) : ∃ d, hexDigit? c = some d :=
  (hexDigit?_of_mem_hexDigits h).imp fun _ hd => hd.1

theorem lower_of_mem_digits (h : c ∈ id.digits) : c ∈ "0123456789abcdef".toList := by
  obtain ⟨d, -, rfl, hd⟩ := hexDigit?_of_mem_hexDigits h
  have hall : ∀ d ∈ List.range 16, hexChar d ∈ "0123456789abcdef".toList := by decide
  exact hall d (List.mem_range.2 hd)

theorem map_toLower_digits (id : WorkspaceId) : id.digits.map Char.toLower = id.digits := by
  have hall : ∀ d ∈ List.range 16, (hexChar d).toLower = hexChar d := by decide
  conv_rhs => rw [← List.map_id id.digits]
  refine List.map_congr_left fun c hc => ?_
  obtain ⟨d, -, rfl, hd⟩ := hexDigit?_of_mem_hexDigits hc
  exact hall d (List.mem_range.2 hd)

theorem length_digits (id : WorkspaceId) : id.digits.length = 32 := length_hexDigits 32 id.number

theorem readDigits_digits (id : WorkspaceId) :
    readDigits hexDigit? 16 0 false id.digits = some id.number := by
  have hread := readDigits_hexDigits 31 id.number 0 false []
  have hlt : id.number < 16 ^ (31 + 1) := id.lt
  rw [List.append_nil, Nat.zero_mul, Nat.zero_add, Nat.mod_eq_of_lt hlt] at hread
  exact hread

theorem hyphenate_groups (ds : List Char) : hyphenate ds = ['-'].intercalate
    [ds.take 8, (ds.drop 8).take 4, (ds.drop 12).take 4, (ds.drop 16).take 4, ds.drop 20] := by
  simp [hyphenate, List.intercalate, List.intersperse]

theorem filter_hyphenate {ds : List Char} (h : '-' ∉ ds) :
    (hyphenate ds).filter (· ≠ '-') = ds := by
  have hkeep {cs : List Char} (hcs : cs ⊆ ds) : cs.filter (· ≠ '-') = cs :=
    List.filter_eq_self.2 fun c hc => decide_eq_true fun hmark => h (hmark ▸ hcs hc)
  have hdrop {n k : Nat} : (ds.drop n).take k ⊆ ds :=
    fun _ hc => List.mem_of_mem_drop (List.mem_of_mem_take hc)
  have hmark (cs : List Char) : ('-' :: cs).filter (· ≠ '-') = cs.filter (· ≠ '-') :=
    List.filter_cons_of_neg (by decide)
  have hjoin (n : Nat) : (ds.drop n).take 4 ++ ds.drop (n + 4) = ds.drop n := by
    rw [← List.drop_drop, List.take_append_drop]
  simp only [hyphenate, List.filter_append, hmark, hkeep (List.take_subset _ _), hkeep hdrop,
    hkeep (List.drop_subset _ _), List.append_assoc]
  rw [hjoin 16, hjoin 12, hjoin 8, List.take_append_drop]

theorem not_hyphen_of_mem_digits (h : c ∈ id.digits) : c ≠ '-' := by
  obtain ⟨d, hd⟩ := hexDigit?_of_mem_digits h
  rintro rfl
  cases hd

theorem filter_text (id : WorkspaceId) : id.text.filter (· ≠ '-') = id.digits :=
  filter_hyphenate fun h => not_hyphen_of_mem_digits h rfl

theorem isCanonical_text (id : WorkspaceId) : IsCanonical id.text := by
  refine ⟨_, ?_, (hyphenate_groups id.digits).symm, ?_⟩
  · simp [length_digits]
  · have hsub (n k : Nat) : (id.digits.drop n).take k ⊆ id.digits :=
      fun _ hc => List.mem_of_mem_drop (List.mem_of_mem_take hc)
    simp only [List.forall_mem_cons, List.not_mem_nil, false_implies, implies_true, and_true]
    exact ⟨fun c hc => lower_of_mem_digits (List.take_subset _ _ hc),
      fun c hc => lower_of_mem_digits (hsub _ _ hc), fun c hc => lower_of_mem_digits (hsub _ _ hc),
      fun c hc => lower_of_mem_digits (hsub _ _ hc),
      fun c hc => lower_of_mem_digits (List.drop_subset _ _ hc)⟩

theorem length_text (id : WorkspaceId) : id.text.length = 36 := by
  simp [text, hyphenate, length_digits]

theorem ofDigits?_digits (id : WorkspaceId) : ofDigits? id.digits = some id := by
  have hall : id.digits.all (fun c => (hexDigit? c).isSome) = true :=
    List.all_eq_true.2 fun c hc => Option.isSome_iff_exists.2 (hexDigit?_of_mem_digits hc)
  rw [ofDigits?, readDigits_digits, Option.bind_some, if_pos ⟨length_digits id, hall⟩, ofNumber?]
  exact dif_pos ⟨Int.natCast_nonneg _, id.lt⟩

theorem ofText_text (id : WorkspaceId) : ofText id.text = .ok id := by
  have hgroups : ungroup? id.text = some id.digits := by
    simp only [ungroup?, filter_text]
    exact if_pos ⟨length_digits id, rfl⟩
  have hdigits : strictDigits? id.text = some id.digits := by
    rw [strictDigits?, if_neg (by rw [length_text]; decide), hgroups, Option.some_or]
  rw [ofText, hdigits, Option.bind_some, ofDigits?_digits]

end Digits

section Skeleton

variable {cs left : List Char} {id : WorkspaceId}

theorem endsOnce_urn : EndsOnce "urn:".toList := ⟨"urn".toList, ':', rfl, by decide⟩

theorem endsOnce_uuid : EndsOnce "uuid:".toList := ⟨"uuid".toList, ':', rfl, by decide⟩

theorem skeleton_eq_iff : skeleton cs = left ↔ IsSkeleton cs left := by
  simp only [IsSkeleton, ← removeAll_eq_iff endsOnce_urn, ← removeAll_eq_iff endsOnce_uuid,
    ← trim_eq_iff, skeleton]
  constructor
  · rintro rfl
    exact ⟨_, _, _, rfl, rfl, rfl, rfl⟩
  · rintro ⟨_, _, _, rfl, rfl, rfl, rfl⟩
    rfl

theorem hyphen_not_mem_skeleton (cs : List Char) : '-' ∉ skeleton cs := by
  intro h
  exact absurd rfl (of_decide_eq_true (List.mem_filter.1 h).2)

/-- A numeral of thirty-two characters without a minus is the number of an identifier. -/
theorem ofSpelling?_eq_some :
    ofSpelling? cs = some id ↔ (skeleton cs).length = 32 ∧
      ∃ t : HexText, t.chars = skeleton cs ∧ t.value = id.number := by
  have hnumber (n : Int) : ofNumber? n = some id ↔ n = id.number := by
    unfold ofNumber?
    constructor
    · intro h
      split at h
      · next hn =>
        rw [← Option.some.inj h]
        exact (Int.toNat_of_nonneg hn.1).symm
      · cases h
    · rintro rfl
      exact dif_pos ⟨Int.natCast_nonneg _, id.lt⟩
  rw [ofSpelling?]
  by_cases hlength : (skeleton cs).length = 32
  · rw [if_pos hlength, and_iff_right hlength]
    simp only [Option.bind_eq_some_iff, hexNumeral?_eq_some, hnumber]
    constructor
    · rintro ⟨n, ⟨t, ht, rfl⟩, hn⟩
      exact ⟨t, ht, hn⟩
    · rintro ⟨t, ht, hn⟩
      exact ⟨_, ⟨t, ht, rfl⟩, hn⟩
  · simp [hlength]

theorem exists_of_numeral {t : HexText} (h : t.chars = skeleton cs)
    (hlength : (skeleton cs).length = 32) : ∃ id : WorkspaceId, t.value = id.number := by
  have hnonneg : 0 ≤ t.value := t.value_nonneg (h ▸ hyphen_not_mem_skeleton cs)
  have hlt : t.value.natAbs < count := by
    have hbound := t.natAbs_value_lt
    rw [h, hlength] at hbound
    exact hbound
  exact ⟨⟨t.value.natAbs, hlt⟩, (Int.natAbs_of_nonneg hnonneg).symm⟩

end Skeleton

namespace Spelling

variable {id : WorkspaceId} (s : Spelling id)

theorem hexDigit?_of_mem_body {c : Char} (h : c ∈ s.body) :
    c = '-' ∨ ∃ d, hexDigit? c = some d := by
  by_cases hc : c = '-'
  · exact .inl hc
  · have hmem : c.toLower ∈ id.digits := by
      rw [← s.body_digits]
      exact List.mem_map_of_mem (List.mem_filter.2 ⟨h, decide_eq_true hc⟩)
    rw [← hexDigit?_toLower]
    exact .inr (hexDigit?_of_mem_digits hmem)

theorem not_brace_of_mem_body : ∀ c ∈ s.body, isBrace c = false := by
  intro c hc
  by_contra h
  rw [Bool.not_eq_false, isBrace, Bool.or_eq_true, beq_iff_eq, beq_iff_eq] at h
  rcases s.hexDigit?_of_mem_body hc with rfl | ⟨d, hd⟩
  · revert h
    decide
  · rcases h with rfl | rfl <;> cases hd

theorem colon_not_mem : ':' ∉ s.opening ++ (s.body ++ s.closing) := by
  intro h
  rcases List.mem_append.1 h with h | h
  · exact absurd (s.opening_braces _ h) (by decide)
  rcases List.mem_append.1 h with h | h
  · rcases s.hexDigit?_of_mem_body h with h | ⟨d, hd⟩
    · cases h
    · cases hd
  · exact absurd (s.closing_braces _ h) (by decide)

theorem remove_marks : removeAll "uuid:".toList (removeAll "urn:".toList s.chars) =
    s.opening ++ (s.body ++ s.closing) := by
  have hcolon := s.colon_not_mem
  generalize hinner : s.opening ++ (s.body ++ s.closing) = inner at hcolon
  have hself {pattern : List Char} (hp : ':' ∈ pattern) : removeAll pattern inner = inner :=
    removeAll_eq_self fun h => hcolon (h.subset hp)
  have hurn : removeAll "urn:".toList ("uuid:".toList ++ inner) = "uuid:".toList ++ inner := by
    have hpattern : "urn:".toList = ['u', 'r', 'n', ':'] := rfl
    have hmark : "uuid:".toList ++ inner = 'u' :: 'u' :: 'i' :: 'd' :: ':' :: inner := rfl
    rw [hmark, removeAll_cons (by simp [hpattern]), removeAll_cons (by simp [hpattern]),
      removeAll_cons (by simp [hpattern]), removeAll_cons (by simp [hpattern]),
      removeAll_cons (by simp [hpattern]), hself (by decide)]
  have huuid : removeAll "uuid:".toList ("uuid:".toList ++ inner) = inner := by
    rw [removeAll_pattern (by decide), hself (by decide)]
  have hmark := s.mark_known
  rw [chars, hinner]
  simp only [List.map_cons, List.map_nil, List.mem_cons, List.not_mem_nil, or_false] at hmark
  rcases hmark with h | h | h | h
  · rw [h, String.toList_empty, List.nil_append, hself (by decide), hself (by decide)]
  · have hsplit : "urn:uuid:".toList = "urn:".toList ++ "uuid:".toList := rfl
    rw [h, hsplit, List.append_assoc, removeAll_pattern (by decide), hurn, huuid]
  · rw [h, removeAll_pattern (by decide), hself (by decide), hself (by decide)]
  · rw [h, hurn, huuid]

theorem skeleton_chars : skeleton s.chars = s.body.filter (· ≠ '-') := by
  have hopening : ∀ c ∈ s.opening, isBrace c = true := fun c hc => by
    simpa [isBrace] using s.opening_braces c hc
  have hclosing : ∀ c ∈ s.closing, isBrace c = true := fun c hc => by
    simpa [isBrace] using s.closing_braces c hc
  rw [skeleton, remove_marks, trim_append_append hopening s.not_brace_of_mem_body hclosing]

/-- The digits of a spelling are a numeral of the number, whatever their case. -/
theorem exists_numeral :
    ∃ t : HexText, t.chars = s.body.filter (· ≠ '-') ∧ t.value = id.number := by
  have hdigit : ∀ c ∈ s.body.filter (· ≠ '-'), ∃ d, hexDigit? c = some d := fun c hc =>
    (s.hexDigit?_of_mem_body (List.mem_filter.1 hc).1).resolve_left
      (of_decide_eq_true (List.mem_filter.1 hc).2)
  have hread : readDigits hexValue? 16 0 false (s.body.filter (· ≠ '-')) = some id.number := by
    rw [← readDigits_digits id, ← s.body_digits]
    refine (readDigits_map (fun c hc => ?_) fun c hc => ?_).symm
    · obtain ⟨d, hd⟩ := hdigit c hc
      rw [hexDigit?_toLower, hd, hexValue?_of_hexDigit? hd]
    · obtain ⟨d, hd⟩ := hdigit c hc
      constructor
      · intro hmark
        rw [← hexDigit?_toLower, hmark] at hd
        cases hd
      · rintro rfl
        cases hd
  obtain ⟨values, hrun⟩ := exists_hexRun hread
  rw [hrun.read, Nat.zero_mul, Nat.zero_add] at hread
  refine ⟨⟨[], .unsigned, [], _, values, [], List.forall_mem_nil _, .none, hrun,
    List.forall_mem_nil _⟩, ?_, congrArg _ (Option.some.inj hread)⟩
  simp [HexText.chars, HexText.core, Sign.chars]

theorem length_skeleton : (skeleton s.chars).length = 32 := by
  rw [skeleton_chars, ← List.length_map Char.toLower, s.body_digits, length_digits]

theorem ofSpelling?_chars : ofSpelling? s.chars = some id := by
  rw [ofSpelling?_eq_some, s.skeleton_chars]
  exact ⟨s.skeleton_chars ▸ s.length_skeleton, s.exists_numeral⟩

end Spelling

def written (id : WorkspaceId) : Spelling id where
  mark := []
  opening := []
  body := id.text
  closing := []
  mark_known := List.mem_cons_self
  opening_braces := List.forall_mem_nil _
  closing_braces := List.forall_mem_nil _
  body_digits := by rw [filter_text, map_toLower_digits]

/-- Reading is canonical. Every spelling of an identifier is read as it. A text is read as some
identifier exactly if its skeleton is a numeral of thirty-two characters, and then as the one with
the number of the numeral; and the written form of an identifier is read as the identifier. -/
theorem spelling_is_canonical :
    (∀ (id : WorkspaceId) (s : Spelling id), ofSpelling? s.chars = some id) ∧
    (∀ cs, ∃ left, (∀ other, IsSkeleton cs other ↔ other = left) ∧
      ((∃ id, ofSpelling? cs = some id) ↔ left.length = 32 ∧ ∃ t : HexText, t.chars = left) ∧
      ∀ id, ofSpelling? cs = some id → ∀ t : HexText, t.chars = left → t.value = id.number) ∧
    ∀ id : WorkspaceId, id.number < 2 ^ 128 ∧ IsCanonical id.text ∧ id.text.length = 36 ∧
      ofSpelling? id.text = some id := by
  refine ⟨fun id s => s.ofSpelling?_chars, fun cs => ⟨skeleton cs, fun other => ?_, ?_, ?_⟩,
    fun id => ⟨id.lt, isCanonical_text id, length_text id, ?_⟩⟩
  · rw [← skeleton_eq_iff, eq_comm]
  · constructor
    · rintro ⟨id, h⟩
      obtain ⟨hlength, t, ht, -⟩ := ofSpelling?_eq_some.1 h
      exact ⟨hlength, t, ht⟩
    · rintro ⟨hlength, t, ht⟩
      obtain ⟨id, hid⟩ := exists_of_numeral ht hlength
      exact ⟨id, ofSpelling?_eq_some.2 ⟨hlength, t, ht, hid⟩⟩
  · intro id h t ht
    obtain ⟨-, t', ht', hid⟩ := ofSpelling?_eq_some.1 h
    rw [t.value_eq_of_chars (ht.trans ht'.symm), hid]
  · have hread := (written id).ofSpelling?_chars
    simpa [Spelling.chars, written] using hread

end StorageLedger.WorkspaceId
