import StorageLedger.Text.Utf8

namespace StorageLedger.Text

@[simp] theorem octets_nil : octets [] = [] := rfl

@[simp] theorem octets_cons (c : Char) (cs : List Char) :
    octets (c :: cs) = String.utf8EncodeChar c ++ octets cs := List.flatMap_cons

@[simp] theorem octets_append (cs cs' : List Char) :
    octets (cs ++ cs') = octets cs ++ octets cs' := List.flatMap_append

theorem scalar?_eq_some {least n : Nat} {c : Char} :
    scalar? least n = some c ↔ c.toNat = n ∧ least ≤ n := by
  unfold scalar?
  constructor
  · intro h
    split at h
    · next hn =>
      obtain ⟨hleast, hvalid⟩ := hn
      obtain rfl := Option.some.inj h
      rw [Char.ofNat, dif_pos hvalid]
      exact ⟨rfl, hleast⟩
    · cases h
  · rintro ⟨rfl, hleast⟩
    rw [if_pos ⟨hleast, c.valid⟩, Char.ofNat_toNat]

theorem tailBits?_eq_some {b : UInt8} {n : Nat} :
    tailBits? b = some n ↔ b.toNat = 0x80 + n ∧ n < 0x40 := by
  unfold tailBits?
  split
  · simp only [Option.some.injEq]
    omega
  · simp only [reduceCtorEq, false_iff]
    omega

theorem tailBits?_ofNat (n : Nat) :
    tailBits? (UInt8.ofNat (n % 0x40 + 0x80)) = some (n % 0x40) := by
  rw [tailBits?_eq_some, UInt8.toNat_ofNat']
  omega

theorem toNat_lt_of_valid (c : Char) : c.toNat < 0x110000 := by
  have hvalid := c.valid
  simp only [UInt32.isValidChar, Nat.isValidChar] at hvalid
  change c.val.toNat < 0x110000
  omega

/-- The encoding of a character is read as that character, whatever follows. -/
theorem leadChar?_utf8EncodeChar_append (c : Char) (r : List UInt8) :
    leadChar? (String.utf8EncodeChar c ++ r) = some (c, (String.utf8EncodeChar c).length - 1) := by
  have hlt := toNat_lt_of_valid c
  have hc : c.val.toNat = c.toNat := rfl
  unfold String.utf8EncodeChar
  rw [hc]
  generalize hv : c.toNat = v at *
  dsimp only
  split
  · have hlead : (UInt8.ofNat v).toNat = v := by
      rw [UInt8.toNat_ofNat']
      omega
    have hscalar : scalar? 0 v = some c := scalar?_eq_some.2 ⟨hv, by omega⟩
    simp only [List.cons_append, leadChar?, hlead, hscalar, if_pos (show v < 0x80 by omega)]
    rfl
  split
  · have hlead : (UInt8.ofNat (v / 64 % 0x20 + 0xC0)).toNat = v / 64 + 0xC0 := by
      rw [UInt8.toNat_ofNat']
      omega
    have hscalar : scalar? 0x80 ((v / 64 + 0xC0 - 0xC0) * 0x40 + v % 0x40) = some c :=
      scalar?_eq_some.2 ⟨by omega, by omega⟩
    simp only [List.cons_append, leadChar?, hlead]
    rw [if_neg (by omega), if_neg (by omega), if_pos (by omega)]
    simp only [List.getElem?_cons_zero, bind, Option.bind, tailBits?_ofNat, hscalar]
    rfl
  split
  · have hlead : (UInt8.ofNat (v / 4096 % 0x10 + 0xE0)).toNat = v / 4096 + 0xE0 := by
      rw [UInt8.toNat_ofNat']
      omega
    have hscalar : scalar? 0x800
        (((v / 4096 + 0xE0 - 0xE0) * 0x40 + v / 64 % 0x40) * 0x40 + v % 0x40) = some c :=
      scalar?_eq_some.2 ⟨by omega, by omega⟩
    simp only [List.cons_append, leadChar?, hlead]
    rw [if_neg (by omega), if_neg (by omega), if_neg (by omega), if_pos (by omega)]
    simp only [List.getElem?_cons_zero, List.getElem?_cons_succ, bind, Option.bind, tailBits?_ofNat,
      hscalar]
    rfl
  · have hlead : (UInt8.ofNat (v / 262144 % 0x08 + 0xF0)).toNat = v / 262144 + 0xF0 := by
      rw [UInt8.toNat_ofNat']
      omega
    have hscalar : scalar? 0x10000 ((((v / 262144 + 0xF0 - 0xF0) * 0x40 + v / 4096 % 0x40) * 0x40 +
        v / 64 % 0x40) * 0x40 + v % 0x40) = some c :=
      scalar?_eq_some.2 ⟨by omega, by omega⟩
    simp only [List.cons_append, leadChar?, hlead]
    rw [if_neg (by omega), if_neg (by omega), if_neg (by omega), if_neg (by omega),
      if_pos (by omega)]
    simp only [List.getElem?_cons_zero, List.getElem?_cons_succ, bind, Option.bind, tailBits?_ofNat,
      hscalar]
    rfl

theorem le_of_mem_utf8EncodeChar {c : Char} (h : 0x80 ≤ c.toNat) :
    ∀ b ∈ String.utf8EncodeChar c, 0x80 ≤ b.toNat := by
  have hc : c.val.toNat = c.toNat := rfl
  unfold String.utf8EncodeChar
  rw [hc]
  dsimp only
  rw [if_neg (by omega)]
  split
  · simp only [List.mem_cons, List.not_mem_nil, or_false, forall_eq_or_imp, forall_eq,
      UInt8.toNat_ofNat']
    omega
  split
  · simp only [List.mem_cons, List.not_mem_nil, or_false, forall_eq_or_imp, forall_eq,
      UInt8.toNat_ofNat']
    omega
  · simp only [List.mem_cons, List.not_mem_nil, or_false, forall_eq_or_imp, forall_eq,
      UInt8.toNat_ofNat']
    omega

section Encodings

variable {c : Char} {a b b' b'' : UInt8} {x y y' y'' : Nat}

theorem encoding_of_one (hc : c.toNat = a.toNat) (ha : a.toNat < 0x80) :
    String.utf8EncodeChar c = [a] := by
  have hv : c.val.toNat = a.toNat := hc
  unfold String.utf8EncodeChar
  dsimp only
  rw [hv, if_pos (by omega), UInt8.ofNat_toNat]

theorem encoding_of_two (ha : a.toNat < 0xE0) (hb : tailBits? b = some y)
    (hc : c.toNat = (a.toNat - 0xC0) * 0x40 + y ∧ 0x80 ≤ (a.toNat - 0xC0) * 0x40 + y) :
    String.utf8EncodeChar c = [a, b] := by
  obtain ⟨hb, hy⟩ := tailBits?_eq_some.1 hb
  have hv : c.val.toNat = (a.toNat - 0xC0) * 0x40 + y := hc.1
  unfold String.utf8EncodeChar
  dsimp only
  rw [hv, if_neg (by omega), if_pos (by omega)]
  congr 2 <;> (apply UInt8.toNat_inj.1; rw [UInt8.toNat_ofNat']; omega)

theorem encoding_of_three (hlow : ¬ a.toNat < 0xE0) (ha : a.toNat < 0xF0)
    (hb : tailBits? b = some y) (hb' : tailBits? b' = some y')
    (hc : c.toNat = ((a.toNat - 0xE0) * 0x40 + y) * 0x40 + y' ∧
      0x800 ≤ ((a.toNat - 0xE0) * 0x40 + y) * 0x40 + y') :
    String.utf8EncodeChar c = [a, b, b'] := by
  obtain ⟨hb, hy⟩ := tailBits?_eq_some.1 hb
  obtain ⟨hb', hy'⟩ := tailBits?_eq_some.1 hb'
  have hv : c.val.toNat = ((a.toNat - 0xE0) * 0x40 + y) * 0x40 + y' := hc.1
  unfold String.utf8EncodeChar
  dsimp only
  rw [hv, if_neg (by omega), if_neg (by omega), if_pos (by omega)]
  congr 3 <;> (apply UInt8.toNat_inj.1; rw [UInt8.toNat_ofNat']; omega)

theorem encoding_of_four (hlow : ¬ a.toNat < 0xF0) (ha : a.toNat < 0xF8)
    (hb : tailBits? b = some y) (hb' : tailBits? b' = some y') (hb'' : tailBits? b'' = some y'')
    (hc : c.toNat = (((a.toNat - 0xF0) * 0x40 + y) * 0x40 + y') * 0x40 + y'' ∧
      0x10000 ≤ (((a.toNat - 0xF0) * 0x40 + y) * 0x40 + y') * 0x40 + y'') :
    String.utf8EncodeChar c = [a, b, b', b''] := by
  obtain ⟨hb, hy⟩ := tailBits?_eq_some.1 hb
  obtain ⟨hb', hy'⟩ := tailBits?_eq_some.1 hb'
  obtain ⟨hb'', hy''⟩ := tailBits?_eq_some.1 hb''
  have hv : c.val.toNat = (((a.toNat - 0xF0) * 0x40 + y) * 0x40 + y') * 0x40 + y'' := hc.1
  unfold String.utf8EncodeChar
  dsimp only
  rw [hv, if_neg (by omega), if_neg (by omega), if_neg (by omega)]
  congr 4 <;> (apply UInt8.toNat_inj.1; rw [UInt8.toNat_ofNat']; omega)

end Encodings

theorem encoding_of_leadChar? {bs : List UInt8} {c : Char} {more : Nat}
    (h : leadChar? bs = some (c, more)) : String.utf8EncodeChar c = bs.take (more + 1) := by
  cases bs with
  | nil => cases h
  | cons a r =>
    simp only [leadChar?] at h
    by_cases h80 : a.toNat < 0x80
    · rw [if_pos h80] at h
      obtain ⟨c', hc, he⟩ := Option.map_eq_some_iff.1 h
      cases he
      exact encoding_of_one (scalar?_eq_some.1 hc).1 h80
    by_cases hC0 : a.toNat < 0xC0
    · rw [if_neg h80, if_pos hC0] at h
      cases h
    by_cases hE0 : a.toNat < 0xE0
    · rw [if_neg h80, if_neg hC0, if_pos hE0] at h
      obtain ⟨y, hb, h⟩ := Option.bind_eq_some_iff.1 h
      obtain ⟨c', hc, he⟩ := Option.bind_eq_some_iff.1 h
      cases he
      rcases r with _ | ⟨b, r⟩
      · cases hb
      · exact encoding_of_two hE0 hb (scalar?_eq_some.1 hc)
    by_cases hF0 : a.toNat < 0xF0
    · rw [if_neg h80, if_neg hC0, if_neg hE0, if_pos hF0] at h
      obtain ⟨y, hb, h⟩ := Option.bind_eq_some_iff.1 h
      obtain ⟨y', hb', h⟩ := Option.bind_eq_some_iff.1 h
      obtain ⟨c', hc, he⟩ := Option.bind_eq_some_iff.1 h
      cases he
      rcases r with _ | ⟨b, _ | ⟨b', r⟩⟩
      · cases hb
      · cases hb'
      · exact encoding_of_three hE0 hF0 hb hb' (scalar?_eq_some.1 hc)
    by_cases hF8 : a.toNat < 0xF8
    · rw [if_neg h80, if_neg hC0, if_neg hE0, if_neg hF0, if_pos hF8] at h
      obtain ⟨y, hb, h⟩ := Option.bind_eq_some_iff.1 h
      obtain ⟨y', hb', h⟩ := Option.bind_eq_some_iff.1 h
      obtain ⟨y'', hb'', h⟩ := Option.bind_eq_some_iff.1 h
      obtain ⟨c', hc, he⟩ := Option.bind_eq_some_iff.1 h
      cases he
      rcases r with _ | ⟨b, _ | ⟨b', _ | ⟨b'', r⟩⟩⟩
      · cases hb
      · cases hb'
      · cases hb''
      · exact encoding_of_four hF0 hF8 hb hb' hb'' (scalar?_eq_some.1 hc)
    · rw [if_neg h80, if_neg hC0, if_neg hE0, if_neg hF0, if_neg hF8] at h
      cases h

theorem decodeStart_append (c : Char) (bs : List UInt8) :
    decodeStart (String.utf8EncodeChar c ++ bs) =
      (c :: (decodeStart bs).1, (String.utf8EncodeChar c).length + (decodeStart bs).2) := by
  have hlead := leadChar?_utf8EncodeChar_append c bs
  cases hcode : String.utf8EncodeChar c with
  | nil => exact absurd hcode String.utf8EncodeChar_ne_nil
  | cons b r =>
    rw [hcode] at hlead
    rw [List.cons_append] at hlead ⊢
    rw [decodeStart, hlead]
    simp only [List.length_cons, Nat.add_sub_cancel, List.drop_left]

theorem decodeStart_octets (cs : List Char) :
    decodeStart (octets cs) = (cs, (octets cs).length) := by
  induction cs with
  | nil => rw [octets, List.flatMap_nil, decodeStart, List.length_nil]
  | cons c cs ih =>
    rw [octets_cons, decodeStart_append, ih, List.length_append]

/-- What was decoded encodes the octets that were read. -/
theorem octets_decodeStart (bs : List UInt8) :
    octets (decodeStart bs).1 = bs.take (decodeStart bs).2 := by
  fun_induction decodeStart bs with
  | case1 => rfl
  | case2 b r c more hlead cs n hstart ih =>
    rw [hstart] at ih
    change octets (c :: cs) = (b :: r).take (more + 1 + n)
    have hrest : octets cs = ((b :: r).drop (more + 1)).take n := ih
    rw [octets_cons, encoding_of_leadChar? hlead, hrest]
    exact List.take_add.symm
  | case3 b r hlead => rfl

theorem decode?_eq_some {bs : List UInt8} {cs : List Char} :
    decode? bs = some cs ↔ bs = octets cs := by
  unfold decode?
  constructor
  · intro h
    dsimp only at h
    split at h
    · next hall =>
      obtain rfl := Option.some.inj h
      rw [octets_decodeStart, hall, List.take_length]
    · cases h
  · rintro rfl
    simp only [decodeStart_octets, if_true]

end StorageLedger.Text
