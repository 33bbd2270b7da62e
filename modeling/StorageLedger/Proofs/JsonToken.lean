import StorageLedger.Proofs.JsonSpelling

namespace StorageLedger.Json
open StorageLedger.Text StorageLedger.Number

section Octets

variable {c : Char}

theorem toNat_octet (h : c.toNat < 0x80) : (octet c).toNat = c.toNat := by
  rw [octet, Nat.toUInt8, UInt8.toNat_ofNat']
  omega

theorem octet_inj {c' : Char} (h : c.toNat < 0x80) (h' : c'.toNat < 0x80) :
    octet c = octet c' ↔ c = c' := by
  refine ⟨fun heq => ?_, congrArg octet⟩
  rw [← Char.ofNat_toNat c, ← toNat_octet h, heq, toNat_octet h', Char.ofNat_toNat]

theorem utf8EncodeChar_ascii (h : c.toNat < 0x80) : String.utf8EncodeChar c = [octet c] := by
  have hoctet := toNat_octet h
  exact encoding_of_one hoctet.symm (by omega)

theorem octets_ascii {cs : List Char} (h : ∀ c ∈ cs, c.toNat < 0x80) :
    octets cs = cs.map octet := by
  induction cs with
  | nil => rfl
  | cons c cs ih =>
    obtain ⟨hc, hcs⟩ := List.forall_mem_cons.1 h
    rw [octets_cons, utf8EncodeChar_ascii hc, ih hcs, List.map_cons, List.singleton_append]

theorem ofNat_octet (h : c.toNat < 0x80) : Char.ofNat (octet c).toNat = c := by
  rw [toNat_octet h, Char.ofNat_toNat]

theorem asciiText_octets {cs : List Char} (h : ∀ c ∈ cs, c.toNat < 0x80) :
    asciiText (cs.map octet) = cs := by
  have hid : ∀ c ∈ cs, ((fun b => Char.ofNat b.toNat) ∘ octet) c = c := fun c hc =>
    ofNat_octet (h c hc)
  rw [asciiText, List.map_map, List.map_congr_left hid, List.map_id']

end Octets

section Texts

variable {index count more : Nat} {read out bs r : List UInt8} {b : UInt8}

def IsPlain (b : UInt8) : Prop := b ≠ octet '"' ∧ b ≠ octet '\\' ∧ 0x20 ≤ b.toNat

theorem textBody_of_piece (hb : b ≠ octet '"') (h : textPiece index b r = .ok (out, more)) :
    textBody index read count (b :: r) =
      textBody (index + 1 + more) (out.reverse ++ read) (count + 1 + more) (r.drop more) := by
  rw [textBody, if_neg hb, h]

theorem textBody_of_plain (h : ∀ b ∈ bs, IsPlain b) :
    textBody index read count (bs ++ r) =
      textBody (index + bs.length) (bs.reverse ++ read) (count + bs.length) r := by
  induction bs generalizing index read count with
  | nil => rfl
  | cons b bs ih =>
    obtain ⟨⟨hquote, hbackslash, hcontrol⟩, hbs⟩ := List.forall_mem_cons.1 h
    have hpiece : textPiece index b (bs ++ r) = .ok ([b], 0) := by
      unfold textPiece
      rw [if_neg hbackslash, if_neg (Nat.not_lt.2 hcontrol)]
    have hnext (n : Nat) : n + 1 + 0 + bs.length = n + (bs.length + 1) := by omega
    rw [List.cons_append, textBody_of_piece hquote hpiece, List.drop_zero, ih hbs, List.length_cons,
      hnext, hnext, List.reverse_singleton, List.reverse_cons, List.append_assoc]

theorem isPlain_of_mem_utf8EncodeChar {c : Char} (hcontrol : 0x20 ≤ c.toNat) (hquote : c ≠ '"')
    (hbackslash : c ≠ '\\') : ∀ b ∈ String.utf8EncodeChar c, IsPlain b := by
  by_cases hascii : c.toNat < 0x80
  · rw [utf8EncodeChar_ascii hascii]
    refine List.forall_mem_singleton.2 ⟨?_, ?_, (toNat_octet hascii).symm ▸ hcontrol⟩
    · exact mt (octet_inj hascii (by decide)).1 hquote
    · exact mt (octet_inj hascii (by decide)).1 hbackslash
  · intro b hb
    have hbeyond := le_of_mem_utf8EncodeChar (Nat.not_lt.1 hascii) b hb
    refine ⟨?_, ?_, by omega⟩
    · rintro rfl
      exact absurd hbeyond (by decide)
    · rintro rfl
      exact absurd hbeyond (by decide)

theorem hexOctet?_octet {a : Char} {n : Nat} (h : hexDigit? a = some n) :
    a.toNat < 0x80 ∧ hexOctet? (octet a) = some n := by
  have hascii : a.toNat < 0x80 := by
    unfold hexDigit? at h
    split at h
    · omega
    split at h
    · omega
    split at h
    · omega
    · cases h
  refine ⟨hascii, ?_⟩
  rw [hexOctet?, ofNat_octet hascii, h]

theorem CodeUnit.ascii {n : Nat} {ds : List Char} (h : CodeUnit n ds) :
    ∀ c ∈ ds, c.toNat < 0x80 := by
  cases h with
  | mk hw hx hy hz =>
    simp only [List.mem_cons, List.not_mem_nil, or_false, forall_eq_or_imp, forall_eq]
    exact ⟨(hexOctet?_octet hw).1, (hexOctet?_octet hx).1, (hexOctet?_octet hy).1,
      (hexOctet?_octet hz).1⟩

theorem CodeUnit.length {n : Nat} {ds : List Char} (h : CodeUnit n ds) : ds.length = 4 := by
  cases h
  rfl

theorem fourDigits_of_codeUnit {n : Nat} {ds : List Char} (h : CodeUnit n ds) :
    fourDigits index (ds.map octet ++ r) = .ok n := by
  cases h with
  | mk hw hx hy hz =>
    simp only [List.map_cons, List.map_nil, List.cons_append, List.nil_append, fourDigits, hexStep,
      (hexOctet?_octet hw).2, (hexOctet?_octet hx).2, (hexOctet?_octet hy).2,
      (hexOctet?_octet hz).2, bind, Except.bind, Nat.zero_mul, Nat.zero_add]

theorem not_isSurrogate (c : Char) :
    isSurrogate 0xDC00 c.toNat = false ∧ isSurrogate 0xD800 c.toNat = false := by
  have hvalid : c.val.toNat < 0xD800 ∨ 0xDFFF < c.val.toNat ∧ c.val.toNat < 0x110000 := c.valid
  change c.toNat < 0xD800 ∨ 0xDFFF < c.toNat ∧ c.toNat < 0x110000 at hvalid
  simp only [isSurrogate, Bool.and_eq_false_iff, decide_eq_false_iff_not]
  omega

theorem codePoint_of_unit {c : Char} {ds : List Char} (h : CodeUnit c.toNat ds) :
    codePoint index (ds.map octet ++ r) = .ok (String.utf8EncodeChar c, 4) := by
  obtain ⟨htrail, hlead⟩ := not_isSurrogate c
  simp only [codePoint, fourDigits_of_codeUnit h, bind, Except.bind, htrail, hlead,
    Bool.false_eq_true, if_false, Char.ofNat_toNat]

theorem codePoint_of_pair {c : Char} {high low : Nat} {ds ds' : List Char}
    (hlead : CodeUnit (0xD800 + high) ds) (htrail : CodeUnit (0xDC00 + low) ds')
    (hhigh : high < 0x400) (hlow : low < 0x400) (hc : c.toNat = 0x10000 + high * 0x400 + low) :
    codePoint index (ds.map octet ++ octet '\\' :: octet 'u' :: (ds'.map octet ++ r)) =
      .ok (String.utf8EncodeChar c, 10) := by
  have hnotrail : isSurrogate 0xDC00 (0xD800 + high) = false := by
    simp only [isSurrogate, Bool.and_eq_false_iff, decide_eq_false_iff_not]
    omega
  have hislead : isSurrogate 0xD800 (0xD800 + high) = true := by
    simp only [isSurrogate, Bool.and_eq_true, decide_eq_true_eq]
    omega
  have histrail : isSurrogate 0xDC00 (0xDC00 + low) = true := by
    simp only [isSurrogate, Bool.and_eq_true, decide_eq_true_eq]
    omega
  have hlength : (ds.map octet).length = 4 := by rw [List.length_map, hlead.length]
  have hchar : Char.ofNat (0x10000 + (0xD800 + high - 0xD800) * 0x400 + (0xDC00 + low - 0xDC00)) =
      c := by
    rw [Nat.add_sub_cancel_left, Nat.add_sub_cancel_left, ← hc, Char.ofNat_toNat]
  have hdrop : (ds.map octet ++ octet '\\' :: octet 'u' :: (ds'.map octet ++ r)).drop 6 =
      ds'.map octet ++ r := by
    rw [List.drop_append, hlength, List.drop_eq_nil_of_le (by omega)]
    rfl
  have hmark : (ds.map octet ++ octet '\\' :: octet 'u' :: (ds'.map octet ++ r))[4]? =
      some (octet '\\') := by
    rw [List.getElem?_append_right (by omega), hlength]
    rfl
  have hmark' : (ds.map octet ++ octet '\\' :: octet 'u' :: (ds'.map octet ++ r))[5]? =
      some (octet 'u') := by
    rw [List.getElem?_append_right (by omega), hlength]
    rfl
  simp only [codePoint, fourDigits_of_codeUnit hlead, bind, Except.bind, hnotrail, hislead, hmark,
    hmark', hdrop, fourDigits_of_codeUnit htrail, histrail, hchar, Bool.false_eq_true, if_false,
    if_true, ne_eq, not_true]

theorem textPiece_of_unit {c : Char} {ds : List Char} (h : CodeUnit c.toNat ds) :
    textPiece index (octet '\\') (('u' :: ds).map octet ++ r) =
      .ok (String.utf8EncodeChar c, ('u' :: ds).length) := by
  rw [List.length_cons, h.length]
  simp only [textPiece, if_true, List.map_cons, List.cons_append, codePoint_of_unit h, Except.map]

theorem textPiece_of_pair {c : Char} {high low : Nat} {ds ds' : List Char}
    (hlead : CodeUnit (0xD800 + high) ds) (htrail : CodeUnit (0xDC00 + low) ds')
    (hhigh : high < 0x400) (hlow : low < 0x400) (hc : c.toNat = 0x10000 + high * 0x400 + low) :
    textPiece index (octet '\\') (('u' :: (ds ++ '\\' :: 'u' :: ds')).map octet ++ r) =
      .ok (String.utf8EncodeChar c, ('u' :: (ds ++ '\\' :: 'u' :: ds')).length) := by
  have hlength : ('u' :: (ds ++ '\\' :: 'u' :: ds')).length = 11 := by
    simp [hlead.length, htrail.length]
  rw [hlength]
  simp only [textPiece, if_true, List.map_cons, List.map_append, List.cons_append,
    List.append_assoc, codePoint_of_pair hlead htrail hhigh hlow hc, Except.map]

theorem textPiece_of_letter {c l : Char} (h : (l, c) ∈ escapeLetters) :
    textPiece index (octet '\\') ([l].map octet ++ r) = .ok (String.utf8EncodeChar c, [l].length) ∧
      l.toNat < 0x80 := by
  simp only [escapeLetters, List.mem_cons, Prod.mk.injEq, List.not_mem_nil, or_false] at h
  rcases h with ⟨rfl, rfl⟩ | ⟨rfl, rfl⟩ | ⟨rfl, rfl⟩ | ⟨rfl, rfl⟩ | ⟨rfl, rfl⟩ | ⟨rfl, rfl⟩ |
    ⟨rfl, rfl⟩ | ⟨rfl, rfl⟩ <;> exact ⟨rfl, by decide⟩

theorem textBody_of_escape {c : Char} {tail : List Char} (hascii : ∀ c ∈ tail, c.toNat < 0x80)
    (h : textPiece index (octet '\\') (tail.map octet ++ r) =
      .ok (String.utf8EncodeChar c, tail.length)) :
    textBody index read count (octets ('\\' :: tail) ++ r) =
      textBody (index + (octets ('\\' :: tail)).length) ((String.utf8EncodeChar c).reverse ++ read)
        (count + (octets ('\\' :: tail)).length) r := by
  have hoctets : octets ('\\' :: tail) = octet '\\' :: tail.map octet :=
    octets_ascii (List.forall_mem_cons.2 ⟨by decide, hascii⟩)
  have hdrop : (tail.map octet ++ r).drop tail.length = r :=
    List.drop_left' (List.length_map _)
  rw [hoctets, List.cons_append, textBody_of_piece (by decide) h, hdrop, List.length_cons,
    List.length_map, Nat.add_assoc, Nat.add_assoc, Nat.add_comm 1]

theorem SpelledChar.textBody {c : Char} {piece : List Char} (h : SpelledChar c piece) :
    textBody index read count (octets piece ++ r) =
      textBody (index + (octets piece).length) ((String.utf8EncodeChar c).reverse ++ read)
        (count + (octets piece).length) r := by
  cases h with
  | itself hcontrol hquote hbackslash =>
    rw [octets_cons, octets_nil, List.append_nil]
    exact textBody_of_plain (isPlain_of_mem_utf8EncodeChar hcontrol hquote hbackslash)
  | letter h =>
    obtain ⟨hpiece, hl⟩ := textPiece_of_letter h
    exact textBody_of_escape (List.forall_mem_singleton.2 hl) hpiece
  | unit h =>
    exact textBody_of_escape (List.forall_mem_cons.2 ⟨by decide, h.ascii⟩) (textPiece_of_unit h)
  | pair hlead htrail hhigh hlow hc =>
    refine textBody_of_escape ?_ (textPiece_of_pair hlead htrail hhigh hlow hc)
    refine List.forall_mem_cons.2 ⟨by decide, fun c hc => ?_⟩
    rcases List.mem_append.1 hc with hc | hc
    · exact hlead.ascii c hc
    · rcases List.mem_cons.1 hc with rfl | hc
      · decide
      rcases List.mem_cons.1 hc with rfl | hc
      · decide
      · exact htrail.ascii c hc

theorem SpelledChars.textBody {cs written : List Char} (h : SpelledChars cs written) :
    textBody index read count (octets written ++ octet '"' :: r) =
      .ok (read.reverse ++ octets cs, count + (octets written).length + 1) := by
  induction h generalizing index read count with
  | nil =>
    rw [octets_nil, List.nil_append, Json.textBody, if_pos rfl, List.append_nil]
    rfl
  | cons hc rest ih =>
    rw [octets_append, List.append_assoc, hc.textBody, ih, List.reverse_append,
      List.reverse_reverse, List.append_assoc, octets_cons, List.length_append, Nat.add_assoc count]

theorem SpelledChars.textToken {s : String} {written : List Char}
    (h : SpelledChars s.toList written) :
    textToken index (octets written ++ octet '"' :: r) =
      (.text s, (octets written).length + 1) := by
  have hbody : Json.textBody index [] 0 (octets written ++ octet '"' :: r) =
      .ok (octets s.toList, 0 + (octets written).length + 1) := h.textBody
  rw [Nat.zero_add] at hbody
  simp only [Json.textToken, hbody, decodeStart_octets, if_true, String.ofList_toList]

end Texts

section Numbers

variable {limits : Limits} {index : Nat} {r : List UInt8} {ds fs fraction power : List Char}
variable {negative : Bool} {e : Int}

theorem isDigit_ascii {c : Char} (h : isDigit c = true) : c.toNat < 0x80 := by
  have hbounds := isDigit_iff.1 h
  omega

theorem isDigitOctet_octet {c : Char} (h : isDigit c = true) : isDigitOctet (octet c) = true := by
  obtain ⟨hlow, hhigh⟩ := isDigit_iff.1 h
  rw [isDigitOctet, toNat_octet (isDigit_ascii h), Bool.and_eq_true, decide_eq_true_eq,
    decide_eq_true_eq]
  exact ⟨hlow, hhigh⟩

def EndsDigits (r : List UInt8) : Prop := ∀ b ∈ r.head?, isDigitOctet b = false

def EndsNumber (r : List UInt8) : Prop :=
  ∀ b ∈ r.head?, isDigitOctet b = false ∧ b ≠ octet '.' ∧ b ≠ octet 'e' ∧ b ≠ octet 'E'

theorem EndsNumber.endsDigits (h : EndsNumber r) : EndsDigits r := fun b hb => (h b hb).1

theorem endsDigits_cons {c : Char} (h : isDigitOctet (octet c) = false) (r : List UInt8) :
    EndsDigits (octet c :: r) := by
  rintro _ ⟨⟩
  exact h

theorem takeWhile_digits (hds : ∀ c ∈ ds, isDigit c = true) (hr : EndsDigits r) :
    ((ds.map octet ++ r).takeWhile isDigitOctet).length = ds.length := by
  have hnone : r.takeWhile isDigitOctet = [] := by
    cases r with
    | nil => rfl
    | cons b r => exact List.takeWhile_cons_of_neg (by simp [hr b rfl])
  rw [List.takeWhile_append_of_pos, hnone, List.append_nil, List.length_map]
  intro b hb
  obtain ⟨c, hc, rfl⟩ := List.mem_map.1 hb
  exact isDigitOctet_octet (hds c hc)

theorem someDigits_eq (hne : ds ≠ []) (hds : ∀ c ∈ ds, isDigit c = true) (hr : EndsDigits r) :
    someDigits index (ds.map octet ++ r) = .ok ds.length := by
  have hlength := takeWhile_digits hds hr
  cases ds with
  | nil => exact absurd rfl hne
  | cons d ds =>
    rw [List.map_cons, List.cons_append] at hlength ⊢
    rw [someDigits, if_pos (isDigitOctet_octet (List.forall_mem_cons.1 hds).1), hlength]

theorem WholeDigits.isDigit_of_mem (h : WholeDigits ds) : ∀ c ∈ ds, isDigit c = true := by
  cases h with
  | zero => exact List.forall_mem_singleton.2 rfl
  | positive hd _ hds => exact List.forall_mem_cons.2 ⟨hd, hds⟩

theorem WholeDigits.wholeLength (h : WholeDigits ds) (hr : EndsDigits r) :
    wholeLength index (ds.map octet ++ r) = .ok ds.length := by
  have hlength := takeWhile_digits h.isDigit_of_mem hr
  cases h with
  | zero =>
    have hnone : ¬ r.head?.any isDigitOctet = true := by
      cases r with
      | nil => simp
      | cons b r => simp [hr b rfl]
    rw [List.map_singleton, List.singleton_append, Json.wholeLength, if_pos rfl, if_neg hnone]
    rfl
  | positive hd hne hds =>
    have hzero := mt (octet_inj (isDigit_ascii hd) (by decide)).1 hne
    rw [List.map_cons, List.cons_append] at hlength ⊢
    rw [Json.wholeLength, if_neg hzero, if_pos (isDigitOctet_octet hd), hlength]

theorem FractionPart.fractionLength (h : FractionPart fs fraction) (hr : EndsDigits r)
    (hpoint : ∀ b ∈ r.head?, b ≠ octet '.') :
    fractionLength index (fraction.map octet ++ r) = .ok fraction.length := by
  cases h with
  | absent =>
    cases r with
    | nil => rfl
    | cons b r => exact if_neg (hpoint b rfl)
  | digits hne hds =>
    rw [List.map_cons, List.cons_append, Json.fractionLength, if_pos rfl, someDigits_eq hne hds hr]
    rfl

theorem PowerPart.powerLength (h : PowerPart e power) (hr : EndsNumber r) :
    powerLength index (power.map octet ++ r) = .ok power.length := by
  cases h with
  | absent =>
    cases r with
    | nil => rfl
    | cons b r =>
      obtain ⟨-, -, he, hE⟩ := hr b rfl
      exact if_neg (not_or.2 ⟨he, hE⟩)
  | @digits l ds hl sign hne hds =>
    have hmark : octet l = octet 'e' ∨ octet l = octet 'E' := hl.imp (congrArg _) (congrArg _)
    have hdigits (index : Nat) : someDigits index (ds.map octet ++ r) = .ok ds.length :=
      someDigits_eq hne hds hr.endsDigits
    rw [List.map_cons, List.cons_append, Json.powerLength.eq_def]
    simp only [if_pos hmark]
    cases sign with
    | unsigned =>
      cases ds with
      | nil => exact absurd rfl hne
      | cons d ds =>
        have hd := (List.forall_mem_cons.1 hds).1
        have hplus : octet d ≠ octet '+' :=
          mt (octet_inj (isDigit_ascii hd) (by decide)).1 (by rintro rfl; cases hd)
        have hminus : octet d ≠ octet '-' :=
          mt (octet_inj (isDigit_ascii hd) (by decide)).1 (by rintro rfl; cases hd)
        have hread := hdigits (index + 1)
        simp only [List.map_cons, List.cons_append, Sign.chars, List.nil_append, hplus, hminus,
          or_self, if_false] at hread ⊢
        rw [hread]
        rfl
    | plus =>
      change (someDigits (index + 2) (ds.map octet ++ r)).map (· + 2) = _
      rw [hdigits]
      rfl
    | minus =>
      change (someDigits (index + 2) (ds.map octet ++ r)).map (· + 2) = _
      rw [hdigits]
      rfl

theorem PowerPart.endsDigits (h : PowerPart e power) (hr : EndsNumber r) :
    EndsDigits (power.map octet ++ r) ∧ ∀ b ∈ (power.map octet ++ r).head?, b ≠ octet '.' := by
  cases h with
  | absent => exact ⟨hr.endsDigits, fun b hb => (hr b hb).2.1⟩
  | digits hl sign hne hds =>
    rcases hl with rfl | rfl
    · exact ⟨endsDigits_cons rfl _, by rintro _ ⟨⟩; decide⟩
    · exact ⟨endsDigits_cons rfl _, by rintro _ ⟨⟩; decide⟩

theorem FractionPart.endsDigits (h : FractionPart fs fraction) (hr : EndsDigits r) :
    EndsDigits (fraction.map octet ++ r) := by
  cases h with
  | absent => exact hr
  | digits hne hds => exact endsDigits_cons rfl _

section Exact

variable {cs : List Char}

theorem spanDigits_append (hds : ∀ c ∈ ds, isDigit c = true)
    (hcs : ∀ c ∈ cs.head?, isDigit c = false) : Decimal.spanDigits (ds ++ cs) = (ds, cs) := by
  have hnone : cs.takeWhile isDigit = [] ∧ cs.dropWhile isDigit = cs := by
    cases cs with
    | nil => exact ⟨rfl, rfl⟩
    | cons c cs =>
      have hc : ¬ isDigit c = true := by simp [hcs c rfl]
      exact ⟨List.takeWhile_cons_of_neg hc, List.dropWhile_cons_of_neg hc⟩
  rw [Decimal.spanDigits, List.span_eq_takeWhile_dropWhile, List.takeWhile_append_of_pos hds,
    List.dropWhile_append_of_pos hds, hnone.1, hnone.2, List.append_nil]

theorem PowerPart.exponent? (h : PowerPart e power) : Decimal.exponent? power = some e := by
  cases h with
  | absent => rfl
  | @digits l ds hl sign hne hds =>
    have hall : ds.all isDigit = true := List.all_eq_true.2 hds
    cases hcons : ds with
    | nil => exact absurd hcons hne
    | cons d rest =>
      rw [← hcons, Decimal.exponent?, if_pos hl, hcons,
        takeSign_append sign (hds d (hcons ▸ List.mem_cons_self)), ← hcons]
      simp [hne, hall]

theorem PowerPart.head (h : PowerPart e power) :
    ∀ c ∈ power.head?, isDigit c = false ∧ c ≠ '.' := by
  cases h with
  | absent => exact fun c hc => by cases hc
  | digits hl sign hne hds =>
    rintro _ ⟨⟩
    rcases hl with rfl | rfl <;> exact ⟨rfl, by decide⟩

/-- A number with a fraction or a power is the decimal that its parts denote. -/
theorem finite?_parts (hds : WholeDigits ds) (hfraction : FractionPart fs fraction)
    (hpower : PowerPart e power) :
    Decimal.finite? negative (ds ++ (fraction ++ power)) =
      some (.finite negative (digitsValue (ds ++ fs)) (e - fs.length)) := by
  have hne : ds ≠ [] := by cases hds <;> exact List.cons_ne_nil _ _
  have hexponent := hpower.exponent?
  have hhead : ∀ c ∈ power.head?, isDigit c = false := fun c hc => (hpower.head c hc).1
  unfold Decimal.finite?
  cases hfraction with
  | absent =>
    rw [List.nil_append, spanDigits_append hds.isDigit_of_mem hhead]
    dsimp only
    split
    · next r => exact absurd rfl (hpower.head '.' rfl).2
    · simp only [hne, false_and, if_false, hexponent, Option.map_some, List.append_nil]
  | digits hfne hfs =>
    rw [List.cons_append, spanDigits_append hds.isDigit_of_mem (by rintro _ ⟨⟩; rfl)]
    simp only [spanDigits_append hfs hhead, hne, false_and, if_false, hexponent, Option.map_some]

end Exact

theorem ascii_of_parts (hds : WholeDigits ds) (hfraction : FractionPart fs fraction)
    (hpower : PowerPart e power) : ∀ c ∈ ds ++ (fraction ++ power), c.toNat < 0x80 := by
  refine List.forall_mem_append.2 ⟨fun c hc => isDigit_ascii (hds.isDigit_of_mem c hc),
    List.forall_mem_append.2 ⟨?_, ?_⟩⟩
  · cases hfraction with
    | absent => exact fun c hc => absurd hc List.not_mem_nil
    | digits hne hfs =>
      exact List.forall_mem_cons.2 ⟨by decide, fun c hc => isDigit_ascii (hfs c hc)⟩
  · cases hpower with
    | absent => exact fun c hc => absurd hc List.not_mem_nil
    | digits hl sign hne hes =>
      refine List.forall_mem_cons.2 ⟨by rcases hl with rfl | rfl <;> decide,
        List.forall_mem_append.2 ⟨?_, fun c hc => isDigit_ascii (hes c hc)⟩⟩
      cases sign with
      | unsigned => exact List.forall_mem_nil _
      | plus => exact List.forall_mem_singleton.2 (by decide)
      | minus => exact List.forall_mem_singleton.2 (by decide)

theorem sign_of_body (negative : Bool) {body : List UInt8}
    (h : ∀ b ∈ body.head?, isDigitOctet b = true) (hne : body ≠ []) :
    (((minusMark negative).map octet ++ body).head? == some (octet '-')) = negative ∧
      ((minusMark negative).map octet ++ body).drop (if negative then 1 else 0) = body ∧
      body.head? ≠ some (octet 'I') := by
  cases body with
  | nil => exact absurd rfl hne
  | cons b body =>
    have hb := h b rfl
    refine ⟨?_, by cases negative <;> rfl, ?_⟩
    · cases negative with
      | true => rfl
      | false =>
        change (some b == some (octet '-')) = false
        rw [beq_eq_false_iff_ne]
        rintro ⟨⟩
        cases hb
    · rintro ⟨⟩
      cases hb

/-- A number is read up to what does not go on with it. -/
theorem number_parts (hds : WholeDigits ds)
    (hlength : (minusMark negative ++ ds).length ≤ limits.integerLength)
    (hfraction : FractionPart fs fraction) (hpower : PowerPart e power) (hr : EndsNumber r) :
    number limits index ((minusMark negative).map octet ++
        (ds.map octet ++ (fraction.map octet ++ (power.map octet ++ r)))) =
      .ok (if fraction ++ power = [] then .int (signed negative (digitsValue ds))
        else .float
          (Decimal.finite negative (digitsValue (ds ++ fs)) (e - fs.length)).toBinary64,
        (minusMark negative ++ (ds ++ (fraction ++ power))).length) := by
  obtain ⟨hends, hpoint⟩ := hpower.endsDigits hr
  have hmark : (minusMark negative).length = if negative then 1 else 0 := by
    cases negative <;> rfl
  have hne : ds ≠ [] := by cases hds <;> exact List.cons_ne_nil _ _
  have hhead : ∀ b ∈ (ds.map octet ++ (fraction.map octet ++ (power.map octet ++ r))).head?,
      isDigitOctet b = true := by
    cases hcons : ds with
    | nil => exact absurd hcons hne
    | cons d rest =>
      rintro _ ⟨⟩
      exact isDigitOctet_octet (hds.isDigit_of_mem d (hcons ▸ List.mem_cons_self))
  obtain ⟨hneg, hdrop, hword⟩ := sign_of_body negative hhead (by simp [hne])
  have hrest (bs : List UInt8) : (ds.map octet ++ bs).drop ds.length = bs :=
    List.drop_left' (List.length_map _)
  have hrest' (bs : List UInt8) : (fraction.map octet ++ bs).drop fraction.length = bs :=
    List.drop_left' (List.length_map _)
  have htake (bs : List UInt8) : (ds.map octet ++ bs).take ds.length = ds.map octet :=
    List.take_left' (List.length_map _)
  have htake' : (ds.map octet ++ (fraction.map octet ++ (power.map octet ++ r))).take
      (ds.length + fraction.length + power.length) = (ds ++ (fraction ++ power)).map octet := by
    rw [← List.append_assoc, ← List.append_assoc, ← List.map_append, ← List.map_append,
      List.append_assoc]
    exact List.take_left' (by simp only [List.length_map, List.length_append, Nat.add_assoc])
  have hascii := ascii_of_parts hds hfraction hpower
  rw [List.length_append, hmark] at hlength
  simp only [number, hneg, hdrop, if_neg hword, hds.wholeLength (hfraction.endsDigits hends),
    bind, Except.bind, if_neg (Nat.not_lt.2 hlength), hrest, hfraction.fractionLength hends hpoint,
    hrest', hpower.powerLength hr, htake, htake']
  have hwidth : (if negative then 1 else 0) + (ds.length + fraction.length + power.length) =
      (minusMark negative ++ (ds ++ (fraction ++ power))).length := by
    rw [← hmark]
    simp only [List.length_append, Nat.add_assoc]
  rw [hwidth, asciiText_octets hascii, asciiText_octets (fun c hc => hascii c (by simp [hc])),
    finite?_parts hds hfraction hpower]
  simp only [List.length_eq_zero_iff, List.append_eq_nil_iff]
  split <;> rfl

theorem SpelledNumber.ascii {v : Json} {cs : List Char} (h : SpelledNumber limits v cs) :
    ∀ c ∈ cs, c.toNat < 0x80 := by
  have hmark (negative : Bool) : ∀ c ∈ minusMark negative, c.toNat < 0x80 := by
    cases negative with
    | false => exact List.forall_mem_nil _
    | true => exact List.forall_mem_singleton.2 (by decide)
  cases h with
  | @int ds negative hds hlength =>
    exact List.forall_mem_append.2
      ⟨hmark negative, fun c hc => isDigit_ascii (hds.isDigit_of_mem c hc)⟩
  | @float ds negative fs fraction e power hds hlength hfraction hpower hne =>
    exact List.forall_mem_append.2 ⟨hmark negative, ascii_of_parts hds hfraction hpower⟩

theorem SpelledNumber.number {v : Json} {cs : List Char} (h : SpelledNumber limits v cs)
    (hr : EndsNumber r) : number limits index (octets cs ++ r) = .ok (v, cs.length) := by
  rw [octets_ascii h.ascii]
  cases h with
  | int hds hlength =>
    simpa using number_parts hds hlength .absent .absent hr
  | float hds hlength hfraction hpower hne =>
    simpa [hne] using number_parts hds hlength hfraction hpower hr

end Numbers

/-- Characters are read as one token, wherever they stand, if what follows is `r`. -/
def IsToken (limits : Limits) (cs : List Char) (t : Token) (r : List UInt8) : Prop :=
  ∃ b bs, octets cs = b :: bs ∧ isSpace b = false ∧
    ∀ index, token limits index b (bs ++ r) = (t, bs.length)

section Tokens

variable {limits : Limits} {r : List UInt8}

theorem isToken_listStart : IsToken limits ['['] .listStart r :=
  ⟨octet '[', [], rfl, rfl, fun _ => rfl⟩

theorem isToken_listEnd : IsToken limits [']'] .listEnd r :=
  ⟨octet ']', [], rfl, rfl, fun _ => rfl⟩

theorem isToken_objectStart : IsToken limits ['\x7b'] .objectStart r :=
  ⟨octet '\x7b', [], rfl, rfl, fun _ => rfl⟩

theorem isToken_objectEnd : IsToken limits ['\x7d'] .objectEnd r :=
  ⟨octet '\x7d', [], rfl, rfl, fun _ => rfl⟩

theorem isToken_comma : IsToken limits [','] .comma r := ⟨octet ',', [], rfl, rfl, fun _ => rfl⟩

theorem isToken_colon : IsToken limits [':'] .colon r := ⟨octet ':', [], rfl, rfl, fun _ => rfl⟩

theorem isToken_null : IsToken limits "null".toList (.scalar .null) r :=
  ⟨octet 'n', "ull".toList.map octet, rfl, rfl, fun _ => rfl⟩

theorem isToken_true : IsToken limits "true".toList (.scalar (.bool true)) r :=
  ⟨octet 't', "rue".toList.map octet, rfl, rfl, fun _ => rfl⟩

theorem isToken_false : IsToken limits "false".toList (.scalar (.bool false)) r :=
  ⟨octet 'f', "alse".toList.map octet, rfl, rfl, fun _ => rfl⟩

theorem SpelledText.isToken {s : String} {cs : List Char} (h : SpelledText s cs) :
    IsToken limits cs (.text s) r := by
  cases h with
  | @quoted written _ h =>
    refine ⟨octet '"', octets written ++ [octet '"'], ?_, rfl, fun index => ?_⟩
    · rw [octets_cons, octets_append]
      rfl
    · rw [List.append_assoc, List.length_append]
      exact h.textToken

theorem token_of_number {b : UInt8} {bs : List UInt8} {index : Nat}
    (hb : b = octet '-' ∨ isDigitOctet b = true) :
    token limits index b bs = scalarToken (number limits index (b :: bs)) := by
  have hnot (c : UInt8) (hc : c ≠ octet '-' ∧ isDigitOctet c = false) : (b = c) = False := by
    refine eq_false ?_
    rintro rfl
    rcases hb with hb | hb
    · exact hc.1 hb
    · rw [hc.2] at hb
      cases hb
  have hbrace (n : Nat) (hn : 0x7B ≤ n) : (b.toNat = n) = False := by
    refine eq_false ?_
    rintro rfl
    rcases hb with rfl | hb
    · exact absurd hn (by decide)
    · simp only [isDigitOctet, Bool.and_eq_true, decide_eq_true_eq] at hb
      omega
  have hstart : b = octet '-' ∨ b = octet 'I' ∨ isDigitOctet b = true := hb.imp_right .inr
  simp only [token, hnot (octet '[') (by decide), hnot (octet ']') (by decide),
    hnot (octet ',') (by decide), hnot (octet ':') (by decide), hnot (octet '"') (by decide),
    hnot (octet 'n') (by decide), hnot (octet 't') (by decide), hnot (octet 'f') (by decide),
    hnot (octet 'N') (by decide), hbrace 0x7B (by decide), hbrace 0x7D (by decide), if_false,
    if_pos hstart]

theorem isSpace_of_number {b : UInt8} (hb : b = octet '-' ∨ isDigitOctet b = true) :
    isSpace b = false := by
  rcases hb with rfl | hb
  · rfl
  · simp only [isDigitOctet, Bool.and_eq_true, decide_eq_true_eq] at hb
    have hne {n : UInt8} (hn : n.toNat < 0x30) : b ≠ n := by
      rintro rfl
      omega
    simp only [isSpace, Bool.or_eq_false_iff, beq_eq_false_iff_ne]
    exact ⟨⟨⟨hne (by decide), hne (by decide)⟩, hne (by decide)⟩, hne (by decide)⟩

theorem SpelledNumber.head {v : Json} {cs : List Char} (h : SpelledNumber limits v cs) :
    ∃ c cs', cs = c :: cs' ∧ (c = '-' ∨ isDigit c = true) := by
  have hwhole {ds : List Char} (hds : WholeDigits ds) (negative : Bool) (cs : List Char) :
      ∃ c cs', minusMark negative ++ (ds ++ cs) = c :: cs' ∧ (c = '-' ∨ isDigit c = true) := by
    cases negative with
    | true => exact ⟨'-', _, rfl, .inl rfl⟩
    | false =>
      cases hds with
      | zero => exact ⟨'0', cs, rfl, .inr rfl⟩
      | positive hd _ _ => exact ⟨_, _, rfl, .inr hd⟩
  cases h with
  | @int ds negative hds _ =>
    obtain ⟨c, cs', hcons, hc⟩ := hwhole hds negative []
    exact ⟨c, cs', by rw [← hcons, List.append_nil], hc⟩
  | float hds _ _ _ _ => exact hwhole hds _ _

theorem SpelledNumber.isToken {v : Json} {cs : List Char} (h : SpelledNumber limits v cs)
    (hr : EndsNumber r) : IsToken limits cs (.scalar v) r := by
  obtain ⟨c, cs', rfl, hc⟩ := h.head
  have hoctets := octets_ascii h.ascii
  have hb : octet c = octet '-' ∨ isDigitOctet (octet c) = true :=
    hc.imp (congrArg _) isDigitOctet_octet
  refine ⟨octet c, cs'.map octet, hoctets, isSpace_of_number hb, fun index => ?_⟩
  have hread : Json.number limits index (octets (c :: cs') ++ r) = .ok (v, (c :: cs').length) :=
    h.number hr
  rw [hoctets, List.map_cons, List.cons_append] at hread
  rw [token_of_number hb, hread, List.length_map]
  rfl

end Tokens

end StorageLedger.Json
