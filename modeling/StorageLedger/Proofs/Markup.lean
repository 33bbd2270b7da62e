import Mathlib
import StorageLedger.Console.Output
import StorageLedger.Proofs.Trimming

namespace StorageLedger.Console

theorem expandEmoji_cons {c : Char} {cs : List Char} (h : c ≠ ':') :
    expandEmoji (c :: cs) = c :: expandEmoji cs := by
  rw [expandEmoji, if_neg h]

theorem expandEmoji_colon_blank {c : Char} {cs : List Char} (h : Text.isBlank c)
    (hc : c ≠ ':') : expandEmoji (':' :: c :: cs) = ':' :: c :: expandEmoji cs := by
  have hnone : closedName? (c :: cs) = none := by rw [closedName?, if_neg hc, if_pos h]
  rw [expandEmoji, if_pos rfl]
  split
  · next hsome => cases hnone.symm.trans hsome
  · rw [expandEmoji_cons hc]

end StorageLedger.Console

namespace StorageLedger.Console.Markup
open StorageLedger.Text

/-- A character that stands for itself wherever it stands. -/
def isPlain (c : Char) : Bool := c != '\\' && c != ':' && !isHidden c

theorem unescape_cons {c : Char} (cs : List Char) (h : c ≠ '\\') :
    unescape (c :: cs) = c :: unescape cs := by
  rw [unescape]
  rintro _ rfl
  exact absurd rfl h

theorem unescape_eq_self {cs : List Char} (h : '[' ∉ cs) : unescape cs = cs := by
  induction cs with
  | nil => rfl
  | cons c r ih =>
    have hr : '[' ∉ r := fun hm => h (List.mem_cons_of_mem c hm)
    rw [unescape, ih hr]
    rintro r' rfl rfl
    exact h (by simp)

@[simp] theorem shown_nil : shown [] = [] := by
  rw [shown, unescape, expandEmoji]
  rfl

theorem shown_cons {c : Char} (cs : List Char) (h : isPlain c) :
    shown (c :: cs) = c :: shown cs := by
  simp only [isPlain, Bool.and_eq_true, bne_iff_ne, Bool.not_eq_true'] at h
  rw [shown, unescape_cons _ h.1.1, expandEmoji_cons h.1.2, List.filter_cons_of_pos (by simp [h.2])]
  rfl

theorem shown_append {lead : List Char} (cs : List Char) (h : ∀ c ∈ lead, isPlain c) :
    shown (lead ++ cs) = lead ++ shown cs := by
  induction lead with
  | nil => rfl
  | cons c lead ih =>
    obtain ⟨hc, hlead⟩ := List.forall_mem_cons.1 h
    rw [List.cons_append, shown_cons _ hc, ih hlead]
    rfl

theorem shown_of_plain {cs : List Char} (h : ∀ c ∈ cs, isPlain c) : shown cs = cs := by
  have hcs := shown_append [] h
  rwa [List.append_nil, shown_nil, List.append_nil] at hcs

theorem shown_colon_blank (cs : List Char) : shown (':' :: ' ' :: cs) = ':' :: ' ' :: shown cs := by
  rw [shown, unescape_cons _ (by decide), unescape_cons _ (by decide),
    expandEmoji_colon_blank (by decide) (by decide), List.filter_cons_of_pos (by decide),
    List.filter_cons_of_pos (by decide)]
  rfl

theorem shown_colon : shown [':'] = [':'] := by
  rw [shown, unescape_cons _ (by decide), unescape, expandEmoji, if_pos rfl]
  split
  · next h => cases h
  · rw [expandEmoji]
    rfl

theorem shown_heading {heading lead : List Char} (hheading : heading = lead ++ [':'])
    (h : ∀ c ∈ lead, isPlain c) : shown heading = heading := by
  rw [hheading, shown_append _ h, shown_colon]

theorem shown_eq_self {cs : List Char} (h : '[' ∉ cs) (hcolon : ':' ∉ cs)
    (hhidden : ∀ c ∈ cs, isHidden c = false) : shown cs = cs := by
  rw [shown, unescape_eq_self h, expandEmoji_eq_self hcolon, List.filter_eq_self]
  exact fun c hc => by simp [hhidden c hc]

theorem closedBody?_append {body : List Char} (rest : List Char) (h : '[' ∉ body)
    (h' : ']' ∉ body) : closedBody? (body ++ ']' :: rest) = some (body, rest) := by
  induction body with
  | nil => rfl
  | cons c r ih =>
    simp only [List.mem_cons, not_or] at h h'
    rw [List.cons_append, closedBody?, if_neg (Ne.symm h'.1), if_neg (Ne.symm h.1), ih h.2 h'.2]
    rfl

def IsBody (body : List Char) : Prop :=
  (∃ c r, body = c :: r ∧ startsTag c = true) ∧ '[' ∉ body ∧ ']' ∉ body

theorem IsBody.tagBody? {body : List Char} (h : IsBody body) (rest : List Char) :
    tagBody? ('[' :: (body ++ ']' :: rest)) = some (body, rest) := by
  obtain ⟨⟨c, r, rfl, hc⟩, hopen, hclose⟩ := h
  simp only [List.mem_cons, not_or] at hopen hclose
  rw [List.cons_append, Markup.tagBody?, if_pos hc,
    closedBody?_append rest hopen.2 hclose.2]
  rfl

theorem tagBody?_eq_none {cs : List Char} (h : cs.head? ≠ some '[') : tagBody? cs = none := by
  unfold tagBody?
  split
  · exact absurd rfl h
  · rfl

theorem firstTag?_append {lead : List Char} (cs : List Char) (h : '[' ∉ lead) (h' : '\\' ∉ lead) :
    firstTag? (lead ++ cs) =
      (firstTag? cs).map fun f => { f with before := lead ++ f.before } := by
  induction lead with
  | nil => simp
  | cons c r ih =>
    simp only [List.mem_cons, not_or] at h h'
    have hnone (ds : List Char) : tagBody? (c :: ds) = none :=
      tagBody?_eq_none (by simpa using Ne.symm h.1)
    rw [List.cons_append, firstTag?]
    simp [Ne.symm h'.1, hnone, ih h.2 h'.2, Function.comp_def]

theorem firstTag?_tag {body : List Char} (rest : List Char) (hbody : IsBody body) :
    firstTag? ('[' :: (body ++ ']' :: rest)) = some ⟨[], 0, body, rest⟩ := by
  rw [firstTag?]
  simp [hbody.tagBody? rest]

theorem pieces_of_tag (position : Nat) {cs : List Char} (h : firstTag? cs = some f) :
    pieces position cs = f.pieces position ++ pieces (position + f.length) f.rest := by
  rw [pieces]
  split
  · next hf =>
    obtain rfl := Option.some.inj (hf.symm.trans h)
    rfl
  · next hf => cases hf.symm.trans h

theorem pieces_of_no_tag (position : Nat) {cs : List Char} (h : firstTag? cs = none) :
    pieces position cs = [.plain cs] := by
  rw [pieces]
  split
  · next hf => cases hf.symm.trans h
  · rfl

theorem pieces_append (position : Nat) {before body : List Char} (rest : List Char)
    (h : '[' ∉ before) (h' : '\\' ∉ before) (hbody : IsBody body) :
    pieces position (before ++ '[' :: (body ++ ']' :: rest)) =
      .plain before :: .plain [] :: .tag (.ofBody body) (position + before.length) ::
        pieces (position + (before.length + body.length + 2)) rest := by
  have hfirst : firstTag? (before ++ '[' :: (body ++ ']' :: rest)) =
      some ⟨before, 0, body, rest⟩ := by
    rw [firstTag?_append _ h h', firstTag?_tag rest hbody]
    simp
  rw [pieces_of_tag position hfirst]
  simp [Find.pieces, Find.length]

theorem showPieces_plain (open_ : List Tag) (cs : List Char) (rest : List Piece) :
    showPieces open_ (.plain cs :: rest) = (showPieces open_ rest).map (shown cs ++ ·) := by
  rw [showPieces]
  cases showPieces open_ rest <;> rfl

theorem showPieces_tag {open_ open' : List Tag} {t : Tag} {position : Nat} (rest : List Piece)
    (h : nest open_ t position = .ok open') :
    showPieces open_ (.tag t position :: rest) = showPieces open' rest := by
  rw [showPieces, h]
  rfl

theorem exists_ofBody_slash (r : List Char) :
    ∃ name parameters, Tag.ofBody ('/' :: r) = ⟨'/' :: name, parameters⟩ := by
  unfold Tag.ofBody
  rw [List.span_eq_takeWhile_dropWhile, List.takeWhile_cons_of_pos (by decide)]
  split
  · next heq => exact ⟨_, _, by rw [← (Prod.mk.inj heq).1]⟩
  · next heq => exact ⟨_, _, by rw [← (Prod.mk.inj heq).1]⟩

theorem checkStyle_slash (r : List Char) : (Tag.ofBody ('/' :: r)).checkStyle = .ok () := by
  obtain ⟨name, parameters, h⟩ := exists_ofBody_slash r
  rw [h]
  rfl

/-- A name that opens a style and, behind a slash, closes it. -/
structure IsStyle (style : List Char) : Prop where
  body : IsBody style
  closingBody : IsBody ('/' :: style)
  opens : ∀ position, nest [] (.ofBody style) position = .ok [⟨style, none⟩]
  closes : ∀ position, nest [⟨style, none⟩] (.ofBody ('/' :: style)) position = .ok []
  readable : (Tag.ofBody style).checkStyle = .ok ()

theorem exists_read_of_normalize {cs written : List Char} (h : Style.normalize cs = .ok written) :
    ∃ s, Style.read cs = .ok s := by
  unfold Style.normalize at h
  cases hread : Style.read cs with
  | error e =>
    rw [hread] at h
    cases h
  | ok s => exact ⟨s, rfl⟩

theorem ofBody_of_no_equals {body : List Char} (h : '=' ∉ body) :
    Tag.ofBody body = ⟨body, none⟩ := by
  have hne : ∀ c ∈ body, decide (c ≠ '=') = true := by
    intro c hc
    simp only [decide_eq_true_eq]
    rintro rfl
    exact h hc
  have hspan : body.span (· ≠ '=') = (body, []) := by
    rw [List.span_eq_takeWhile_dropWhile, List.takeWhile_eq_self_iff.2 hne,
      List.dropWhile_eq_nil_iff.2 hne]
  rw [Tag.ofBody, hspan]

/-- A word of small letters that is the written form of a style opens and closes it. -/
theorem IsStyle.of_letters {style : List Char} (hne : style ≠ [])
    (hletters : ∀ d ∈ style, 0x61 ≤ d.toNat ∧ d.toNat ≤ 0x7A)
    (hnormal : Style.normalize style = .ok style) : IsStyle style := by
  obtain ⟨c, r, rfl⟩ := List.exists_cons_of_ne_nil hne
  have hmem {d : Char} (hd : ¬ (0x61 ≤ d.toNat ∧ d.toNat ≤ 0x7A)) : d ∉ c :: r :=
    fun hm => hd (hletters d hm)
  have hblank : ∀ d ∈ c :: r, isBlank d = false := by
    intro d hd
    have := hletters d hd
    simp [isBlank, isWhite]
    omega
  have hc := hletters c List.mem_cons_self
  have hbody : IsBody (c :: r) := by
    refine ⟨⟨c, r, rfl, ?_⟩, hmem (by decide), hmem (by decide)⟩
    simp [startsTag, hc]
  have hslash : c ≠ '/' := fun h => hmem (d := '/') (by decide) (h ▸ List.mem_cons_self)
  refine ⟨hbody, ?_, ?_, ?_, ?_⟩
  · refine ⟨⟨'/', c :: r, rfl, rfl⟩, ?_, ?_⟩
    · exact List.not_mem_cons_of_ne_of_not_mem (by decide) hbody.2.1
    · exact List.not_mem_cons_of_ne_of_not_mem (by decide) hbody.2.2
  · intro position
    rw [ofBody_of_no_equals (hmem (by decide))]
    unfold nest
    split
    · next h => exact absurd (List.cons.inj h).1 hslash
    · rw [hnormal]
      rfl
  · intro position
    rw [ofBody_of_no_equals (List.not_mem_cons_of_ne_of_not_mem (by decide) (hmem (by decide)))]
    simp only [nest, trim_eq_self hblank, hnormal]
    simp [Except.mapError, bind, Except.bind, Tag.check, Except.map]
  · obtain ⟨s, hread⟩ := exists_read_of_normalize hnormal
    rw [ofBody_of_no_equals (hmem (by decide))]
    unfold Tag.checkStyle
    split
    · next h => exact absurd (List.cons.inj h).1 hslash
    · simp [Tag.style, hnormal, hread, Except.mapError, bind, Except.bind, Except.map, pure,
        Except.pure]

theorem isStyle_red : IsStyle "red".toList :=
  .of_letters (by decide) (by simp) (by decide +kernel)

theorem isStyle_green : IsStyle "green".toList :=
  .of_letters (by decide) (by simp) (by decide +kernel)

theorem isStyle_yellow : IsStyle "yellow".toList :=
  .of_letters (by decide) (by simp) (by decide +kernel)

def styled (style head tail : List Char) : List Char :=
  '[' :: (style ++ ']' :: (head ++ '[' :: ('/' :: style ++ ']' :: tail)))

/-- A text in a style is shown without its tags. -/
theorem showPieces_styled (position : Nat) {before style head : List Char} (tail : List Char)
    (hstyle : IsStyle style) (hb : '[' ∉ before) (hb' : '\\' ∉ before) (h : '[' ∉ head)
    (h' : '\\' ∉ head) :
    ∃ position', showPieces [] (pieces position (before ++ styled style head tail)) =
        (showPieces [] (pieces position' tail)).map (shown before ++ shown head ++ ·) ∧
      checkStyles (pieces position (before ++ styled style head tail)) =
        checkStyles (pieces position' tail) := by
  have hopen := pieces_append position (head ++ '[' :: ('/' :: style ++ ']' :: tail)) hb hb'
    hstyle.body
  have hclose (start : Nat) := pieces_append start tail h h' hstyle.closingBody
  refine ⟨position + (before.length + style.length + 2) +
    (head.length + ('/' :: style).length + 2), ?_, ?_⟩
  · rw [styled, hopen, hclose, showPieces_plain, showPieces_plain,
      showPieces_tag _ (hstyle.opens _), showPieces_plain, showPieces_plain,
      showPieces_tag _ (hstyle.closes _)]
    cases showPieces [] (pieces _ tail) <;> simp [Except.map]
  · rw [styled, hopen, hclose]
    simp only [checkStyles, hstyle.readable, checkStyle_slash]
    rfl

theorem showStyled_eq_map {ps qs : List Piece} {g : List Char → List Char}
    (h : showPieces [] ps = (showPieces [] qs).map g) (hstyles : checkStyles ps = checkStyles qs) :
    showStyled ps = (showStyled qs).map g := by
  rw [showStyled, showStyled, h, hstyles]
  cases showPieces [] qs with
  | error fault => rfl
  | ok cs => cases checkStyles qs <;> rfl

theorem showStyled_styled (position : Nat) {before style head : List Char} (tail : List Char)
    (hstyle : IsStyle style) (hb : '[' ∉ before) (hb' : '\\' ∉ before) (h : '[' ∉ head)
    (h' : '\\' ∉ head) :
    ∃ position', showStyled (pieces position (before ++ styled style head tail)) =
      (showStyled (pieces position' tail)).map (shown before ++ shown head ++ ·) := by
  obtain ⟨position', hshow, hstyles⟩ := showPieces_styled position tail hstyle hb hb' h h'
  exact ⟨position', showStyled_eq_map hshow hstyles⟩

theorem showStyled_of_no_tag (position : Nat) {cs : List Char} (h : firstTag? cs = none) :
    showStyled (pieces position cs) = .ok (shown cs) := by
  simp [pieces_of_no_tag position h, showStyled, showPieces, checkStyles, bind, Except.bind, pure,
    Except.pure]

theorem render_styled {style head tail : List Char} (hstyle : IsStyle style) (h : '[' ∉ head)
    (h' : '\\' ∉ head) (htail : firstTag? tail = none) :
    render (styled style head tail) = .ok (shown head ++ shown tail) := by
  obtain ⟨position, hshow⟩ := showStyled_styled 0 tail hstyle List.not_mem_nil List.not_mem_nil h h'
  rw [List.nil_append] at hshow
  rw [render, hshow, showStyled_of_no_tag _ htail]
  simp [Except.map]

theorem render_styled_styled {style head between style' head' tail : List Char}
    (hstyle : IsStyle style) (hstyle' : IsStyle style') (h : ∀ c ∈ head, c ≠ '[' ∧ c ≠ '\\')
    (hbetween : ∀ c ∈ between, c ≠ '[' ∧ c ≠ '\\') (h' : ∀ c ∈ head', c ≠ '[' ∧ c ≠ '\\')
    (htail : firstTag? tail = none) :
    render (styled style head (between ++ styled style' head' tail)) =
      .ok (shown head ++ (shown between ++ (shown head' ++ shown tail))) := by
  have hout {cs : List Char} (h : ∀ c ∈ cs, c ≠ '[' ∧ c ≠ '\\') : '[' ∉ cs ∧ '\\' ∉ cs :=
    ⟨fun hc => (h _ hc).1 rfl, fun hc => (h _ hc).2 rfl⟩
  obtain ⟨position, hfirst⟩ := showStyled_styled 0 (between ++ styled style' head' tail) hstyle
    List.not_mem_nil List.not_mem_nil (hout h).1 (hout h).2
  obtain ⟨position', hsecond⟩ := showStyled_styled position tail hstyle' (hout hbetween).1
    (hout hbetween).2 (hout h').1 (hout h').2
  rw [List.nil_append] at hfirst
  rw [render, hfirst, hsecond, showStyled_of_no_tag _ htail]
  simp [Except.map]

theorem toOption_map {α β ε : Type} (g : α → β) (x : Except ε α) :
    (x.map g).toOption = x.toOption.map g := by
  cases x <;> rfl

theorem toOption_bind {α β ε : Type} (g : α → Except ε β) (x : Except ε α) :
    (x >>= g).toOption = x.toOption.bind fun a => (g a).toOption := by
  cases x <;> rfl

theorem toOption_nest (open_ : List Tag) (t : Tag) (position position' : Nat) :
    (nest open_ t position).toOption = (nest open_ t position').toOption := by
  unfold nest
  split
  · split
    · rfl
    · rfl
    · rw [toOption_bind, toOption_bind]
      congr 1
      funext name
      split <;> rfl
  · rfl

/-- What is shown behind some text is the same wherever it stands, as long as the rest behind its
first tag is. -/
theorem toOption_showPieces_find (f : Find) {lead lead' : List Char}
    (hshown : ∀ cs, shown (lead ++ cs) = lead' ++ shown cs)
    (hrest : ∀ open_ position position', (showPieces open_ (pieces position f.rest)).toOption =
      (showPieces open_ (pieces position' f.rest)).toOption)
    (open_ : List Tag) (p p' q q' : Nat) :
    (showPieces open_ (Find.pieces { f with before := lead ++ f.before } p ++
        pieces p' f.rest)).toOption =
      (showPieces open_ (f.pieces q ++ pieces q' f.rest)).toOption.map (lead' ++ ·) := by
  simp only [Find.pieces, List.cons_append, List.nil_append, showPieces_plain, hshown,
    toOption_map, Option.map_map]
  split
  · simp only [showPieces_plain, toOption_map, Option.map_map]
    rw [hrest open_ p' q']
    simp [Function.comp_def]
  · rw [showPieces, showPieces, toOption_bind, toOption_bind]
    rw [toOption_nest open_ _ _ (q + f.before.length + 2 * (f.backslashes / 2))]
    simp only [hrest _ p' q']
    simp [Function.comp_def]

theorem toOption_showPieces (open_ : List Tag) (position position' : Nat) (cs : List Char) :
    (showPieces open_ (pieces position cs)).toOption =
      (showPieces open_ (pieces position' cs)).toOption := by
  induction position, cs using pieces.induct generalizing open_ position' with
  | case1 position cs f hf _ ih =>
    have hshown : ∀ cs, shown ([] ++ cs) = [] ++ shown cs := fun _ => rfl
    have h := toOption_showPieces_find f hshown
      (fun open_ position position' => (ih open_ position).symm.trans (ih open_ position'))
      open_ position (position + f.length) position' (position' + f.length)
    rw [pieces_of_tag _ hf, pieces_of_tag _ hf]
    simpa using h
  | case2 position cs hf => rw [pieces_of_no_tag _ hf, pieces_of_no_tag _ hf]

theorem checkStyles_find (f : Find) (position : Nat) (ps : List Piece) :
    checkStyles (f.pieces position ++ ps) =
      if f.backslashes % 2 = 1 then checkStyles ps
      else (Tag.ofBody f.body).checkStyle >>= fun _ => checkStyles ps := by
  rw [Find.pieces]
  split <;> rfl

theorem checkStyles_pieces (position position' : Nat) (cs : List Char) :
    checkStyles (pieces position cs) = checkStyles (pieces position' cs) := by
  induction position, cs using pieces.induct generalizing position' with
  | case1 position cs f hf _ ih =>
    rw [pieces_of_tag _ hf, pieces_of_tag _ hf, checkStyles_find, checkStyles_find,
      ih (position' + f.length)]
  | case2 position cs hf => rw [pieces_of_no_tag _ hf, pieces_of_no_tag _ hf]

theorem checkStyles_append {lead : List Char} (h : '[' ∉ lead) (h' : '\\' ∉ lead)
    (position position' : Nat) (cs : List Char) :
    checkStyles (pieces position (lead ++ cs)) = checkStyles (pieces position' cs) := by
  have hfirst := firstTag?_append cs h h'
  cases hf : firstTag? cs with
  | none =>
    rw [hf] at hfirst
    rw [pieces_of_no_tag _ hf, pieces_of_no_tag _ hfirst]
    rfl
  | some f =>
    rw [hf] at hfirst
    rw [pieces_of_tag _ hf, pieces_of_tag _ hfirst, checkStyles_find, checkStyles_find]
    simp only [checkStyles_pieces _ (position' + f.length) f.rest]

theorem toOption_showStyled (ps : List Piece) :
    (showStyled ps).toOption =
      (showPieces [] ps).toOption.bind fun cs => (checkStyles ps).toOption.map fun _ => cs := by
  rw [showStyled, toOption_bind]
  congr 1
  funext cs
  cases checkStyles ps <;> rfl

/-- Text in front of a text that starts no tag and no name of an emoji is shown in front of it. -/
theorem toOption_showStyled_append {lead lead' : List Char} (h : '[' ∉ lead) (h' : '\\' ∉ lead)
    (hshown : ∀ cs, shown (lead ++ cs) = lead' ++ shown cs) (position : Nat) (cs : List Char) :
    (showStyled (pieces position (lead ++ cs))).toOption =
      (render cs).toOption.map (lead' ++ ·) := by
  have hshow : (showPieces [] (pieces position (lead ++ cs))).toOption =
      (showPieces [] (pieces 0 cs)).toOption.map (lead' ++ ·) := by
    have hfirst := firstTag?_append cs h h'
    cases hf : firstTag? cs with
    | none =>
      rw [hf] at hfirst
      rw [pieces_of_no_tag _ hf, pieces_of_no_tag _ hfirst, showPieces_plain, showPieces_plain,
        toOption_map, toOption_map, hshown]
      simp [Function.comp_def]
    | some f =>
      rw [hf] at hfirst
      rw [pieces_of_tag _ hf, pieces_of_tag _ hfirst]
      exact toOption_showPieces_find f hshown
        (fun open_ position position' => toOption_showPieces open_ position position' f.rest)
        [] _ _ _ _
  rw [render, toOption_showStyled, toOption_showStyled, hshow, checkStyles_append h h' position 0]
  cases (showPieces [] (pieces 0 cs)).toOption with
  | none => rfl
  | some cs => simp [Function.comp_def]

end StorageLedger.Console.Markup
