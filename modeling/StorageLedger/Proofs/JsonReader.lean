import StorageLedger.Json.Reader
import StorageLedger.Proofs.JsonToken

namespace StorageLedger.Json
open StorageLedger.Text

variable {limits : Limits} {s s' s'' : State} {bs bs' r : List UInt8}

/-- Reading goes on from a state in front of some octets in another state in front of others. The
index matters to faults only. -/
def Leads (limits : Limits) (s : State) (bs : List UInt8) (s' : State) (bs' : List UInt8) : Prop :=
  ∀ index, ∃ index', readFrom limits s index bs = readFrom limits s' index' bs'

theorem Leads.trans {bs'' : List UInt8} (h : Leads limits s bs s' bs')
    (h' : Leads limits s' bs' s'' bs'') : Leads limits s bs s'' bs'' := by
  intro index
  obtain ⟨index', hread⟩ := h index
  obtain ⟨index'', hread'⟩ := h' index'
  exact ⟨index'', hread.trans hread'⟩

theorem leads_gap {gap : List Char} (h : IsGap gap) : Leads limits s (octets gap ++ r) s r := by
  induction gap with
  | nil => exact fun index => ⟨index, rfl⟩
  | cons c gap ih =>
    obtain ⟨hc, hgap⟩ := List.forall_mem_cons.1 h
    have hspace : ∃ b, String.utf8EncodeChar c = [b] ∧ isSpace b = true := by
      simp only [List.mem_cons, List.not_mem_nil, or_false] at hc
      rcases hc with rfl | rfl | rfl | rfl <;> exact ⟨_, rfl, rfl⟩
    obtain ⟨b, hoctets, hb⟩ := hspace
    have hskip : Leads limits s (octets (c :: gap) ++ r) s (octets gap ++ r) := by
      intro index
      refine ⟨index + 1, ?_⟩
      rw [octets_cons, hoctets, List.append_assoc, List.singleton_append, readFrom, if_pos hb]
    exact hskip.trans (ih hgap)

theorem IsToken.leads {cs : List Char} {t : Token} (h : IsToken limits cs t r)
    (hstep : ∀ index, s.step limits index t = .ok s') :
    Leads limits s (octets cs ++ r) s' r := by
  obtain ⟨b, bs, hoctets, hspace, htoken⟩ := h
  intro index
  refine ⟨index + 1 + bs.length, ?_⟩
  rw [hoctets, List.cons_append, readFrom, if_neg (by simp [hspace])]
  simp only [htoken, hstep, List.drop_left]

def Mode.TakesValue : Mode → Prop
  | .value => True
  | .firstItem => True
  | .item => True
  | _ => False

def Mode.TakesName : Mode → Prop
  | .firstName => True
  | .name => True
  | _ => False

section Steps

variable {frames : List Frame} {mode : Mode} {index : Nat} {t : Token}

theorem step_takesValue (hmode : mode.TakesValue) (ht : t ≠ .listEnd) :
    State.step limits index ⟨frames, mode⟩ t = State.takeValue limits index frames t := by
  cases mode with
  | value => rfl
  | firstItem =>
    cases t with
    | listEnd => exact absurd rfl ht
    | _ => rfl
  | item =>
    cases t with
    | listEnd => exact absurd rfl ht
    | _ => rfl
  | _ => exact hmode.elim

theorem step_takesName {read : List (String × Json)} {name name' : String}
    (hmode : mode.TakesName) :
    State.step limits index ⟨.object read name :: frames, mode⟩ (.text name') =
      .ok ⟨.object read name' :: frames, .colon⟩ := by
  cases mode with
  | firstName => rfl
  | name => rfl
  | _ => exact hmode.elim

end Steps

/-- How a part is read. A value is delivered to what is open around; items and members are read up
to the end of their list or object, behind those read before. -/
def Part.Reads (limits : Limits) (d : Nat) (cs : List Char) : Part → Prop
  | .value v => ∀ frames mode r, frames.length = d → mode.TakesValue → EndsNumber r →
      Leads limits ⟨frames, mode⟩ (octets cs ++ r) (.deliver v frames) r
  | .items vs => ∀ read outer mode r, outer.length + 1 = d → mode.TakesValue →
      Leads limits ⟨.list read :: outer, mode⟩ (octets (cs ++ [']']) ++ r)
        (.deliver (.list (read.reverse ++ vs)) outer) r
  | .members ms => ∀ read name outer mode r, outer.length + 1 = d → mode.TakesName →
      Leads limits ⟨.object read name :: outer, mode⟩ (octets (cs ++ ['\x7d']) ++ r)
        (.deliver (.object (read.reverse ++ ms)) outer) r

theorem octets_cons_append (c : Char) (cs : List Char) (r : List UInt8) :
    octets (c :: cs) ++ r = octets [c] ++ (octets cs ++ r) := by
  rw [← List.append_assoc, ← octets_append, List.singleton_append]

theorem Part.reads_of_token {d : Nat} {cs : List Char} {v : Json} {t : Token}
    (hd : d ≤ limits.depth) (ht : t = .scalar v ∨ ∃ s, t = .text s ∧ v = .text s)
    (htoken : ∀ r, EndsNumber r → IsToken limits cs t r) : (Part.value v).Reads limits d cs := by
  intro frames mode r hframes hmode hr
  have hdepth : ¬ limits.depth < frames.length := by omega
  refine (htoken r hr).leads fun index => ?_
  rcases ht with rfl | ⟨s, rfl, rfl⟩
  · exact (step_takesValue hmode (by nofun)).trans (if_neg hdepth)
  · exact (step_takesValue hmode (by nofun)).trans (if_neg hdepth)

theorem leads_listStart {cs : List Char} {frames : List Frame} {mode : Mode}
    (hd : frames.length ≤ limits.depth) (hmode : mode.TakesValue) :
    Leads limits ⟨frames, mode⟩ (octets ('[' :: cs) ++ r) ⟨.list [] :: frames, .firstItem⟩
      (octets cs ++ r) := by
  rw [octets_cons_append]
  exact isToken_listStart.leads fun index =>
    (step_takesValue hmode (by nofun)).trans (if_neg (Nat.not_lt.2 hd))

theorem leads_objectStart {cs : List Char} {frames : List Frame} {mode : Mode}
    (hd : frames.length ≤ limits.depth) (hmode : mode.TakesValue) :
    Leads limits ⟨frames, mode⟩ (octets ('\x7b' :: cs) ++ r) ⟨.object [] "" :: frames, .firstName⟩
      (octets cs ++ r) := by
  rw [octets_cons_append]
  exact isToken_objectStart.leads fun index =>
    (step_takesValue hmode (by nofun)).trans (if_neg (Nat.not_lt.2 hd))

theorem leads_name {lead written tail cs : List Char} {read : List (String × Json)}
    {name name' : String} {outer : List Frame} {mode : Mode} (hlead : IsGap lead)
    (hname : SpelledText name' written) (htail : IsGap tail) (hmode : mode.TakesName) :
    Leads limits ⟨.object read name :: outer, mode⟩
      (octets (lead ++ (written ++ (tail ++ ':' :: cs))) ++ r)
      ⟨.object read name' :: outer, .value⟩ (octets cs ++ r) := by
  rw [octets_append, octets_append, octets_append, List.append_assoc, List.append_assoc,
    List.append_assoc, octets_cons_append]
  refine (leads_gap hlead).trans ?_
  refine Leads.trans (hname.isToken.leads fun index => step_takesName hmode) ?_
  exact (leads_gap htail).trans (isToken_colon.leads fun index => rfl)

theorem endsNumber_octets {c : Char} {cs : List Char}
    (hc : c ∈ [' ', '\t', '\n', '\r', ',', ']', '\x7d']) : EndsNumber (octets (c :: cs) ++ r) := by
  simp only [List.mem_cons, List.not_mem_nil, or_false] at hc
  rcases hc with rfl | rfl | rfl | rfl | rfl | rfl | rfl <;>
  · rintro _ ⟨⟩
    decide

theorem Spelled.reads {part : Part} {d : Nat} {cs : List Char} (h : Spelled limits d part cs) :
    part.Reads limits d cs := by
  induction h with
  | nullWord hd => exact Part.reads_of_token hd (.inl rfl) fun r _ => isToken_null
  | trueWord hd => exact Part.reads_of_token hd (.inl rfl) fun r _ => isToken_true
  | falseWord hd => exact Part.reads_of_token hd (.inl rfl) fun r _ => isToken_false
  | number hd h => exact Part.reads_of_token hd (.inl rfl) fun r hr => h.isToken hr
  | text hd h => exact Part.reads_of_token hd (.inr ⟨_, rfl, rfl⟩) fun r _ => h.isToken
  | emptyList hd hgap =>
    intro frames mode r hframes hmode _
    refine (leads_listStart (hframes ▸ hd) hmode).trans ?_
    rw [octets_append, List.append_assoc]
    exact (leads_gap hgap).trans (isToken_listEnd.leads fun index => rfl)
  | list hd h ih =>
    intro frames mode r hframes hmode _
    refine (leads_listStart (hframes ▸ hd) hmode).trans ?_
    exact ih [] frames .firstItem r (congrArg (· + 1) hframes) trivial
  | emptyObject hd hgap =>
    intro frames mode r hframes hmode _
    refine (leads_objectStart (hframes ▸ hd) hmode).trans ?_
    rw [octets_append, List.append_assoc]
    exact (leads_gap hgap).trans (isToken_objectEnd.leads fun index => rfl)
  | object hd h ih =>
    intro frames mode r hframes hmode _
    refine (leads_objectStart (hframes ▸ hd) hmode).trans ?_
    exact ih [] "" frames .firstName r (congrArg (· + 1) hframes) trivial
  | @between lead d v cs tail hlead h htail ih =>
    intro frames mode r hframes hmode hr
    have hends : EndsNumber (octets tail ++ r) := by
      cases tail with
      | nil => exact hr
      | cons c tail => exact endsNumber_octets (List.mem_append_left _ (htail c List.mem_cons_self))
    rw [octets_append, octets_append, List.append_assoc, List.append_assoc]
    exact ((leads_gap hlead).trans (ih frames mode _ hframes hmode hends)).trans (leads_gap htail)
  | item h ih =>
    intro read outer mode r houter hmode
    rw [octets_append, List.append_assoc, ← List.reverse_cons]
    refine (ih (.list read :: outer) mode _ houter hmode (endsNumber_octets (by decide))).trans ?_
    exact isToken_listEnd.leads fun index => rfl
  | @items d v cs vs cs' h rest ih ihrest =>
    intro read outer mode r houter hmode
    rw [List.append_assoc, octets_append, List.append_assoc]
    refine (ih (.list read :: outer) mode _ houter hmode (endsNumber_octets (by decide))).trans ?_
    change Leads limits _ (octets (',' :: (cs' ++ [']'])) ++ r) _ r
    rw [octets_cons_append]
    have hrest := ihrest (v :: read) outer .item r houter trivial
    rw [List.reverse_cons, List.append_assoc] at hrest
    exact Leads.trans (isToken_comma.leads fun index => rfl) hrest
  | @member lead name written tail d v cs hlead hname htail h ih =>
    intro read name' outer mode r houter hmode
    simp only [List.append_assoc, List.cons_append]
    refine (leads_name hlead hname htail hmode).trans ?_
    rw [octets_append, List.append_assoc, ← List.reverse_cons]
    refine (ih (.object read name :: outer) .value _ houter trivial
      (endsNumber_octets (by decide))).trans ?_
    exact isToken_objectEnd.leads fun index => rfl
  | @members lead name written tail d v cs ms cs' hlead hname htail h rest ih ihrest =>
    intro read name' outer mode r houter hmode
    simp only [List.append_assoc, List.cons_append]
    refine (leads_name hlead hname htail hmode).trans ?_
    rw [octets_append, List.append_assoc]
    refine (ih (.object read name :: outer) .value _ houter trivial
      (endsNumber_octets (by decide))).trans ?_
    rw [octets_cons_append]
    have hrest := ihrest ((name, v) :: read) name outer .name r houter trivial
    rw [List.reverse_cons, List.append_assoc] at hrest
    exact Leads.trans (isToken_comma.leads fun index => rfl) hrest

/-- A text of a value is read as that value. -/
theorem read_of_isText {v : Json} {cs : List Char} (h : IsText limits v cs) :
    read limits (octets cs) = .ok v := by
  have hread := h.reads [] .value [] rfl trivial (by rintro _ ⟨⟩)
  obtain ⟨index, hindex⟩ := hread 0
  rw [List.append_nil] at hindex
  rw [read, State.start, hindex, readFrom]
  rfl

end StorageLedger.Json
