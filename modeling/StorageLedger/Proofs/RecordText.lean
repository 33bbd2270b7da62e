import StorageLedger.Proofs.JsonToken
import StorageLedger.Proofs.TimestampText
import StorageLedger.Proofs.Validation
import StorageLedger.Proofs.WorkspaceSpelling
import StorageLedger.Record

namespace StorageLedger
open StorageLedger.Validation StorageLedger.Calendar StorageLedger.Text

def Record.answerTime : Option Timestamp → Value
  | some t => .text (String.ofList t.text)
  | none => .null

/-- A record as it is written out: the workspace and the time as texts, the size as an integer. -/
def Record.answer (r : Record) : Value :=
  .object [("workspace_id", .text r.workspaceId.toString), ("file_id", .text r.fileId),
    ("file_type", .text r.fileType), ("file_size", .int r.fileSize),
    ("modified_at", answerTime r.modifiedAt)]

namespace Validation

variable {v : Value} {t : Timestamp}

theorem timestamp_eq_ok_iff :
    timestamp v = .ok t ↔ anyTimestamp v = .ok t ∧ t.date.year ≠ 0 := by
  unfold timestamp
  cases anyTimestamp v with
  | error complaint => exact iff_of_false nofun nofun
  | ok t' =>
    simp only [bind, Except.bind, Except.ok.injEq]
    constructor
    · intro h
      split at h
      · cases h
      · next hyear =>
        cases h
        exact ⟨rfl, hyear⟩
    · rintro ⟨rfl, hyear⟩
      rw [if_neg hyear]

theorem mapError_eq_ok {ε ε' : Type} {f : ε → ε'} {x : Except ε α} {a : α} :
    x.mapError f = .ok a ↔ x = .ok a := by
  cases x <;> simp [Except.mapError]

theorem timestampOfFloat_inMinutes {x : Number.Binary64} (h : timestampOfFloat x = .ok t) :
    t.InMinutes := by
  unfold timestampOfFloat at h
  split at h
  · next result hx =>
    rw [mapError_eq_ok.1 h] at hx
    exact .of_float hx
  · cases h

/-- Only a timestamp that is given as such can have an offset with seconds. -/
theorem anyTimestamp_inMinutes (h : anyTimestamp v = .ok t)
    (hv : ∀ u, v = .timestamp u → u.InMinutes) : t.InMinutes := by
  unfold anyTimestamp at h
  split at h
  · next u =>
    rw [← Except.ok.inj h]
    exact hv u rfl
  · next d =>
    rw [← Except.ok.inj h]
    exact .of_date d
  · exact .of_text (mapError_eq_ok.1 h)
  · exact .of_text (mapError_eq_ok.1 h)
  · exact .of_count (mapError_eq_ok.1 h)
  · exact timestampOfFloat_inMinutes h
  · cases h
  · exact timestampOfFloat_inMinutes h
  · cases h

theorem optionalTimestamp_eq_some (h : optionalTimestamp v = .ok (some t)) :
    timestamp v = .ok t := by
  unfold optionalTimestamp at h
  split at h
  · cases h
  · cases ht : timestamp v with
    | error complaint =>
      rw [ht] at h
      cases h
    | ok u =>
      rw [ht] at h
      cases h
      rfl

theorem required_member {read : Value → Except Complaint α} {a : α} {name : String}
    {ms : List (String × Value)} (h : Value.member? name ms = some v) (hv : read v = .ok a) :
    required read name ms = .ok a := by
  rw [required, h]
  exact mapError_eq_ok.2 hv

theorem optional_member {read : Value → Except Complaint α} {absent a : α} {name : String}
    {ms : List (String × Value)} (h : Value.member? name ms = some v) (hv : read v = .ok a) :
    optional read absent name ms = .ok a := by
  rw [optional, h]
  exact mapError_eq_ok.2 hv

theorem optional_ok {read : Value → Except Complaint α} {absent a : α} {name : String}
    {ms : List (String × Value)} (h : optional read absent name ms = .ok a) :
    (∃ v, Value.member? name ms = some v ∧ read v = .ok a) ∨ a = absent := by
  unfold optional at h
  split at h
  · next v hv => exact .inl ⟨v, hv, mapError_eq_ok.1 h⟩
  · exact .inr (Except.ok.inj h).symm

theorem timestamp_text (hyear : t.date.year ≠ 0) (h : t.InMinutes) :
    timestamp (.text (String.ofList t.text)) = .ok t := by
  have hoctets : timestampOctets (stringOctets (String.ofList t.text)) = t.text := by
    rw [stringOctets, String.toList_ofList, Json.octets_ascii t.ascii_text]
    exact Json.asciiText_octets t.ascii_text
  refine timestamp_eq_ok_iff.2 ⟨?_, hyear⟩
  rw [anyTimestamp, hoctets, Timestamp.ofText_text h]
  rfl

theorem workspaceId_text (id : WorkspaceId) : workspaceId (.text id.toString) = .ok id := by
  rw [workspaceId, WorkspaceId.toString, String.toList_ofList, WorkspaceId.ofText_text]
  rfl

end Validation

namespace Record

variable {r : Record} {ms : List (String × Value)}

theorem ofMembers_fields (h : ofMembers ms = .ok r) :
    (∃ v, size v = .ok r.fileSize) ∧
      ∀ t ∈ r.modifiedAt, ∃ v, Value.member? "modified_at" ms = some v ∧ timestamp v = .ok t := by
  unfold ofMembers at h
  generalize hfields : both (required Validation.workspaceId "workspace_id" ms) _ = fields at h
  cases fields with
  | error issues => cases h
  | ok fields =>
    obtain ⟨workspaceId, fileId, fileType, fileSize, modifiedAt⟩ := fields
    cases h
    obtain ⟨-, hrest⟩ := both_ok hfields
    obtain ⟨-, hrest⟩ := both_ok hrest
    obtain ⟨-, hrest⟩ := both_ok hrest
    obtain ⟨hsize, htime⟩ := both_ok hrest
    refine ⟨required_ok hsize, ?_⟩
    rintro t ⟨⟩
    rcases optional_ok htime with ⟨v, hv, hread⟩ | hnone
    · exact ⟨v, hv, optionalTimestamp_eq_some hread⟩
    · cases hnone

theorem ofValue_eq_ok_iff {v : Value} :
    ofValue v = .ok r ↔ ∃ ms, v = .object ms ∧ ofMembers ms = .ok r := by
  rw [ofValue, mapError_eq_ok]
  constructor
  · intro h
    cases v with
    | object ms => exact ⟨ms, rfl, h⟩
    | _ => cases h
  · rintro ⟨ms, rfl, h⟩
    exact h

theorem optionalTimestamp_answerTime {t? : Option Timestamp}
    (h : ∀ t ∈ t?, t.date.year ≠ 0 ∧ t.InMinutes) : optionalTimestamp (answerTime t?) = .ok t? := by
  cases t? with
  | none => rfl
  | some t =>
    obtain ⟨hyear, hminutes⟩ := h t rfl
    change (timestamp (.text (String.ofList t.text))).map some = .ok (some t)
    rw [timestamp_text hyear hminutes]
    rfl

theorem ofValue_answer (hsize : 0 ≤ r.fileSize ∧ r.fileSize ≤ maxSize)
    (htime : ∀ t ∈ r.modifiedAt, t.date.year ≠ 0 ∧ t.InMinutes) : ofValue r.answer = .ok r := by
  have hfileId : text (.text r.fileId) = .ok r.fileId := rfl
  have hfileType : text (.text r.fileType) = .ok r.fileType := rfl
  refine ofValue_eq_ok_iff.2 ⟨_, rfl, ?_⟩
  rw [ofMembers, required_member (by simp [Value.member?]) (workspaceId_text r.workspaceId),
    required_member (by simp [Value.member?]) hfileId,
    required_member (by simp [Value.member?]) hfileType,
    required_member (by simp [Value.member?]) (size_of_bounds hsize.1 hsize.2),
    optional_member (by simp [Value.member?]) (optionalTimestamp_answerTime htime)]
  rfl

/-- Records survive being written out and read back. What is accepted in whatever form is accepted
again as it is written out, and gives the same record, so it is written out the same again. A time
that is given as such must not be offset by a part of a minute, as texts have no seconds there. -/
theorem answer_reads_back {v : Value} (h : ofValue v = .ok r)
    (hoffset : ∀ ms t, v = .object ms → Value.member? "modified_at" ms = some (.timestamp t) →
      t.InMinutes) : ofValue r.answer = .ok r := by
  obtain ⟨ms, rfl, hms⟩ := ofValue_eq_ok_iff.1 h
  obtain ⟨⟨size, hsize⟩, htime⟩ := ofMembers_fields hms
  refine ofValue_answer (size_bounds hsize) fun t ht => ?_
  obtain ⟨given, hgiven, hread⟩ := htime t ht
  obtain ⟨hread, hyear⟩ := timestamp_eq_ok_iff.1 hread
  refine ⟨hyear, anyTimestamp_inMinutes hread ?_⟩
  rintro u rfl
  exact hoffset ms u rfl hgiven

def halfSecondBefore : Timestamp where
  date := ⟨1969, 12, 31, by decide, by decide, by decide⟩
  clock := ⟨23, 59, 59, 500000, by decide, by decide, by decide, by decide⟩
  offset := some ⟨-19800, by decide⟩

def givenWithTime : Value :=
  .object [("workspace_id", .text "urn:uuid:0000000A-0000-0000-0000-000000000000"),
    ("file_id", .text "a"), ("file_type", .text "b"), ("file_size", .text " 12.0"),
    ("modified_at", .timestamp halfSecondBefore)]

theorem time_with_offset_reads_back : ∃ r, ofValue givenWithTime = .ok r ∧
    r.modifiedAt = some halfSecondBefore ∧ ofValue r.answer = .ok r := by
  have h : ofValue givenWithTime = .ok ⟨⟨0xA000000000000000000000000, by decide⟩, "a", "b", 12,
      some halfSecondBefore⟩ := by rfl
  refine ⟨_, h, rfl, answer_reads_back h ?_⟩
  rintro ms t ⟨⟩ ht
  have hgiven : t = halfSecondBefore := by simpa [Value.member?, eq_comm] using ht
  rw [hgiven]
  rintro _ ⟨⟩
  exact (by decide : (60 : Int) ∣ -19800)

end Record

end StorageLedger
