import StorageLedger.Proofs.JsonReader
import StorageLedger.Proofs.Validation

namespace StorageLedger
open StorageLedger.Text StorageLedger.Validation

theorem Json.toValues_eq (vs : List Json) : Json.toValues vs = vs.map Json.toValue := by
  induction vs with
  | nil => rfl
  | cons v vs ih => rw [Json.toValues, ih, List.map_cons]

theorem Json.toMembers_eq (ms : List (String × Json)) :
    Json.toMembers ms = ms.map fun m => (m.1, m.2.toValue) := by
  induction ms with
  | nil => rfl
  | cons m ms ih => rw [Json.toMembers, ih, List.map_cons]

namespace Validation

/-- What an issue tells besides its wording: its place, its kind and what was given. -/
def Issue.mark (i : Issue) : List Step × String × Value := (i.path, i.complaint.name, i.input)

theorem Issue.marks_under {is is' : List Issue} (step : Step)
    (h : is.map Issue.mark = is'.map Issue.mark) :
    (is.map (.under step)).map Issue.mark = is'.map fun i => (i.under step).mark := by
  let shift (m : List Step × String × Value) : List Step × String × Value := (step :: m.1, m.2)
  have hshift (i : Issue) : (i.under step).mark = shift i.mark := rfl
  calc (is.map (.under step)).map Issue.mark = (is.map Issue.mark).map shift := by
        rw [List.map_map, List.map_map]
        rfl
    _ = (is'.map Issue.mark).map shift := by rw [h]
    _ = is'.map fun i => (i.under step).mark := by
        rw [List.map_map]
        rfl

def issues : Except (List Issue) α → List Issue
  | .ok _ => []
  | .error is => is

theorem issues_both (first : Except (List Issue) α) (second : Except (List Issue) β) :
    issues (both first second) = issues first ++ issues second := by
  cases first <;> cases second <;> simp [both, issues]

theorem issues_map (f : α → β) (result : Except (List Issue) α) :
    issues (result.map f) = issues result := by
  cases result <;> rfl

theorem issues_mapError (f : Issue → Issue) (result : Except (List Issue) α) :
    issues (result.mapError (·.map f)) = (issues result).map f := by
  cases result <;> rfl

end Validation

namespace Entry

/-- The issues of a value that is no entry. -/
def issuesOf (v : Value) : List Issue :=
  match ofValue v with
  | .ok _ => []
  | .error r => r.issues

/-- In a document a value is an entry if it is one by itself, and has the same issues otherwise.
Only the wording for what is no object differs. -/
theorem ofValueFrom_document (v : Value) :
    (∀ e, ofValueFrom .document v = .ok e ↔ ofValue v = .ok e) ∧
      (issues (ofValueFrom .document v)).map Issue.mark = (issuesOf v).map Issue.mark := by
  cases v with
  | object ms =>
    have hdocument : ofValueFrom .document (.object ms) = ofMembers ms := rfl
    have hcaller : ofValue (.object ms) = (ofMembers ms).mapError (⟨.entry, ·⟩) := rfl
    rw [hdocument, issuesOf, hcaller]
    cases ofMembers ms with
    | ok e => exact ⟨fun e' => by simp [Except.mapError], rfl⟩
    | error is => exact ⟨fun e' => iff_of_false nofun nofun, rfl⟩
  | _ => exact ⟨fun e' => iff_of_false nofun nofun, rfl⟩

theorem ofItems_eq_ok_iff {vs : List Value} {i : Nat} {es : List Entry} :
    ofItems i vs = .ok es ↔ List.Forall₂ (fun v e => ofValue v = .ok e) vs es := by
  induction vs generalizing i es with
  | nil =>
    rw [List.forall₂_nil_left_iff, ofItems, Except.ok.injEq]
    exact eq_comm
  | cons v vs ih =>
    simp only [List.forall₂_cons_left_iff, ofItems, ← ih (i := i + 1),
      ← (ofValueFrom_document v).1]
    cases ofValueFrom .document v <;> cases ofItems (i + 1) vs <;>
      simp [both, Except.map, Except.mapError, eq_comm]

theorem issues_ofItems (vs : List Value) (i : Nat) :
    (issues (ofItems i vs)).map Issue.mark = (vs.zipIdx i).flatMap fun item =>
      (issuesOf item.1).map fun issue => (issue.under (.index item.2)).mark := by
  induction vs generalizing i with
  | nil => rfl
  | cons v vs ih =>
    rw [ofItems, issues_map, issues_both, issues_mapError, List.map_append, ih,
      Issue.marks_under _ (ofValueFrom_document v).2]
    rfl

theorem exists_entry_of_mem {items : List Json} {es : List Entry} {item : Json}
    (h : List.Forall₂ (fun item e => ofValue item.toValue = .ok e) items es)
    (hitem : item ∈ items) :
    ∃ e, ofValue item.toValue = .ok e := by
  induction h with
  | nil => cases hitem
  | cons hhead _ ih =>
    rcases List.mem_cons.1 hitem with rfl | hitem
    · exact ⟨_, hhead⟩
    · exact ih hitem

theorem ofManifest_of_isText {v : Json} {cs : List Char} (h : Json.IsText .manifest v cs) :
    ofManifest (octets cs) = ofJson v := by
  rw [ofManifest, Json.read_of_isText h]

theorem ofJson_list (items : List Json) : ofJson (.list items) =
    (ofItems 0 (items.map Json.toValue)).mapError (⟨.manifest, ·⟩) := by
  rw [← Json.toValues_eq]
  rfl

/-- The manifest reads what its entries are one by one. For any JSON value and any text of it, the
manifest is accepted exactly if the value is a list and each of its items is an entry by itself, and
then it holds these entries in order. If some item is none, the issues are those of the items in
order, of the same kinds, each with the index of the item in front of its place. -/
theorem ofManifest_agrees_with_items {v : Json} {cs : List Char} (h : Json.IsText .manifest v cs) :
    (∀ es, ofManifest (octets cs) = .ok es ↔
      ∃ items, v = .list items ∧
        List.Forall₂ (fun item e => ofValue item.toValue = .ok e) items es) ∧
    ∀ items, v = .list items → (∃ item ∈ items, ∃ r, ofValue item.toValue = .error r) →
      ∃ issues, ofManifest (octets cs) = .error ⟨.manifest, issues⟩ ∧
        issues.map Issue.mark = items.zipIdx.flatMap fun item =>
          (issuesOf item.1.toValue).map fun issue => (issue.under (.index item.2)).mark := by
  rw [ofManifest_of_isText h]
  refine ⟨fun es => ?_, ?_⟩
  · constructor
    · intro hes
      cases v with
      | list items =>
        rw [ofJson_list] at hes
        cases hitems : ofItems 0 (items.map Json.toValue) with
        | error is =>
          rw [hitems] at hes
          cases hes
        | ok es' =>
          rw [hitems] at hes
          cases hes
          exact ⟨items, rfl, List.forall₂_map_left_iff.1 (ofItems_eq_ok_iff.1 hitems)⟩
      | _ => cases hes
    · rintro ⟨items, rfl, hitems⟩
      rw [ofJson_list, ofItems_eq_ok_iff.2 (List.forall₂_map_left_iff.2 hitems)]
      rfl
  · rintro items rfl ⟨item, hitem, r, hr⟩
    have hmarks := issues_ofItems (items.map Json.toValue) 0
    rw [List.zipIdx_map, List.flatMap_map] at hmarks
    rw [ofJson_list]
    cases hitems : ofItems 0 (items.map Json.toValue) with
    | error is =>
      rw [hitems] at hmarks
      exact ⟨is, rfl, hmarks⟩
    | ok es =>
      obtain ⟨e, he⟩ := exists_entry_of_mem
        (List.forall₂_map_left_iff.1 (ofItems_eq_ok_iff.1 hitems)) hitem
      cases hr.symm.trans he

theorem ofManifest_of_bad_items :
    let members : List (String × Json) := [("file_id", .text "a"), ("file_size", .text "x")]
    let v : Json := .list [.int 7, .object members]
    let cs := "[7,\x7b\"file_id\":\"a\",\"file_size\":\"x\"\x7d]".toList
    let given : Value := .object (members.map fun m => (m.1, m.2.toValue))
    Json.IsText .manifest v cs ∧ ∃ issues, ofManifest (octets cs) = .error ⟨.manifest, issues⟩ ∧
      issues.map Issue.mark =
        [([.index 0], "model_type", .int 7), ([.index 1, .field "object_id"], "missing", given),
          ([.index 1, .field "file_type"], "missing", given),
          ([.index 1, .field "file_size"], "int_parsing", .text "x")] := by
  intro members v cs given
  have hd : 2 ≤ Json.Limits.manifest.depth := by decide
  have hgap : Json.IsGap [] := List.forall_mem_nil _
  have hseven : Json.SpelledNumber .manifest (.int (Text.signed false (digitsValue ['7'])))
      (Json.minusMark false ++ ['7']) :=
    .int (.positive (by decide) (by decide) (List.forall_mem_nil _)) (by decide)
  have hmembers := Json.Spelled.members hgap (Json.spelledText_write "file_id") hgap
    (.text hd (Json.spelledText_write "a"))
    (.member hgap (Json.spelledText_write "file_size") hgap (.text hd (Json.spelledText_write "x")))
  have htext : Json.IsText .manifest v cs := by
    have hlist := Json.Spelled.list (by decide)
      (.items (.number (by decide) hseven) (.item (.object (by decide) hmembers)))
    refine (congrArg (Json.IsText .manifest v) ?_).mp hlist
    decide +kernel
  refine ⟨htext, (ofManifest_agrees_with_items htext).2 _ rfl ⟨.int 7, List.mem_cons_self, _, rfl⟩⟩

section Encoding

/-- The members of the object that holds an entry, in the order of its fields. -/
def jsonMembers (e : Entry) : List (String × Json) :=
  [("object_id", .text e.objectId), ("file_id", .text e.fileId), ("file_type", .text e.fileType),
    ("file_size", .int e.fileSize)]

theorem find?_of_mem {ms : List (String × α)} {name : String} {v : α}
    (hnames : (ms.map (·.1)).Nodup) (h : (name, v) ∈ ms) :
    ms.find? (fun m => m.1 == name) = some (name, v) := by
  induction ms with
  | nil => cases h
  | cons m ms ih =>
    obtain ⟨hm, hms⟩ := List.nodup_cons.1 hnames
    rcases List.mem_cons.1 h with rfl | h
    · exact List.find?_cons_of_pos (beq_self_eq_true name)
    · have hne : m.1 ≠ name := fun heq => hm (List.mem_map.2 ⟨_, h, heq.symm⟩)
      rw [List.find?_cons_of_neg (by simpa using hne), ih hms h]

/-- Under distinct names the order of members does not matter. -/
theorem member?_of_mem {ms : List (String × α)} {name : String} {v : α}
    (hnames : (ms.map (·.1)).Nodup) (h : (name, v) ∈ ms) : Value.member? name ms = some v := by
  have hreverse : (ms.reverse.map (·.1)).Nodup := by
    rw [List.map_reverse]
    exact List.nodup_reverse.2 hnames
  rw [Value.member?, find?_of_mem hreverse (List.mem_reverse.2 h), Option.map_some]

variable {e : Entry} {ms : List (String × Json)}

theorem member?_of_perm (hms : ms.Perm e.jsonMembers) {name : String} {v : Json}
    (h : (name, v) ∈ e.jsonMembers) :
    Value.member? name (ms.map fun m => (m.1, m.2.toValue)) = some v.toValue := by
  refine member?_of_mem ?_ (List.mem_map.2 ⟨(name, v), hms.mem_iff.2 h, rfl⟩)
  rw [List.map_map]
  refine ((hms.map Prod.fst).nodup_iff).2 ?_
  change ["object_id", "file_id", "file_type", "file_size"].Nodup
  decide

theorem required_of_perm {read : Value → Except Complaint α} {a : α}
    (hms : ms.Perm e.jsonMembers) {name : String} {v : Json} (h : (name, v) ∈ e.jsonMembers)
    (hread : read v.toValue = .ok a) :
    required read name (ms.map fun m => (m.1, m.2.toValue)) = .ok a := by
  simp only [required, member?_of_perm hms h, hread]
  rfl

theorem ofMembers_of_perm (he : e.Valid) (hms : ms.Perm e.jsonMembers) :
    ofMembers (ms.map fun m => (m.1, m.2.toValue)) = .ok e := by
  let members := ms.map fun m => (m.1, m.2.toValue)
  have hmem {m : String × Json} (i : Nat) (h : e.jsonMembers[i]? = some m) : m ∈ e.jsonMembers :=
    List.mem_of_getElem? h
  have hobject : required text "object_id" members = .ok e.objectId :=
    required_of_perm hms (hmem 0 rfl) rfl
  have hfile : required text "file_id" members = .ok e.fileId :=
    required_of_perm hms (hmem 1 rfl) rfl
  have htype : required text "file_type" members = .ok e.fileType :=
    required_of_perm hms (hmem 2 rfl) rfl
  have hbytes : required size "file_size" members = .ok e.fileSize :=
    required_of_perm hms (hmem 3 rfl) (size_of_bounds he.1 he.2)
  change ofMembers members = .ok e
  rw [ofMembers, hobject, hfile, htype, hbytes]
  rfl

theorem fits_size (he : e.Valid) {limits : Json.Limits} {around : Nat}
    (hdepth : around ≤ limits.depth) (hlength : 20 ≤ limits.integerLength) :
    Json.Fits limits around (.int e.fileSize) := by
  obtain ⟨-, hshort⟩ := natAbs_lt_of_bounds he
  refine ⟨hdepth, by omega, Nat.lt_of_lt_of_le hshort ?_⟩
  exact Nat.pow_le_pow_right (by decide) (by omega)

theorem fits_of_perm (he : e.Valid) (hms : ms.Perm e.jsonMembers) :
    Json.Fits .manifest 1 (.object ms) := by
  refine ⟨by decide, Json.membersFit_iff.2 fun m hm => ?_⟩
  have hmem := hms.mem_iff.1 hm
  simp only [jsonMembers, List.mem_cons, List.not_mem_nil, or_false] at hmem
  rcases hmem with rfl | rfl | rfl | rfl
  · exact (by decide : 2 ≤ 200)
  · exact (by decide : 2 ≤ 200)
  · exact (by decide : 2 ≤ 200)
  · exact fits_size he (by decide) (by decide)

theorem objects_hold_entries {es : List Entry} {objects : List (List (String × Json))}
    (hes : ∀ e ∈ es, e.Valid)
    (hobjects : List.Forall₂ (fun e ms => ms.Perm e.jsonMembers) es objects) :
    List.Forall₂ (fun v e => ofValue v = .ok e) ((objects.map .object).map Json.toValue) es ∧
      Json.ItemsFit .manifest 1 (objects.map .object) := by
  induction hobjects with
  | nil => exact ⟨.nil, trivial⟩
  | cons hms _ ih =>
    obtain ⟨he, hes⟩ := List.forall_mem_cons.1 hes
    obtain ⟨hitems, hfits⟩ := ih hes
    refine ⟨.cons ?_ hitems, fits_of_perm he hms, hfits⟩
    rw [Json.toValue, Json.toMembers_eq]
    have hread := ofMembers_of_perm he hms
    simp only [ofValue, ofValueFrom, members, bind, Except.bind, hread]
    rfl

end Encoding

/-- Reading a manifest undoes writing it. Entries of any texts and of sizes within bounds come back
in order from every JSON text of the list of their objects: in whichever order the members stand,
with any blanks between the tokens, and with each character written in any way there is. -/
theorem ofManifest_undoes_writing {limits : Json.Limits} {es : List Entry}
    {objects : List (List (String × Json))} {cs : List Char} (hes : ∀ e ∈ es, e.Valid)
    (hobjects : List.Forall₂ (fun e ms => ms.Perm e.jsonMembers) es objects)
    (h : Json.IsText limits (.list (objects.map .object)) cs) :
    ofManifest (octets cs) = .ok es ∧ ∀ e ∈ es, e.key = e.objectId ++ "_" ++ e.fileId := by
  obtain ⟨hitems, hfits⟩ := objects_hold_entries hes hobjects
  have hfits : Json.Fits .manifest 0 (.list (objects.map .object)) := ⟨by decide, hfits⟩
  refine ⟨?_, fun e _ => rfl⟩
  rw [ofManifest_of_isText (h.of_fits hfits), ofJson_list, ofItems_eq_ok_iff.2 hitems]
  rfl

theorem ofManifest_of_escaped_entry :
    let e : Entry := ⟨"o", "é😀", "a/b", 5⟩
    let ms : List (String × Json) := [("file_id", .text "é😀"), ("object_id", .text "o"),
      ("file_type", .text "a/b"), ("file_size", .int 5)]
    let cs := ("[\x7b\"file_id\":\"\\u00e9\\ud83d\\ude00\",\"object_id\":\"o\"," ++
      "\"file_type\":\"a\\/b\",\"file_size\": 5\x7d ]\n").toList
    e.Valid ∧ ms.Perm e.jsonMembers ∧ Json.IsText .manifest (.list [.object ms]) cs ∧
      ofManifest (octets cs) = .ok [e] ∧ e.key = "o_é😀" := by
  intro e ms cs
  have he : e.Valid := ⟨by decide, by decide⟩
  have hperm : ms.Perm e.jsonMembers := .swap _ _ _
  have hd : 2 ≤ Json.Limits.manifest.depth := by decide
  have hgap : Json.IsGap [] := List.forall_mem_nil _
  have hblank : Json.IsGap [' '] := List.forall_mem_singleton.2 (by decide)
  have hline : Json.IsGap ['\n'] := List.forall_mem_singleton.2 (by decide)
  have hslash := Json.SpelledText.quoted (s := "a/b")
    (.cons (.itself (c := 'a') (by decide) (by decide) (by decide))
      (.cons (.letter (c := '/') (l := '/') (by decide))
        (.cons (.itself (c := 'b') (by decide) (by decide) (by decide)) .nil)))
  have hsize : Json.SpelledNumber .manifest (.int (Text.signed false (digitsValue ['5'])))
      (Json.minusMark false ++ ['5']) :=
    .int (.positive (by decide) (by decide) (List.forall_mem_nil _)) (by decide)
  have hmembers := Json.Spelled.members hgap (Json.spelledText_write "file_id") hgap
    (.text hd (Json.spelledText_write "é😀")) <|
    .members hgap (Json.spelledText_write "object_id") hgap
      (.text hd (Json.spelledText_write "o")) <|
    .members hgap (Json.spelledText_write "file_type") hgap (.text hd hslash) <|
    .member hgap (Json.spelledText_write "file_size") hgap (.between hblank (.number hd hsize) hgap)
  have htext : Json.IsText .manifest (.list [.object ms]) cs := by
    have hlist := Json.Spelled.between hgap (.list (by decide)
      (.item (.between hgap (.object (by decide) hmembers) hblank))) hline
    refine (congrArg (Json.IsText .manifest (.list [.object ms])) ?_).mp hlist
    decide +kernel
  obtain ⟨hread, hkey⟩ := ofManifest_undoes_writing (List.forall_mem_singleton.2 he)
    (.cons hperm .nil) htext
  exact ⟨he, hperm, htext, hread, by decide⟩

end Entry
end StorageLedger
