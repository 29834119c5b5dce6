import ResourceTables.Json.Decode
import ResourceTables.Proofs.Steps
import ResourceTables.Proofs.Uuid

/-!
# ResourceTables.Proofs.Json.Codec

Readers and writers that belong together (`Lawful`): a valid value is read back from what was written
for it, and only valid values are read. Writing what was read is then a normal form
(`Lawful.write_read`). Lawful readers and writers are put together from those of the parts: of lists,
of values that may be absent and of the fields of a record.
-/

namespace ResourceTables.Json

variable {α : Type} {decode : Decoder α} {write : α → Value} {valid : α → Prop}

/-- A valid value is read back from what was written for it, and only valid values are read. -/
structure Lawful (decode : Decoder α) (write : α → Value) (valid : α → Prop) : Prop where
  read_write : ∀ a, valid a → decode (write a) = .ok a
  valid_of_read : ∀ v a, decode v = .ok a → valid a

namespace Lawful

/-- What was read and written again is read and written as it is. -/
theorem write_read (h : Lawful decode write valid) {v d : Value}
    (hv : (decode v).map write = .ok d) : (decode d).map write = .ok d := by
  obtain ⟨a, hread, rfl⟩ := map_eq_ok_iff.1 hv
  rw [h.read_write a (h.valid_of_read v a hread)]
  rfl

/-- Where every value is valid, it is enough that what was written is read back. -/
theorem of_read_write (h : ∀ a, decode (write a) = .ok a) :
    Lawful decode write fun _ => True where
  read_write a _ := h a
  valid_of_read _ _ _ := trivial

/-! ### Plain values -/

/-- A value that is kept as it is. -/
theorem value : Lawful Except.ok (fun v => v) fun _ => True :=
  .of_read_write fun _ => rfl

theorem string : Lawful Decoder.string Value.string fun _ => True :=
  .of_read_write fun _ => rfl

theorem bool : Lawful Decoder.bool Value.bool fun _ => True :=
  .of_read_write fun _ => rfl

theorem uuid : Lawful Decoder.uuid (fun id => .string id.toString) fun _ => True := by
  refine .of_read_write ?_
  intro id
  simp [Decoder.uuid, Uuid.parse?_toString]

/-- Natural numbers of a width are valid if they fit it. -/
theorem unsigned (bits : Nat) :
    Lawful (Decoder.unsigned bits) .nat fun n => Number.fitsUnsigned bits n = true where
  read_write n hn := by
    show (if _ then _ else _) = _
    rw [if_pos hn]
  valid_of_read v n h := by
    unfold Decoder.unsigned at h
    split at h
    · split at h
      · rename_i hn
        cases h
        exact hn
      · cases h
    · cases h

/-! ### Values that may be absent, and lists -/

/-- The absence is written as `null`, which therefore must not stand for a value. -/
theorem nullable (h : Lawful decode write valid) (hnull : ∀ a, write a ≠ .null) :
    Lawful (Decoder.nullable decode) (Value.orNull write) fun o => ∀ a, o = some a → valid a where
  read_write o ho := by
    cases o with
    | none => rfl
    | some a =>
      have hread : Decoder.nullable decode (write a) = (decode (write a)).map some := by
        unfold Decoder.nullable
        split
        · rename_i heq
          exact absurd heq (hnull a)
        · rfl
      show Decoder.nullable decode (write a) = _
      rw [hread, h.read_write a (ho a rfl)]
      rfl
  valid_of_read v o hv := by
    rintro a rfl
    unfold Decoder.nullable at hv
    split at hv
    · cases hv
    · obtain ⟨b, hb, hsome⟩ := map_eq_ok_iff.1 hv
      cases hsome
      exact h.valid_of_read _ _ hb

theorem list (h : Lawful decode write valid) :
    Lawful (Decoder.list decode) (fun l => .array (l.map write)) fun l => ∀ a ∈ l, valid a where
  read_write l hl := by
    show (l.map write).mapM decode = _
    induction l with
    | nil => rfl
    | cons a l ih =>
      obtain ⟨ha, hrest⟩ := List.forall_mem_cons.1 hl
      rw [List.map_cons, List.mapM_cons, h.read_write a ha, ih hrest]
      rfl
  valid_of_read v l hv := by
    unfold Decoder.list at hv
    split at hv
    · intro a ha
      obtain ⟨w, -, hw⟩ := exists_left_of_mem (forall₂_of_mapM_eq_ok hv) ha
      exact h.valid_of_read w a hw
    · cases hv

end Lawful

/-! ### Records that were written -/

namespace Fields

variable {ms : Members} {name : String}

@[simp] theorem of_object (names : List String) : of names (.object ms) = .ok (members ms) := rfl

theorem required_found {v : Value} {a : α} (hfound : ms.lookup name = some v)
    (hread : decode v = .ok a) :
    (members ms).required name decode = ⟨name, .ok (some a)⟩ := by
  simp [required, find?, hfound, hread, Except.map]

theorem optional_found {v : Value} {a : α} (hfound : ms.lookup name = some v)
    (hread : decode v = .ok a) :
    (members ms).optional name decode = ⟨name, .ok (some a)⟩ := by
  simp [optional, find?, hfound, hread, Except.map]

/-- A field that was written is found and read. -/
theorem required_members (h : Lawful decode write valid) {a : α} (ha : valid a)
    (hfound : ms.lookup name = some (write a)) :
    (members ms).required name decode = ⟨name, .ok (some a)⟩ :=
  required_found hfound (h.read_write a ha)

theorem optional_members (h : Lawful decode write valid) {a : α} (ha : valid a)
    (hfound : ms.lookup name = some (write a)) :
    (members ms).optional name decode = ⟨name, .ok (some a)⟩ :=
  optional_found hfound (h.read_write a ha)

/-- A field that was left out is not there. -/
theorem optional_missing (decode : Decoder α) (hfound : ms.lookup name = none) :
    (members ms).optional name decode = ⟨name, .ok none⟩ := by
  rw [optional, find?, hfound]

theorem settle_members {failures : List (String × Option DecodeError)}
    (h : ∀ f ∈ failures, f.2 = none) : (members ms).settle failures = .ok () := by
  have hnone : (failures.mergeSort fun a b => a.1 ≤ b.1).findSome? Prod.snd = none := by
    rw [List.findSome?_eq_none_iff]
    intro f hf
    exact h f (List.mem_mergeSort.1 hf)
  rw [settle, hnone]

end Fields

@[simp] theorem Slot.failure?_ok (name : String) (o : Option α) :
    (⟨name, .ok o⟩ : Slot α).failure? = (name, none) := rfl

/-! ### Fields that were read -/

namespace Lawful

variable {fields : Fields} {name : String}

theorem valid_of_required (h : Lawful decode write valid) {a : α}
    (ha : (fields.required name decode).get = .ok a) : valid a := by
  unfold Fields.required Slot.get at ha
  dsimp only at ha
  split at ha
  · rename_i hout
    cases ha
    split at hout
    · obtain ⟨b, hb, hsome⟩ := map_eq_ok_iff.1 hout
      cases hsome
      exact h.valid_of_read _ _ hb
    · cases hout
    · cases hout
  · cases ha
  · cases ha

/-- A field with a default is valid if the default is. -/
theorem valid_of_optional (h : Lawful decode write valid) {a : α} (ha : valid a) :
    valid ((fields.optional name decode).getD a) := by
  unfold Fields.optional Slot.getD
  dsimp only
  split
  · rename_i b hout
    split at hout
    · obtain ⟨c, hc, hsome⟩ := map_eq_ok_iff.1 hout
      cases hsome
      exact h.valid_of_read _ _ hc
    · cases hout
  · exact ha

end Lawful

end ResourceTables.Json
