import Mathlib.Data.List.Forall2
import Mathlib.Data.List.Nodup

/-!
# ResourceTables.Proofs.Steps

Steps that may fail, taken apart once they have succeeded or failed: two in a row, a change of the
result or of the cause, and one for each element of a list. What belongs together in two lists is found
from either side, and what has a key of its own is found by it, be it an element or a whole group of
elements. An element of a list that is put together from others is traced back to where it comes from,
together with all that stands before it (`exists_of_flatMap_eq`).
-/

namespace ResourceTables

variable {ε α β : Type}

/-- A sequence of two steps that may fail, taken apart. -/
theorem bind_eq_ok_iff {x : Except ε α} {f : α → Except ε β} {b : β} :
    (x >>= f) = .ok b ↔ ∃ a, x = .ok a ∧ f a = .ok b := by
  cases x with
  | error e => simp [bind, Except.bind]
  | ok a => simp [bind, Except.bind]

theorem bind_eq_error_iff {x : Except ε α} {f : α → Except ε β} {e : ε} :
    (x >>= f) = .error e ↔ x = .error e ∨ ∃ a, x = .ok a ∧ f a = .error e := by
  cases x with
  | error e' => simp [bind, Except.bind]
  | ok a => simp [bind, Except.bind]

theorem map_eq_ok_iff {x : Except ε α} {f : α → β} {b : β} :
    x.map f = .ok b ↔ ∃ a, x = .ok a ∧ f a = b := by
  cases x with
  | error e => simp [Except.map]
  | ok a => simp [Except.map]

theorem map_eq_error_iff {x : Except ε α} {f : α → β} {e : ε} :
    x.map f = .error e ↔ x = .error e := by
  cases x with
  | error e' => simp [Except.map]
  | ok a => simp [Except.map]

theorem map_map {γ : Type} (x : Except ε α) (f : α → β) (h : β → γ) :
    (x.map f).map h = x.map fun a => h (f a) := by
  cases x <;> rfl

theorem mapError_eq_ok_iff {ε' : Type} {x : Except ε α} {f : ε → ε'} {a : α} :
    x.mapError f = .ok a ↔ x = .ok a := by
  cases x with
  | error e => simp [Except.mapError]
  | ok a => simp [Except.mapError]

theorem mapError_eq_error_iff {ε' : Type} {x : Except ε α} {f : ε → ε'} {e : ε'} :
    x.mapError f = .error e ↔ ∃ cause, x = .error cause ∧ f cause = e := by
  cases x with
  | error e => simp [Except.mapError]
  | ok a => simp [Except.mapError]

theorem mem_toOption_iff {x : Except ε α} {a : α} : a ∈ x.toOption ↔ x = .ok a := by
  cases x <;> simp [Except.toOption]

/-- The results of a list of steps that all succeed, element by element. -/
theorem forall₂_of_mapM_eq_ok {f : α → Except ε β} {l : List α} {l' : List β}
    (h : l.mapM f = .ok l') : List.Forall₂ (fun a b => f a = .ok b) l l' := by
  induction l generalizing l' with
  | nil =>
    rw [List.mapM_nil] at h
    cases h
    exact .nil
  | cons a l ih =>
    rw [List.mapM_cons] at h
    obtain ⟨b, hb, h⟩ := bind_eq_ok_iff.1 h
    obtain ⟨bs, hbs, h⟩ := bind_eq_ok_iff.1 h
    cases h
    exact .cons hb (ih hbs)

theorem mapM_eq_some_of_forall₂ {f : α → Option β} {l : List α} {l' : List β}
    (h : List.Forall₂ (fun a b => f a = some b) l l') : l.mapM f = some l' := by
  induction h with
  | nil => rfl
  | cons hab _ ih =>
    rw [List.mapM_cons, hab, ih]
    rfl

theorem forall₂_of_mapM_eq_some {f : α → Option β} {l : List α} {l' : List β}
    (h : l.mapM f = some l') : List.Forall₂ (fun a b => f a = some b) l l' := by
  induction l generalizing l' with
  | nil =>
    rw [List.mapM_nil] at h
    cases h
    exact .nil
  | cons a l ih =>
    rw [List.mapM_cons] at h
    obtain ⟨b, hb, h⟩ := Option.bind_eq_some_iff.1 h
    obtain ⟨bs, hbs, h⟩ := Option.bind_eq_some_iff.1 h
    cases h
    exact .cons hb (ih hbs)

theorem mapM_eq_ok_of_forall₂ {f : α → Except ε β} {l : List α} {l' : List β}
    (h : List.Forall₂ (fun a b => f a = .ok b) l l') : l.mapM f = .ok l' := by
  induction h with
  | nil => rfl
  | cons hab _ ih =>
    rw [List.mapM_cons, hab, ih]
    rfl

theorem mapM_congr {f g : α → Except ε β} {l : List α} (h : ∀ a ∈ l, f a = g a) :
    l.mapM f = l.mapM g := by
  induction l with
  | nil => rfl
  | cons a l ih =>
    obtain ⟨ha, hl⟩ := List.forall_mem_cons.1 h
    rw [List.mapM_cons, List.mapM_cons, ha, ih hl]

/-- A list of steps fails with the first one that fails. -/
theorem mapM_eq_error_iff {f : α → Except ε β} {l : List α} {e : ε} :
    l.mapM f = .error e ↔ ∃ before a after, l = before ++ a :: after ∧
      (∀ b ∈ before, ∃ c, f b = .ok c) ∧ f a = .error e := by
  induction l with
  | nil =>
    refine ⟨fun h => (by cases h), fun h => ?_⟩
    obtain ⟨before, a, after, hl, -⟩ := h
    simp at hl
  | cons x l ih =>
    rw [List.mapM_cons, bind_eq_error_iff]
    constructor
    · intro h
      rcases h with hx | ⟨c, hc, h⟩
      · exact ⟨[], x, l, rfl, by simp, hx⟩
      rcases bind_eq_error_iff.1 h with hrest | ⟨cs, -, hend⟩
      · obtain ⟨before, a, after, rfl, hbefore, ha⟩ := ih.1 hrest
        exact ⟨x :: before, a, after, rfl, List.forall_mem_cons.2 ⟨⟨c, hc⟩, hbefore⟩, ha⟩
      · cases hend
    · intro h
      obtain ⟨before, a, after, hl, hbefore, ha⟩ := h
      cases before with
      | nil =>
        cases hl
        exact .inl ha
      | cons b before =>
        cases hl
        obtain ⟨⟨c, hc⟩, hbefore⟩ := List.forall_mem_cons.1 hbefore
        exact .inr ⟨c, hc, bind_eq_error_iff.2 (.inl (ih.2 ⟨before, a, after, rfl, hbefore, ha⟩))⟩

/-- A list of steps fails with one of them. -/
theorem exists_mem_of_mapM_eq_error {f : α → Except ε β} {l : List α} {e : ε}
    (h : l.mapM f = .error e) : ∃ a ∈ l, f a = .error e := by
  obtain ⟨before, a, after, rfl, -, ha⟩ := mapM_eq_error_iff.1 h
  exact ⟨a, List.mem_append_cons_self, ha⟩

section

variable {R : α → β → Prop} {l : List α} {l' : List β}

theorem exists_right_of_mem {a : α} (h : List.Forall₂ R l l') (ha : a ∈ l) :
    ∃ b ∈ l', R a b := by
  induction h with
  | nil => cases ha
  | @cons x y _ _ hxy _ ih =>
    rcases List.mem_cons.1 ha with rfl | ha
    · exact ⟨y, List.mem_cons_self, hxy⟩
    · obtain ⟨b, hb, hab⟩ := ih ha
      exact ⟨b, List.mem_cons_of_mem _ hb, hab⟩

theorem exists_left_of_mem {b : β} (h : List.Forall₂ R l l') (hb : b ∈ l') : ∃ a ∈ l, R a b :=
  exists_right_of_mem h.flip hb

/-- Groups whose elements belong together. -/
theorem forall₂_flatMap {γ : Type} {l : List γ} {f : γ → List α} {f' : γ → List β}
    (h : ∀ c ∈ l, List.Forall₂ R (f c) (f' c)) : List.Forall₂ R (l.flatMap f) (l.flatMap f') := by
  induction l with
  | nil => exact .nil
  | cons c l ih =>
    obtain ⟨hfirst, hrest⟩ := List.forall_mem_cons.1 h
    exact List.rel_append hfirst (ih hrest)

/-- What agrees on all that belongs together agrees on the lists. -/
theorem map_eq_map_of_forall₂ {γ : Type} {f : α → γ} {f' : β → γ} (h : List.Forall₂ R l l')
    (hf : ∀ a b, R a b → f a = f' b) : l.map f = l'.map f' := by
  induction h with
  | nil => rfl
  | cons hxy _ ih => rw [List.map_cons, List.map_cons, hf _ _ hxy, ih]

/-- Searches that agree on what belongs together find what belongs together. -/
theorem find?_of_forall₂ {p : α → Bool} {q : β → Bool} {a : α} (h : List.Forall₂ R l l')
    (hpq : ∀ a b, R a b → p a = q b) (ha : l.find? p = some a) :
    ∃ b, l'.find? q = some b ∧ R a b := by
  induction h with
  | nil => simp at ha
  | @cons x y l l' hxy _ ih =>
    rw [List.find?_cons] at ha
    rw [List.find?_cons, ← hpq x y hxy]
    cases hx : p x with
    | true =>
      rw [hx] at ha
      cases ha
      exact ⟨y, rfl, hxy⟩
    | false =>
      rw [hx] at ha
      exact ih ha

end

/-! ### Elements and what stands before them -/

/-- An element of an append is in one of the two lists, and so is all that stands between. -/
theorem append_eq_append_cons_cases {l l' before after : List α} {a : α}
    (h : l ++ l' = before ++ a :: after) :
    (∃ rest, l = before ++ a :: rest) ∨ ∃ rest, before = l ++ rest ∧ l' = rest ++ a :: after := by
  rcases List.append_eq_append_iff.1 h with ⟨rest, hbefore, hrest⟩ | ⟨rest, hl, hrest⟩
  · exact .inr ⟨rest, hbefore, hrest⟩
  · cases rest with
    | nil => exact .inr ⟨[], by rw [hl, List.append_nil, List.append_nil], hrest.symm⟩
    | cons b rest =>
      obtain rfl := (List.cons.inj hrest).1
      exact .inl ⟨rest, hl⟩

/-- An element that is not in the first list is in the second one. -/
theorem exists_of_append_eq {l l' before after : List α} {a : α} (ha : a ∉ l)
    (h : l ++ l' = before ++ a :: after) :
    ∃ rest, before = l ++ rest ∧ l' = rest ++ a :: after := by
  rcases append_eq_append_cons_cases h with ⟨rest, rfl⟩ | hrest
  · exact absurd List.mem_append_cons_self ha
  · exact hrest

/-- An element of several groups is in one of them, and what stands before it is in that group or makes
up the groups before. -/
theorem exists_of_flatMap_eq {f : α → List β} {l : List α} {before after : List β} {b : β}
    (h : l.flatMap f = before ++ b :: after) :
    ∃ l₁ a l₂ first rest, l = l₁ ++ a :: l₂ ∧ f a = first ++ b :: rest ∧
      before = l₁.flatMap f ++ first := by
  induction l generalizing before with
  | nil => simp at h
  | cons a l ih =>
    rw [List.flatMap_cons] at h
    rcases append_eq_append_cons_cases h with ⟨rest, ha⟩ | ⟨between, rfl, hlater⟩
    · exact ⟨[], a, l, before, rest, rfl, ha, rfl⟩
    · obtain ⟨l₁, a', l₂, first, rest, rfl, ha', rfl⟩ := ih hlater
      refine ⟨a :: l₁, a', l₂, first, rest, rfl, ha', ?_⟩
      rw [List.flatMap_cons, List.append_assoc]

/-- The case in which every group has one element at most. -/
theorem exists_of_filterMap_eq {f : α → Option β} {l : List α} {before after : List β} {b : β}
    (h : l.filterMap f = before ++ b :: after) :
    ∃ l₁ a l₂, l = l₁ ++ a :: l₂ ∧ f a = some b ∧ l₁.filterMap f = before := by
  obtain ⟨l₁, rest, rfl, hbefore, hrest⟩ := List.filterMap_eq_append_iff.1 h
  obtain ⟨l₂, a, l₃, rfl, hnone, ha, -⟩ := List.filterMap_eq_cons_iff.1 hrest
  refine ⟨l₁ ++ l₂, a, l₃, by rw [List.append_assoc], ha, ?_⟩
  rw [List.filterMap_append, hbefore, List.filterMap_eq_nil_iff.2 hnone, List.append_nil]

/-- An element whose key no other one has is the one that is found by it. -/
theorem find?_key_of_mem {κ : Type} [BEq κ] [LawfulBEq κ] {key : α → κ} {l : List α} {a : α}
    (hl : (l.map key).Nodup) (ha : a ∈ l) : l.find? (key · == key a) = some a := by
  cases hfound : l.find? (key · == key a) with
  | none => exact absurd (List.find?_eq_none.1 hfound a ha) (by simp)
  | some other =>
    have hkey : key other = key a := by simpa using List.find?_some hfound
    rw [List.inj_on_of_nodup_map hl (List.mem_of_find?_eq_some hfound) ha hkey]

section

variable {κ : Type} [DecidableEq κ]

/-- Elements that tell which group they come from are found in that group alone. -/
theorem filter_flatMap_of_owner {l : List α} {f : α → List β} {a : α} (owner : β → κ) (name : α → κ)
    (howner : ∀ a ∈ l, ∀ b ∈ f a, owner b = name a) (hl : (l.map name).Nodup) (ha : a ∈ l) :
    (l.flatMap f).filter (fun b => owner b = name a) = f a := by
  induction l with
  | nil => cases ha
  | cons x l ih =>
    obtain ⟨hx, hl⟩ := List.nodup_cons.1 hl
    obtain ⟨hfirst, hrest⟩ := List.forall_mem_cons.1 howner
    rw [List.flatMap_cons, List.filter_append]
    rcases List.mem_cons.1 ha with rfl | ha
    · -- No later group has the same name.
      have hlater : (l.flatMap f).filter (fun b => owner b = name a) = [] := by
        refine List.filter_eq_nil_iff.2 fun b hb hname => ?_
        obtain ⟨a', ha', hb⟩ := List.mem_flatMap.1 hb
        have heq : name a' = name a := (hrest a' ha' b hb).symm.trans (of_decide_eq_true hname)
        exact hx (heq ▸ List.mem_map_of_mem ha')
      rw [hlater, List.append_nil, List.filter_eq_self]
      exact fun b hb => decide_eq_true (hfirst b hb)
    · have hearlier : (f x).filter (fun b => owner b = name a) = [] := by
        refine List.filter_eq_nil_iff.2 fun b hb hname => ?_
        have heq : name x = name a := (hfirst b hb).symm.trans (of_decide_eq_true hname)
        exact hx (heq ▸ List.mem_map_of_mem ha)
      rw [hearlier, List.nil_append, ih hrest hl ha]

/-- The groups of several keys together are what has one of the keys. -/
theorem flatMap_filter_key_perm (key : α → κ) (l : List α) {keys : List κ} (hkeys : keys.Nodup) :
    (keys.flatMap fun k => l.filter fun a => key a = k).Perm
      (l.filter fun a => key a ∈ keys) := by
  induction keys with
  | nil => simp
  | cons k keys ih =>
    obtain ⟨hk, hkeys⟩ := List.nodup_cons.1 hkeys
    have hsplit := List.filter_append_perm (fun a => decide (key a = k))
      (l.filter fun a => key a ∈ k :: keys)
    have hfirst : (l.filter fun a => key a ∈ k :: keys).filter (fun a => key a = k) =
        l.filter fun a => key a = k := by
      rw [List.filter_filter]
      refine List.filter_congr fun a _ => ?_
      by_cases h : key a = k <;> simp [h]
    have hrest : (l.filter fun a => key a ∈ k :: keys).filter (fun a => !decide (key a = k)) =
        l.filter fun a => key a ∈ keys := by
      rw [List.filter_filter]
      refine List.filter_congr fun a _ => ?_
      by_cases h : key a = k <;> simp [h, hk]
    rw [hfirst, hrest] at hsplit
    rw [List.flatMap_cons]
    exact ((ih hkeys).append_left _).trans hsplit

end

end ResourceTables
