/-
  Lists sorted by name.

  1. **Specification** — a list is `Ascending` if its names never fall, in the order of code points, and
     `StrictlyAscending` if each name is above the one before it; `named` picks what has one name, in
     order.

  2. **Sorting** — agents, catalog entries and replicasets are all sorted by the same call.
     `ascending_mergeSort` and `named_mergeSort`: what it gives is ascending, and what has one name stays
     in the order in which it came.

  3. **Uniqueness** — these two laws leave no choice (`Ascending.eq_of_named_eq`), and a strictly
     ascending list is known by its members (`StrictlyAscending.eq_of_mem_iff`). So nothing that came
     before the sorting shows behind it, apart from the order within a name.
-/
import Mathlib.Tactic

namespace BackupConsole

variable {α : Type} {key : α → String} {l m : List α}

/-- Names never fall. -/
def Ascending (key : α → String) (l : List α) : Prop := l.Pairwise fun a b => key a ≤ key b

/-- Each name is above the one before it. -/
def StrictlyAscending (key : α → String) (l : List α) : Prop := l.Pairwise fun a b => key a < key b

/-- Whether a list ascends is seen from its pairs. -/
instance : Decidable (Ascending key l) := inferInstanceAs (Decidable (l.Pairwise _))

/-- So it is for one that ascends strictly. -/
instance : Decidable (StrictlyAscending key l) := inferInstanceAs (Decidable (l.Pairwise _))

/-- What has a name, in order. -/
def named (key : α → String) (name : String) (l : List α) : List α := l.filter fun a => key a == name

@[simp] theorem mem_named {name : String} {a : α} : a ∈ named key name l ↔ a ∈ l ∧ key a = name := by
  simp [named]

theorem named_cons_self (a : α) (l : List α) :
    named key (key a) (a :: l) = a :: named key (key a) l := by simp [named]

theorem named_cons_of_ne {name : String} {a : α} (h : key a ≠ name) (l : List α) :
    named key name (a :: l) = named key name l := by simp [named, h]

theorem named_named {name : String} : named key name (named key name l) = named key name l := by
  simp [named, List.filter_filter]

theorem named_eq_nil {name : String} (h : ∀ a ∈ l, key a ≠ name) : named key name l = [] :=
  List.filter_eq_nil_iff.mpr fun a ha => by simp [h a ha]

/-- Only names that occur need to be looked at. -/
theorem named_eq_iff : (∀ name, named key name l = named key name m) ↔
    ∀ a ∈ l ++ m, named key (key a) l = named key (key a) m := by
  refine ⟨fun h a _ => h (key a), fun h name => ?_⟩
  by_cases hname : ∃ a ∈ l ++ m, key a = name
  · obtain ⟨a, ha, rfl⟩ := hname
    exact h a ha
  · push Not at hname
    rw [named_eq_nil fun a ha => hname a (List.mem_append_left m ha),
      named_eq_nil fun a ha => hname a (List.mem_append_right l ha)]

/-! ## Sorting -/

/-- The comparison that sorts has no cycles. -/
theorem keyOrder_trans (key : α → String) (a b c : α) (hab : decide (key a ≤ key b) = true)
    (hbc : decide (key b ≤ key c) = true) : decide (key a ≤ key c) = true :=
  decide_eq_true (String.le_trans (of_decide_eq_true hab) (of_decide_eq_true hbc))

/-- It compares any two. -/
theorem keyOrder_total (key : α → String) (a b : α) :
    (decide (key a ≤ key b) || decide (key b ≤ key a)) = true := by
  rcases String.le_total (key a) (key b) with h | h
  · simp [h]
  · simp [h]

theorem ascending_mergeSort (key : α → String) (l : List α) :
    Ascending key (l.mergeSort fun a b => decide (key a ≤ key b)) := by
  have h := List.pairwise_mergeSort (keyOrder_trans key) (keyOrder_total key) l
  exact h.imp of_decide_eq_true

/-- Sorting is stable. -/
theorem named_mergeSort (key : α → String) (name : String) (l : List α) :
    named key name (l.mergeSort fun a b => decide (key a ≤ key b)) = named key name l := by
  -- What has one name is in order whatever its order is, so the sorting keeps it as a sublist.
  have hsorted : (named key name l).Pairwise fun a b => decide (key a ≤ key b) = true := by
    refine List.pairwise_of_forall_mem_list fun a ha b hb => ?_
    rw [(mem_named.mp ha).2, (mem_named.mp hb).2]
    exact decide_eq_true (String.le_refl name)
  have hkept := List.sublist_mergeSort (keyOrder_trans key) (keyOrder_total key) hsorted List.filter_sublist
  have hsub : (named key name l).Sublist
      (named key name (l.mergeSort fun a b => decide (key a ≤ key b))) := by
    rw [← named_named]
    exact hkept.filter fun a => key a == name
  have hlength := ((List.mergeSort_perm l fun a b => decide (key a ≤ key b)).filter
    fun a => key a == name).length_eq
  exact (hsub.eq_of_length hlength.symm).symm

/-! ## Uniqueness -/

/-- The first name of an ascending list is below every name in it. -/
theorem Ascending.head_le {a : α} (h : Ascending key (a :: l)) {b : α} (hb : b ∈ a :: l) :
    key a ≤ key b := by
  rcases List.mem_cons.mp hb with rfl | hb
  · exact String.le_refl _
  · exact List.rel_of_pairwise_cons h hb

/-- Two ascending lists that agree on what each name has begin with the same name. -/
theorem Ascending.head_eq {a b : α} (hl : Ascending key (a :: l)) (hm : Ascending key (b :: m))
    (h : ∀ name, named key name (a :: l) = named key name (b :: m)) : a = b := by
  have ha : a ∈ b :: m := (mem_named.mp (h (key a) ▸ mem_named.mpr ⟨List.mem_cons_self, rfl⟩)).1
  have hb : b ∈ a :: l := (mem_named.mp ((h (key b)).symm ▸ mem_named.mpr ⟨List.mem_cons_self, rfl⟩)).1
  have hkey : key b = key a := String.le_antisymm (hm.head_le ha) (hl.head_le hb)
  have hcons := h (key a)
  rw [named_cons_self, ← hkey, named_cons_self] at hcons
  exact (List.cons.inj hcons).1

/-- An ascending list is known by what each name has. -/
theorem Ascending.eq_of_named_eq (hl : Ascending key l) (hm : Ascending key m)
    (h : ∀ name, named key name l = named key name m) : l = m := by
  -- By induction on the first list. The lists have a first element of the same name, and it is the same
  -- one.
  induction l generalizing m with
  | nil =>
    refine (List.eq_nil_iff_forall_not_mem.mpr fun b hb => ?_).symm
    have := h (key b) ▸ mem_named.mpr ⟨hb, rfl⟩
    cases this
  | cons a l ih =>
    cases m with
    | nil =>
      have := h (key a)
      rw [named_cons_self] at this
      cases this
    | cons b m =>
      obtain rfl := hl.head_eq hm h
      -- Without their heads the lists still agree name by name.
      refine congrArg (a :: ·) (ih hl.of_cons hm.of_cons fun name => ?_)
      by_cases hname : key a = name
      · subst hname
        have := h (key a)
        rw [named_cons_self, named_cons_self] at this
        exact (List.cons.inj this).2
      · have := h name
        rwa [named_cons_of_ne hname, named_cons_of_ne hname] at this

/-- An ascending list in which no name comes twice is strictly ascending. -/
theorem Ascending.strict (h : Ascending key l) (hd : (l.map key).Nodup) : StrictlyAscending key l := by
  have hne : l.Pairwise fun a b => key a ≠ key b := List.pairwise_map.mp hd
  refine (List.pairwise_and_iff.mpr ⟨h, hne⟩).imp fun ⟨hle, hne⟩ => ?_
  exact String.not_le.mp fun hge => hne (String.le_antisymm hle hge)

/-- A list that ascends strictly has nothing twice. -/
theorem StrictlyAscending.nodup (h : StrictlyAscending key l) : l.Nodup := by
  refine List.Pairwise.imp (fun {a b} hlt heq => ?_) h
  subst heq
  exact String.lt_irrefl (key a) hlt

/-- A strictly ascending list is known by its members. -/
theorem StrictlyAscending.eq_of_mem_iff (hl : StrictlyAscending key l) (hm : StrictlyAscending key m)
    (h : ∀ a, a ∈ l ↔ a ∈ m) : l = m := by
  refine List.Perm.eq_of_pairwise (fun a b _ _ hab hba => ?_) hl hm
    ((List.perm_ext_iff_of_nodup hl.nodup hm.nodup).mpr h)
  exact absurd hba (String.lt_asymm hab)

end BackupConsole
