/-
  Finite maps from names, kept as lists in which no name comes twice.

  1. **Program** — `set` puts a value under a name, in the place of the value it replaces or at the
     end; `get?` looks a name up; `ofEntries` folds a list of entries, the last of a name winning.

  2. **Specification** — `get?_set` and `mem_set`: setting a name changes what is found under that name
     and nothing else. `distinct_set`: names stay distinct.
-/

namespace BackupConsole

/-- A map from names, as a list of entries. -/
abbrev NameMap (α : Type) := List (String × α)

namespace NameMap

variable {α : Type}

/-- Puts a value under a name, in the place of the one it replaces or else at the end. -/
def set (map : NameMap α) (name : String) (value : α) : NameMap α :=
  match map with
  | [] => [(name, value)]
  | entry :: rest =>
    if entry.1 = name then (name, value) :: rest else entry :: set rest name value

/-- The value under a name. -/
def get? (map : NameMap α) (name : String) : Option α :=
  match map with
  | [] => none
  | entry :: rest => if entry.1 = name then some entry.2 else get? rest name

/-- The map of a list of entries; of two entries with one name the later counts. -/
def ofEntries (entries : List (String × α)) : NameMap α :=
  entries.foldl (fun map entry => map.set entry.1 entry.2) []

/-- The names of a map, in the order in which they were first set. -/
def names (map : NameMap α) : List String := map.map Prod.fst

/-- No name comes twice. -/
def Distinct (map : NameMap α) : Prop := map.names.Nodup

/-- Setting a name changes what is found under that name and under no other. -/
theorem get?_set (map : NameMap α) (name other : String) (value : α) :
    (map.set name value).get? other = if name = other then some value else map.get? other := by
  induction map with
  | nil => simp [set, get?]
  | cons entry rest ih => by_cases h : entry.1 = name <;> by_cases h' : name = other <;> grind [set, get?]

theorem mem_names_set {map : NameMap α} {name other : String} {value : α} :
    other ∈ (map.set name value).names ↔ other = name ∨ other ∈ map.names := by
  induction map with
  | nil => simp [set, names]
  | cons entry rest ih => by_cases h : entry.1 = name <;> grind [set, names]

/-- Setting a name leaves the names distinct. -/
theorem distinct_set {map : NameMap α} (h : map.Distinct) (name : String) (value : α) :
    (map.set name value).Distinct := by
  induction map with
  | nil => simp [set, Distinct, names]
  | cons entry rest ih =>
    have hr : NameMap.Distinct rest := by simp_all [Distinct, names]
    have ha : entry.1 ∉ names rest := by simp_all [Distinct, names]
    by_cases he : entry.1 = name
    · simp_all [set, Distinct, names]
    · have hm : entry.1 ∉ names (set rest name value) := by
        rw [mem_names_set]; simp_all
      have := ih hr
      simp_all [set, Distinct, names]

/-- What a map holds once a name has been set: the new value, and of the other names what it held. -/
theorem mem_set {map : NameMap α} (h : map.Distinct) {name : String} {value : α} {entry : String × α} :
    entry ∈ map.set name value ↔ entry = (name, value) ∨ entry.1 ≠ name ∧ entry ∈ map := by
  induction map with
  | nil => simp [set]
  | cons first rest ih =>
    obtain ⟨hfirst, hrest⟩ := List.nodup_cons.mp h
    by_cases hname : first.1 = name
    · -- The replaced entry was the only one of its name, so the others stay whatever they are.
      have hother : ∀ other ∈ rest, other.1 ≠ name := by
        intro other ho heq
        exact hfirst (List.mem_map.mpr ⟨other, ho, heq.trans hname.symm⟩)
      rw [set, if_pos hname, List.mem_cons, List.mem_cons]
      constructor
      · rintro (heq | hmem)
        · exact .inl heq
        · exact .inr ⟨hother entry hmem, .inr hmem⟩
      · rintro (heq | ⟨hne, rfl | hmem⟩)
        · exact .inl heq
        · exact absurd hname hne
        · exact .inr hmem
    · rw [set, if_neg hname, List.mem_cons, List.mem_cons, ih hrest]
      constructor
      · rintro (rfl | heq | ⟨hne, hmem⟩)
        · exact .inr ⟨hname, .inl rfl⟩
        · exact .inl heq
        · exact .inr ⟨hne, .inr hmem⟩
      · rintro (heq | ⟨hne, heq | hmem⟩)
        · exact .inr (.inl heq)
        · exact .inl heq
        · exact .inr (.inr ⟨hne, hmem⟩)

theorem ofEntries_concat (entries : List (String × α)) (entry : String × α) :
    ofEntries (entries ++ [entry]) = (ofEntries entries).set entry.1 entry.2 := by
  rw [ofEntries, List.foldl_append]
  rfl

/-- The map of a list of entries has each name once, however often the list has it. -/
theorem distinct_ofEntries (entries : List (String × α)) : (ofEntries entries).Distinct := by
  have hfold : ∀ map : NameMap α, map.Distinct →
      NameMap.Distinct (entries.foldl (fun map entry => map.set entry.1 entry.2) map) := by
    induction entries with
    | nil => exact fun _ h => h
    | cons entry entries ih => exact fun map h => ih _ (distinct_set h entry.1 entry.2)
  exact hfold [] List.nodup_nil

end NameMap

end BackupConsole
