/-!
Maps from names, listed in the order of the names' code points. The main statements say what
changing one entry does to every look-up.
-/
namespace BenchReport

/-- Changes the entry of a name, or makes it, in a list ordered by name. -/
def NameMap.alterEntries {α : Type} (name : String) (change : Option α → α) :
    List (String × α) → List (String × α)
  | [] => [(name, change none)]
  | (key, value) :: rest =>
    if name < key then (name, change none) :: (key, value) :: rest
    else if name = key then (name, change (some value)) :: rest
    else (key, value) :: alterEntries name change rest

theorem NameMap.mem_alterEntries {α : Type} {name : String} {change : Option α → α}
    {entry : String × α} {entries : List (String × α)}
    (h : entry ∈ alterEntries name change entries) : entry.1 = name ∨ entry ∈ entries := by
  induction entries with
  | nil => simp_all [alterEntries]
  | cons head rest ih =>
    obtain ⟨key, value⟩ := head
    rw [alterEntries] at h
    split at h
    · rcases List.mem_cons.1 h with rfl | h
      · exact .inl rfl
      · exact .inr h
    · split at h <;> rcases List.mem_cons.1 h with rfl | h
      · exact .inl rfl
      · exact .inr (List.mem_cons_of_mem _ h)
      · exact .inr List.mem_cons_self
      · exact (ih h).imp_right (List.mem_cons_of_mem _)

theorem NameMap.sorted_alterEntries {α : Type} (name : String) (change : Option α → α)
    {entries : List (String × α)} (h : entries.Pairwise (·.1 < ·.1)) :
    (alterEntries name change entries).Pairwise (·.1 < ·.1) := by
  induction entries with
  | nil => simp [alterEntries]
  | cons head rest ih =>
    obtain ⟨key, value⟩ := head
    have ⟨below, tail⟩ := List.pairwise_cons.1 h
    rw [alterEntries]
    split
    case isTrue before =>
      refine List.pairwise_cons.2 ⟨fun entry mem => ?_, h⟩
      rcases List.mem_cons.1 mem with rfl | mem
      · exact before
      · exact String.lt_trans before (below entry mem)
    case isFalse notBefore =>
      split
      case isTrue same =>
        subst same
        exact List.pairwise_cons.2 ⟨below, tail⟩
      case isFalse other =>
        refine List.pairwise_cons.2 ⟨fun entry mem => ?_, ih tail⟩
        rcases mem_alterEntries mem with same | mem
        · simpa [same] using Std.lt_of_le_of_ne (String.not_lt.1 notBefore) (Ne.symm other)
        · exact below entry mem

/-- Values by name, in the order of names. -/
structure NameMap (α : Type) where
  entries : List (String × α)
  sorted : entries.Pairwise (·.1 < ·.1)

namespace NameMap

variable {α : Type}

def empty : NameMap α := ⟨[], .nil⟩

/-- Changes the value of a name, or makes it. -/
def alter (map : NameMap α) (name : String) (change : Option α → α) : NameMap α :=
  ⟨alterEntries name change map.entries, sorted_alterEntries name change map.sorted⟩

def insert (map : NameMap α) (name : String) (value : α) : NameMap α :=
  map.alter name fun _ => value

def get? (map : NameMap α) (name : String) : Option α :=
  (map.entries.find? fun entry => entry.1 = name).map (·.2)

def size (map : NameMap α) : Nat := map.entries.length

/-- The names, in order. -/
def names (map : NameMap α) : List String := map.entries.map (·.1)

/-- The values, in the order of their names. -/
def values (map : NameMap α) : List α := map.entries.map (·.2)

@[simp] theorem get?_empty (name : String) : (empty : NameMap α).get? name = none := rfl

theorem find?_alterEntries (name other : String) (change : Option α → α)
    {entries : List (String × α)} (h : entries.Pairwise (·.1 < ·.1)) :
    ((alterEntries name change entries).find? fun entry => entry.1 = other).map (·.2) =
      if name = other then
        some (change ((entries.find? fun entry => entry.1 = name).map (·.2)))
      else (entries.find? fun entry => entry.1 = other).map (·.2) := by
  induction entries with
  | nil => by_cases same : name = other <;> simp [alterEntries, same]
  | cons head rest ih =>
    obtain ⟨key, value⟩ := head
    have ⟨below, tail⟩ := List.pairwise_cons.1 h
    rw [alterEntries]
    split
    case isTrue before =>
      have absent : ((key, value) :: rest).find? (fun entry => entry.1 = name) = none := by
        simp only [List.find?_eq_none, decide_eq_true_eq]
        intro entry mem same
        subst same
        rcases List.mem_cons.1 mem with rfl | mem
        · exact String.lt_irrefl _ before
        · exact String.lt_irrefl _ (String.lt_trans before (below entry mem))
      by_cases same : name = other
      · subst same
        simp [absent]
      · simp [same]
    case isFalse notBefore =>
      split
      case isTrue equal =>
        subst equal
        by_cases same : name = other <;> simp [same]
      case isFalse differ =>
        have differ' : ¬ key = name := fun e => differ e.symm
        by_cases same : key = other
        · subst same
          simp [differ]
        · rw [List.find?_cons_of_neg (by simpa using same), ih tail]
          simp [same, differ']

/-- Changing one entry leaves every other look-up as it was. -/
theorem get?_alter (map : NameMap α) (name other : String) (change : Option α → α) :
    (map.alter name change).get? other =
      if name = other then some (change (map.get? name)) else map.get? other :=
  find?_alterEntries name other change map.sorted

@[simp] theorem get?_insert (map : NameMap α) (name other : String) (value : α) :
    (map.insert name value).get? other = if name = other then some value else map.get? other :=
  get?_alter map name other _

end NameMap

end BenchReport
