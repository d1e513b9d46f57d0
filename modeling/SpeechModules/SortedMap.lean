import Mathlib.Data.List.Basic
import Mathlib.Data.List.Pairwise

/-!
# Maps as ascending lists of entries

An ordered map is the list of its entries in ascending order of their keys.
Iteration is the list itself, and inserting entries in that order builds the
map again.
-/

namespace SpeechModules

/-- A map whose entries are listed in strictly ascending order of their keys. -/
@[ext]
structure SortedMap (κ β : Type*) [LT κ] where
  entries : List (κ × β)
  ascending : entries.Pairwise fun first second => first.1 < second.1

namespace SortedMap

variable {κ β : Type*} [LT κ] [DecidableLT κ]

/-- Assignment to a key of an ascending list of entries. -/
def insertEntry (key : κ) (value : β) : List (κ × β) → List (κ × β)
  | [] => [(key, value)]
  | (first, firstValue) :: rest =>
      if key < first then (key, value) :: (first, firstValue) :: rest
      else if first < key then
        (first, firstValue) :: insertEntry key value rest
      else (key, value) :: rest

theorem mem_insertEntry {key : κ} {value : β} {entries : List (κ × β)}
    {entry : κ × β} (member : entry ∈ insertEntry key value entries) :
    entry = (key, value) ∨ entry ∈ entries := by
  induction entries with
  | nil => exact Or.inl (List.mem_singleton.mp member)
  | cons first rest ih =>
      unfold insertEntry at member
      split at member
      · exact List.mem_cons.mp member
      · split at member
        · rcases List.mem_cons.mp member with rfl | member
          · simp
          · rcases ih member with same | member
            · exact Or.inl same
            · exact Or.inr (List.mem_cons_of_mem _ member)
        · rcases List.mem_cons.mp member with same | member
          · exact Or.inl same
          · exact Or.inr (List.mem_cons_of_mem _ member)

variable [Trans (α := κ) (· < ·) (· < ·) (· < ·)]

theorem insertEntry_ascending [Std.Trichotomous (α := κ) (· < ·)]
    {key : κ} {value : β} {entries : List (κ × β)}
    (ascending : entries.Pairwise fun first second => first.1 < second.1) :
    (insertEntry key value entries).Pairwise
      fun first second => first.1 < second.1 := by
  induction entries with
  | nil => exact List.pairwise_singleton _ _
  | cons first rest ih =>
      obtain ⟨below, ascendingRest⟩ := List.pairwise_cons.mp ascending
      unfold insertEntry
      split
      · next before =>
          apply List.pairwise_cons.mpr
          refine ⟨?_, ascending⟩
          intro entry member
          rcases List.mem_cons.mp member with rfl | member
          · exact before
          · exact Trans.trans before (below entry member)
      · next notBefore =>
          split
          · next behind =>
              apply List.pairwise_cons.mpr
              refine ⟨?_, ih ascendingRest⟩
              intro entry member
              rcases mem_insertEntry member with rfl | member
              · exact behind
              · exact below entry member
          · next notBehind =>
              have same : key = first.1 :=
                Std.Trichotomous.trichotomous key first.1 notBefore notBehind
              apply List.pairwise_cons.mpr
              refine ⟨?_, ascendingRest⟩
              intro entry member
              rw [same]
              exact below entry member

/-- A key above all others is inserted at the end. -/
theorem insertEntry_of_forall_lt [Std.Irrefl (α := κ) (· < ·)]
    {key : κ} {value : β} {entries : List (κ × β)}
    (above : ∀ entry ∈ entries, entry.1 < key) :
    insertEntry key value entries = entries ++ [(key, value)] := by
  induction entries with
  | nil => rfl
  | cons first rest ih =>
      have firstBelow : first.1 < key := above first (by simp)
      have notBefore : ¬ key < first.1 := by
        intro before
        exact Std.Irrefl.irrefl key (Trans.trans before firstBelow)
      rw [insertEntry, if_neg notBefore, if_pos firstBelow,
        ih (fun entry member => above entry (List.mem_cons_of_mem _ member)),
        List.cons_append]

variable [Std.Trichotomous (α := κ) (· < ·)]

/-- Assignment to a key of a map. -/
def insert (key : κ) (value : β) (map : SortedMap κ β) : SortedMap κ β where
  entries := insertEntry key value map.entries
  ascending := insertEntry_ascending map.ascending

/-- The map that has been assigned the entries of a list one after another. -/
def ofList (entries : List (κ × β)) : SortedMap κ β :=
  entries.foldl (fun map entry => map.insert entry.1 entry.2)
    ⟨[], List.Pairwise.nil⟩

variable [Std.Irrefl (α := κ) (· < ·)]

theorem foldl_insert_entries {entries : List (κ × β)} {map : SortedMap κ β}
    (ascending : (map.entries ++ entries).Pairwise
      fun first second => first.1 < second.1) :
    (entries.foldl (fun map entry => map.insert entry.1 entry.2)
      map).entries = map.entries ++ entries := by
  induction entries generalizing map with
  | nil => simp
  | cons entry entries ih =>
      have above : ∀ other ∈ map.entries, other.1 < entry.1 := by
        intro other member
        exact (List.pairwise_append.mp ascending).2.2 other member entry
          (by simp)
      have inserted : (map.insert entry.1 entry.2).entries =
          map.entries ++ [entry] :=
        insertEntry_of_forall_lt above
      rw [List.foldl_cons, ih, inserted, List.append_assoc,
        List.singleton_append]
      rw [inserted, List.append_assoc, List.singleton_append]
      exact ascending

/-- Inserting the entries of a map builds the map again. -/
theorem ofList_entries (map : SortedMap κ β) : ofList map.entries = map := by
  apply SortedMap.ext
  rw [ofList, foldl_insert_entries, List.nil_append]
  exact map.ascending

end SortedMap

end SpeechModules
