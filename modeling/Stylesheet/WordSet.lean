import Std.Data.TreeSet.Lemmas

/-!
# Sets of words in order of first occurrence

The order of a `WordSet` is the order in which completion lists present its words. Membership
goes through an ordered index; `mem_index` and `nodup` keep the list and the index in step, so
every word that is listed is found, and none is listed twice.
-/
namespace Stylesheet

/-- Distinct words in the order in which they were first inserted. -/
structure WordSet where
  /-- The words, oldest first. -/
  words : Array String
  /-- The same words, for membership. -/
  index : Std.TreeSet String
  /-- The index holds exactly the listed words. -/
  mem_index : ∀ word, word ∈ index ↔ word ∈ words
  /-- No word is listed twice. -/
  nodup : words.toList.Nodup

namespace WordSet

/-- The set without words. -/
def empty : WordSet where
  words := #[]
  index := ∅
  mem_index := by simp
  nodup := List.nodup_nil

instance : Inhabited WordSet := ⟨empty⟩

/-- Exact membership: case matters. -/
def contains (set : WordSet) (word : String) : Bool := set.index.contains word

/-- The words, oldest first. -/
def toList (set : WordSet) : List String := set.words.toList

/-- The number of words. -/
def size (set : WordSet) : Nat := set.words.size

/-- Whether there are no words. -/
def isEmpty (set : WordSet) : Bool := set.words.isEmpty

/-- Membership is membership in the list. -/
theorem contains_iff {set : WordSet} {word : String} :
    set.contains word ↔ word ∈ set.toList := by
  rw [contains, Std.TreeSet.contains_iff_mem, set.mem_index, toList, Array.mem_toList_iff]

/-- Insertion of a word at the end, unless the set has it already, and whether it is new. -/
def insertNew (set : WordSet) (word : String) : Bool × WordSet :=
  if known : set.contains word then (false, set)
  else
    (true,
      { words := set.words.push word
        index := set.index.insert word
        mem_index := by
          intro other
          rw [Std.TreeSet.mem_insert, Std.LawfulEqCmp.compare_eq_iff_eq, set.mem_index,
            Array.mem_push, or_comm, eq_comm]
        nodup := by
          have fresh : word ∉ set.words.toList := fun listed => known (contains_iff.mpr listed)
          rw [Array.toList_push]
          exact List.nodup_append.mpr
            ⟨set.nodup, by simp, by simp; rintro a listed rfl; simp_all⟩ })

/-- A word is new when the set does not have it. -/
theorem insertNew_fst {set : WordSet} {word : String} :
    (set.insertNew word).1 ↔ word ∉ set.toList := by
  unfold insertNew
  split
  · next known => simp [contains_iff.mp known]
  · next fresh => simpa using fun listed => fresh (contains_iff.mpr listed)

/-- The set with one more word at the end; the same set when it has that word already. -/
def insert (set : WordSet) (word : String) : WordSet := (set.insertNew word).2

/-- What insertion does to the list. -/
theorem toList_insert (set : WordSet) (word : String) :
    (set.insert word).toList = if word ∈ set.toList then set.toList else set.toList ++ [word] := by
  unfold insert insertNew
  by_cases known : set.contains word
  · simp [known, contains_iff.mp known]
  · have fresh : word ∉ set.toList := fun listed => known (contains_iff.mpr listed)
    simp only [known, fresh]
    simp [toList]

/-- Insertion of many words, first to last. -/
def extend (set : WordSet) (more : List String) : WordSet := more.foldl insert set

/-- A set extended by some words has the words it had and those. -/
theorem mem_toList_extend {set : WordSet} {more : List String} {word : String} :
    word ∈ (set.extend more).toList ↔ word ∈ set.toList ∨ word ∈ more := by
  induction more generalizing set with
  | nil => simp [extend]
  | cons first more ih =>
    have step : set.extend (first :: more) = (set.insert first).extend more := rfl
    rw [step, ih, toList_insert]
    split
    · next listed =>
      simp only [List.mem_cons]
      exact ⟨Or.imp_right Or.inr, fun found => by rcases found with _ | rfl | _ <;> simp_all⟩
    · simp [or_assoc]

/-- The distinct words of a list. -/
def ofList (words : List String) : WordSet := empty.extend words

/-- A word belongs to the set of a list exactly when it is on the list. -/
@[simp] theorem contains_ofList (words : List String) (word : String) :
    (ofList words).contains word = words.contains word := by
  rw [Bool.eq_iff_iff, contains_iff, ofList, mem_toList_extend]
  simp [empty, toList]

end WordSet

end Stylesheet
