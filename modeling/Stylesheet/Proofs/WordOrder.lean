import Mathlib.Data.Finset.Card
import Mathlib.Data.List.Induction
import Stylesheet.WordSet

/-!
# The order of a word set

A word set lists its words in the order in which they came first. `FirstOccurrences` says so of a
list of words and what is left of it: every word once, and one in front of another if it came first
in front of the other. No two lists are left of the same words (`FirstOccurrences.unique`).

The list and the index of a set are written apart and read apart. Behind any calls both say the same
of the words that were given, and so does what insertion answers (`WordSet.inStep_behind`).
-/
namespace Stylesheet

/-- The words of a list, each once, in the order of their first occurrences. -/
structure FirstOccurrences (words listed : List String) : Prop where
  nodup : listed.Nodup
  mem_iff : ∀ word, word ∈ listed ↔ word ∈ words
  ordered : listed.Pairwise fun left right => words.idxOf left < words.idxOf right

/-- A word that did not occur is listed last, and one that did changes nothing. -/
theorem FirstOccurrences.concat {words listed : List String}
    (first : FirstOccurrences words listed) (word : String) :
    FirstOccurrences (words ++ [word]) (if word ∈ listed then listed else listed ++ [word]) := by
  have earlier : listed.Pairwise fun left right =>
      (words ++ [word]).idxOf left < (words ++ [word]).idxOf right := by
    refine first.ordered.imp_of_mem fun {left right} isLeft isRight before => ?_
    rwa [List.idxOf_append_of_mem ((first.mem_iff left).mp isLeft),
      List.idxOf_append_of_mem ((first.mem_iff right).mp isRight)]
  by_cases known : word ∈ listed
  · rw [if_pos known]
    refine ⟨first.nodup, fun other => ?_, earlier⟩
    have occurs := (first.mem_iff word).mp known
    rw [first.mem_iff, List.mem_append, List.mem_singleton]
    exact ⟨.inl, fun found => found.elim id fun same => same ▸ occurs⟩
  · rw [if_neg known]
    have fresh : word ∉ words := fun occurs => known ((first.mem_iff word).mpr occurs)
    refine ⟨?_, fun other => ?_, List.pairwise_append.mpr
      ⟨earlier, List.pairwise_singleton _ _, ?_⟩⟩
    · refine List.nodup_append.mpr ⟨first.nodup, by simp, fun left isLeft right isRight same => ?_⟩
      exact known (List.mem_singleton.mp isRight ▸ same ▸ isLeft)
    · rw [List.mem_append, List.mem_append, first.mem_iff]
    · intro left isLeft right isRight
      obtain rfl : right = word := List.mem_singleton.mp isRight
      have occurs := (first.mem_iff left).mp isLeft
      rw [List.idxOf_append_of_mem occurs, List.idxOf_append_of_notMem fresh]
      have within := List.idxOf_lt_length_of_mem occurs
      omega

/-- No other list is left of the words. -/
theorem FirstOccurrences.unique {words listed other : List String}
    (first : FirstOccurrences words listed) (second : FirstOccurrences words other) :
    listed = other := by
  have same : listed.Perm other := (List.perm_ext_iff_of_nodup first.nodup second.nodup).mpr
    fun word => (first.mem_iff word).trans (second.mem_iff word).symm
  refine same.eq_of_pairwise (fun left right _ _ before behind => ?_) first.ordered second.ordered
  exact absurd before behind.asymm

/-- As many words are left as there are different ones. -/
theorem FirstOccurrences.length_eq {words listed : List String}
    (first : FirstOccurrences words listed) : listed.length = words.toFinset.card := by
  have same : listed.toFinset = words.toFinset := by
    ext word
    rw [List.mem_toFinset, List.mem_toFinset, first.mem_iff]
  rw [← same, List.toFinset_card_of_nodup first.nodup]

namespace WordSet

/-- Insertion keeps the order. -/
theorem firstOccurrences_insert {given : List String} {set : WordSet}
    (first : FirstOccurrences given set.toList) (word : String) :
    FirstOccurrences (given ++ [word]) (set.insert word).toList := by
  rw [toList_insert]
  exact first.concat word

/-- So does insertion of many words. -/
theorem firstOccurrences_extend {given : List String} {set : WordSet}
    (first : FirstOccurrences given set.toList) (more : List String) :
    FirstOccurrences (given ++ more) (set.extend more).toList := by
  induction more generalizing given set with
  | nil => rwa [List.append_nil]
  | cons word more ih =>
    rw [List.append_cons]
    exact ih (firstOccurrences_insert first word)

/-- A set without words lists none. -/
theorem firstOccurrences_empty : FirstOccurrences [] empty.toList :=
  ⟨List.nodup_nil, fun _ => Iff.rfl, List.Pairwise.nil⟩

/-- The set of a list has its words in the order of their first occurrences. -/
theorem firstOccurrences_ofList (words : List String) :
    FirstOccurrences words (ofList words).toList :=
  firstOccurrences_extend firstOccurrences_empty words

/-! ## Calls -/

/-- What is asked of a word set. -/
inductive Call where
  /-- To start anew, with the words of a list. -/
  | ofList (words : List String)
  /-- To insert a word. -/
  | insert (word : String)
  /-- To insert the words of a list, first to last. -/
  | extend (words : List String)

/-- The set behind a call. -/
def Call.behind (set : WordSet) : Call → WordSet
  | ofList words => .ofList words
  | insert word => (set.insertNew word).2
  | extend words => set.extend words

/-- All words that were given, repeats included, behind a call. Those that were given before a set
starts anew do not count. -/
def Call.given (words : List String) : Call → List String
  | ofList fresh => fresh
  | insert word => words ++ [word]
  | extend more => words ++ more

/-- The set behind calls, first to last, on a set without words. -/
def behind (calls : List Call) : WordSet := calls.foldl Call.behind empty

/-- All words that were given by calls, first to last. -/
def given (calls : List Call) : List String := calls.foldl Call.given []

/-- The list of a set, its index, its size and what it answers to a word all go by the words that
were given. -/
structure InStep (given : List String) (set : WordSet) : Prop where
  /-- The words are listed once each, in the order of their first occurrences, and no others. -/
  toList_eq_iff : ∀ listed, set.toList = listed ↔ FirstOccurrences given listed
  /-- The index knows these words. -/
  contains_iff : ∀ word, set.contains word ↔ word ∈ given
  /-- Insertion answers whether a word is none of them. -/
  insertNew_iff : ∀ word, (set.insertNew word).1 ↔ word ∉ given
  /-- The size is their number. -/
  size_eq : set.size = given.toFinset.card

/-- All of it goes by the list. -/
theorem inStep_of_firstOccurrences {given : List String} {set : WordSet}
    (first : FirstOccurrences given set.toList) : InStep given set where
  toList_eq_iff _ := ⟨fun same => same ▸ first, fun other => first.unique other⟩
  contains_iff word := contains_iff.trans (first.mem_iff word)
  insertNew_iff word := insertNew_fst.trans (not_congr (first.mem_iff word))
  size_eq := first.length_eq

/-- Every call keeps the order. -/
theorem firstOccurrences_call {given : List String} {set : WordSet}
    (first : FirstOccurrences given set.toList) (call : Call) :
    FirstOccurrences (call.given given) (call.behind set).toList := by
  cases call with
  | ofList words => exact firstOccurrences_ofList words
  | insert word => exact firstOccurrences_insert first word
  | extend more => exact firstOccurrences_extend first more

/-- Behind any calls a set is in step with the words that were given. -/
theorem inStep_behind (calls : List Call) : InStep (given calls) (behind calls) := by
  apply inStep_of_firstOccurrences
  induction calls using List.reverseRecOn with
  | nil => exact firstOccurrences_empty
  | append_singleton calls call ih =>
    have words : given (calls ++ [call]) = call.given (given calls) := by
      rw [given, List.foldl_append]
      rfl
    have set : behind (calls ++ [call]) = call.behind (behind calls) := by
      rw [behind, List.foldl_append]
      rfl
    rw [words, set]
    exact firstOccurrences_call ih call

end WordSet

end Stylesheet
