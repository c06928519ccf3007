import Mathlib.Data.List.Infix

/-!
# Finding a word and reading on behind it

`find` is the substring search of string classes: the first position at which
a word occurs. A scanner that searches a word and then reads a run of
characters from a fixed offset reads inside the word while the offset is
shorter than it: `run_eq_nil_of_find`.
-/

namespace Lib.Scan

variable {α : Type} [DecidableEq α]

/-- The first position of `word` in a text. -/
def find (word : List α) : List α → Option Nat
  | [] => if word = [] then some 0 else none
  | c :: text =>
      if word <+: c :: text then some 0 else (find word text).map (· + 1)

theorem find_isPrefix {word text : List α} {i : Nat} (h : find word text = some i) :
    word <+: text.drop i := by
  induction text generalizing i with
  | nil =>
      simp only [find] at h
      split at h
      · rename_i hnil
        rw [hnil]
        exact List.nil_prefix
      · cases h
  | cons c text ih =>
      simp only [find] at h
      split at h
      · rename_i hpre
        cases h
        exact hpre
      · obtain ⟨j, hj, rfl⟩ := Option.map_eq_some_iff.mp h
        exact ih hj

theorem find_eq_none_iff {word text : List α} :
    find word text = none ↔ ¬ word <:+: text := by
  induction text with
  | nil =>
      rw [List.infix_nil]
      simp [find]
  | cons c text ih =>
      rw [List.infix_cons_iff]
      simp only [find]
      by_cases hpre : word <+: c :: text
      · simp [hpre]
      · simp [hpre, ih]

/-- The run of `p`-characters that starts at a position. -/
def run (p : α → Bool) (text : List α) (i : Nat) : List α := (text.drop i).takeWhile p

/-- Behind the first `k` characters of a word that was found stands the next
character of the word: where that one is no `p`-character, the run is empty. -/
theorem run_eq_nil_of_find {p : α → Bool} {word text : List α} {i k : Nat} {c : α}
    (hfind : find word text = some i) (hc : word[k]? = some c) (hp : p c = false) :
    run p text (i + k) = [] := by
  obtain ⟨rest, hrest⟩ := find_isPrefix hfind
  have hk : k < word.length := (List.getElem?_eq_some_iff.mp hc).1
  have hdrop : text.drop (i + k) = c :: (text.drop (i + k)).tail := by
    have hhead : (text.drop (i + k)).head? = some c := by
      rw [← List.drop_drop, ← hrest, List.head?_drop, List.getElem?_append_left hk, hc]
    cases h : text.drop (i + k) with
    | nil =>
        rw [h] at hhead
        cases hhead
    | cons d tl =>
        rw [h] at hhead
        cases hhead
        rfl
  unfold run
  rw [hdrop, List.takeWhile_cons, hp]
  rfl

end Lib.Scan
