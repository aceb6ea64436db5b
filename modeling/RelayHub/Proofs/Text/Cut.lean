/-
Texts that are cut at some of their characters.

A text is whole again when its pieces are put together, so what has no separator
is one piece, and a separator between two texts parts the pieces of the one from
the pieces of the other.
-/
import Mathlib.Data.List.TakeWhile
import RelayHub.Text.Cut

set_option autoImplicit false

namespace RelayHub

variable {cuts : Char → Bool} {cs ds : List Char} {c : Char}

/-! ## At the first separator -/

/-- What is behind a character that ends the search is not looked at. -/
theorem dropWhile_append_cons {p : Char → Bool} (hc : p c = false) (cs ds : List Char) :
    (cs ++ c :: ds).dropWhile p = cs.dropWhile p ++ c :: ds := by
  rw [List.dropWhile_append]
  split
  · rename_i hempty
    rw [List.isEmpty_iff.1 hempty, List.dropWhile_cons_of_neg (by simp [hc]), List.nil_append]
  · rfl

theorem takeWhile_append_cons {p : Char → Bool} (hc : p c = false) (cs ds : List Char) :
    (cs ++ c :: ds).takeWhile p = cs.takeWhile p := by
  rw [List.takeWhile_append]
  split
  · rw [List.takeWhile_cons_of_neg (by simp [hc]), List.append_nil]
    rename_i hwhole
    exact ((List.takeWhile_prefix p).eq_of_length hwhole).symm
  · rfl

theorem cut_of_none (h : ∀ c ∈ cs, cuts c = false) : cut cuts cs = (cs, none) := by
  have htake : cs.takeWhile (fun c => !cuts c) = cs :=
    List.takeWhile_eq_self_iff.2 fun c hc => by simp [h c hc]
  have hdrop : cs.dropWhile (fun c => !cuts c) = [] :=
    List.dropWhile_eq_nil_iff.2 fun c hc => by simp [h c hc]
  rw [cut, htake, hdrop]

theorem none_of_cut (h : (cut cuts cs).2 = none) : ∀ c ∈ cs, cuts c = false := by
  have hdrop : cs.dropWhile (fun c => !cuts c) = [] := by
    rw [cut] at h
    cases hrest : cs.dropWhile fun c => !cuts c with
    | nil => rfl
    | cons c rest =>
      rw [hrest] at h
      cases h
  intro c hc
  simpa using List.dropWhile_eq_nil_iff.1 hdrop c hc

/-! ## At every separator -/

theorem pieces_cons (cuts : Char → Bool) (c : Char) (cs : List Char) :
    pieces cuts (c :: cs)
      = if cuts c then [] :: pieces cuts cs else consPiece c (pieces cuts cs) := rfl

theorem pieces_ne_nil (cuts : Char → Bool) (cs : List Char) : pieces cuts cs ≠ [] := by
  cases cs with
  | nil => exact List.cons_ne_nil _ _
  | cons c cs =>
    rw [pieces_cons]
    split
    · exact List.cons_ne_nil _ _
    · unfold consPiece
      split <;> exact List.cons_ne_nil _ _

theorem consPiece_append {front : List (List Char)} (h : front ≠ []) (c : Char)
    (rest : List (List Char)) : consPiece c (front ++ rest) = consPiece c front ++ rest := by
  cases front with
  | nil => exact absurd rfl h
  | cons piece front => rfl

theorem pieces_append (hc : cuts c = true) (cs ds : List Char) :
    pieces cuts (cs ++ c :: ds) = pieces cuts cs ++ pieces cuts ds := by
  induction cs with
  | nil =>
    rw [List.nil_append, pieces_cons, if_pos hc]
    rfl
  | cons d cs ih =>
    rw [List.cons_append, pieces_cons, pieces_cons, ih]
    split
    · rfl
    · exact consPiece_append (pieces_ne_nil cuts cs) d _

theorem pieces_of_none (h : ∀ c ∈ cs, cuts c = false) : pieces cuts cs = [cs] := by
  induction cs with
  | nil => rfl
  | cons c cs ih =>
    rw [pieces_cons, if_neg (by simp [h c List.mem_cons_self]),
      ih fun d hd => h d (List.mem_cons_of_mem c hd)]
    rfl

/-- Texts without separators are the pieces of what they make with a separator
before each but the first. -/
theorem pieces_joined (hc : cuts c = true) (hcs : ∀ d ∈ cs, cuts d = false)
    {rest : List (List Char)} (hrest : ∀ piece ∈ rest, ∀ d ∈ piece, cuts d = false) :
    pieces cuts (cs ++ rest.flatMap (c :: ·)) = cs :: rest := by
  induction rest generalizing cs with
  | nil => rw [List.flatMap_nil, List.append_nil, pieces_of_none hcs]
  | cons piece rest ih =>
    rw [List.flatMap_cons, List.cons_append, pieces_append hc, pieces_of_none hcs,
      ih (hrest piece List.mem_cons_self) fun p hp => hrest p (List.mem_cons_of_mem _ hp)]
    rfl

end RelayHub
