/-
The path that steps lead to.

Whatever a path has led to before its last slash, steps behind that slash lead on
from there, and a step that does not stand for dots leads nowhere else. A path that
is written can be cut into its steps again, so it has steps of its own.
-/
import RelayHub.Proofs.Net.Percent
import RelayHub.Proofs.Text.Cut

set_option autoImplicit false

namespace RelayHub.UrlPath

/-! ## Resolving -/

/-- What a step that is not the last one makes of the steps before it, which are in
reverse. -/
def walk (back : List (List Char)) (s : List Char) : List (List Char) :=
  if plainDots s = ['.', '.'] then stepBack back
  else if plainDots s = ['.'] then back
  else s :: back

theorem resolve_append {rest : List (List Char)} (hrest : rest ≠ []) (back : List (List Char))
    (front : List (List Char)) :
    resolve id back (front ++ rest) = resolve id (front.foldl walk back) rest := by
  induction front generalizing back with
  | nil => rfl
  | cons s front ih =>
    -- Only at the last step is it asked what follows, and that is none of these.
    have hlast : (front ++ rest).isEmpty = false := by simp [hrest]
    simp only [List.cons_append, List.foldl_cons, resolve, walk, hlast, Bool.false_eq_true,
      if_false, id_eq, ite_self]
    split
    · exact ih _
    · split <;> exact ih _

/-- Whether a step stands for dots. -/
def IsDots (s : List Char) : Prop :=
  plainDots s = ['.'] ∨ plainDots s = ['.', '.']

instance (s : List Char) : Decidable (IsDots s) :=
  inferInstanceAs (Decidable (_ ∨ _))

theorem resolve_of_not_isDots {steps : List (List Char)} (h : ∀ s ∈ steps, ¬ IsDots s)
    (back : List (List Char)) : resolve id back steps = back.reverse ++ steps := by
  induction steps generalizing back with
  | nil => rw [resolve, List.append_nil]
  | cons s steps ih =>
    obtain ⟨hone, htwo⟩ := not_or.1 (h s List.mem_cons_self)
    simp only [resolve, id_eq, ite_self]
    rw [if_neg htwo, if_neg hone, ih fun t ht => h t (List.mem_cons_of_mem s ht), List.reverse_cons,
      List.append_assoc]
    rfl

/-! ## Reading -/

/-- A text without encoded bytes in it is a step of dots only if it is dots. -/
theorem not_isDots_encode {cs : List Char} (hplain : Percent.decode cs = Utf8.encodeChars cs)
    (hone : cs ≠ ['.']) (htwo : cs ≠ ['.', '.']) :
    ¬ IsDots (Percent.encode Percent.notInPath cs) := by
  have hbytes {ds : List Char} (h : plainDots (Percent.encode Percent.notInPath cs) = ds)
      (hds : Percent.decode ds = Utf8.encodeChars ds) : cs = ds := by
    have hdecoded := decode_plainDots (Percent.encode Percent.notInPath cs)
    rw [h, Percent.decode_encode_notInPath, hplain, hds] at hdecoded
    have hsame : Utf8.encode (String.ofList cs) = Utf8.encode (String.ofList ds) := by
      rw [Utf8.encode, Utf8.encode, String.toList_ofList, String.toList_ofList, hdecoded]
    exact String.ofList_inj.1 (Utf8.encode_injective hsame)
  rintro (h | h)
  · exact hone (hbytes h (by decide))
  · exact htwo (hbytes h (by decide))

/-- The steps of a text that is cut at slashes, as they are written. -/
def writtenSteps (cs : List Char) : List (List Char) :=
  (pieces isSlash cs).map (Percent.encode Percent.notInPath)

theorem writtenSteps_ne_nil (cs : List Char) : writtenSteps cs ≠ [] := by
  rw [writtenSteps, Ne, List.map_eq_nil_iff]
  exact pieces_ne_nil isSlash cs

/-- What is behind a slash is resolved after what is before it. -/
theorem onWeb_append (cs ds : List Char) :
    onWeb (cs ++ '/' :: ds)
      = ofSteps (resolve id ((writtenSteps cs).foldl walk []) (writtenSteps ds)) := by
  rw [onWeb, stepsOf, pieces_append (by decide), List.map_append]
  exact congrArg ofSteps (resolve_append (writtenSteps_ne_nil ds) [] (writtenSteps cs))

/-! ## Writing -/

theorem toList_text (steps : List String) :
    (text (.steps steps)).toList = (steps.map String.toList).flatMap ('/' :: ·) := by
  rw [text, String.toList_join, List.flatMap_map, List.flatMap_map]
  simp only [String.toList_append]
  rfl

theorem text_append (front rest : List String) :
    text (.steps (front ++ rest)) = text (.steps front) ++ text (.steps rest) := by
  rw [← String.toList_inj, String.toList_append, toList_text, toList_text, toList_text,
    List.map_append, List.flatMap_append]

/-- Paths of steps without slashes are the same if they are written the same. -/
theorem steps_of_text {steps steps' : List String} (h : text (.steps steps) = text (.steps steps'))
    (hsteps : ∀ s ∈ steps, '/' ∉ s.toList) (hsteps' : ∀ s ∈ steps', '/' ∉ s.toList) :
    steps = steps' := by
  have hpieces {ss : List String} (hss : ∀ s ∈ ss, '/' ∉ s.toList) :
      pieces (· = '/') (text (.steps ss)).toList = [] :: ss.map String.toList := by
    rw [toList_text]
    refine pieces_joined (by decide) (fun d hd => absurd hd List.not_mem_nil) ?_
    intro piece hpiece d hd
    obtain ⟨s, hs, rfl⟩ := List.mem_map.1 hpiece
    exact decide_eq_false fun heq => hss s hs (heq ▸ hd)
  have hsame := hpieces hsteps
  rw [h, hpieces hsteps'] at hsame
  have hlists := (List.cons.inj hsame).2
  exact ((List.map_inj_right fun s t => String.toList_inj.1).1 hlists).symm

end RelayHub.UrlPath
