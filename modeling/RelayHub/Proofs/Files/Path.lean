/-
Names and extensions of paths, and names below a path.

The file beside another one that differs from it in its extension is another
file: both lie in one directory, and their names differ. The paths without such
a neighbour are those that have the extension already, and those that have no
name at all and lead to directories.

A name put below a path adds one step to it, whatever the path looks like, if
the name is a single step and not a sign for a directory.
-/
import RelayHub.Files.Path

set_option autoImplicit false

namespace RelayHub.Path

/-- The name a path ends in, if it does not end in two dots. -/
def name? (p : Path) : Option String :=
  p.steps.getLast?.filter (· ≠ "..")

/-- What stands behind the last dot of a name, unless the dot comes first. -/
def extensionOf (name : String) : Option String :=
  let reversed := name.toList.reverse
  match reversed.dropWhile (· ≠ '.') with
  | _ :: before =>
    if before.isEmpty then none else some (String.ofList (reversed.takeWhile (· ≠ '.')).reverse)
  | [] => none

/-- The extension of a path. -/
def extension? (p : Path) : Option String :=
  p.name?.bind extensionOf

/-- A path that leads to no file, or to a file with another name than the file
of a second path in the same directory. -/
def Apart (p q : Path) : Prop :=
  p.name? = none ∨
    (p.absolute = q.absolute ∧ p.steps.dropLast = q.steps.dropLast ∧ p.name? ≠ q.name?)

/-- A name gets longer, or another name, by an extension that it does not
have. -/
theorem stem_append_ne {name extension : String} (h : extensionOf name ≠ some extension) :
    stem name ++ "." ++ extension ≠ name := by
  intro heq
  have hlist := congrArg String.toList heq
  simp only [String.toList_append] at hlist
  have hcut := List.takeWhile_append_dropWhile (p := (· ≠ '.')) (l := name.toList.reverse)
  have hhead := List.head?_dropWhile_not (· ≠ '.') name.toList.reverse
  simp only [extensionOf] at h
  cases hbefore : name.toList.reverse.dropWhile (· ≠ '.') with
  | nil =>
    -- There is no dot, so the extension is added to the whole name.
    simp only [stem, hbefore, List.drop_nil, List.isEmpty_nil, if_true] at hlist
    have hlength := congrArg List.length hlist
    simp at hlength
  | cons dot before =>
    rw [hbefore] at h hhead hcut
    obtain rfl : dot = '.' := by simpa using hhead
    cases before with
    | nil =>
      simp only [stem, hbefore, List.drop_succ_cons, List.drop_zero, List.isEmpty_nil,
        if_true] at hlist
      have hlength := congrArg List.length hlist
      simp at hlength
    | cons c before =>
      -- The name is its stem, a dot and its extension, which differs from the new one.
      refine h ?_
      have hname : name.toList
          = (c :: before).reverse ++ ".".toList ++ (name.toList.reverse.takeWhile (· ≠ '.')).reverse := by
        have hreversed := congrArg List.reverse hcut
        rw [List.reverse_reverse, List.reverse_append, List.reverse_cons] at hreversed
        exact hreversed.symm
      simp only [stem, hbefore, List.drop_succ_cons, List.drop_zero, List.isEmpty_cons,
        Bool.false_eq_true, if_false, String.toList_ofList] at hlist
      rw [hname] at hlist
      have hextension := List.append_cancel_left hlist
      change some (String.ofList (name.toList.reverse.takeWhile (· ≠ '.')).reverse) = some extension
      rw [← hextension, String.ofList_toList]

/-- The path beside a path, with an extension that it does not have, leads to
another file. -/
theorem withExtension_apart {p : Path} {extension : String} (h : p.extension? ≠ some extension) :
    (p.withExtension extension).Apart p := by
  rw [withExtension]
  cases hlast : p.steps.getLast? with
  | none =>
    left
    rw [name?, hlast]
    rfl
  | some name =>
    dsimp only
    by_cases hup : name = ".."
    · left
      rw [if_pos hup, name?, hlast, hup]
      rfl
    · rw [if_neg hup]
      by_cases hdot : stem name = "." ∧ p.ending = .step
      · left
        rw [if_pos hdot, name?, ofSteps, List.getLast?_concat]
        rfl
      · rw [if_neg hdot]
        by_cases hnamed : (ofSteps p.absolute
            (p.steps.dropLast ++ [stem name ++ "." ++ extension])).name? = none
        · exact .inl hnamed
        · refine .inr ⟨rfl, List.dropLast_concat, ?_⟩
          have hname : p.name? = some name := by
            rw [name?, hlast]
            simp [Option.filter, hup]
          rw [extension?, hname, Option.bind_some] at h
          rw [hname, name?, ofSteps, List.getLast?_concat]
          intro hsame
          have hkept := Option.some.inj (Option.filter_eq_some_iff.1 hsame).1
          exact stem_append_ne h hkept

/-! ## Names below a path -/

/-- A text that is one step of a path, down to something with that name. -/
structure IsStep (name : String) : Prop where
  text : name ≠ ""
  whole : '/' ∉ name.toList
  moves : name ≠ "."
  down : name ≠ ".."

theorem segments_ne_nil (cs : List Char) : segments cs ≠ [] := by
  cases cs with
  | nil => simp [segments]
  | cons c cs =>
    rw [segments]
    split
    · simp
    · split <;> simp

/-- A slash cuts a text in two. -/
theorem segments_append (cs ds : List Char) :
    segments (cs ++ '/' :: ds) = segments cs ++ segments ds := by
  induction cs with
  | nil => simp [segments]
  | cons c cs ih =>
    rw [List.cons_append, segments, segments, ih]
    split
    · rfl
    · cases hsegments : segments cs with
      | nil => exact absurd hsegments (segments_ne_nil cs)
      | cons s rest => rfl

theorem segments_of_not_mem {cs : List Char} (h : '/' ∉ cs) : segments cs = [cs] := by
  induction cs with
  | nil => rfl
  | cons c cs ih =>
    rw [List.mem_cons, not_or] at h
    rw [segments, if_neg (Ne.symm h.1), ih h.2]

/-- The segments of a path with a name below it are those of the path and the
name. The path may have an empty segment more if it ends in a slash. -/
theorem segments_join (base : String) {name : String} (hname : IsStep name) :
    ∃ front, segments (join base name).toList = front ++ [name.toList] ∧
      (segments base.toList).filter (fun s => !isIdle s) = front.filter fun s => !isIdle s := by
  have hhead : ¬ name.toList.head? = some '/' := fun h => hname.whole (List.mem_of_head? h)
  have halone := segments_of_not_mem hname.whole
  rw [join, if_neg hhead]
  split
  · rename_i hempty
    obtain rfl := String.isEmpty_iff.1 hempty
    exact ⟨[], halone, rfl⟩
  · split
    · rename_i hslash
      obtain ⟨front, hfront⟩ := List.getLast?_eq_some_iff.1 hslash
      refine ⟨segments front, ?_, ?_⟩
      · rw [String.toList_append, hfront, List.append_assoc, List.singleton_append,
          segments_append, halone]
      · rw [hfront, segments_append, List.filter_append]
        simp [segments, isIdle]
    · refine ⟨segments base.toList, ?_, rfl⟩
      rw [String.toList_append, String.toList_append, List.append_assoc]
      change segments (base.toList ++ '/' :: name.toList) = _
      rw [segments_append, halone]

theorem isIdle_of_isStep {name : String} (hname : IsStep name) : isIdle name.toList = false := by
  have htext : name.toList ≠ [] := fun h => hname.text (String.toList_inj.1 h)
  have hmoves : name.toList ≠ ['.'] := fun h => hname.moves (String.toList_inj.1 h)
  simp [isIdle, htext, hmoves]

theorem steps_join {base name : String} (hname : IsStep name) :
    (ofString (join base name)).steps = (ofString base).steps ++ [name] := by
  obtain ⟨front, hsegments, hbase⟩ := segments_join base hname
  simp only [ofString]
  rw [hsegments, hbase, List.filter_append, List.map_append]
  simp [isIdle_of_isStep hname, String.ofList_toList]

theorem absolute_join {base name : String} (hname : IsStep name) :
    (ofString (join base name)).absolute = (ofString base).absolute := by
  have hhead : ¬ name.toList.head? = some '/' := fun h => hname.whole (List.mem_of_head? h)
  simp only [ofString]
  rw [join, if_neg hhead]
  split
  · rename_i hempty
    obtain rfl := String.isEmpty_iff.1 hempty
    simpa using hhead
  · rename_i hnonempty
    have hbase : base.toList ≠ [] := by
      intro h
      apply hnonempty
      rw [String.isEmpty_iff]
      exact String.toList_inj.1 h
    obtain ⟨c, cs, hcs⟩ := List.exists_cons_of_ne_nil hbase
    split <;> simp [hcs]

theorem ending_join {base name : String} (hname : IsStep name) :
    (ofString (join base name)).ending = .step := by
  obtain ⟨front, hsegments, -⟩ := segments_join base hname
  have htext : name.toList ≠ [] := fun h => hname.text (String.toList_inj.1 h)
  have hmoves : name.toList ≠ ['.'] := fun h => hname.moves (String.toList_inj.1 h)
  simp only [ofString]
  rw [hsegments, endOf, List.reverse_append]
  split
  · rfl
  · simp only [List.reverse_cons, List.reverse_nil, List.nil_append, List.singleton_append]
    split
    · rename_i heq
      exact absurd (List.cons.inj heq).1 htext
    · rename_i heq
      exact absurd (List.cons.inj heq).1 hmoves
    · rfl

theorem text_join {base name : String} (hname : IsStep name) :
    (ofString (join base name)).text.isEmpty = false := by
  rw [Bool.eq_false_iff]
  intro h
  have hempty : join base name = "" := String.isEmpty_iff.1 h
  obtain ⟨front, hsegments, -⟩ := segments_join base hname
  rw [hempty] at hsegments
  have hlast := congrArg List.getLast? hsegments
  rw [List.getLast?_concat] at hlast
  exact hname.text (String.toList_inj.1 (Option.some.inj hlast).symm)

end RelayHub.Path
