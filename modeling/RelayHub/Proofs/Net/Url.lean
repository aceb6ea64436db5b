/-
Addresses below an address.

What is put behind an address on the web that ends in a slash changes nothing of
the scheme and of the authority, and its steps lead on from the path of that
address, if it has no blank at its end and none of the few characters that do not
reach the path: question marks and hash signs, which end it, and tabs and line
breaks, which are dropped.
-/
import RelayHub.Net.Url
import RelayHub.Proofs.Net.UrlPath

set_option autoImplicit false

namespace RelayHub.Url

open UrlPath (isSlash ofSteps resolve walk writtenSteps)

/-- The characters that do not reach the path of an address: two end it, and three
are dropped. -/
def outOfPath : List Char := ['?', '#', '\t', '\n', '\r']

/-- A text that reaches the path of an address as a whole, behind a slash. -/
structure ReachesPath (cs : List Char) : Prop where
  inside : ∀ c ∈ cs, c ∉ outOfPath
  ends : ∀ c ∈ ('/' :: cs).getLast?, 0x20 < c.toNat

theorem reachesPath_nil : ReachesPath [] where
  inside := by simp
  ends := by simp

/-! ## From the front of an address -/

/-- Whether a character is taken off the ends of an address. -/
def isEdge (c : Char) : Bool :=
  decide (c.toNat ≤ 0x20)

/-- Whether a character is left inside an address. -/
def isKept (c : Char) : Bool :=
  c.toNat ≠ 9 && c.toNat ≠ 10 && c.toNat ≠ 13

theorem isKept_of_not_mem {c : Char} (h : c ∉ outOfPath) : isKept c = true := by
  have hcode {x : Char} (hx : x ∈ outOfPath) : c.toNat ≠ x.toNat := by
    intro hsame
    rw [Char.toNat_inj.1 hsame] at h
    exact h hx
  have htab : c.toNat ≠ 9 := hcode (x := '\t') (by decide)
  have hline : c.toNat ≠ 10 := hcode (x := '\n') (by decide)
  have hreturn : c.toNat ≠ 13 := hcode (x := '\r') (by decide)
  simp [isKept, htab, hline, hreturn]

theorem clean_eq (cs : List Char) :
    clean cs = ((cs.dropWhile isEdge).reverse.dropWhile isEdge).reverse.filter isKept := rfl

/-- A slash keeps apart what is taken off an address before and behind it. -/
theorem clean_append {ds : List Char} (hds : ReachesPath ds) (cs : List Char) :
    clean (cs ++ '/' :: ds) = (cs.dropWhile isEdge).filter isKept ++ '/' :: ds := by
  have hsplit := List.dropLast_concat_getLast (List.cons_ne_nil '/' ds)
  have hlast := hds.ends _ (List.getLast?_eq_some_getLast (List.cons_ne_nil '/' ds))
  have htrimmed (zs : List Char) :
      (zs ++ '/' :: ds).reverse.dropWhile isEdge = (zs ++ '/' :: ds).reverse := by
    rw [← hsplit, ← List.append_assoc, List.reverse_concat,
      List.dropWhile_cons_of_neg (by simpa [isEdge] using hlast)]
  have hkept : ('/' :: ds).filter isKept = '/' :: ds := by
    rw [List.filter_eq_self, List.forall_mem_cons]
    exact ⟨by decide, fun c hc => isKept_of_not_mem (hds.inside c hc)⟩
  rw [clean_eq, dropWhile_append_cons (by decide), htrimmed, List.reverse_reverse,
    List.filter_append, hkept]

theorem schemeOf?_eq_some_iff {cs rest : List Char} {scheme : String} :
    schemeOf? cs = some (scheme, rest) ↔
      cs.dropWhile isInScheme = ':' :: rest ∧ cs.head?.any Char.isAlpha = true ∧
        scheme = String.ofList ((cs.takeWhile isInScheme).map Char.toLower) := by
  unfold schemeOf?
  split
  · rename_i rest' hdrop
    rw [hdrop]
    split
    · rename_i halpha
      simp only [Option.some.injEq, Prod.mk.injEq, List.cons.injEq, true_and]
      constructor
      · rintro ⟨rfl, rfl⟩
        exact ⟨rfl, halpha, rfl⟩
      · rintro ⟨rfl, -, rfl⟩
        exact ⟨rfl, rfl⟩
    · rename_i halpha
      simp [halpha]
  · rename_i hdrop
    simp only [reduceCtorEq, false_iff, not_and]
    intro hcolon
    exact absurd hcolon (hdrop rest)

theorem schemeOf?_append {cs rest : List Char} {scheme : String}
    (h : schemeOf? (cs ++ ['/']) = some (scheme, rest)) :
    ∃ front, rest = front ++ ['/'] ∧
      ∀ ds, schemeOf? (cs ++ '/' :: ds) = some (scheme, front ++ '/' :: ds) := by
  obtain ⟨hdrop, halpha, rfl⟩ := schemeOf?_eq_some_iff.1 h
  rw [dropWhile_append_cons (by decide)] at hdrop
  cases hfront : cs.dropWhile isInScheme with
  | nil =>
    rw [hfront] at hdrop
    cases hdrop
  | cons colon front =>
    rw [hfront] at hdrop
    obtain ⟨rfl, rfl⟩ := List.cons.inj hdrop
    refine ⟨front, rfl, ?_⟩
    intro ds
    rw [schemeOf?_eq_some_iff, dropWhile_append_cons (by decide), takeWhile_append_cons (by decide),
      takeWhile_append_cons (by decide), hfront]
    refine ⟨rfl, ?_, rfl⟩
    cases cs with
    | nil => cases hfront
    | cons c cs => exact halpha

/-! ## On the web -/

theorem authorityOf?_nil {scheme : String} (hkind : kindOf scheme = .web) :
    authorityOf? scheme [] = none := by
  rw [authorityOf?, hkind]
  rfl

theorem webPlace?_append {scheme : String} (hkind : kindOf scheme = .web) {front : List Char}
    {authority : Option Authority} {path : UrlPath}
    (h : webPlace? scheme (front ++ ['/']) = some (authority, path)) :
    ∃ back, ∀ ds, webPlace? scheme (front ++ '/' :: ds)
      = some (authority, ofSteps (resolve id back (writtenSteps ds))) := by
  cases hplace : front.dropWhile isSlash with
  | nil =>
    -- Only slashes are before the last one, so there is no host.
    have hslashes : (front ++ ['/']).dropWhile isSlash = [] := by
      rw [List.dropWhile_append, hplace]
      rfl
    rw [webPlace?, hslashes, List.takeWhile_nil, authorityOf?_nil hkind] at h
    cases h
  | cons c place =>
    have hdrop (ds : List Char) :
        (front ++ '/' :: ds).dropWhile isSlash = (c :: place) ++ '/' :: ds := by
      rw [List.dropWhile_append, hplace]
      rfl
    have hhost (ds : List Char) := takeWhile_append_cons (p := fun c => !isSlash c) (c := '/')
      (by decide) (c :: place) ds
    have hpath (ds : List Char) := dropWhile_append_cons (p := fun c => !isSlash c) (c := '/')
      (by decide) (c :: place) ds
    have hread (ds : List Char) : webPlace? scheme (front ++ '/' :: ds)
        = some (authority, .onWeb
            (((c :: place).dropWhile (fun c => !isSlash c) ++ '/' :: ds).drop 1)) := by
      rw [webPlace?, hdrop, hhost] at h ⊢
      obtain ⟨known, hknown, h⟩ := Option.bind_eq_some_iff.1 h
      obtain ⟨rfl, -⟩ := Prod.mk.inj (Option.some.inj h)
      rw [hknown, hpath]
      rfl
    -- The host may reach up to the last slash, or a path may begin before it.
    cases hrest : (c :: place).dropWhile fun c => !isSlash c with
    | nil => exact ⟨[], fun ds => by rw [hread, hrest]; rfl⟩
    | cons slash rest =>
      refine ⟨(writtenSteps rest).foldl walk [], ?_⟩
      intro ds
      rw [hread, hrest, List.cons_append, List.drop_succ_cons, List.drop_zero,
        UrlPath.onWeb_append]

/-- An address on the web with neither a query nor a fragment is a scheme and a
place, with no sign in it that would begin a query or a fragment. -/
theorem ofString_eq_some_iff {text scheme : String} (hkind : kindOf scheme = .web)
    {authority : Option Authority} {path : UrlPath} :
    ofString text = some ⟨scheme, authority, path, none, none⟩ ↔
      ∃ rest, schemeOf? (clean text.toList) = some (scheme, rest) ∧ '?' ∉ rest ∧ '#' ∉ rest ∧
        webPlace? scheme rest = some (authority, path) := by
  constructor
  · intro h
    obtain ⟨⟨scheme', rest⟩, hscheme, h⟩ := Option.bind_eq_some_iff.1 h
    dsimp only at h
    split at h
    · obtain ⟨place, hplace, h⟩ := Option.bind_eq_some_iff.1 h
      obtain ⟨rfl, rfl, rfl, hquery, hfragment⟩ := Url.mk.inj (Option.some.inj h)
      have hhash := none_of_cut (Option.map_eq_none_iff.1 hfragment)
      rw [cut_of_none hhash] at hquery hplace
      have hquestion := none_of_cut (Option.map_eq_none_iff.1 hquery)
      rw [cut_of_none hquestion] at hplace
      refine ⟨rest, hscheme, ?_, ?_, hplace⟩
      · exact fun hmem => by simpa using hquestion _ hmem
      · exact fun hmem => by simpa using hhash _ hmem
    -- Of the other kinds is no address that begins with this scheme.
    · rename_i hfile
      obtain ⟨_, -, h⟩ := Option.bind_eq_some_iff.1 h
      obtain rfl := (Url.mk.inj (Option.some.inj h)).1
      rw [hkind] at hfile
      cases hfile
    · rename_i hother
      obtain ⟨_, -, h⟩ := Option.bind_eq_some_iff.1 h
      obtain rfl := (Url.mk.inj (Option.some.inj h)).1
      rw [hkind] at hother
      cases hother
  · rintro ⟨rest, hscheme, hquestion, hhash, hplace⟩
    have hhash' : ∀ c ∈ rest, decide (c = '#') = false :=
      fun c hc => decide_eq_false fun heq => hhash (heq ▸ hc)
    have hquestion' : ∀ c ∈ rest, decide (c = '?') = false :=
      fun c hc => decide_eq_false fun heq => hquestion (heq ▸ hc)
    rw [ofString, hscheme]
    simp only [Option.bind_eq_bind, Option.bind_some, cut_of_none hhash', cut_of_none hquestion',
      hkind, hplace, Option.map_none]
    rfl

/-- An address on the web of a place, with no query and no fragment. -/
structure IsPlace (u : Url) : Prop where
  web : kindOf u.scheme = .web
  query : u.query = none
  fragment : u.fragment = none

/-- Texts behind an address on the web that ends in a slash are resolved from the
place that this address has. -/
theorem ofString_append {front : List Char} {base : Url}
    (hbase : ofString (String.ofList (front ++ ['/'])) = some base) (hplace : base.IsPlace) :
    ∃ back, ∀ ds, ReachesPath ds → ofString (String.ofList (front ++ '/' :: ds))
      = some { base with path := ofSteps (resolve id back (writtenSteps ds)) } := by
  obtain ⟨scheme, authority, path, query, fragment⟩ := base
  obtain ⟨hkind, hquery, hfragment⟩ := hplace
  dsimp only at hkind hquery hfragment
  subst hquery hfragment
  obtain ⟨rest, hscheme, hquestion, hhash, hread⟩ := (ofString_eq_some_iff hkind).1 hbase
  rw [String.toList_ofList, clean_append reachesPath_nil] at hscheme
  obtain ⟨place, rfl, hschemes⟩ := schemeOf?_append hscheme
  obtain ⟨back, hplaces⟩ := webPlace?_append hkind hread
  have hkept {x : Char} (hx : x = '?' ∨ x = '#') {ds : List Char} (hds : ReachesPath ds)
      (hfront : x ∉ place ++ ['/']) : x ∉ place ++ '/' :: ds := by
    intro hmem
    rw [List.append_cons, List.mem_append] at hmem
    obtain hmem | hmem := hmem
    · exact hfront hmem
    · exact hds.inside x hmem (by rcases hx with rfl | rfl <;> decide)
  refine ⟨back, ?_⟩
  intro ds hds
  rw [ofString_eq_some_iff hkind, String.toList_ofList, clean_append hds]
  exact ⟨_, hschemes ds, hkept (.inl rfl) hds hquestion, hkept (.inr rfl) hds hhash, hplaces ds⟩

/-! ## Steps below an address -/

/-- A text that is one step of a path where it stands in an address, and stands for
itself there. -/
structure IsStep (cs : List Char) : Prop where
  whole : ∀ c ∈ cs, c ∉ '/' :: '\\' :: outOfPath
  plain : Percent.decode cs = Utf8.encodeChars cs
  moves : cs ≠ ['.']
  down : cs ≠ ['.', '.']

instance (cs : List Char) : Decidable (IsStep cs) :=
  -- The characters of the text are looked through, and not all characters there are.
  have : Decidable (∀ c ∈ cs, c ∉ '/' :: '\\' :: outOfPath) := List.decidableBAll _ cs
  decidable_of_iff
    ((∀ c ∈ cs, c ∉ '/' :: '\\' :: outOfPath) ∧
      Percent.decode cs = Utf8.encodeChars cs ∧ cs ≠ ['.'] ∧ cs ≠ ['.', '.'])
    ⟨fun ⟨whole, plain, moves, down⟩ => ⟨whole, plain, moves, down⟩,
      fun h => ⟨h.whole, h.plain, h.moves, h.down⟩⟩

theorem IsStep.of_alphanum {cs : List Char} (h : ∀ c ∈ cs, c.isAlphanum = true) : IsStep cs := by
  have hother {x : Char} (hx : x.isAlphanum = false) : x ∉ cs := by
    intro hmem
    rw [h x hmem] at hx
    cases hx
  constructor
  case whole =>
    intro c hc hcut
    have hmarks : ∀ x ∈ '/' :: '\\' :: outOfPath, x.isAlphanum = false := by
      simp only [outOfPath, List.forall_mem_cons, List.not_mem_nil, false_implies, implies_true]
      decide
    exact hother (hmarks c hcut) hc
  case plain => exact Percent.decode_of_not_mem (hother rfl)
  case moves =>
    rintro rfl
    exact hother rfl (List.mem_singleton_self '.')
  case down =>
    rintro rfl
    exact hother rfl List.mem_cons_self

theorem IsStep.isSlash_of_mem {cs : List Char} (h : IsStep cs) {c : Char} (hc : c ∈ cs) :
    isSlash c = false := by
  have hwhole := h.whole c hc
  simp only [List.mem_cons, not_or] at hwhole
  simp [isSlash, hwhole.1, hwhole.2.1]

theorem IsStep.not_mem_of_mem {cs : List Char} (h : IsStep cs) {c : Char} (hc : c ∈ cs) :
    c ∉ outOfPath :=
  fun hcut => h.whole c hc (List.mem_cons_of_mem _ (List.mem_cons_of_mem _ hcut))

theorem reachesPath_joined {s : List Char} {rest : List (List Char)}
    (hsteps : ∀ t ∈ s :: rest, IsStep t)
    (hlast : ∀ t ∈ (s :: rest).getLast?, ∀ c ∈ t, 0x20 < c.toNat) :
    ReachesPath (s ++ rest.flatMap ('/' :: ·)) where
  inside := by
    intro c hc
    rw [List.mem_append, List.mem_flatMap] at hc
    obtain hc | ⟨t, ht, hc⟩ := hc
    · exact (hsteps s List.mem_cons_self).not_mem_of_mem hc
    · obtain rfl | hc := List.mem_cons.1 hc
      · decide
      · exact (hsteps t (List.mem_cons_of_mem s ht)).not_mem_of_mem hc
  ends := by
    have hne : s :: rest ≠ [] := List.cons_ne_nil s rest
    have hjoined := calc
      '/' :: (s ++ rest.flatMap ('/' :: ·)) = (s :: rest).flatMap ('/' :: ·) := rfl
      _ = ((s :: rest).dropLast ++ [(s :: rest).getLast hne]).flatMap ('/' :: ·) := by
        rw [List.dropLast_concat_getLast hne]
      _ = (s :: rest).dropLast.flatMap ('/' :: ·) ++ '/' :: (s :: rest).getLast hne := by
        rw [List.flatMap_append, List.flatMap_singleton]
    intro c hc
    rw [hjoined, List.getLast?_append, List.getLast?_eq_some_getLast (List.cons_ne_nil _ _),
      Option.some_or] at hc
    obtain rfl | hc := List.mem_cons.1 (List.mem_of_mem_getLast? hc)
    · decide
    · exact hlast _ (List.getLast?_eq_some_getLast hne) c hc

/-- Steps below an address on the web are the steps of its path and these, each as
it is written, if there is no blank in the last one. -/
theorem ofString_below {front : List Char} {base : Url}
    (hbase : ofString (String.ofList (front ++ ['/'])) = some base) (hplace : base.IsPlace) :
    ∃ start, base.path = .steps (start ++ [""]) ∧
      ∀ (s : List Char) (rest : List (List Char)), (∀ t ∈ s :: rest, IsStep t) →
        (∀ t ∈ (s :: rest).getLast?, ∀ c ∈ t, 0x20 < c.toNat) →
        ofString (String.ofList (front ++ (s :: rest).flatMap ('/' :: ·))) = some { base with
          path := .steps (start ++
            (s :: rest).map fun t => String.ofList (Percent.encode Percent.notInPath t)) } := by
  obtain ⟨back, hbelow⟩ := ofString_append hbase hplace
  refine ⟨back.reverse.map String.ofList, ?_, ?_⟩
  · -- Nothing behind the slash is a last step that is empty.
    have hself := hbelow [] reachesPath_nil
    have hempty : resolve id back (writtenSteps []) = back.reverse ++ [[]] :=
      UrlPath.resolve_of_not_isDots (by decide) back
    rw [hbase, hempty] at hself
    rw [congrArg Url.path (Option.some.inj hself), ofSteps, List.map_append]
    rfl
  · intro s rest hsteps hlast
    have hwritten : writtenSteps (s ++ rest.flatMap ('/' :: ·))
        = (s :: rest).map (Percent.encode Percent.notInPath) := by
      have hslash : ∀ t ∈ s :: rest, ∀ c ∈ t, isSlash c = false :=
        fun t ht c hc => (hsteps t ht).isSlash_of_mem hc
      rw [writtenSteps, pieces_joined (by decide) (hslash s List.mem_cons_self)
        fun t ht => hslash t (List.mem_cons_of_mem s ht)]
    have hresolved : resolve id back ((s :: rest).map (Percent.encode Percent.notInPath))
        = back.reverse ++ (s :: rest).map (Percent.encode Percent.notInPath) := by
      apply UrlPath.resolve_of_not_isDots
      intro written hwritten
      obtain ⟨t, ht, rfl⟩ := List.mem_map.1 hwritten
      exact UrlPath.not_isDots_encode (hsteps t ht).plain (hsteps t ht).moves (hsteps t ht).down
    have hread := hbelow _ (reachesPath_joined hsteps hlast)
    rw [hwritten, hresolved, ofSteps, List.map_append, List.map_map] at hread
    exact hread

end RelayHub.Url
