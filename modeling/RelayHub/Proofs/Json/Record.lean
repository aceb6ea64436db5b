/-
Records that read back what they write.

Members are read one by one into slots, each by looking through all fields for
its name. `Takes` says what one member does to the slots and `Reads` what
several do in a row, so a whole object comes down to one member at a time; and
what the later fields do with their members, they do behind a field of another
name as well, which is what the induction over the fields needs.
-/
import RelayHub.Json.Record
import RelayHub.Proofs.Json.Codec

set_option autoImplicit false

namespace RelayHub.Json

namespace Fields

variable {β γ σ : Type}

/-! ## Members -/

/-- A member of an object: its name and what is written for its value. -/
abbrev Member := String × Bytes

/-- What is written for a member. -/
def Member.bytes (m : Member) : Bytes :=
  writeText m.1 ++ colon :: m.2

/-- The members to write, with their names. -/
def named : {γ σ : Type} → Fields γ σ → γ → List Member
  | _, _, .none, _ => []
  | _, _, .more f others, (v, vs) =>
    if f.hides v then others.named vs else (f.name, f.codec.write v) :: others.named vs

/-- The slots after all members that are written have been read. -/
def filled : {γ σ : Type} → Fields γ σ → γ → σ
  | _, _, .none, _ => ()
  | _, _, .more f others, (v, vs) => (if f.hides v then Option.none else some v, others.filled vs)

/-- The names of the fields. -/
def names : {γ σ : Type} → Fields γ σ → List String
  | _, _, .none => []
  | _, _, .more f others => f.name :: others.names

theorem members_eq (fs : Fields γ σ) (vs : γ) : fs.members vs = (fs.named vs).map Member.bytes := by
  induction fs with
  | none => rfl
  | more f others ih =>
    obtain ⟨v, vs⟩ := vs
    rw [members, named]
    split
    · exact ih vs
    · rw [ih vs]
      rfl

theorem name_of_named (fs : Fields γ σ) (vs : γ) {m : Member} (hm : m ∈ fs.named vs) :
    m.1 ∈ fs.names := by
  induction fs with
  | none => cases hm
  | more f others ih =>
    obtain ⟨v, vs⟩ := vs
    rw [named] at hm
    split at hm
    · exact List.mem_cons_of_mem _ (ih vs hm)
    · rcases List.mem_cons.1 hm with rfl | hm
      · exact List.mem_cons_self
      · exact List.mem_cons_of_mem _ (ih vs hm)

/-! ## Faithful fields -/

/-- Fields whose codecs are faithful, whose names are different, and which are
left out only when they hold what they are taken to hold then. -/
def Faithful : {γ σ : Type} → Fields γ σ → Prop
  | _, _, .none => True
  | _, _, .more f others =>
    f.codec.Faithful ∧ (∀ v, f.hides v = true → f.presence.inObject? = some v) ∧
      f.name ∉ others.names ∧ others.Faithful

theorem Faithful.none : Fields.none.Faithful := trivial

section Kinds

variable {others : Fields γ σ} {name : String} {c : Codec β}

theorem Faithful.required (hc : c.Faithful) (hname : name ∉ others.names) (h : others.Faithful) :
    (more (.required name c) others).Faithful :=
  ⟨hc, ⟨fun _ hhides => Bool.noConfusion hhides, hname, h⟩⟩

theorem Faithful.defaulted (hc : c.Faithful) {value : β} (hname : name ∉ others.names)
    (h : others.Faithful) : (more (.defaulted name c value) others).Faithful :=
  ⟨hc, ⟨fun _ hhides => Bool.noConfusion hhides, hname, h⟩⟩

theorem Faithful.nullable (hc : c.Faithful) (hnull : c.NeverNull) (hname : name ∉ others.names)
    (h : others.Faithful) : (more (.nullable name c) others).Faithful :=
  ⟨Codec.optional_faithful hc hnull,
    ⟨fun _ hhides => Bool.noConfusion hhides, hname, h⟩⟩

theorem Faithful.optional (hc : c.Faithful) (hnull : c.NeverNull) (hname : name ∉ others.names)
    (h : others.Faithful) : (more (.optional name c) others).Faithful :=
  ⟨Codec.optional_faithful hc hnull,
    ⟨fun _ hhides => Bool.noConfusion hhides, hname, h⟩⟩

/-- A field that is left out when it holds nothing is taken to hold nothing when
it is left out. -/
theorem Faithful.hidden (hc : c.Faithful) (hnull : c.NeverNull) (hname : name ∉ others.names)
    (h : others.Faithful) : (more (.hidden name c) others).Faithful :=
  ⟨Codec.optional_faithful hc hnull,
    ⟨fun _ hhides => congrArg some (Option.isNone_iff_eq_none.1 hhides).symm, hname, h⟩⟩

end Kinds

/-- What a member does to the slots, with anything behind it that a value may
have behind it. -/
def Takes (fs : Fields γ σ) (slots : σ) (m : Member) (slots' : σ) : Prop :=
  ∀ rest, Delimited rest → fs.readMember m.1 slots (colon :: m.2 ++ rest) = .ok slots' rest

/-- What members do to the slots one after the other. -/
inductive Reads (fs : Fields γ σ) : σ → List Member → σ → Prop where
  | nil (slots : σ) : Reads fs slots [] slots
  | cons {slots slots₁ slots' : σ} {m : Member} {ms : List Member} (first : fs.Takes slots m slots₁)
      (others : Reads fs slots₁ ms slots') : Reads fs slots (m :: ms) slots'

theorem readColon_colon (rest : Bytes) : Codec.readColon (colon :: rest) = .ok () rest := rfl

/-- A field takes the member of its name, if its slot is free. -/
theorem takes_own {f : Field β} (h : f.codec.Faithful) (others : Fields γ σ) (slots : σ) (v : β) :
    (more f others).Takes (Option.none, slots) (f.name, f.codec.write v) (some v, slots) := by
  intro rest hrest
  change (more f others).readMember f.name (Option.none, slots) (colon :: (f.codec.write v ++ rest))
    = _
  rw [readMember, if_pos rfl, readColon_colon, Outcome.andThen_ok, h.read_write v hrest,
    Outcome.map_ok]

/-- A member of another name is left to the later fields. -/
theorem Takes.behind {others : Fields γ σ} {slots slots' : σ} {m : Member}
    (h : others.Takes slots m slots') {f : Field β} (hname : m.1 ≠ f.name) (slot : Option β) :
    (more f others).Takes (slot, slots) m (slot, slots') := by
  intro rest hrest
  cases slot <;> rw [readMember, if_neg hname, h rest hrest, Outcome.map_ok]

theorem Reads.behind {others : Fields γ σ} {slots slots' : σ} {ms : List Member}
    (h : others.Reads slots ms slots') {f : Field β} (hnames : ∀ m ∈ ms, m.1 ≠ f.name)
    (slot : Option β) : (more f others).Reads (slot, slots) ms (slot, slots') := by
  induction h with
  | nil slots => exact .nil _
  | cons first _ ih =>
    obtain ⟨hfirst, hothers⟩ := List.forall_mem_cons.1 hnames
    exact .cons (first.behind hfirst slot) (ih hothers)

/-- The members that are written fill the slots. -/
theorem reads_named {fs : Fields γ σ} (h : fs.Faithful) (vs : γ) :
    fs.Reads fs.noSlots (fs.named vs) (fs.filled vs) := by
  induction fs with
  | none => exact .nil _
  | more f others ih =>
    obtain ⟨v, vs⟩ := vs
    obtain ⟨hcodec, -, hname, hothers⟩ := h
    have hfurther := ih hothers vs
    have hnames : ∀ m ∈ others.named vs, m.1 ≠ f.name := fun m hm heq =>
      hname (heq ▸ others.name_of_named vs hm)
    rw [named, filled, noSlots]
    split
    · exact hfurther.behind hnames _
    · exact .cons (takes_own hcodec others _ v) (hfurther.behind hnames _)

/-- Slots that are filled so give the values again. -/
theorem collect_filled {fs : Fields γ σ} (h : fs.Faithful) (vs : γ) :
    fs.collect (fs.filled vs) = .ok vs := by
  induction fs with
  | none => rfl
  | more f others ih =>
    obtain ⟨v, vs⟩ := vs
    obtain ⟨-, hhides, -, hothers⟩ := h
    have hvalue : ((if f.hides v then Option.none else some v).orElse fun _ =>
        f.presence.inObject?) = some v := by
      split
      · exact hhides v ‹_›
      · rfl
    rw [filled, collect, hvalue]
    dsimp only
    rw [ih hothers vs]
    rfl

/-! ## Objects -/

theorem nextMember_first (rest : Bytes) : nextMember true (quote :: rest) = .ok true rest := rfl

theorem nextMember_comma (rest : Bytes) :
    nextMember false (comma :: quote :: rest) = .ok true rest := rfl

/-- What is written for a member, with something behind it. -/
theorem Member.bytes_append (m : Member) (rest : Bytes) :
    m.bytes ++ rest
      = quote :: (m.1.toList.flatMap writeChar ++ quote :: (colon :: m.2 ++ rest)) := by
  rw [Member.bytes, List.append_assoc, writeText_append]

/-- The members behind the first are read up to the closing brace. -/
theorem readMembers_further {fs : Fields γ σ} {slots slots' : σ} {ms : List Member}
    (h : fs.Reads slots ms slots') {fuel : Nat} (hfuel : ms.length < fuel) (rest : Bytes) :
    fs.readMembers fuel false slots
        (Codec.furtherItems (ms.map Member.bytes) ++ closeBrace :: rest)
      = .ok slots' (closeBrace :: rest) := by
  induction h generalizing fuel with
  | nil slots =>
    obtain ⟨fuel, rfl⟩ := Nat.exists_eq_add_one_of_ne_zero (Nat.ne_of_gt hfuel)
    rfl
  | @cons slots slots₁ slots' m ms first _ ih =>
    obtain ⟨fuel, rfl⟩ := Nat.exists_eq_add_one_of_ne_zero (Nat.ne_of_gt (Nat.zero_lt_of_lt hfuel))
    rw [List.length_cons] at hfuel
    have htaken :=
      first _ (Codec.delimited_furtherItems (ms.map Member.bytes) (delimited_brace rest))
    have hsplit : Codec.furtherItems ((m :: ms).map Member.bytes) ++ closeBrace :: rest
        = comma :: (m.bytes ++ (Codec.furtherItems (ms.map Member.bytes) ++ closeBrace :: rest)) := by
      simp [Codec.furtherItems]
    rw [hsplit, m.bytes_append, readMembers, nextMember_comma, Outcome.andThen_ok, if_pos rfl,
      stringBody_write, Outcome.andThen_ok, htaken, Outcome.andThen_ok, ih (by omega)]

/-- The members of an object are read up to its closing brace. -/
theorem readMembers_write {fs : Fields γ σ} {slots slots' : σ} {ms : List Member}
    (h : fs.Reads slots ms slots') {fuel : Nat} (hfuel : ms.length < fuel) (rest : Bytes) :
    fs.readMembers fuel true slots (separated (ms.map Member.bytes) ++ closeBrace :: rest)
      = .ok slots' (closeBrace :: rest) := by
  obtain ⟨fuel, rfl⟩ := Nat.exists_eq_add_one_of_ne_zero (Nat.ne_of_gt (Nat.zero_lt_of_lt hfuel))
  cases h with
  | nil => rfl
  | @cons _ slots₁ _ m ms first others =>
    rw [List.length_cons] at hfuel
    have htaken :=
      first _ (Codec.delimited_furtherItems (ms.map Member.bytes) (delimited_brace rest))
    rw [List.map_cons, Codec.separated_cons, List.append_assoc, m.bytes_append, readMembers,
      nextMember_first, Outcome.andThen_ok, if_pos rfl, stringBody_write, Outcome.andThen_ok, htaken,
      Outcome.andThen_ok, readMembers_further others (by omega)]

end Fields

/-! ## Records -/

/-- A record of faithful fields that is put together again from its parts is
faithful. -/
theorem Codec.record_faithful {α γ σ : Type} (name : String) {fs : Fields γ σ} (h : fs.Faithful)
    {make : γ → α} {parts : α → γ} (hparts : ∀ v, make (parts v) = v) :
    (Codec.record name fs make parts).Faithful where
  opens v := ⟨openBrace, _, rfl, by decide, by decide⟩
  read_write v rest _ := by
    have hmembers : ∀ item ∈ (fs.named (parts v)).map Fields.Member.bytes, item ≠ [] := by
      intro item hitem
      obtain ⟨m, -, rfl⟩ := List.mem_map.1 hitem
      simp [Fields.Member.bytes, writeText]
    have hlength := Codec.length_le_separated hmembers
    rw [List.length_map] at hlength
    have hbytes : (Codec.record name fs make parts).write v ++ rest = openBrace ::
        (separated ((fs.named (parts v)).map Fields.Member.bytes) ++ closeBrace :: rest) := by
      simp [Codec.record, Fields.members_eq]
    rw [hbytes]
    have hfuel : (fs.named (parts v)).length
        < (separated ((fs.named (parts v)).map Fields.Member.bytes) ++ closeBrace :: rest).length
          + 1 := by
      rw [List.length_append]
      omega
    simp only [Codec.record, skipBlanks_cons (show isBlank openBrace = false by decide),
      ↓reduceIte]
    rw [Fields.readMembers_write (Fields.reads_named h (parts v)) hfuel rest, Outcome.andThen_ok,
      Fields.collect_filled h]
    exact congrArg (Outcome.ok · rest) (hparts v)

theorem Codec.record_neverNull {α γ σ : Type} (name : String) (fs : Fields γ σ) (make : γ → α)
    (parts : α → γ) : (Codec.record name fs make parts).NeverNull := by
  intro v tail h
  exact absurd (List.cons.inj h).1 (by decide)

end RelayHub.Json
