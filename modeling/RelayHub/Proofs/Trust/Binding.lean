/-
Which key a chain has, and what is signed and accepted with it.

Keys come in by insertions. An insertion goes through a list of chains and stops
at the first that has a key, so how far it gets, `Reaches`, depends on the chains
before. The first insertion that gets to a chain decides what key it has.

What a store signs and accepts is then said by that key alone. Of the schemes
two things are relied on: which bytes they take for a signature at all, and that
they accept what they sign. The first is proved of the standard ones.
-/
import RelayHub.Proofs.Trust.Store

set_option autoImplicit false

namespace RelayHub

open Crypto

/-! ## Insertions -/

namespace TrustStore

variable {t : TrustStore} {chain c : ChainId} {chains : List ChainId} {key k : ChainKey}

/-- An insertion: a key, and the chains that are to have it. -/
structure Insertion where
  chains : List ChainId
  key : ChainKey

/-- The store after insertions, of which some may have failed. -/
def insertAll (t : TrustStore) (insertions : List Insertion) : TrustStore :=
  insertions.foldl (fun t i => (t.insert i.chains i.key).2) t

/-- An insertion for some chains gets to one of them: those before it have no
key yet, and each of them is there once. -/
def Reaches (t : TrustStore) (chains : List ChainId) (chain : ChainId) : Prop :=
  ∃ before after, chains = before ++ chain :: after ∧ before.Nodup ∧ chain ∉ before ∧
    ∀ c ∈ before, t.key? c = none

/-- Of some insertions, the first that gets to a chain brings a key. -/
def FirstReached (t : TrustStore) (insertions : List Insertion) (chain : ChainId) (k : ChainKey) :
    Prop :=
  ∃ before i after, insertions = before ++ i :: after ∧ i.key = k ∧
    (t.insertAll before).Reaches i.chains chain ∧
    ∀ earlier j between, before = earlier ++ j :: between →
      ¬ (t.insertAll earlier).Reaches j.chains chain

/-! ### One insertion -/

theorem key?_add (t : TrustStore) (chain c : ChainId) (key : ChainKey) :
    key? ⟨t.keys ++ [(chain, key)]⟩ c = (t.key? c).or (if c = chain then some key else none) := by
  rw [key?, List.lookup_append]
  congr 1
  by_cases h : c = chain
  · simp [h]
  · have hb : (c == chain) = false := beq_eq_false_iff_ne.2 h
    simp [List.lookup_cons, hb, h]

/-- A chain that has a key keeps it. -/
theorem key?_insert_of_some (h : t.key? chain = some k) :
    (t.insert chains key).2.key? chain = some k := by
  induction chains generalizing t with
  | nil => exact h
  | cons d rest ih =>
    rw [insert]
    split
    · exact h
    · apply ih
      rw [key?_add, h, Option.some_or]

theorem not_reaches_nil : ¬ t.Reaches [] chain := by
  rintro ⟨before, after, h, -⟩
  simp at h

theorem reaches_cons (key : ChainKey) {d : ChainId} {rest : List ChainId} :
    t.Reaches (d :: rest) chain ↔
      chain = d ∨ t.key? d = none ∧ Reaches ⟨t.keys ++ [(d, key)]⟩ rest chain := by
  constructor
  · rintro ⟨before, after, hsplit, hnodup, hnew, hfree⟩
    cases before with
    | nil =>
      left
      simp only [List.nil_append, List.cons.injEq] at hsplit
      exact hsplit.1.symm
    | cons e before =>
      right
      simp only [List.cons_append, List.cons.injEq] at hsplit
      obtain ⟨rfl, hsplit⟩ := hsplit
      obtain ⟨hd, hnodup⟩ := List.nodup_cons.1 hnodup
      refine ⟨hfree d List.mem_cons_self, before, after, hsplit, hnodup, ?_, ?_⟩
      · intro hmem
        exact hnew (List.mem_cons_of_mem _ hmem)
      · intro e he
        have hne : e ≠ d := fun h => hd (h ▸ he)
        rw [key?_add, hfree e (List.mem_cons_of_mem _ he), if_neg hne, Option.or_none]
  · rintro (rfl | ⟨hd, before, after, hsplit, hnodup, hnew, hfree⟩)
    · refine ⟨[], rest, rfl, List.nodup_nil, List.not_mem_nil, ?_⟩
      intro c hc
      exact absurd hc List.not_mem_nil
    · by_cases hsame : chain = d
      · subst hsame
        exact ⟨[], rest, rfl, List.nodup_nil, List.not_mem_nil,
          fun c hc => absurd hc List.not_mem_nil⟩
      · -- None of the chains that the rest gets through is the one just added.
        have hold : ∀ e ∈ before, t.key? e = none ∧ e ≠ d := by
          intro e he
          have hnone := hfree e he
          rw [key?_add, Option.or_eq_none_iff] at hnone
          refine ⟨hnone.1, fun h => ?_⟩
          rw [if_pos h] at hnone
          exact absurd hnone.2 (by simp)
        refine ⟨d :: before, after, by rw [hsplit, List.cons_append], ?_, ?_, ?_⟩
        · exact List.nodup_cons.2 ⟨fun hmem => (hold d hmem).2 rfl, hnodup⟩
        · intro hmem
          rcases List.mem_cons.1 hmem with h | h
          · exact hsame h
          · exact hnew h
        · intro e he
          rcases List.mem_cons.1 he with rfl | he
          · exact hd
          · exact (hold e he).1

/-- A chain without a key gets one from the insertion that reaches it. -/
theorem key?_insert_of_none (h : t.key? chain = none) :
    (t.insert chains key).2.key? chain = some k ↔ key = k ∧ t.Reaches chains chain := by
  induction chains generalizing t with
  | nil =>
    constructor
    · intro hsome
      rw [insert, h] at hsome
      cases hsome
    · rintro ⟨-, hreach⟩
      exact absurd hreach not_reaches_nil
  | cons d rest ih =>
    -- An insertion ends at a chain that has a key. Any other chain gets the key, and the
    -- rest is inserted into what has become of the store.
    rw [insert, reaches_cons key]
    split
    · rename_i hd
      have hne : chain ≠ d := by
        rintro rfl
        rw [h] at hd
        cases hd
      have hsome : t.key? d ≠ none := Option.isSome_iff_ne_none.1 hd
      simp [h, hne, hsome]
    · rename_i hd
      rw [Option.not_isSome_iff_eq_none] at hd
      by_cases hsame : chain = d
      · subst hsame
        have hadded : key? ⟨t.keys ++ [(chain, key)]⟩ chain = some key := by
          rw [key?_add, h, if_pos rfl, Option.none_or]
        rw [key?_insert_of_some hadded]
        simp
      · have hstill : key? ⟨t.keys ++ [(d, key)]⟩ chain = none := by
          rw [key?_add, h, if_neg hsame, Option.or_none]
        rw [ih hstill]
        simp [hsame, hd]

/-- An insertion for chains that are all new, and each there once, goes through. -/
theorem insert_of_new (hnodup : chains.Nodup) (hnew : ∀ c ∈ chains, t.key? c = none) :
    t.insert chains key = (.ok (), ⟨t.keys ++ chains.map fun c => (c, key)⟩) := by
  induction chains generalizing t with
  | nil => simp [insert]
  | cons d rest ih =>
    obtain ⟨hd, hrest⟩ := List.nodup_cons.1 hnodup
    have hfree : ∀ c ∈ rest, key? ⟨t.keys ++ [(d, key)]⟩ c = none := by
      intro c hc
      have hne : c ≠ d := fun h => hd (h ▸ hc)
      rw [key?_add, hnew c (List.mem_cons_of_mem _ hc), if_neg hne, Option.or_none]
    rw [insert, hnew d List.mem_cons_self, ih hrest hfree]
    simp

/-! ### Insertions one after the other -/

theorem insertAll_cons (t : TrustStore) (i : Insertion) (rest : List Insertion) :
    t.insertAll (i :: rest) = (t.insert i.chains i.key).2.insertAll rest := rfl

/-- A chain keeps its key whatever is inserted. -/
theorem key?_insertAll_of_some {insertions : List Insertion} (h : t.key? chain = some k) :
    (t.insertAll insertions).key? chain = some k := by
  induction insertions generalizing t with
  | nil => exact h
  | cons i rest ih =>
    rw [insertAll_cons]
    exact ih (key?_insert_of_some h)

theorem firstReached_nil : ¬ t.FirstReached [] chain k := by
  rintro ⟨before, i, after, h, -⟩
  simp at h

/-- The first insertion gets to the chain, or it is passed over. -/
theorem firstReached_cons {i : Insertion} {rest : List Insertion} :
    t.FirstReached (i :: rest) chain k ↔
      (t.Reaches i.chains chain ∧ i.key = k) ∨
        (¬ t.Reaches i.chains chain ∧
          (t.insert i.chains i.key).2.FirstReached rest chain k) := by
  constructor
  · rintro ⟨before, j, after, hsplit, hkey, hreach, hfirst⟩
    cases before with
    | nil =>
      simp only [List.nil_append, List.cons.injEq] at hsplit
      obtain ⟨rfl, rfl⟩ := hsplit
      exact .inl ⟨hreach, hkey⟩
    | cons e before =>
      simp only [List.cons_append, List.cons.injEq] at hsplit
      obtain ⟨rfl, rfl⟩ := hsplit
      refine .inr ⟨hfirst [] i before rfl, before, j, after, rfl, hkey, hreach, ?_⟩
      intro earlier l between h
      exact hfirst (i :: earlier) l between (by rw [h, List.cons_append])
  · rintro (⟨hreach, hkey⟩ | ⟨hpassed, before, j, after, rfl, hkey, hreach, hfirst⟩)
    · refine ⟨[], i, rest, rfl, hkey, hreach, ?_⟩
      intro earlier j between h
      simp at h
    · refine ⟨i :: before, j, after, rfl, hkey, hreach, ?_⟩
      intro earlier l between h
      cases earlier with
      | nil =>
        simp only [List.nil_append, List.cons.injEq] at h
        rw [← h.1]
        exact hpassed
      | cons e earlier =>
        simp only [List.cons_append, List.cons.injEq] at h
        obtain ⟨rfl, h⟩ := h
        exact hfirst earlier l between h

/-- The key of a chain that had none is that of the first insertion that gets to
it. -/
theorem key?_insertAll_of_none {insertions : List Insertion} (h : t.key? chain = none) :
    (t.insertAll insertions).key? chain = some k ↔ t.FirstReached insertions chain k := by
  induction insertions generalizing t with
  | nil =>
    constructor
    · intro hsome
      rw [insertAll, List.foldl_nil, h] at hsome
      cases hsome
    · intro hfirst
      exact absurd hfirst firstReached_nil
  | cons i rest ih =>
    rw [insertAll_cons, firstReached_cons]
    by_cases hreach : t.Reaches i.chains chain
    · have hkey : (t.insert i.chains i.key).2.key? chain = some i.key :=
        (key?_insert_of_none h).2 ⟨rfl, hreach⟩
      -- Later insertions do not matter any more.
      rw [key?_insertAll_of_some hkey]
      simp [hreach]
    · have hnone : (t.insert i.chains i.key).2.key? chain = none := by
        rw [Option.eq_none_iff_forall_ne_some]
        intro k' hk'
        exact hreach ((key?_insert_of_none h).1 hk').2
      rw [ih hnone]
      simp [hreach]

end TrustStore

/-! ## Schemes -/

/-- The order of the group that an algorithm computes in. -/
def SignatureAlgorithm.order : SignatureAlgorithm → Nat
  | .ecdsa => secp256k1.n
  | .sm2 => sm2Curve.n

/-- Both numbers of a signature are positive and below the order. -/
def InRange (order : Nat) (signature : Bytes) : Prop :=
  (0 < Bytes.toNat (signature.take 32) ∧ Bytes.toNat (signature.take 32) < order) ∧
    0 < Bytes.toNat (signature.drop 32) ∧ Bytes.toNat (signature.drop 32) < order

/-- What is relied on of the schemes: they refuse bytes of the right length
exactly if a number is out of range, and accept what they sign. -/
structure Suite.Sound (suite : Suite) : Prop where
  refused (a : SignatureAlgorithm) (point : Point) (message signature : Bytes) :
    signature.length = signatureLength →
      ((suite a).verify point message signature = none ↔ ¬ InRange a.order signature)
  accepted {a : SignatureAlgorithm} {secret : Nat} {message signature : Bytes} :
    (suite a).sign secret message = some signature →
      signature.length = signatureLength ∧
        (suite a).verify ((suite a).publicOf secret) message signature = some true

theorem parts?_eq_none_iff {order : Nat} {signature : Bytes} :
    parts? order signature = none ↔ ¬ InRange order signature := by
  unfold parts? InRange
  dsimp only
  split
  · rename_i h
    simp [h]
  · rename_i h
    simpa [and_assoc] using h

/-- The standard schemes look at nothing but the range. -/
theorem Suite.standard_refused (a : SignatureAlgorithm) (point : Point)
    (message signature : Bytes) :
    (Suite.standard a).verify point message signature = none ↔ ¬ InRange a.order signature := by
  rw [← parts?_eq_none_iff]
  cases a with
  | ecdsa =>
    change Ecdsa.verify secp256k1 point message signature = none ↔
      parts? secp256k1.n signature = none
    unfold Ecdsa.verify
    cases parts? secp256k1.n signature <;> simp
  | sm2 =>
    change Sm2.verify sm2Curve point message signature = none ↔ parts? sm2Curve.n signature = none
    unfold Sm2.verify
    cases parts? sm2Curve.n signature with
    | none => simp
    | some p =>
      simp only [Option.bind_eq_bind, Option.bind_some, reduceCtorEq, iff_false]
      split <;> simp

/-! ## Signing and accepting -/

/-- A key cannot judge bytes that are no signature, and judges all others. -/
theorem ChainKey.verify_error_iff {suite : Suite} (hsuite : suite.Sound) {k : ChainKey}
    {signature digest : Bytes} :
    (∃ e, k.verify suite signature digest = .error e) ↔
      signature.length ≠ signatureLength ∨ ¬ InRange k.algorithm.order signature := by
  rw [verify]
  by_cases hlength : signature.length = signatureLength
  · rw [if_neg (not_not_intro hlength),
      ← hsuite.refused k.algorithm (k.point suite) digest signature hlength]
    cases (suite k.algorithm).verify (k.point suite) digest signature <;> simp [hlength]
  · rw [if_pos hlength]
    simp [hlength]

namespace TrustStore

/-- Why a store cannot judge a signature: there is none, or nothing that is
signed, or no key, or the key cannot. -/
def Unfit (t : TrustStore) (chain : ChainId) (signature digest : Bytes) : Prop :=
  signature = [] ∨ digest = [] ∨ t.key? chain = none ∨
    ∃ k, t.key? chain = some k ∧
      (signature.length ≠ signatureLength ∨ ¬ InRange k.algorithm.order signature)

variable {suite : Suite} {t : TrustStore} {chain : ChainId} {signature digest : Bytes}

/-- Only the secret of a chain signs for it. -/
theorem of_sign (h : t.sign suite chain digest = .ok signature) :
    digest ≠ [] ∧ ∃ a secret, t.key? chain = some (.signing a secret) ∧
      (suite a).sign secret digest = some signature := by
  rw [sign] at h
  split at h
  · cases h
  · rename_i hdigest
    refine ⟨by simpa using hdigest, ?_⟩
    cases hkey : t.key? chain with
    | none =>
      rw [hkey] at h
      cases h
    | some k =>
      rw [hkey] at h
      cases k with
      | verifying a point => cases h
      | signing a secret =>
        refine ⟨a, secret, rfl, ?_⟩
        dsimp only [ChainKey.sign] at h
        cases hsign : (suite a).sign secret digest with
        | none =>
          rw [hsign] at h
          cases h
        | some made =>
          rw [hsign] at h
          cases h
          rfl

theorem canSign_iff :
    t.canSign chain = true ↔ ∃ a secret, t.key? chain = some (.signing a secret) := by
  unfold canSign
  rcases t.key? chain with _ | (⟨a, secret⟩ | ⟨a, point⟩) <;> simp [ChainKey.canSign]

theorem verify_error_iff (hsuite : suite.Sound) :
    (∃ e, t.verify suite chain signature digest = .error e) ↔ t.Unfit chain signature digest := by
  unfold verify Unfit
  by_cases hsignature : signature = []
  · simp [hsignature]
  · by_cases hdigest : digest = []
    · simp [hsignature, hdigest]
    · cases t.key? chain with
      | none => simp [hsignature, hdigest]
      | some k =>
        simp only [List.isEmpty_iff, hsignature, hdigest, if_false, false_or, reduceCtorEq,
          Option.some.injEq, exists_eq_left']
        exact ChainKey.verify_error_iff hsuite

/-- Whatever is inserted into an empty store, and whichever insertions fail: a
chain has for good the key of the first insertion that gets to it; what a chain
signs is signed with its secret, and accepted wherever the chain has that key or
its public half; and a store judges everything that can be a signature of a chain
whose key it has. -/
theorem keys_decide_signatures (hsuite : suite.Sound) (insertions : List Insertion)
    (chain : ChainId) :
    let t := empty.insertAll insertions
    (∀ k, t.key? chain = some k ↔ empty.FirstReached insertions chain k) ∧
    (∀ k later, t.key? chain = some k → (t.insertAll later).key? chain = some k) ∧
    (∀ digest signature, t.sign suite chain digest = .ok signature →
      digest ≠ [] ∧ ∃ a secret, t.key? chain = some (.signing a secret) ∧
        ∀ other : TrustStore, other.Knows suite chain (.signing a secret) →
          other.verify suite chain signature digest = .ok true) ∧
    (∀ signature digest,
      ((∃ e, t.verify suite chain signature digest = .error e) ↔
        t.Unfit chain signature digest) ∧
      (¬ t.Unfit chain signature digest →
        t.verify suite chain signature digest = .ok true ∨
          t.verify suite chain signature digest = .ok false)) ∧
    (t.canSign chain = true ↔ ∃ a secret, t.key? chain = some (.signing a secret)) := by
  intro t
  refine ⟨fun k => key?_insertAll_of_none rfl, fun k later => key?_insertAll_of_some, ?_, ?_,
    canSign_iff⟩
  · intro digest signature hsign
    obtain ⟨hdigest, a, secret, hkey, hmade⟩ := of_sign hsign
    obtain ⟨hlength, haccepted⟩ := hsuite.accepted hmade
    have hfits : (ChainKey.signing a secret).verify suite signature digest = .ok true := by
      rw [ChainKey.verify, if_neg (not_not_intro hlength)]
      dsimp only [ChainKey.algorithm, ChainKey.point]
      rw [haccepted]
    refine ⟨hdigest, a, secret, hkey, ?_⟩
    intro other hknows
    exact verify_of_knows hknows hdigest hfits
  · intro signature digest
    have hiff : (∃ e, t.verify suite chain signature digest = .error e) ↔
        t.Unfit chain signature digest := verify_error_iff hsuite
    refine ⟨hiff, ?_⟩
    intro hfit
    rw [← hiff] at hfit
    rcases hverify : t.verify suite chain signature digest with e | fits
    · exact absurd ⟨e, hverify⟩ hfit
    · cases fits
      · exact .inr rfl
      · exact .inl rfl

end TrustStore

/-! ### A store with an insertion that failed -/

/-- A scheme that looks at what it has signed before it gives it out. -/
def Crypto.Scheme.checked (s : Scheme) : Scheme :=
  { s with
    sign := fun secret message => (s.sign secret message).filter fun signature =>
      signature.length == signatureLength &&
        s.verify (s.publicOf secret) message signature == some true }

/-- The standard schemes, each of which looks at what it has signed. -/
def Suite.careful : Suite := fun a => (Suite.standard a).checked

theorem Suite.careful_sound : Suite.careful.Sound where
  refused a point message signature _ := Suite.standard_refused a point message signature
  accepted {a secret message signature} h := by
    have hgood := (Option.filter_eq_some_iff.1 h).2
    rw [Bool.and_eq_true, beq_iff_eq, beq_iff_eq] at hgood
    exact hgood

namespace Pair

/-- A chain that comes in with the second insertion, before it fails. -/
def chainC : ChainId := ⟨"C"⟩

/-- A chain that comes after the one that the second insertion fails at. -/
def chainD : ChainId := ⟨"D"⟩

/-- Two insertions. The second fails at a chain of the first. -/
def overlapping : List TrustStore.Insertion :=
  [⟨[chainA, chainB], keyA⟩, ⟨[chainC, chainB, chainD], keyB⟩]

end Pair

open Pair in
/-- The failed insertion has brought a key to the chain before the one it failed
at, and to no other; what is signed with it is accepted by who has its public
half. -/
theorem TrustStore.failed_insertion_signs :
    Suite.careful.Sound ∧
      (empty.insertAll overlapping).key? chainC = some keyB ∧
      (empty.insertAll overlapping).key? chainB = some keyA ∧
      (empty.insertAll overlapping).canSign chainD = false ∧
      ∃ signature,
        (empty.insertAll overlapping).sign Suite.careful chainC [1] = .ok signature ∧
        verify Suite.careful ⟨[(chainC, keyB.toPublic Suite.careful)]⟩ chainC signature [1]
          = .ok true := by
  have hsigned : ((empty.insertAll overlapping).sign Suite.careful chainC [1]).isOk = true := by
    decide +kernel
  obtain ⟨-, -, hsign, -⟩ := keys_decide_signatures Suite.careful_sound overlapping chainC
  cases hmade : (empty.insertAll overlapping).sign Suite.careful chainC [1] with
  | error e =>
    rw [hmade] at hsigned
    cases hsigned
  | ok signature =>
    obtain ⟨-, a, secret, hkey, haccepted⟩ := hsign [1] signature hmade
    have hown : (empty.insertAll overlapping).key? chainC = some keyB := by decide
    rw [hown] at hkey
    refine ⟨Suite.careful_sound, hown, by decide, by decide, signature, rfl, ?_⟩
    apply haccepted
    right
    rw [← Option.some.inj hkey]
    rfl

end RelayHub
