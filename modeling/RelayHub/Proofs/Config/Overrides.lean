/-
What the environment says in place of a configuration file.

The law is about two files that are the same but for one text, the address to
listen on or the directory of the stores, and an environment that says something
else in its place. The directory is not looked at before it is replaced, so
nothing can be told from it. The address is: the file is checked as it stands,
and a file whose own address is none is refused although the address would have
been replaced.
-/
import RelayHub.Config.Load
import RelayHub.Proofs.Config.Validate

set_option autoImplicit false

namespace RelayHub

/-! ## Documents that are the same but for one text -/

namespace Toml

/-- Two documents that are the same, but that at the end of a path of fields one
of them has the text `s` and the other one the text `t`. A field is named by its
place and its name. -/
inductive SameBut : List (Nat × String) → String → String → Toml → Toml → Prop where
  | text (s t : String) : SameBut [] s t (.text s) (.text t)
  | field {place : Nat} {name : String} {path : List (Nat × String)} {s t : String}
      {v w a b : Toml} {f g : Fields} (hv : v.fields? = some f) (hw : w.fields? = some g)
      (hothers : ∀ p n, p ≠ place → n ≠ name → f p n = g p n) (ha : f place name = some a)
      (hb : g place name = some b) (h : SameBut path s t a b) :
      SameBut ((place, name) :: path) s t v w

theorem SameBut.of_field {place : Nat} {name : String} {path : List (Nat × String)} {s t : String}
    {v w : Toml} (h : SameBut ((place, name) :: path) s t v w) :
    ∃ (f g : Fields) (a b : Toml), v.fields? = some f ∧ w.fields? = some g ∧
      (∀ p n, p ≠ place → n ≠ name → f p n = g p n) ∧ f place name = some a ∧
      g place name = some b ∧ SameBut path s t a b := by
  cases h with
  | field hv hw hothers ha hb h => exact ⟨_, _, _, _, hv, hw, hothers, ha, hb, h⟩

theorem SameBut.of_text {s t : String} {v w : Toml} (h : SameBut [] s t v w) :
    v.text? = some s ∧ w.text? = some t := by
  cases h
  exact ⟨rfl, rfl⟩

theorem Fields.optional_congr {α : Type} {f g : Fields} {place : Nat} {name : String}
    (h : f place name = g place name) (missing : α) (read : Toml → Option α) :
    f.optional place name missing read = g.optional place name missing read := by
  rw [Fields.optional, Fields.optional, h]

theorem Fields.optional_some {α : Type} {f : Fields} {place : Nat} {name : String} {v : Toml}
    (h : f place name = some v) (missing : α) (read : Toml → Option α) :
    f.optional place name missing read = read v := by
  rw [Fields.optional, h]

/-! ### Documents of one text -/

/-- The value of a key in a table with no other key. -/
def loneValue? (name : String) : Toml → Option Toml
  | .table _ [(key, v)] => if key = name then some v else none
  | _ => none

/-- The text at the end of a path of names in a document with nothing else in it. -/
def loneText? : (path : List String) → Toml → Option String
  | [], v => v.text?
  | name :: path, v => (loneValue? name v).bind (loneText? path)

theorem fields_of_loneValue? {name : String} {v a : Toml} (h : loneValue? name v = some a) :
    ∃ f, v.fields? = some f ∧ ∀ p n, f p n = if n = name then some a else none := by
  unfold loneValue? at h
  split at h
  · split at h
    · rename_i key v hkey
      cases h
      refine ⟨_, rfl, ?_⟩
      intro p n
      by_cases hn : n = key
      · simp [hn, hkey]
      · simp [hkey ▸ hn, List.lookup_cons, beq_eq_false_iff_ne.2 hn]
    · cases h
  · cases h

theorem sameBut_of_loneText? {path : List (Nat × String)} {s t : String} {v w : Toml}
    (hv : loneText? (path.map Prod.snd) v = some s)
    (hw : loneText? (path.map Prod.snd) w = some t) : SameBut path s t v w := by
  induction path generalizing v w with
  | nil =>
    cases v <;> cases hv
    cases w <;> cases hw
    exact .text s t
  | cons step path ih =>
    obtain ⟨a, hv, ha⟩ := Option.bind_eq_some_iff.1 hv
    obtain ⟨b, hw, hb⟩ := Option.bind_eq_some_iff.1 hw
    obtain ⟨f, hf, hfields⟩ := fields_of_loneValue? hv
    obtain ⟨g, hg, hfields'⟩ := fields_of_loneValue? hw
    refine .field hf hg ?_ ?_ ?_ (ih ha hb)
    · intro p n _ hn
      rw [hfields, hfields', if_neg hn, if_neg hn]
    · rw [hfields, if_pos rfl]
    · rw [hfields', if_pos rfl]

end Toml

/-! ## Files -/

/-- A file that can be read, and holds a document. -/
def TextFiles.Holds (files : TextFiles) (path : String) (v : Toml) : Prop :=
  ∃ text, files (Path.ofString path) = .ok text ∧ Toml.ofString text = some v

/-- One file, whatever it is called. -/
def TextFiles.sole (text : String) : TextFiles := fun _ => .ok text

/-- Files with a text at the end of a path, and nothing else in them. -/
theorem TextFiles.holds_of_loneText? (path : List (Nat × String)) (file : String)
    {text text' s t : String}
    (h : (Toml.ofString text).bind (Toml.loneText? (path.map Prod.snd)) = some s)
    (h' : (Toml.ofString text').bind (Toml.loneText? (path.map Prod.snd)) = some t) :
    ∃ v w, (sole text).Holds file v ∧ (sole text').Holds file w ∧ Toml.SameBut path s t v w := by
  obtain ⟨v, hv, hs⟩ := Option.bind_eq_some_iff.1 h
  obtain ⟨w, hw, ht⟩ := Option.bind_eq_some_iff.1 h'
  exact ⟨v, w, ⟨text, rfl, hv⟩, ⟨text', rfl, hw⟩, Toml.sameBut_of_loneText? hs ht⟩

namespace HubConfig

open Toml (SameBut)

variable {files files' : TextFiles} {env : Environment} {v w : Toml} {s t : String}

/-- Where a document says what address to listen on. -/
def listenField : List (Nat × String) := [(1, "server"), (0, "listen")]

/-- Where a document says what directory the stores are in. -/
def storePathField : List (Nat × String) := [(0, "db_path")]

/-! ### What is read from them -/

theorem serverOfToml_sameBut (h : SameBut [(0, "listen")] s t v w) :
    ∃ timeout : Option Nat,
      serverOfToml v = timeout.map (fun n => (s, n)) ∧
        serverOfToml w = timeout.map (fun n => (t, n)) := by
  obtain ⟨f, g, a, b, hv, hw, hothers, ha, hb, htext⟩ := h.of_field
  obtain ⟨hs, ht⟩ := htext.of_text
  have htimeout := Toml.Fields.optional_congr (hothers 1 "request_timeout_secs" (by decide)
    (by decide)) defaultTimeoutSeconds Toml.natural?
  refine ⟨f.optional 1 "request_timeout_secs" defaultTimeoutSeconds Toml.natural?, ?_, ?_⟩
  · rw [serverOfToml, hv, Option.bind_eq_bind, Option.bind_some, Toml.Fields.optional_some ha, hs]
    cases f.optional 1 "request_timeout_secs" defaultTimeoutSeconds Toml.natural? <;> rfl
  · rw [serverOfToml, hw, Option.bind_eq_bind, Option.bind_some, Toml.Fields.optional_some hb, ht,
      htimeout]
    cases g.optional 1 "request_timeout_secs" defaultTimeoutSeconds Toml.natural? <;> rfl

/-- A configuration of what has been read of its fields. -/
def ofFields (storePath : Option String) (server : Option (String × Nat))
    (locals : Option (List LocalNamespace)) (remotes : Option (List RemoteNamespace)) :
    Option HubConfig := do
  let storePath ← storePath
  let (listen, timeoutSeconds) ← server
  return ⟨storePath, listen, timeoutSeconds, ← locals, ← remotes⟩

theorem ofToml_of_fields {f : Toml.Fields} (hv : v.fields? = some f) :
    ofToml v = ofFields (f.optional 0 "db_path" defaultStorePath Toml.text?)
      (f.optional 1 "server" (defaultListen, defaultTimeoutSeconds) serverOfToml)
      (f.optional 2 "local" [] (Toml.listOf? LocalNamespace.ofToml))
      (f.optional 3 "remote" [] (Toml.listOf? RemoteNamespace.ofToml)) := by
  rw [ofToml, hv]
  rfl

/-- Documents that are the same but for the address make configurations that are
the same but for it, or none. -/
theorem ofToml_listenField (h : SameBut listenField s t v w) :
    ∃ c : Option HubConfig,
      ofToml v = c.map ({ · with listen := s }) ∧ ofToml w = c.map ({ · with listen := t }) := by
  obtain ⟨f, g, a, b, hv, hw, hothers, ha, hb, hserver⟩ := h.of_field
  obtain ⟨timeout, hs, ht⟩ := serverOfToml_sameBut hserver
  rw [ofToml_of_fields hv, ofToml_of_fields hw, Toml.Fields.optional_some ha,
    Toml.Fields.optional_some hb, hs, ht,
    Toml.Fields.optional_congr (hothers 0 "db_path" (by decide) (by decide)),
    Toml.Fields.optional_congr (hothers 2 "local" (by decide) (by decide)),
    Toml.Fields.optional_congr (hothers 3 "remote" (by decide) (by decide))]
  have hplaced (storePath : Option String) (locals : Option (List LocalNamespace))
      (remotes : Option (List RemoteNamespace)) (text : String) :
      ofFields storePath (timeout.map fun n => (text, n)) locals remotes
        = (ofFields storePath (timeout.map fun n => ("", n)) locals remotes).map
            ({ · with listen := text }) := by
    cases storePath <;> cases timeout <;> cases locals <;> cases remotes <;> rfl
  exact ⟨_, hplaced _ _ _ s, hplaced _ _ _ t⟩

theorem ofToml_storePathField (h : SameBut storePathField s t v w) :
    ∃ c : Option HubConfig,
      ofToml v = c.map ({ · with storePath := s }) ∧
        ofToml w = c.map ({ · with storePath := t }) := by
  obtain ⟨f, g, a, b, hv, hw, hothers, ha, hb, htext⟩ := h.of_field
  obtain ⟨hs, ht⟩ := htext.of_text
  rw [ofToml_of_fields hv, ofToml_of_fields hw, Toml.Fields.optional_some ha,
    Toml.Fields.optional_some hb, hs, ht,
    Toml.Fields.optional_congr (hothers 1 "server" (by decide) (by decide)),
    Toml.Fields.optional_congr (hothers 2 "local" (by decide) (by decide)),
    Toml.Fields.optional_congr (hothers 3 "remote" (by decide) (by decide))]
  have hplaced (server : Option (String × Nat)) (locals : Option (List LocalNamespace))
      (remotes : Option (List RemoteNamespace)) (text : String) :
      ofFields (some text) server locals remotes
        = (ofFields (some "") server locals remotes).map ({ · with storePath := text }) := by
    cases server <;> cases locals <;> cases remotes <;> rfl
  exact ⟨_, hplaced _ _ _ s, hplaced _ _ _ t⟩

/-! ### What comes of them -/

/-- What an environment makes of a document: it is checked as it stands, then
changed, and its address checked once more. -/
theorem ofEnvironment_of_holds (h : files.Holds env.configPath v) :
    ofEnvironment files env =
      match ofToml v with
      | none => .error .malformed
      | some c => do
        c.validate
        let c := c.withOverrides env.listen env.storePath
        let _ ← c.listenAddress
        return c := by
  obtain ⟨text, hread, hdocument⟩ := h
  rw [ofEnvironment, load, hread]
  dsimp only
  rw [ofText, hdocument, Option.bind_some]
  cases ofToml v with
  | none => rfl
  | some c => cases hvalid : c.validate <;> simp [hvalid, bind, Except.bind, pure, Except.pure]

theorem overriding_of_ne_empty {other : Option String} (h : ∃ text ∈ other, text ≠ "")
    (configured configured' : String) :
    overriding other configured = overriding other configured' := by
  obtain ⟨text, rfl, hne⟩ := h
  have hfull : text.isEmpty = false := by simpa using hne
  simp [overriding, hfull]

/-- Whether a text is an address to listen on. -/
def IsAddress (text : String) : Prop :=
  (SocketAddress.ofString? text).isSome

instance (text : String) : Decidable (IsAddress text) :=
  inferInstanceAs (Decidable ((SocketAddress.ofString? text).isSome = true))

/-- The check of the address that stands in a file. -/
def checkOwn (text : String) : Except ConfigError Unit :=
  if IsAddress text then .ok () else .error (.badListen text)

theorem validate_of_listen (c : HubConfig) (text : String) :
    { c with listen := text }.validate =
      (do checkNames [] [] c.namespaces; c.checkKeys; checkOwn text) := by
  have hown : { c with listen := text }.listenAddress.map (fun _ => ()) = checkOwn text := by
    rw [checkOwn, listenAddress]
    cases haddress : SocketAddress.ofString? text with
    | none => rw [if_neg (by simp [IsAddress, haddress])]; rfl
    | some a => rw [if_pos (by simp [IsAddress, haddress])]; rfl
  rw [← hown]
  rfl

/-- Of two files that are the same but for the address to listen on, which the
environment replaces, one comes to what the other one comes to, but that the
address that stands in it is checked on the way. -/
theorem ofEnvironment_listenField (hv : files.Holds env.configPath v)
    (hw : files'.Holds env.configPath w) (h : SameBut listenField s t v w)
    (hset : ∃ text ∈ env.listen, text ≠ "") :
    ∃ (others : Except ConfigError Unit) (settled : Except ConfigError HubConfig),
      ofEnvironment files env = (do others; checkOwn s; settled) ∧
        ofEnvironment files' env = (do others; checkOwn t; settled) := by
  obtain ⟨c, hs, ht⟩ := ofToml_listenField h
  rw [ofEnvironment_of_holds hv, ofEnvironment_of_holds hw, hs, ht]
  cases c with
  | none => exact ⟨.error .malformed, .error .malformed, rfl, rfl⟩
  | some c =>
    have hchanged : { c with listen := t }.withOverrides env.listen env.storePath
        = { c with listen := s }.withOverrides env.listen env.storePath := by
      simp only [withOverrides, overriding_of_ne_empty hset t s]
    -- Names and keys are checked before the address, and what is settled comes after it.
    let changed := { c with listen := s }.withOverrides env.listen env.storePath
    refine ⟨(do checkNames [] [] c.namespaces; c.checkKeys),
      (do let _ ← changed.listenAddress; return changed), ?_, ?_⟩
    · simp only [Option.map_some, validate_of_listen, bind_assoc]
      rfl
    · simp only [Option.map_some, validate_of_listen, bind_assoc, hchanged]
      rfl

theorem ofEnvironment_storePathField (hv : files.Holds env.configPath v)
    (hw : files'.Holds env.configPath w) (h : SameBut storePathField s t v w)
    (hset : ∃ text ∈ env.storePath, text ≠ "") :
    ofEnvironment files env = ofEnvironment files' env := by
  obtain ⟨c, hs, ht⟩ := ofToml_storePathField h
  rw [ofEnvironment_of_holds hv, ofEnvironment_of_holds hw, hs, ht]
  cases c with
  | none => rfl
  | some c =>
    have hchanged : { c with storePath := t }.withOverrides env.listen env.storePath
        = { c with storePath := s }.withOverrides env.listen env.storePath := by
      simp only [withOverrides, overriding_of_ne_empty hset t s]
    -- No check looks at the directory.
    have hvalidate : { c with storePath := t }.validate = { c with storePath := s }.validate := rfl
    simp only [Option.map_some, hvalidate, hchanged]

/-- What the environment says hides what the file says in its place: the directory
of the stores always, and the address to listen on if the file has one there. A
file that has none there is refused, if not for that then for what the other
file is refused for. -/
theorem environment_hides_file (hv : files.Holds env.configPath v)
    (hw : files'.Holds env.configPath w) :
    ((∃ text ∈ env.storePath, text ≠ "") → SameBut storePathField s t v w →
        ofEnvironment files env = ofEnvironment files' env) ∧
      ((∃ text ∈ env.listen, text ≠ "") → SameBut listenField s t v w →
        (IsAddress s → IsAddress t → ofEnvironment files env = ofEnvironment files' env) ∧
          (¬ IsAddress s → ofEnvironment files env = .error (.badListen s) ∨
            ∃ e, ofEnvironment files env = .error e ∧ ofEnvironment files' env = .error e)) := by
  refine ⟨fun hset h => ofEnvironment_storePathField hv hw h hset, ?_⟩
  intro hset h
  obtain ⟨others, settled, hs, ht⟩ := ofEnvironment_listenField hv hw h hset
  rw [hs, ht]
  constructor
  · intro hown hown'
    rw [checkOwn, checkOwn, if_pos hown, if_pos hown']
  · intro hown
    -- What is checked before the address may be refused first, and then in both files.
    rw [checkOwn, if_neg hown]
    cases others with
    | error e => exact .inr ⟨e, rfl, rfl⟩
    | ok _ => exact .inl rfl

/-- A file that says only what address to listen on. -/
def listenFile (address : String) : TextFiles :=
  .sole ("[server]\nlisten = \"" ++ address ++ "\"\n")

/-- A file that says only what directory the stores are in. -/
def storePathFile (directory : String) : TextFiles :=
  .sole ("db_path = '" ++ directory ++ "'")

/-- An environment that names an address and a directory. -/
def namingBoth : Environment := ⟨none, some "127.0.0.1:9000", some "/tmp/hub"⟩

/-- Another address in the file makes no difference, nor does another directory. -/
theorem environment_hides_defaults :
    (∃ v w, (listenFile "0.0.0.0:7051").Holds namingBoth.configPath v ∧
      (listenFile "[::1]:80").Holds namingBoth.configPath w ∧
      SameBut listenField "0.0.0.0:7051" "[::1]:80" v w ∧
      ofEnvironment (listenFile "0.0.0.0:7051") namingBoth
        = ofEnvironment (listenFile "[::1]:80") namingBoth) ∧
    ∃ v w, (storePathFile "./store").Holds namingBoth.configPath v ∧
      (storePathFile "").Holds namingBoth.configPath w ∧
      SameBut storePathField "./store" "" v w ∧
      ofEnvironment (storePathFile "./store") namingBoth
        = ofEnvironment (storePathFile "") namingBoth := by
  constructor
  · obtain ⟨v, w, hv, hw, hsame⟩ : ∃ v w, (listenFile "0.0.0.0:7051").Holds _ v ∧
        (listenFile "[::1]:80").Holds _ w ∧ SameBut listenField "0.0.0.0:7051" "[::1]:80" v w :=
      TextFiles.holds_of_loneText? listenField namingBoth.configPath (by decide +kernel)
        (by decide +kernel)
    have hlisten := (environment_hides_file hv hw).2 ⟨_, rfl, by decide⟩ hsame
    exact ⟨v, w, hv, hw, hsame, hlisten.1 (by decide +kernel) (by decide +kernel)⟩
  · obtain ⟨v, w, hv, hw, hsame⟩ : ∃ v w, (storePathFile "./store").Holds _ v ∧
        (storePathFile "").Holds _ w ∧ SameBut storePathField "./store" "" v w :=
      TextFiles.holds_of_loneText? storePathField namingBoth.configPath (by decide +kernel)
        (by decide +kernel)
    exact ⟨v, w, hv, hw, hsame, (environment_hides_file hv hw).1 ⟨_, rfl, by decide⟩ hsame⟩

/-- A text that is no address is refused in the file, though the environment puts
an address in its place. -/
theorem replaced_address_is_checked :
    (∃ v w, (listenFile "localhost:7051").Holds namingBoth.configPath v ∧
      (listenFile "127.0.0.1:7051").Holds namingBoth.configPath w ∧
      SameBut listenField "localhost:7051" "127.0.0.1:7051" v w) ∧
    (∃ text ∈ namingBoth.listen, text ≠ "") ∧
    ofEnvironment (listenFile "localhost:7051") namingBoth
      = .error (.badListen "localhost:7051") ∧
    ofEnvironment (listenFile "127.0.0.1:7051") namingBoth
      = .ok ⟨"/tmp/hub", "127.0.0.1:9000", 30, [], []⟩ := by
  refine ⟨?_, ⟨_, rfl, by decide⟩, by decide +kernel, by decide +kernel⟩
  exact TextFiles.holds_of_loneText? listenField namingBoth.configPath (by decide +kernel)
    (by decide +kernel)

end HubConfig

end RelayHub
