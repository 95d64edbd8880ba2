import SnippetAudit.Command.Basic
import SnippetAudit.Service.Basic
import SnippetAudit.Proofs.Text.Blank
import SnippetAudit.Proofs.Text.Search

/-!
# The clients of the commands and of the service

The service takes its client from the environment alone. A command takes the key and the model from its options, and
from variables where these are not given; an option goes before what the environment says by itself.

- Without the two options a command has the values of their variables (`choice?_of_read?`).
- Its key is then the one of the environment, unless a blank first variable hides the second (`key?_eq`), and its model
  the one of the environment without the name of a family (`settings_eq`).
- So the two clients agree, but for these two kinds of environments, where they do not (`clients_agree`).
-/

namespace SnippetAudit.Command

open Provider (Client Settings)

/-! ## What a command line gives -/

/-- The name of a command and what is given behind it. -/
def given? (words : List String) : Option (String × Given) := do
  let (_, ending) ← outerGrammar.read (.ready .empty) words
  match ending with
  | .command name rest =>
    let grammar ← commands.lookup name
    let (g, _) ← grammar.read (.ready .empty) rest
    some (name, g)
  | _ => none

/-- The model that a task asks. -/
def Task.choice? : Task → Option ModelChoice
  | .detect _ _ c => some c
  | .quick _ c => some c
  | .batch _ _ _ c => some c
  | .listTypes => none
  | .train _ _ _ c => some c
  | .evaluate _ _ _ _ c => some c

section Read

variable {env : Environment}

/-- The task of a command line is the task of what it gives. -/
theorem task?_of_read? {words : List String} {i : Invocation} (h : read? env words = some (.run i)) :
    ∃ name g, given? words = some (name, g) ∧ task? env name g = some i.task := by
  unfold read? at h
  obtain ⟨⟨outer, ending⟩, houter, h⟩ := Option.bind_eq_some_iff.1 h
  cases ending with
  | done => cases h
  | inquiry name =>
    simp only [answer, pure, Option.some.injEq] at h
    split at h <;> cases h
  | command name rest =>
    simp only at h
    split at h
    · split at h <;> cases h
    · unfold readInner? at h
      obtain ⟨grammar, hgrammar, h⟩ := Option.bind_eq_some_iff.1 h
      obtain ⟨⟨g, ending⟩, hread, h⟩ := Option.bind_eq_some_iff.1 h
      have hgiven : given? words = some (name, g) := by
        simp only [given?, houter, Option.bind_eq_bind, Option.bind_some, hgrammar, hread]
      cases ending with
      | inquiry name =>
        simp only [answer, pure, Option.some.injEq] at h
        split at h <;> cases h
      | command _ _ => cases h
      | done =>
        obtain ⟨task, htask, h⟩ := Option.bind_eq_some_iff.1 h
        obtain ⟨_, _, h⟩ := Option.bind_eq_some_iff.1 h
        obtain ⟨_, _, h⟩ := Option.bind_eq_some_iff.1 h
        cases h
        exact ⟨name, g, hgiven, htask⟩

theorem choice?_of_task? {name : String} {g : Given} {t : Task} {c : ModelChoice} (h : task? env name g = some t)
    (hc : t.choice? = some c) : choice? env g = some c := by
  unfold task? at h
  split at h
  · simp only [Option.bind_eq_bind, Option.bind_eq_some_iff, pure, Option.some.injEq] at h
    obtain ⟨_, _, _, _, _, hchoice, rfl⟩ := h
    cases hc
    exact hchoice
  · split at h
    · cases h
    · simp only [Option.bind_eq_bind, Option.bind_eq_some_iff, pure, Option.some.injEq] at h
      obtain ⟨_, hchoice, rfl⟩ := h
      cases hc
      exact hchoice
  · simp only [Option.bind_eq_bind, Option.bind_eq_some_iff, pure, Option.some.injEq] at h
    obtain ⟨_, _, _, _, _, _, _, hchoice, rfl⟩ := h
    cases hc
    exact hchoice
  · split at h <;> cases h
    cases hc
  · simp only [Option.bind_eq_bind, Option.bind_eq_some_iff, pure, Option.some.injEq] at h
    obtain ⟨_, _, _, _, _, _, _, _, _, _, _, _, _, _, _, _, _, hchoice, rfl⟩ := h
    cases hc
    exact hchoice
  · simp only [Option.bind_eq_bind, Option.bind_eq_some_iff, pure, Option.some.injEq] at h
    obtain ⟨_, _, _, _, _, _, _, _, _, hchoice, rfl⟩ := h
    cases hc
    exact hchoice
  · cases h

/-- **Without the options for them**, the key and the model are the values of their variables. -/
theorem choice?_values {g : Given} {c : ModelChoice} (h : choice? env g = some c) (hkey : g.has "api-key" = false)
    (hmodel : g.has "llm" = false) :
    c.apiKey = env.value? "GOOGLE_API_KEY" ∧ c.model = env.value? "BUGSCAN_LLM_MODEL" := by
  have hfrom : ∀ name variableName, g.has name = false →
      g.readFrom? env name variableName some = some (env.value? variableName) := by
    intro name variableName hhas
    have hvalue : g.value? name = none := by simpa [Given.has, Given.value?] using hhas
    simp only [Given.readFrom?, hvalue]
    cases env.value? variableName <;> rfl
  unfold choice? at h
  rw [hfrom _ _ hkey, hfrom _ _ hmodel] at h
  simp only [Option.bind_eq_bind, Option.bind_eq_some_iff, pure, Option.some.injEq] at h
  obtain ⟨_, _, _, rfl, _, rfl, rfl⟩ := h
  exact ⟨rfl, rfl⟩

end Read

/-! ## Keys -/

/-- A key that a client can use. -/
def usable (key : Option String) : Option String := key.filter (!Text.isBlankText ·)

/-- The first variable for the key is set to blanks alone, and the second one holds a key. -/
def HiddenKey (env : Environment) : Prop :=
  (∃ blank, env.value? "GOOGLE_API_KEY" = some blank ∧ Text.isBlankText blank = true) ∧
    ∃ key, env.value? "GEMINI_API_KEY" = some key ∧ Text.isBlankText key = false

/-- The model is named with its family. -/
def FamilyNamed (env : Environment) : Prop := ∃ bare, env.value? "BUGSCAN_LLM_MODEL" = some ("gemini/" ++ bare)

/-- The failure of a client without a key. -/
def noKey : Failure := .config "no API key: set GOOGLE_API_KEY or GEMINI_API_KEY, or pass --api-key"

theorem ofSettings_eq (s : Settings) :
    Client.ofSettings s = match usable s.apiKey with
      | some key => .ok ⟨s, key⟩
      | none => .error noKey := rfl

section Keys

variable {env : Environment} {key : String}

theorem usable_of_blank (h : Text.isBlankText key = true) : usable (some key) = none := by
  simp [usable, Option.filter, h]

theorem usable_of_key (h : Text.isBlankText key = false) : usable (some key) = some key := by
  simp [usable, Option.filter, h]

theorem usable_usable (key : Option String) : usable (usable key) = usable key := by
  cases key with
  | none => rfl
  | some key =>
    cases h : Text.isBlankText key with
    | true => rw [usable_of_blank h]; rfl
    | false => rw [usable_of_key h, usable_of_key h]

/-- The key of the environment is the first usable one. -/
theorem key?_eq (env : Environment) :
    Settings.key? env = (usable (env.value? "GOOGLE_API_KEY")).or (usable (env.value? "GEMINI_API_KEY")) := by
  have hcons : ∀ (key : Option String) (keys : List String),
      (key.toList ++ keys).find? (!Text.isBlankText ·) = (usable key).or (keys.find? (!Text.isBlankText ·)) := by
    intro key keys
    cases key with
    | none => rfl
    | some key =>
      cases h : Text.isBlankText key with
      | true => rw [usable_of_blank h]; simp [h]
      | false => rw [usable_of_key h]; simp [h]
  have hkeys : Settings.keyVariables.filterMap env.value? =
      (env.value? "GOOGLE_API_KEY").toList ++ ((env.value? "GEMINI_API_KEY").toList ++ []) := by
    unfold Settings.keyVariables
    cases hfirst : env.value? "GOOGLE_API_KEY" <;> cases hsecond : env.value? "GEMINI_API_KEY" <;>
      simp [hfirst, hsecond]
  rw [Settings.key?, hkeys, hcons, hcons]
  simp

/-- The key of the environment is usable as it is. -/
theorem usable_key? (env : Environment) : usable (Settings.key? env) = Settings.key? env := by
  rw [key?_eq]
  cases h : usable (env.value? "GOOGLE_API_KEY") with
  | none => exact usable_usable _
  | some key =>
    rw [Option.some_or, ← h]
    exact usable_usable _

/-- **The key of a command** that has the value of the first variable is the key of the environment, unless that value
hides another key. -/
theorem usable_or_key? (h : ¬HiddenKey env) :
    usable ((env.value? "GOOGLE_API_KEY").or (Settings.key? env)) = Settings.key? env := by
  cases hfirst : env.value? "GOOGLE_API_KEY" with
  | none => exact usable_key? env
  | some first =>
    rw [Option.some_or, key?_eq, hfirst]
    cases hblank : Text.isBlankText first with
    | false => rw [usable_of_key hblank, Option.some_or]
    | true =>
      rw [usable_of_blank hblank, Option.none_or]
      cases hsecond : env.value? "GEMINI_API_KEY" with
      | none => rfl
      | some second =>
        cases hblank' : Text.isBlankText second with
        | true => rw [usable_of_blank hblank']
        | false => exact absurd ⟨⟨first, hfirst, hblank⟩, second, hsecond, hblank'⟩ h

/-- **A hidden key** is the key of the environment, and no key of a command. -/
theorem HiddenKey.keys (h : HiddenKey env) :
    usable ((env.value? "GOOGLE_API_KEY").or (Settings.key? env)) = none ∧ ∃ key, Settings.key? env = some key := by
  obtain ⟨⟨first, hfirst, hblank⟩, second, hsecond, hkey⟩ := h
  rw [key?_eq, hfirst, hsecond, Option.some_or, usable_of_blank hblank, usable_of_key hkey]
  exact ⟨rfl, second, rfl⟩

end Keys

/-! ## Clients -/

/-- The client of a command. -/
def ModelChoice.client (env : Environment) (c : ModelChoice) : Except Failure Client :=
  Client.ofSettings (c.settings env)

/-- The client of the service. -/
def serviceClient (env : Environment) : Except Failure Client := Client.ofSettings (.ofEnvironment env)

/-- Two clients that could not be made for lack of a key, or that send the same request for every prompt. -/
def SameRequests (a b : Except Failure Client) : Prop :=
  (a = .error noKey ∧ b = .error noKey) ∨
    ∃ x y, a = .ok x ∧ b = .ok y ∧ ∀ prompt, x.request? prompt = y.request? prompt

section Clients

variable {env : Environment} {c : ModelChoice}

theorem bareModel_append (bare : String) : Settings.bareModel ("gemini/" ++ bare) = bare := by
  rw [Settings.bareModel, String.toList_append, Text.stripStart?_append]
  exact String.ofList_toList

theorem bareModel_eq_self {name : String} (h : ∀ bare, name ≠ "gemini/" ++ bare) : Settings.bareModel name = name := by
  rw [Settings.bareModel]
  split
  · next bare hbare =>
    refine absurd (String.toList_inj.1 ?_) (h (String.ofList bare))
    rw [Text.eq_append_of_stripStart? hbare]
    simp
  · rfl

theorem bareModel_defaultModel : Settings.bareModel Settings.defaultModel = Settings.defaultModel := by
  decide +kernel

/-- **The settings of a command** that has the values of the variables. -/
theorem settings_eq (hkey : c.apiKey = env.value? "GOOGLE_API_KEY")
    (hmodel : c.model = env.value? "BUGSCAN_LLM_MODEL") :
    c.settings env =
      { Settings.ofEnvironment env with
        apiKey := (env.value? "GOOGLE_API_KEY").or (Settings.key? env)
        model := Settings.bareModel (Settings.ofEnvironment env).model } := by
  obtain ⟨_, apiKey, model⟩ := c
  simp only at hkey hmodel
  subst hkey hmodel
  unfold ModelChoice.settings Settings.ofEnvironment Settings.withModel
  cases env.value? "GOOGLE_API_KEY" <;> cases env.value? "BUGSCAN_LLM_MODEL" <;>
    simp [bareModel_defaultModel]

/-- A model that is named without its family keeps its name. -/
theorem bareModel_ofEnvironment (h : ¬FamilyNamed env) :
    Settings.bareModel (Settings.ofEnvironment env).model = (Settings.ofEnvironment env).model := by
  have hmodel : (Settings.ofEnvironment env).model = (env.value? "BUGSCAN_LLM_MODEL").getD Settings.defaultModel := rfl
  rw [hmodel]
  cases hname : env.value? "BUGSCAN_LLM_MODEL" with
  | none => exact bareModel_defaultModel
  | some name => exact bareModel_eq_self fun bare hbare => h ⟨bare, hbare ▸ hname⟩

/-- The client of the service has the key of the environment. -/
theorem serviceClient_eq (env : Environment) :
    serviceClient env = match Settings.key? env with
      | some key => .ok ⟨.ofEnvironment env, key⟩
      | none => .error noKey := by
  have hkey : (Settings.ofEnvironment env).apiKey = Settings.key? env := rfl
  rw [serviceClient, ofSettings_eq, hkey, usable_key?]

/-- **The client of a command** is the client of the service but for the name of the model, unless a key is hidden. -/
theorem client_eq (hkey : c.apiKey = env.value? "GOOGLE_API_KEY") (hmodel : c.model = env.value? "BUGSCAN_LLM_MODEL")
    (h : ¬HiddenKey env) :
    (c.client env = .error noKey ∧ serviceClient env = .error noKey) ∨
      ∃ key, serviceClient env = .ok ⟨.ofEnvironment env, key⟩ ∧
        c.client env = .ok ⟨(Settings.ofEnvironment env).withModel (Settings.ofEnvironment env).model, key⟩ := by
  have hsettings := settings_eq hkey hmodel
  have husable := usable_or_key? h
  rw [ModelChoice.client, ofSettings_eq, serviceClient_eq, hsettings]
  simp only [husable]
  cases hfound : Settings.key? env with
  | none => exact .inl ⟨rfl, rfl⟩
  | some key =>
    -- what is usable is the key itself
    have hchosen : (env.value? "GOOGLE_API_KEY").or (some key) = some key := by
      rw [hfound] at husable
      exact (Option.filter_eq_some_iff.1 husable).1
    have hapiKey : (Settings.ofEnvironment env).apiKey = some key := hfound
    refine .inr ⟨key, rfl, ?_⟩
    simp only [hchosen, Settings.withModel, hapiKey]

/-- **The clients agree** for every command line without a key and a model of its own, unless the environment hides a
key or names the model with its family. A hidden key is missed by the command alone; a model named with its family is
asked under the name without it by the command, and under its full name by the service. -/
theorem clients_agree {words : List String} {i : Invocation} {name : String} {g : Given}
    (hread : read? env words = some (.run i)) (hgiven : given? words = some (name, g))
    (hchoice : i.task.choice? = some c)
    (hkey : g.has "api-key" = false) (hmodel : g.has "llm" = false) :
    (¬HiddenKey env → ¬FamilyNamed env → SameRequests (c.client env) (serviceClient env)) ∧
    (HiddenKey env → c.client env = .error noKey ∧ ∃ y, serviceClient env = .ok y) ∧
    (¬HiddenKey env → ∀ bare, env.value? "BUGSCAN_LLM_MODEL" = some ("gemini/" ++ bare) →
      (c.client env = .error noKey ∧ serviceClient env = .error noKey) ∨
        ∃ x y, c.client env = .ok x ∧ serviceClient env = .ok y ∧
          x.settings.model = bare ∧ y.settings.model = "gemini/" ++ bare ∧
          x = { y with settings := { y.settings with model := bare } }) := by
  obtain ⟨name', g', hgiven', htask⟩ := task?_of_read? hread
  obtain ⟨rfl, rfl⟩ : name = name' ∧ g = g' := by simpa [hgiven] using hgiven'
  obtain ⟨hkey, hmodel⟩ := choice?_values (choice?_of_task? htask hchoice) hkey hmodel
  refine ⟨fun hhidden hfamily => ?_, fun hhidden => ?_, fun hhidden bare hbare => ?_⟩
  · rcases client_eq hkey hmodel hhidden with h | ⟨key, hservice, hclient⟩
    · exact .inl h
    · refine .inr ⟨_, _, hclient, hservice, fun prompt => ?_⟩
      rw [Settings.withModel, bareModel_ofEnvironment hfamily]
  · obtain ⟨hnone, key, hsome⟩ := hhidden.keys
    rw [ModelChoice.client, ofSettings_eq, serviceClient_eq, settings_eq hkey hmodel]
    rw [hsome] at hnone
    simp only [hsome, hnone]
    exact ⟨trivial, _, rfl⟩
  · refine (client_eq hkey hmodel hhidden).imp_right fun ⟨key, hservice, hclient⟩ => ?_
    have hname : (Settings.ofEnvironment env).model = "gemini/" ++ bare := by
      rw [Settings.ofEnvironment, hbare]
      rfl
    refine ⟨_, _, hclient, hservice, ?_, hname, ?_⟩
    · rw [Settings.withModel, hname, bareModel_append]
    · rw [Settings.withModel, hname, bareModel_append]

end Clients

/-! ### The two kinds of environments -/

/-- A key in the second variable and a model of another family. -/
theorem clients_agree_second_key :
    let env : Environment :=
      [("GEMINI_API_KEY", "g"), ("BUGSCAN_LLM_MODEL", "openai/x"), ("BUGSCAN_MAX_TOKENS", " 12 ")]
    let c : ModelChoice := ⟨none, none, some "openai/x"⟩
    read? env ["detect", "a.c"] = some (.run ⟨false, false, .hierarchical, .detect ⟨"a.c"⟩ .text c⟩) ∧
      given? ["detect", "a.c"] = some ("detect", ⟨[], ["a.c"]⟩) ∧ ¬HiddenKey env ∧ ¬FamilyNamed env ∧
      SameRequests (c.client env) (serviceClient env) := by
  intro env c
  have hread : read? env ["detect", "a.c"] =
      some (.run ⟨false, false, .hierarchical, .detect ⟨"a.c"⟩ .text c⟩) := by decide +kernel
  have hgiven : given? ["detect", "a.c"] = some ("detect", ⟨[], ["a.c"]⟩) := by decide +kernel
  have hhidden : ¬HiddenKey env := by
    rintro ⟨⟨blank, hblank, -⟩, -⟩
    cases hblank
  have hfamily : ¬FamilyNamed env := by
    rintro ⟨bare, hbare⟩
    have hname : "openai/x" = "gemini/" ++ bare := Option.some.inj hbare
    have hchars := congrArg (·.toList.head?) hname
    rw [String.toList_append] at hchars
    cases hchars
  exact ⟨hread, hgiven, hhidden, hfamily, (clients_agree hread hgiven rfl rfl rfl).1 hhidden hfamily⟩

/-- A blank first key hides the second one from a command, and a model that is named with its family is asked under two
names. -/
theorem clients_differ :
    let hidden : Environment := [("GOOGLE_API_KEY", " "), ("GEMINI_API_KEY", "g")]
    let named : Environment := [("GOOGLE_API_KEY", "k"), ("BUGSCAN_LLM_MODEL", "gemini/x")]
    (read? hidden ["detect", "a.c"] =
        some (.run ⟨false, false, .hierarchical, .detect ⟨"a.c"⟩ .text ⟨none, some " ", none⟩⟩) ∧
      ¬SameRequests (ModelChoice.client hidden ⟨none, some " ", none⟩) (serviceClient hidden)) ∧
    (read? named ["detect", "a.c"] =
        some (.run ⟨false, false, .hierarchical, .detect ⟨"a.c"⟩ .text ⟨none, some "k", some "gemini/x"⟩⟩) ∧
      ¬SameRequests (ModelChoice.client named ⟨none, some "k", some "gemini/x"⟩) (serviceClient named)) := by
  intro hidden named
  refine ⟨⟨by decide +kernel, ?_⟩, by decide +kernel, ?_⟩
  · have hcommand : ModelChoice.client hidden ⟨none, some " ", none⟩ = .error noKey := by rfl
    have hservice : serviceClient hidden = .ok ⟨.ofEnvironment hidden, "g"⟩ := by rfl
    rintro (⟨-, h⟩ | ⟨x, y, h, -⟩)
    · rw [hservice] at h
      cases h
    · rw [hcommand] at h
      cases h
  · have hcommand : ∃ x, ModelChoice.client named ⟨none, some "k", some "gemini/x"⟩ = .ok x ∧
        (x.request? "").map (·.address.path) = some "/v1beta/models/x:generateContent" :=
      ⟨_, rfl, by decide +kernel⟩
    have hservice : ∃ y, serviceClient named = .ok y ∧
        (y.request? "").map (·.address.path) = some "/v1beta/models/gemini/x:generateContent" :=
      ⟨_, rfl, by decide +kernel⟩
    obtain ⟨x, hx, hpath⟩ := hcommand
    obtain ⟨y, hy, hpath'⟩ := hservice
    rintro (⟨h, -⟩ | ⟨x', y', h, h', hsame⟩)
    · rw [hx] at h
      cases h
    · obtain rfl : x = x' := Except.ok.inj (hx.symm.trans h)
      obtain rfl : y = y' := Except.ok.inj (hy.symm.trans h')
      rw [hsame, hpath'] at hpath
      exact absurd hpath (by decide)

end SnippetAudit.Command
