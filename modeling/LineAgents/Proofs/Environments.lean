import LineAgents.Settings

/-!
# Environments that differ in one variable

Each setting is read from its own variables, so two environments that differ in one variable
(`LineAgents.Environment.SameBut`) make the same settings but for what that variable is about. This
is said here of the two variables that are switches: one decides whether embeddings are enabled, the
other whether the log is quiet, and neither decides anything else
(`LineAgents.Settings.load_of_sameBut`).
-/

namespace LineAgents

/-! ### Reading variables -/

/-- **Environments that differ in one variable** at most. -/
def Environment.SameBut (name : Text) (env env' : Environment) : Prop :=
  ∀ other, other ≠ name → env.value? other = env'.value? other

namespace Environment.SameBut

variable {name : Text} {env env' : Environment} (h : env.SameBut name env')
include h

theorem given?_eq {other : Text} (hother : other ≠ name) :
    env.given? other = env'.given? other := by
  rw [Environment.given?, Environment.given?, h other hother]

theorem first_eq (default : Text) {names : List Text} (hnames : name ∉ names) :
    env.first default names = env'.first default names := by
  induction names with
  | nil => rfl
  | cons other names ih =>
    rw [List.mem_cons, not_or] at hnames
    rw [Environment.first, Environment.first, h.given?_eq (Ne.symm hnames.1), ih hnames.2]

theorem url_eq (default : Text) {other : Text} (hother : other ≠ name) :
    env.url other default = env'.url other default := by
  rw [Environment.url, Environment.url, h other hother]

theorem flag_eq {other : Text} (hother : other ≠ name) : env.flag other = env'.flag other := by
  rw [Environment.flag, Environment.flag, h.given?_eq hother]

end Environment.SameBut

/-! ### The two switches -/

namespace Settings

/-- The variable that enables embeddings. -/
def embeddingsVariable : Text := "AGENT_EMBEDDINGS"

/-- The variable that quiets the log. -/
def quietVariable : Text := "AGENT_QUIET"

/-- The settings with the switches as an environment has them. -/
def withSwitches (s : Settings) (env : Environment) : Settings :=
  { s with
    embeddingsEnabled := env.flag embeddingsVariable
    quiet := env.flag quietVariable }

/-- **A switch is about nothing else**: environments that differ in its variable make the same
settings, but for the switches. -/
theorem load_of_sameBut {name : Text} {env env' : Environment}
    (hname : name = embeddingsVariable ∨ name = quietVariable) (h : env.SameBut name env') :
    load env = (load env').map (·.withSwitches env) := by
  have htimeout : readTimeout env = readTimeout env' := by
    have hvalue : env.value? "AGENT_HTTP_TIMEOUT_MS" = env'.value? "AGENT_HTTP_TIMEOUT_MS" := by
      rcases hname with rfl | rfl <;> exact h _ (by decide)
    rw [readTimeout, hvalue, ← readTimeout]
  rw [load, load, htimeout]
  cases readTimeout env' with
  | error f => rfl
  | ok timeout =>
    -- no other setting is read from a variable that may be the one
    rcases hname with rfl | rfl
    all_goals
      simp (disch := decide) only [h.first_eq, h.url_eq]
      rfl

/-- **The settings of an environment** have its switches, and its credential for the services. -/
theorem switches_of_load {env : Environment} {s : Settings} (h : load env = .ok s) :
    s.embeddingsEnabled = env.flag embeddingsVariable ∧ s.quiet = env.flag quietVariable ∧
      s.chat.apiKey = env.first "" ["LLM_API_KEY", "OPENAI_API_KEY"] := by
  rw [load] at h
  cases ht : readTimeout env with
  | error f =>
    rw [ht] at h
    cases h
  | ok timeout =>
    rw [ht] at h
    cases h
    exact ⟨rfl, rfl, rfl⟩

end Settings

end LineAgents
