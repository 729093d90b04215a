import LineAgents.Proofs.Number.Integers
import LineAgents.Settings

/-!
# Which settings an environment makes

Every setting has a default, so a process could start in every environment: a variable that is not
set, or holds nothing, is passed over. The time limit alone goes through two hands that do not agree
on what is to be passed over. The first one passes over what is no number, and zero; the second asks
for a positive integer, and what is none it does not pass over but refuses, with an error that stops
the process.

* `LineAgents.Environment.IsFirst` and `LineAgents.Environment.IsBase` say where a text and a URL
  come from, and `LineAgents.Settings.Reflects` says it of all the settings of an environment.
* `LineAgents.Settings.load_of_environment` is the exact answer: an environment is refused when its
  time limit is a number and no natural number, and the issues that are reported name the time
  limit; any other environment makes the settings that reflect it.
* A negative time limit is such a number (`LineAgents.Settings.load_of_negative_limit`).
-/

namespace LineAgents

/-! ### Variables -/

namespace Environment

/-- **A variable that is not given**: it is not set, or it is set to nothing. -/
def Missing (env : Environment) (name : Text) : Prop := ∀ v ∈ env.value? name, v = []

/-- **The text of the first variable that is given**, or the default where none of them is. -/
def IsFirst (env : Environment) (names : List Text) (default t : Text) : Prop :=
  (∃ before name after, names = before ++ name :: after ∧ (∀ other ∈ before, env.Missing other) ∧
    env.value? name = some t ∧ t ≠ []) ∨
  (∀ name ∈ names, env.Missing name) ∧ t = default

/-- **The text of a variable without the slashes at its end**, or the default where nothing else is
in it. -/
def IsBase (env : Environment) (name default t : Text) : Prop :=
  (t ≠ [] ∧ ∃ n, env.value? name = some (t ++ List.replicate n 47)) ∨
  (∀ v ∈ env.value? name, ∃ n, v = List.replicate n 47) ∧ t = default

/-- The number that the variable for the time limit spells; where it is not set, that is none. -/
def timeLimit (env : Environment) : Float :=
  match env.value? "AGENT_HTTP_TIMEOUT_MS" with
  | some v => Number.ofText v
  | none => Number.nan

section

variable {env : Environment} {name default v : Text}

theorem given?_eq_some_iff : env.given? name = some v ↔ env.value? name = some v ∧ v ≠ [] := by
  rw [given?, Option.filter_eq_some_iff, Bool.not_eq_true', List.isEmpty_eq_false_iff]

theorem given?_eq_none_iff : env.given? name = none ↔ env.Missing name := by
  rw [given?, Option.filter_eq_none_iff]
  simp [Missing]

theorem isFirst_first (env : Environment) (default : Text) (names : List Text) :
    env.IsFirst names default (env.first default names) := by
  induction names with
  | nil => exact Or.inr ⟨nofun, rfl⟩
  | cons name names ih =>
    rw [first]
    cases hgiven : env.given? name with
    | some v =>
      rw [Option.getD_some]
      exact Or.inl ⟨[], name, names, rfl, nofun, given?_eq_some_iff.mp hgiven⟩
    | none =>
      have hmissing := given?_eq_none_iff.mp hgiven
      rw [Option.getD_none]
      rcases ih with ⟨before, other, after, hsplit, hbefore, hother⟩ | ⟨hnone, hdefault⟩
      · refine Or.inl ⟨name :: before, other, after, by rw [hsplit]; rfl, ?_, hother⟩
        exact List.forall_mem_cons.mpr ⟨hmissing, hbefore⟩
      · exact Or.inr ⟨List.forall_mem_cons.mpr ⟨hmissing, hnone⟩, hdefault⟩

theorem isBase_url (env : Environment) (name default : Text) :
    env.IsBase name default (env.url name default) := by
  obtain ⟨n, hsplit⟩ := Number.dropTrailing_append 47 ((env.value? name).getD [])
  rw [url]
  split_ifs with hempty
  · rw [List.isEmpty_iff] at hempty
    rw [hempty, List.nil_append] at hsplit
    refine Or.inr ⟨fun v hv => ⟨n, ?_⟩, rfl⟩
    rw [Option.mem_def.mp hv] at hsplit
    exact hsplit
  · refine Or.inl ⟨fun h => hempty (List.isEmpty_iff.mpr h), n, ?_⟩
    cases hv : env.value? name with
    | none =>
      rw [hv] at hempty
      exact absurd rfl hempty
    | some v =>
      rw [hv, Option.getD_some] at hsplit
      exact congrArg some hsplit

/-- **A base URL does not end in a slash**, if the default does not. -/
theorem getLast?_url (hdefault : default.getLast? ≠ some 47) :
    (env.url name default).getLast? ≠ some 47 := by
  rw [url]
  split_ifs
  · exact hdefault
  · exact Number.getLast?_dropTrailing 47 _

/-- **A switch is on when its variable spells yes** in one of three ways, in any case. -/
theorem flag_iff : env.flag name = true ↔ ∃ v, env.value? name = some v ∧
    v.toLower ∈ [Text.ofString "1", Text.ofString "true", Text.ofString "yes"] := by
  rw [flag]
  cases hgiven : env.given? name with
  | some v =>
    have hv := (given?_eq_some_iff.mp hgiven).1
    rw [hv]
    simp
  | none =>
    refine iff_of_false Bool.false_ne_true ?_
    rintro ⟨v, hv, hmem⟩
    rw [given?_eq_none_iff.mp hgiven v hv] at hmem
    exact absurd hmem (by decide)

end

end Environment

/-! ### The time limit -/

namespace Settings

/-- **A time limit that is refused**: a number, but no natural number. -/
def RefusedLimit (x : Float) : Prop :=
  Number.isNaN x = false ∧ ¬(Number.isFinite x = true ∧ ∃ n : ℕ, Number.value x = n)

section

variable {env : Environment} {x : Float}

theorem timeoutIssues_eq_nil_iff : timeoutIssues x = [] ↔ Number.IsPositiveInteger x := by
  rw [timeoutIssues, List.append_eq_nil_iff, Number.isPositiveInteger_iff]
  refine and_congr ?_ ?_ <;> split_ifs with h <;> simp [h]

/-- **Every issue names what it is about.** -/
theorem path_of_mem_timeoutIssues {issue : Issue} (h : issue ∈ timeoutIssues x) :
    issue.path = Text.ofStrings ["http", "timeoutMs"] := by
  rw [timeoutIssues, List.mem_append] at h
  rcases h with h | h
  all_goals
    split_ifs at h
    · cases h
    · rw [List.mem_singleton.mp h]
      rfl

/-- What is passed over is neither a positive integer nor refused. -/
theorem passed_over_iff : (Number.isNaN x || x == 0) = true ↔
    ¬Number.IsPositiveInteger x ∧ ¬RefusedLimit x := by
  cases hnan : Number.isNaN x with
  | true =>
    refine iff_of_true rfl ⟨fun h => Number.not_isNaN h.1 hnan, fun h => ?_⟩
    exact Bool.false_ne_true (h.1.symm.trans hnan)
  | false =>
    rw [Bool.false_or, Number.beq_zero_iff_value hnan, RefusedLimit, hnan, eq_self_iff_true,
      true_and, not_not]
    constructor
    · rintro ⟨hfinite, hvalue⟩
      refine ⟨?_, hfinite, 0, by rw [hvalue, Nat.cast_zero]⟩
      rintro ⟨-, n, hn, hpos⟩
      rw [hvalue, eq_comm, Nat.cast_eq_zero] at hpos
      omega
    · rintro ⟨hpos, hfinite, n, hvalue⟩
      rcases Nat.eq_zero_or_pos n with rfl | hn
      · exact ⟨hfinite, by rw [hvalue, Nat.cast_zero]⟩
      · exact absurd ⟨hfinite, n, hn, hvalue⟩ hpos

theorem readTimeout_eq (env : Environment) : readTimeout env =
    if Number.isNaN env.timeLimit || env.timeLimit == 0 then .ok defaultTimeout
    else match timeoutIssues env.timeLimit with
      | [] => .ok env.timeLimit
      | issues => .error (.ofIssues issues) := rfl

/-- **Which time limit is read**, and which is refused. -/
theorem readTimeout_cases (env : Environment) :
    (Number.IsPositiveInteger env.timeLimit ∧ readTimeout env = .ok env.timeLimit) ∨
    (¬Number.IsPositiveInteger env.timeLimit ∧ ¬RefusedLimit env.timeLimit ∧
      readTimeout env = .ok 20000) ∨
    (RefusedLimit env.timeLimit ∧ timeoutIssues env.timeLimit ≠ [] ∧
      readTimeout env = .error (.ofIssues (timeoutIssues env.timeLimit))) := by
  rw [readTimeout_eq]
  generalize env.timeLimit = x
  by_cases hover : (Number.isNaN x || x == 0) = true
  · obtain ⟨hpos, hrefused⟩ := passed_over_iff.mp hover
    rw [if_pos hover]
    exact Or.inr (Or.inl ⟨hpos, hrefused, rfl⟩)
  · rw [if_neg hover]
    by_cases hpos : Number.IsPositiveInteger x
    · rw [timeoutIssues_eq_nil_iff.mpr hpos]
      exact Or.inl ⟨hpos, rfl⟩
    · have hissues := mt timeoutIssues_eq_nil_iff.mp hpos
      have hrefused : RefusedLimit x := by
        by_contra hrefused
        exact hover (passed_over_iff.mpr ⟨hpos, hrefused⟩)
      refine Or.inr (Or.inr ⟨hrefused, hissues, ?_⟩)
      cases hlist : timeoutIssues x with
      | nil => exact absurd hlist hissues
      | cons issue issues => rfl

end

end Settings

/-! ### Settings -/

/-- **Access that reflects an environment**: where its credential, its model and its URL come
from. -/
structure ModelAccess.Reflects (env : Environment) (keys : List Text)
    (model defaultModel base defaultBase : Text) (a : ModelAccess) : Prop where
  apiKey : env.IsFirst keys [] a.apiKey
  model : env.IsFirst [model] defaultModel a.model
  baseUrl : env.IsBase base defaultBase a.baseUrl
  /-- A path can be joined to it with a slash. -/
  noSlash : a.baseUrl.getLast? ≠ some 47

namespace Settings

/-- **Settings that reflect an environment**: each of them comes from its own variables. -/
structure Reflects (env : Environment) (s : Settings) : Prop where
  positive : Number.IsPositiveInteger s.timeout
  timeout : Number.IsPositiveInteger env.timeLimit → s.timeout = env.timeLimit
  defaultTimeout : ¬Number.IsPositiveInteger env.timeLimit → s.timeout = 20000
  userAgent : env.IsFirst ["AGENT_USER_AGENT"] ("tool-agents/" ++ version) s.userAgent
  chat : s.chat.Reflects env ["LLM_API_KEY", "OPENAI_API_KEY"] "LLM_MODEL" "gpt-4o-mini"
    "LLM_BASE_URL" "https://api.openai.com/v1"
  generation : s.generation.Reflects env ["HF_API_TOKEN", "HUGGINGFACE_API_KEY"] "HF_MODEL" "gpt2"
    "HF_BASE_URL" "https://api-inference.huggingface.co"
  embeddingModel : env.IsFirst ["EMBEDDINGS_MODEL"] "text-embedding-3-small" s.embeddingModel
  homeToken : env.IsFirst ["HOME_ASSISTANT_TOKEN"] [] s.homeToken
  embeddingsEnabled : s.embeddingsEnabled = true ↔ ∃ v, env.value? "AGENT_EMBEDDINGS" = some v ∧
    v.toLower ∈ [Text.ofString "1", Text.ofString "true", Text.ofString "yes"]
  quiet : s.quiet = true ↔ ∃ v, env.value? "AGENT_QUIET" = some v ∧
    v.toLower ∈ [Text.ofString "1", Text.ofString "true", Text.ofString "yes"]

section

variable {env : Environment} {t : Float}

theorem isPositiveInteger_default : Number.IsPositiveInteger 20000 :=
  ⟨(Number.fields_ofNat (n := 20000) (by norm_num)).1, 20000, by norm_num,
    Number.value_ofNat (by norm_num)⟩

/-- With a time limit the settings are made, whatever the other variables hold. -/
theorem exists_load (ht : readTimeout env = .ok t) (hpositive : Number.IsPositiveInteger t)
    (hgiven : Number.IsPositiveInteger env.timeLimit → t = env.timeLimit)
    (hdefault : ¬Number.IsPositiveInteger env.timeLimit → t = 20000) :
    ∃ s, load env = .ok s ∧ s.Reflects env := by
  cases hload : load env with
  | error f =>
    rw [load, ht] at hload
    cases hload
  | ok s =>
    rw [load, ht] at hload
    cases hload
    refine ⟨_, rfl, ?_⟩
    exact {
      positive := hpositive
      timeout := hgiven
      defaultTimeout := hdefault
      userAgent := env.isFirst_first _ _
      chat := ⟨env.isFirst_first _ _, env.isFirst_first _ _, env.isBase_url _ _,
        Environment.getLast?_url (by decide)⟩
      generation := ⟨env.isFirst_first _ _, env.isFirst_first _ _, env.isBase_url _ _,
        Environment.getLast?_url (by decide)⟩
      embeddingModel := env.isFirst_first _ _
      homeToken := env.isFirst_first _ _
      embeddingsEnabled := Environment.flag_iff
      quiet := Environment.flag_iff }

/-- **Which environments make settings, and which settings they make.** Unless the time limit is a
number without being a natural one, there are settings, and they reflect the environment. If it is
such a number, nothing is made, and the issues that are reported all name the time limit. -/
theorem load_of_environment (env : Environment) :
    (¬RefusedLimit env.timeLimit → ∃ s, load env = .ok s ∧ s.Reflects env) ∧
    (RefusedLimit env.timeLimit → ∃ issues : List Issue, issues ≠ [] ∧
      (∀ issue ∈ issues, issue.path = Text.ofStrings ["http", "timeoutMs"]) ∧
      load env = .error (.ofIssues issues)) := by
  rcases readTimeout_cases env with ⟨hpos, ht⟩ | ⟨hpos, hkept, ht⟩ | ⟨hrefused, hissues, ht⟩
  · refine ⟨fun _ => exists_load ht hpos (fun _ => rfl) fun h => absurd hpos h, fun hrefused => ?_⟩
    obtain ⟨hfinite, n, -, hvalue⟩ := hpos
    exact absurd ⟨hfinite, n, hvalue⟩ hrefused.2
  · exact ⟨fun _ => exists_load ht isPositiveInteger_default (fun h => absurd h hpos) fun _ => rfl,
      fun hrefused => absurd hrefused hkept⟩
  · refine ⟨fun h => absurd hrefused h, fun _ => ⟨timeoutIssues env.timeLimit, hissues,
      fun issue => path_of_mem_timeoutIssues, ?_⟩⟩
    rw [load, ht]
    rfl

end

/-- A time limit with blanks around it is one, and a credential that is empty is passed over for the
next. -/
theorem load_of_padded_limit :
    let env : Environment := [("AGENT_HTTP_TIMEOUT_MS", " 42 "), ("LLM_API_KEY", []),
      ("OPENAI_API_KEY", "k")]
    ∃ s, load env = .ok s ∧ s.Reflects env := by
  intro env
  have hlimit : env.timeLimit = Float.ofNat 42 := rfl
  refine (load_of_environment env).1 fun hrefused => hrefused.2 ?_
  rw [hlimit]
  exact ⟨(Number.fields_ofNat (by norm_num)).1, 42, Number.value_ofNat (by norm_num)⟩

/-- **A negative time limit stops the process.** It is a bad number, and is not passed over. -/
theorem load_of_negative_limit :
    load [("AGENT_HTTP_TIMEOUT_MS", "-5")] = .error (.ofIssues [{
      details := [(Text.ofString "code", .str "too_small"), (Text.ofString "minimum", .num 0),
        (Text.ofString "type", .str "number"), (Text.ofString "inclusive", .bool false),
        (Text.ofString "exact", .bool false)]
      message := "Number must be greater than 0"
      path := Text.ofStrings ["http", "timeoutMs"] }]) := by
  rfl

end Settings

end LineAgents
