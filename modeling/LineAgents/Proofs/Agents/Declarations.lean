import LineAgents.Agents.Registry
import LineAgents.Proofs.Params.Positions

/-!
# What the agents declare about their parameters

Every agent declares the positions of its parameters, for clients that give a list, and a schema,
which is all that it reads of them (`LineAgents.Capability.Declares`). The eight agents keep the two
in agreement, so a list and its named values are the same call: the agent ends in the same way,
leaves the same world behind and does the same things on the way
(`LineAgents.Registry.run_positional`). A position that is skipped, a `null` at its place, a name
that is left out and values beyond the last position make no difference.

A statement about the registered agents is proved by the eight cases of
`LineAgents.Registry.get?_default_keys`.
-/

namespace LineAgents

variable {readers : Readers}

/-- **The agents of the default registry** under their keys, one case each. -/
theorem Registry.get?_default_keys {P : Text → Agent → Prop}
    (mathOracle : P "calc" fun _ => MathOracle.capability)
    (priceOracle : P "price" fun _ => PriceOracle.capability)
    (defiYields : P "defi-apy" fun _ => DefiYields.capability)
    (homeAutomation : P "home-assistant" fun s => HomeAutomation.capability s.homeToken)
    (healthCheck : P "monitor" fun _ => HealthCheck.capability)
    (documentSummary : P "pdf-summarizer" fun s =>
      DocumentSummary.capability readers.document s.services)
    (pageText : P "web-scraper" fun _ => PageText.capability readers.page)
    (webhookCall : P "webhook" fun _ => WebhookCall.capability)
    {key : Text} {agent : Agent} (h : (Registry.default readers).get? key = some agent) :
    P key agent := by
  have hentries : (Registry.default readers).entries =
      [(Text.ofString "calc", fun _ => MathOracle.capability),
        (Text.ofString "price", fun _ => PriceOracle.capability),
        (Text.ofString "defi-apy", fun _ => DefiYields.capability),
        (Text.ofString "home-assistant", fun s => HomeAutomation.capability s.homeToken),
        (Text.ofString "monitor", fun _ => HealthCheck.capability),
        (Text.ofString "pdf-summarizer",
          fun s => DocumentSummary.capability readers.document s.services),
        (Text.ofString "web-scraper", fun _ => PageText.capability readers.page),
        (Text.ofString "webhook", fun _ => WebhookCall.capability)] := rfl
  obtain ⟨before, after, hsplit, -⟩ := List.lookup_eq_some_iff.mp h
  have hmem : (key, agent) ∈ (Registry.default readers).entries := by
    rw [hsplit]
    exact List.mem_append_right before List.mem_cons_self
  rw [hentries] at hmem
  simp only [List.mem_cons, Prod.mk.injEq, List.not_mem_nil, or_false] at hmem
  rcases hmem with ⟨rfl, rfl⟩ | ⟨rfl, rfl⟩ | ⟨rfl, rfl⟩ | ⟨rfl, rfl⟩ | ⟨rfl, rfl⟩ | ⟨rfl, rfl⟩ |
    ⟨rfl, rfl⟩ | ⟨rfl, rfl⟩
  exacts [mathOracle, priceOracle, defiYields, homeAutomation, healthCheck, documentSummary,
    pageText, webhookCall]

/-- The agents of the default registry, where their keys do not matter. -/
theorem Registry.get?_default_cases {P : Agent → Prop}
    (mathOracle : P fun _ => MathOracle.capability)
    (priceOracle : P fun _ => PriceOracle.capability)
    (defiYields : P fun _ => DefiYields.capability)
    (homeAutomation : P fun s => HomeAutomation.capability s.homeToken)
    (healthCheck : P fun _ => HealthCheck.capability)
    (documentSummary : P fun s => DocumentSummary.capability readers.document s.services)
    (pageText : P fun _ => PageText.capability readers.page)
    (webhookCall : P fun _ => WebhookCall.capability)
    {key : Text} {agent : Agent} (h : (Registry.default readers).get? key = some agent) :
    P agent :=
  Registry.get?_default_keys (P := fun _ => P) mathOracle priceOracle defiYields homeAutomation
    healthCheck documentSummary pageText webhookCall h

/-! ### Positions and schema of one agent -/

/-- **What an agent declares**: a schema through which alone it reads its parameters, in agreement
with its positions. -/
structure Capability.Declares (c : Capability) (schema : Params.Schema) : Prop where
  reads : ∀ {params params' : Fields}, schema.parse params = schema.parse params' →
    c.compute params = c.compute params'
  agrees : Params.Agrees c.positions schema

theorem Capability.Declares.compute_positional {c : Capability} {schema : Params.Schema}
    (h : c.Declares schema) (values : List Json) :
    c.compute (Params.normalize (some (.arr values)) c.positions) =
      c.compute (Params.normalize (some (.obj (Params.named c.positions values))) c.positions) :=
  h.reads (Params.parse_positional h.agrees values)

/-! ### The eight agents -/

theorem MathOracle.declares : capability.Declares schema where
  reads h := by simp only [capability, h]
  agrees := .of_map (by decide) (by decide) (by decide) rfl

theorem PriceOracle.declares : capability.Declares schema where
  reads h := by simp only [capability, h]
  agrees := .of_map (by decide) (by decide) (by decide) rfl

theorem DefiYields.declares : capability.Declares schema where
  reads h := by simp only [capability, h]
  agrees := .of_map (by decide) (by decide) (by decide) rfl

theorem HomeAutomation.declares (settingsToken : Text) :
    (capability settingsToken).Declares schema where
  reads h := by simp only [capability, h]
  -- the credential is no part of what is declared
  agrees := .of_map (by dsimp only [capability]; decide) (by decide)
    (by dsimp only [capability]; decide) rfl

theorem HealthCheck.declares : capability.Declares schema where
  reads h := by simp only [capability, h]
  agrees := .of_map (by decide) (by decide) (by decide) rfl

theorem DocumentSummary.declares (reader : Pdf.Reader) (services : Services) :
    (capability reader services).Declares schema where
  reads h := by simp only [capability, h]
  -- the reader and the services are no part of what is declared
  agrees := .of_map (by dsimp only [capability]; decide) (by decide)
    (by dsimp only [capability]; decide) rfl

theorem PageText.declares (parse : Html.Parser) : (capability parse).Declares schema where
  reads h := by simp only [capability, h]
  -- nor is the parser
  agrees := .of_map (by dsimp only [capability]; decide) (by decide)
    (by dsimp only [capability]; decide) rfl

theorem WebhookCall.declares : capability.Declares schema where
  reads h := by simp only [capability, h]
  agrees := .of_map (by decide) (by decide) (by decide) rfl

/-- **A list and its named values are the same call** of a registered agent, whatever the settings
and whatever the world, and with whatever readers: the runs end in the same way, with the same value
or the same failure, they leave the same world behind, and they send, run, probe, read and log the
same on the way. -/
theorem Registry.run_positional {key : Text} {agent : Agent}
    (h : (Registry.default readers).get? key = some agent) (settings : Settings)
    (values : List Json) (w : World) :
    let c := agent settings
    w.run (c.compute (Params.normalize (some (.arr values)) c.positions)) =
      w.run (c.compute (Params.normalize (some (.obj (Params.named c.positions values)))
        c.positions)) := by
  have hdeclares : ∃ schema, (agent settings).Declares schema :=
    Registry.get?_default_cases (P := fun agent => ∃ schema, (agent settings).Declares schema)
      ⟨_, MathOracle.declares⟩ ⟨_, PriceOracle.declares⟩ ⟨_, DefiYields.declares⟩
      ⟨_, HomeAutomation.declares settings.homeToken⟩ ⟨_, HealthCheck.declares⟩
      ⟨_, DocumentSummary.declares readers.document settings.services⟩
      ⟨_, PageText.declares readers.page⟩
      ⟨_, WebhookCall.declares⟩ h
  obtain ⟨schema, hschema⟩ := hdeclares
  intro c
  rw [hschema.compute_positional values]

/-- A list with a gap and too few values, for an agent whose last position has its default in the
schema only. -/
theorem Registry.run_positional_of_gap :
    let settings : Settings :=
      { timeout := 20000, userAgent := [], chat := ⟨[], [], []⟩, generation := ⟨[], [], []⟩,
        embeddingsEnabled := false, embeddingModel := [], homeToken := [], quiet := true }
    let c := DocumentSummary.capability Readers.standard.document settings.services
    let values : List Json := [.str "aGVsbG8=", .null]
    let w : World := World.unreachable 1 0
    (Registry.default .standard).get? "pdf-summarizer" =
        some (fun s => DocumentSummary.capability Readers.standard.document s.services) ∧
      w.run (c.compute (Params.normalize (some (.arr values)) c.positions)) =
        w.run (c.compute (Params.normalize (some (.obj (Params.named c.positions values)))
          c.positions)) := by
  intro settings c values w
  have hget : (Registry.default .standard).get? "pdf-summarizer" =
      some fun s => DocumentSummary.capability Readers.standard.document s.services := rfl
  exact ⟨hget, Registry.run_positional hget settings values w⟩

end LineAgents
