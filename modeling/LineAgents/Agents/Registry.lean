import LineAgents.Agents.DefiYields
import LineAgents.Agents.DocumentSummary
import LineAgents.Agents.HealthCheck
import LineAgents.Agents.HomeAutomation
import LineAgents.Agents.MathOracle
import LineAgents.Agents.PageText
import LineAgents.Agents.PriceOracle
import LineAgents.Agents.WebhookCall
import LineAgents.Html.Document
import LineAgents.Pdf.Document

/-!
# The agents there are

A **registry** holds agents under keys, in the order in which the keys were first registered; an
agent registered under a key that is there takes its place. The default registry holds the eight
agents of this library. What an agent needs besides the outside, the credentials and the services,
comes from the settings; and pages and documents are read with whatever **readers** are given.
-/

namespace LineAgents

/-- **A registry** of things under keys. -/
structure Registry (α : Type) where
  entries : List (Text × α)

namespace Registry

variable {α : Type}

/-- The registry that holds nothing. -/
def empty : Registry α := ⟨[]⟩

/-- Puts `a` under a key: in place if the key is there, at the end otherwise. -/
def register (r : Registry α) (key : Text) (a : α) : Registry α :=
  if r.entries.any (·.1 == key) then
    ⟨r.entries.map fun e => if e.1 == key then (key, a) else e⟩
  else ⟨r.entries ++ [(key, a)]⟩

/-- What is under a key. -/
def get? (r : Registry α) (key : Text) : Option α := r.entries.lookup key

/-- The keys in order. -/
def keys (r : Registry α) : List Text := r.entries.map (·.1)

end Registry

/-- **An agent**, once it is given the settings. -/
abbrev Agent := Settings → Capability

/-- The services of the settings. -/
def Settings.services (s : Settings) : DocumentSummary.Services where
  chat := Completion.chat s.chat
  generation := Completion.generation s.generation

/-- **What pages and documents are read with.** -/
structure Readers where
  page : Html.Parser
  document : Pdf.Reader

/-- The readers of this library. -/
def Readers.standard : Readers where
  page := Html.parse
  document := Pdf.readPages

/-- **The agents of this library**, under their keys. -/
def Registry.default (readers : Readers) : Registry Agent :=
  (((((((empty
    |>.register "calc" fun _ => MathOracle.capability)
    |>.register "price" fun _ => PriceOracle.capability)
    |>.register "defi-apy" fun _ => DefiYields.capability)
    |>.register "home-assistant" fun s => HomeAutomation.capability s.homeToken)
    |>.register "monitor" fun _ => HealthCheck.capability)
    |>.register "pdf-summarizer" fun s =>
      DocumentSummary.capability readers.document s.services)
    |>.register "web-scraper" fun _ => PageText.capability readers.page)
    |>.register "webhook" fun _ => WebhookCall.capability

end LineAgents
