import LineAgents.Params.Schema
import LineAgents.Protocol.Handler
import LineAgents.Text.Case
import LineAgents.Text.Percent

/-!
# Spot prices

The price agent asks an exchange for the last price of a symbol. The symbol goes into the query of
the URL in upper case and percent encoded, so that it can add nothing else to the URL; a symbol that
has no encoding is an error, and nothing is asked.
-/

namespace LineAgents.PriceOracle

/-- Where prices are asked for. -/
def tickerUrl : Text := "https://api.binance.com/api/v3/ticker/price"

/-- The parameter: a symbol. -/
def schema : Params.Schema := [
  { name := "symbol", rule := .required "symbol" "symbol is required" }]

/-- The URL of a symbol. -/
def url (symbol : Text) : Except Failure Text :=
  match Percent.encode? symbol.toUpper with
  | some q => .ok (tickerUrl ++ "?symbol=" ++ q)
  | none => .error (.named "URIError" "URI malformed")

/-- The price in a ticker. -/
def price? (ticker : Json) : Option Text := (ticker.get? "price").bind Json.text?

/-- **The agent.** -/
def capability : Capability where
  card := .declare "PriceOracle-v1" "Returns the symbol price from Binance." ["symbol"] 0.5 "1.0.0"
    none
  positions := [{ name := "symbol" }]
  compute params := do
    let p ← .lift (schema.parse params)
    let r ← Program.fetch {
      url := ← .lift (url (p.text "symbol"))
      timeout := some 10000 }
    if r.ok then
      match price? (← .lift r.json) with
      | some price => return .str price
      | none => throw (.outside "Unexpected ticker payload: missing price")
    else throw (.outside ("HTTP error: " ++ r.statusText))

end LineAgents.PriceOracle
