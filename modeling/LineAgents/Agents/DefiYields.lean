import LineAgents.Params.Schema
import LineAgents.Protocol.Handler
import LineAgents.Text.Case

/-!
# Yields of liquidity pools

The yield agent fetches a list of pools and answers with the best ones for a token. A **pool** is
an open record: it may hold anything, and the members that the agent reads are each of one type or
missing; whatever is not such a record is passed over.

`LineAgents.DefiYields.best` is the selection: the pools that match a filter, by descending yield,
pools of equal yield in the order of the list, cut off at a limit.
-/

namespace LineAgents.DefiYields

/-! ### Pools -/

/-- **A pool**: its members in order. -/
structure Pool where
  members : Fields

namespace Pool

/-- The text of a member, if there is one. -/
def text? (p : Pool) (member : Text) : Option Text := p.members.text? member

/-- The number of a member, if there is one. -/
def number? (p : Pool) (member : Text) : Option Float := p.members.number? member

/-- The yield of the pool in percent a year, if it is known. -/
def yield? (p : Pool) : Option Float := p.number? "apy"

/-- The members that hold a text. -/
def textMembers : List Text := ["pool", "project", "symbol", "chain", "ilRisk", "exposure"]

/-- The members that hold a number. -/
def numberMembers : List Text := ["apy", "tvlUsd", "apyBase", "apyReward"]

/-- Whether a member is missing, `null`, or of the type it has to have. -/
def memberFits (fits : Json → Bool) (v : Option Json) : Bool :=
  match v with
  | none => true
  | some v => v.isNull || fits v

/-- The pool that a value is, if the members that are read have their types. -/
def ofJson? : Json → Option Pool
  | .obj fs =>
    if textMembers.all (fun m => memberFits (·.text?.isSome) (Fields.get? fs m)) &&
        numberMembers.all (fun m => memberFits (·.number?.isSome) (Fields.get? fs m)) then
      some ⟨fs⟩
    else none
  | _ => none

end Pool

/-! ### Selection -/

/-- **What to select**: a token, a chain and a least value locked if they matter, and how many. -/
structure Filter where
  token : Text
  chain : Option Text := none
  leastLocked : Option Float := none
  limit : Float

/-- A number that is there and neither zero nor undefined. -/
def significant (x : Option Float) : Option Float :=
  x.filter fun x => !(x == 0 || Number.isNaN x)

namespace Filter

/-- Whether the pool is one of the token: it has a symbol with the token in it, in any case, and
its yield is known. -/
def hasToken (f : Filter) (p : Pool) : Bool :=
  match p.text? "symbol", p.yield? with
  | some symbol, some _ => !symbol.isEmpty && Text.contains symbol.toLower f.token.toLower
  | _, _ => false

/-- Whether the pool is on the chain, in any case, if a chain is given. -/
def onChain (f : Filter) (p : Pool) : Bool :=
  match f.chain with
  | some chain =>
    chain.toLower.isEmpty || (Text.toLower ((p.text? "chain").getD [])) == chain.toLower
  | none => true

/-- Whether enough value is locked in the pool, if a least value is given. -/
def locksEnough (f : Filter) (p : Pool) : Bool :=
  match significant f.leastLocked with
  | some least => !((p.number? "tvlUsd").getD 0 < least)
  | none => true

/-- Whether the pool matches. -/
def accepts (f : Filter) (p : Pool) : Bool := f.hasToken p && f.onChain p && f.locksEnough p

end Filter

/-- Whether `a` may stand before `b`: the yield of `b` is not greater. -/
def noWorse (a b : Pool) : Bool := !(b.yield?.getD 0 > a.yield?.getD 0)

/-- The elements up to a limit whose fraction does not count; a negative limit leaves out as many
at the end. -/
def cutOff {α : Type} (limit : Float) (xs : List α) : List α :=
  if Number.isNaN limit then []
  else if limit < 0 then
    if Number.isFinite limit then xs.take (xs.length - Number.truncNat limit) else []
  else if Number.isFinite limit then xs.take (Number.truncNat limit)
  else xs

/-- **The best pools for a filter.** -/
def best (pools : List Pool) (f : Filter) : List Pool :=
  cutOff f.limit ((pools.filter f.accepts).mergeSort noWorse)

/-! ### What is told of a pool -/

/-- A number rounded to two places. -/
def round2 (x : Float) : Float := Number.round (x * 100) / 100

/-- A rounded number, or `null` when there is nothing to tell. -/
def rounded? (x : Option Float) : Json :=
  match significant x with
  | some x => .num (round2 x)
  | none => .null

/-- **What is told of a pool.** -/
def report (p : Pool) : Json :=
  .obj [
    (Text.ofString "pool_id", .ofText? (p.text? "pool")),
    (Text.ofString "project", .ofText? (p.text? "project")),
    (Text.ofString "symbol", .ofText? (p.text? "symbol")),
    (Text.ofString "chain", .ofText? (p.text? "chain")),
    (Text.ofString "apy", .num (round2 (p.yield?.getD 0))),
    (Text.ofString "tvl_usd", .num (round2 ((p.number? "tvlUsd").getD 0))),
    (Text.ofString "apr_base", rounded? (p.number? "apyBase")),
    (Text.ofString "apr_reward", rounded? (p.number? "apyReward")),
    (Text.ofString "il_risk", .str ((p.text? "ilRisk").getD "unknown")),
    (Text.ofString "exposure", .str ((p.text? "exposure").getD "unknown"))]

/-! ### The agent -/

/-- Where pools are listed. -/
def poolsUrl : Text := "https://yields.llama.fi/pools"

/-- The parameters: a token, a chain, a least value locked, and a limit. -/
def schema : Params.Schema := [
  { name := "token_symbol", rule := .required "token_symbol" "token_symbol is required" },
  { name := "chain", rule := .text none (some "chain must be a string") none, optional := true },
  { name := "min_tvl", rule := .number "min_tvl", optional := true },
  { name := "limit", rule := .number "limit", default? := some (.num 5) }]

/-- The pools of a listing; entries that are no pools are passed over. -/
def poolsOf? : Json → Option (List Pool)
  | .obj fs => match Fields.get? fs "data" with
    | none => some []
    | some (.arr items) => some (items.filterMap Pool.ofJson?)
    | some _ => none
  | _ => none

/-- Fetches the pools. -/
def fetchPools : Program (List Pool) := do
  let r ← Program.fetch { url := poolsUrl, timeout := some 30000 }
  if r.ok then
    match poolsOf? (← .lift r.json) with
    | some pools => return pools
    | none => throw (.outside "Unexpected pools payload")
  else throw (.outside ("HTTP " ++ r.statusText ++ ": " ++ r.text))

/-- The whole part of a limit, zero for a negative one. -/
def wholeLimit (x : Float) : Float :=
  let t := Number.trunc x
  if t > 0 then t else 0

/-- The filter of checked parameters. -/
def filterOf (p : Fields) : Filter where
  token := p.text "token_symbol"
  chain := p.text? "chain"
  leastLocked := p.number? "min_tvl"
  limit := wholeLimit (p.number "limit")

/-- The answer for a filter. -/
def answer (f : Filter) (pools : List Pool) : Json :=
  let chosen := best pools f
  .obj [
    (Text.ofString "token", .str f.token),
    (Text.ofString "chain", .ofText? f.chain),
    (Text.ofString "min_tvl", match f.leastLocked with
      | some x => .num x
      | none => .null),
    (Text.ofString "total_found", .ofNat chosen.length),
    (Text.ofString "pools", .arr (chosen.map report))]

/-- **The agent.** -/
def capability : Capability where
  card := .declare "DefiAPY-v1"
    "Finds the best DeFi pools by APY for a given token across multiple chains using DefiLlama."
    ["token_symbol", "chain", "min_tvl", "limit"] 0.3 "1.0.0"
    (some ["defi", "apy", "yield", "farming", "pools", "defillama"])
  positions := [
    { name := "token_symbol" },
    { name := "chain" },
    { name := "min_tvl" },
    { name := "limit", default? := some (.num 5) }]
  compute params := do
    let p ← .lift (schema.parse params)
    return answer (filterOf p) (← fetchPools)

end LineAgents.DefiYields
