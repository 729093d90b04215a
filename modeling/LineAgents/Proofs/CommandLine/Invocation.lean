import LineAgents.CommandLine.Conduct

/-!
# The command that serves an agent

A process is told to serve an agent by the name of the command and the key of the agent. Nothing
more is relied on, of whatever reads the arguments, than that it takes these two for what they are
(`LineAgents.CommandLine.Tools.ReadsRun`); a key that begins with a hyphen may be an option to it.

The reader of this library does so (`LineAgents.CommandLine.Tools.readsRun_standard`): it goes
through the arguments one by one, and one that does not begin with a hyphen it leaves in its place
(`LineAgents.CommandLine.divide_cons`).
-/

namespace LineAgents.CommandLine

/-- **The tools read the command to serve an agent**, whatever the agent is called, unless its name
begins with a hyphen. -/
def Tools.ReadsRun (tools : Tools) : Prop :=
  ∀ key : Text, key.head? ≠ some 45 → tools.arguments [Text.ofString "run", key] = .ok (.run key)

/-- An argument that does not begin with a hyphen stands for itself. -/
theorem divide_cons {a : Text} (ha : a.head? ≠ some 45) (versionKnown : Bool) (rest : List Text) :
    divide versionKnown false (a :: rest) = (do
      let p ← divide versionKnown false rest
      return { p with operands := a :: p.operands }) := by
  have hne : ∀ b : Text, b.head? = some 45 → a ≠ b := fun b hb h => ha (h ▸ hb)
  have hshort : (Text.ofString "-V").isPrefixOf a = false := by
    cases a with
    | nil => rfl
    | cons u a =>
      have hu : u ≠ 45 := fun h => ha (congrArg some h)
      change (45 == u && _) = false
      rw [beq_false_of_ne (Ne.symm hu), Bool.false_and]
  have hversion : asksVersion a = false := by
    rw [asksVersion, hshort, Bool.or_false]
    exact beq_false_of_ne (hne _ rfl)
  have hoption : isOption a = false := by
    rw [isOption, Bool.and_eq_false_iff]
    exact Or.inr (beq_false_of_ne ha)
  rw [divide, beq_false_of_ne (hne "--" rfl), hversion, hoption, Bool.and_false]
  rfl

/-- **The reader of this library** takes the command for what it is. -/
theorem Tools.readsRun_standard : Tools.standard.ReadsRun := by
  intro key hkey
  change read [Text.ofString "run", key] = _
  rw [read, divide_cons (by decide), divide_cons hkey]
  rfl

end LineAgents.CommandLine
