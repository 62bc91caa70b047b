import Introduction.Identifier
import Introduction.Simulation.ChaCha

/-!
# Choices

A simulation leaves four things open: which queue is served next, which deliveries are copied, and
which identifiers and keys are drawn. A source of choices settles them as the run goes on. Every
sequence of choices is given by some source, so what holds for every source holds for every run.

The source of a seeded run is its `Generator`.
-/

namespace Introduction.Simulation

/-- A source of choices. -/
class Choice (σ : Type) where
  /-- One of `n` possibilities. -/
  pick : (n : Nat) → 0 < n → σ → Fin n × σ
  /-- Whether an event happens that has `threshold` in `2 ^ 64` chances. -/
  coin : (threshold : UInt64) → σ → Bool × σ
  /-- As many bytes as an identifier has. -/
  fresh : σ → { content : Bytes // content.length = Identifier.length } × σ

namespace Choice

variable {σ : Type} [Choice σ]

/-- Draws an identifier. -/
def identifier {kind : Identifier.Kind} (source : σ) : Identifier kind × σ :=
  let (content, source) := fresh source
  (⟨content.1, content.2⟩, source)

/-- Draws a public key. -/
def publicKey (source : σ) : Bytes × σ :=
  let (content, source) := fresh source
  (content.1, source)

end Choice

instance : Choice Generator where
  pick n h g := (⟨(g.pick n).1, g.pick_lt h⟩, (g.pick n).2)
  coin threshold g := (g.word64.1 < threshold, g.word64.2)
  fresh g := (⟨(g.bytes Identifier.length).1, g.length_bytes _⟩, (g.bytes Identifier.length).2)

end Introduction.Simulation
