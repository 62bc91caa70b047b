/-!
# The two sides of an introduction

An introduction has a first and a second contact, and much of what happens is the same on either
side.
-/

namespace Introduction

/-- One of the two contacts of an introduction. -/
inductive Side where
  | first
  | second
  deriving DecidableEq, Repr

namespace Side

/-- The contact on the other side. -/
def other : Side → Side
  | .first => .second
  | .second => .first

/-- The name of a side in log lines. -/
def name : Side → String
  | .first => "first"
  | .second => "second"

@[simp] theorem other_other (s : Side) : s.other.other = s := by cases s <;> rfl

/-- Chooses by side. -/
def select {α : Type} (x y : α) : Side → α
  | .first => x
  | .second => y

end Side

end Introduction
