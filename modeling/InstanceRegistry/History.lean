/-!
  Histories: commands carried out one after another, with what each answered and left behind.

  Mathlib-free.
-/

namespace InstanceRegistry

/-- A command, what it answered, and the state after it. -/
structure Exchange (σ γ ρ : Type) where
  command : γ
  result : ρ
  after : σ

/-- Carry out commands one after another. -/
def history {σ γ ρ : Type} (run : σ → γ → ρ × σ) (state : σ) : List γ → List (Exchange σ γ ρ)
  | [] => []
  | command :: rest =>
    let (result, after) := run state command
    { command, result, after } :: history run after rest

/-- The state after commands carried out one after another. -/
def runAll {σ γ ρ : Type} (run : σ → γ → ρ × σ) (state : σ) (commands : List γ) : σ :=
  commands.foldl (fun state command => (run state command).2) state

/-- Every command makes one exchange. -/
theorem history_commands {σ γ ρ : Type} (run : σ → γ → ρ × σ) (state : σ) (commands : List γ) :
    (history run state commands).map Exchange.command = commands := by
  induction commands generalizing state with
  | nil => rfl
  | cons command rest ih => simp [history, ih]

/-- The last exchange leaves the state that all the commands lead to. -/
theorem after_getLast?_history {σ γ ρ : Type} (run : σ → γ → ρ × σ) (state : σ) (commands : List γ) :
    (((history run state commands).map Exchange.after).getLast?).getD state
      = runAll run state commands := by
  induction commands generalizing state with
  | nil => rfl
  | cons command rest ih =>
    rw [history, List.map_cons, List.getLast?_cons, Option.getD_some, ih]
    rfl

end InstanceRegistry
